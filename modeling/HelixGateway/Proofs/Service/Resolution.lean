import HelixGateway.Proofs.Query.Paths
import HelixGateway.Proofs.Service.Canonical
import HelixGateway.Proofs.Service.Confinement

/-!
# Resolving derived paths

A derived path runs the first query that it matches, by its slug or its name and with as many path parameters as the path has
segments. Each path parameter is bound to a segment, the last one if it repeats. A path that no query matches is answered with
status 404 and nothing else is, for whatever is run ends with status 200 or with a fault; and before it is known that no query
matches, the database is asked for its queries at most.

Main statements: `Query.exists_split_of_resolve`, `Query.boundBy_bind`, `resolves_first_match`.
-/

namespace HelixGateway

namespace Query

/-! ## Matches -/

/-- A path with the slug of a query or its name, and with as many segments as the query has path parameters. -/
def Matches (q : Query) (slug : String) (segments : List String) : Prop :=
  (Query.slug q.name = slug ∨ q.name = slug) ∧ q.pathParameters.length = segments.length

/-- Values bound to names: the names are the keys, and each has the value at its last place. -/
structure BoundBy (names values : List String) (bound : OrdMap String) : Prop where
  keys : bound.keys = names.eraseDups
  value : ∀ i (h : i < names.length), names[i] ∉ names.drop (i + 1) → bound.get? names[i] = values[i]?

variable {q : Query} {queries : List Query} {slug : String} {segments : List String} {values : OrdMap String}

theorem fits_iff_matches : q.fits slug segments.length = true ↔ q.Matches slug segments := fits_iff

/-- A path leads somewhere exactly if some query matches it. -/
theorem isSome_resolve_iff : (resolve queries slug segments).isSome = true ↔ ∃ q ∈ queries, q.Matches slug segments := by
  rw [resolve, Option.isSome_map, List.find?_isSome]
  simp only [fits_iff_matches]

/-- What is resolved is the first query that matches. -/
theorem exists_split_of_resolve (h : resolve queries slug segments = some (q, values)) :
    ∃ before after, queries = before ++ q :: after ∧ q.Matches slug segments ∧ ∀ p ∈ before, ¬ p.Matches slug segments := by
  obtain ⟨hf, before, after, hs, hb⟩ := List.find?_eq_some_iff_append.1 (resolve_eq_some_iff.1 h).1
  refine ⟨before, after, hs, fits_iff_matches.1 hf, fun p hp hm => ?_⟩
  have := hb p hp
  rw [fits_iff_matches.2 hm] at this
  cases this

/-- The segments of a path that matches are bound to the path parameters. -/
theorem boundBy_bind (hm : q.Matches slug segments) : BoundBy (q.pathParameters.map (·.name)) segments (q.bind segments) where
  keys := by
    rw [bind, OrdMap.keys_ofEntries, Entries.keys, List.map_fst_zip (by simp [hm.2])]
  value := by
    intro i hi hl
    generalize hnames : q.pathParameters.map (·.name) = names at hi hl ⊢
    have hlen : names.length = segments.length := by
      rw [← hnames, List.length_map]
      exact hm.2
    have hz : i < (names.zip segments).length := by
      rw [List.length_zip]
      omega
    have hsplit : names.zip segments =
        (names.zip segments).take i ++ (names[i], segments[i]) :: (names.zip segments).drop (i + 1) := by
      rw [← List.getElem_zip (h := hz), ← List.drop_eq_getElem_cons hz, List.take_append_drop]
    have hk : names[i] ∉ Entries.keys ((names.zip segments).drop (i + 1)) := by
      rw [Entries.keys, List.map_drop, List.map_fst_zip (by omega)]
      exact hl
    rw [bind, hnames, OrdMap.get?_ofEntries, hsplit, Entries.get?_reverse_of_last hk, List.getElem?_eq_getElem]

end Query

/-! ## Routes -/

namespace Route

variable {path slug rest s : List Char}

/-- A path has segments behind a slug exactly if it has a slash there, one final line feed aside. -/
theorem ofQueryPath?_derived_iff :
    ofQueryPath? s = some (.derived slug rest) ↔
      slug ≠ [] ∧ '/' ∉ slug ∧ '\n' ∉ rest ∧ (s = slug ++ '/' :: rest ∨ s = slug ++ '/' :: (rest ++ ['\n'])) := by
  constructor
  · intro h
    unfold ofQueryPath? at h
    split at h
    · split at h
      · cases h
      · cases h
    · rename_i slug' behind hc
      split at h
      · cases h
      · rename_i hn
        obtain ⟨rfl, rfl⟩ := Route.derived.inj (Option.some.inj h)
        simp only [Bool.or_eq_true, List.isEmpty_iff, List.contains_iff_mem, not_or] at hn
        refine ⟨hn.1, Text.not_mem_of_cut_eq_some hc, hn.2, ?_⟩
        rw [Text.cut_eq_some hc]
        rcases (Text.dropFinalNewline_eq_iff hn.2).1 rfl with hb | hb
        · left
          rw [← hb]
          rfl
        · right
          rw [← hb]
          rfl
  · rintro ⟨hn, hs, hr, hp⟩
    have hd : ∃ behind, s = slug ++ '/' :: behind ∧ Text.dropFinalNewline behind = rest := by
      rcases hp with rfl | rfl
      · exact ⟨rest, rfl, Text.dropFinalNewline_of_not_mem hr⟩
      · exact ⟨rest ++ ['\n'], rfl, Text.dropFinalNewline_append rest⟩
    obtain ⟨behind, rfl, rfl⟩ := hd
    rw [ofQueryPath?, Text.cut_append_of_not_mem hs]
    simp [hn, hr]

/-- The paths of a derived route: a slug below the root of queries, and behind the slash what holds no line feed, but for one
at the end of the path. -/
theorem ofPath?_derived_iff :
    ofPath? path = some (.derived slug rest) ↔
      slug ≠ [] ∧ '/' ∉ slug ∧ '\n' ∉ rest ∧
        (path = queryRoot ++ (slug ++ '/' :: rest) ∨ path = queryRoot ++ (slug ++ '/' :: (rest ++ ['\n']))) := by
  constructor
  · intro h
    have hp : ∃ s, path = queryRoot ++ s := by
      unfold ofPath? at h
      split at h
      · rename_i r hr
        have hfixed : ∀ r ∈ fixed, r.2.methods = ["GET"] := by decide
        have hm := hfixed r (List.mem_of_find?_eq_some hr)
        rw [Option.some.inj h] at hm
        exact absurd (show ["DELETE", "GET", "POST", "PUT"] = ["GET"] from hm) (by decide)
      · obtain ⟨s, hs, -⟩ := Option.bind_eq_some_iff.1 h
        exact ⟨s, Text.eq_append_of_afterPrefix? hs⟩
    obtain ⟨s, rfl⟩ := hp
    rw [ofPath?_queryRoot, ofQueryPath?_derived_iff] at h
    simpa only [List.append_cancel_left_eq] using h
  · rintro ⟨hn, hs, hr, rfl | rfl⟩
    · rw [ofPath?_queryRoot]
      exact ofQueryPath?_derived_iff.2 ⟨hn, hs, hr, .inl rfl⟩
    · rw [ofPath?_queryRoot]
      exact ofQueryPath?_derived_iff.2 ⟨hn, hs, hr, .inr rfl⟩

end Route

/-! ## Requests that are sent -/

namespace Client

variable {c : Client}

/-- An order to read is carried out by a request that reads. -/
theorem Carries.method_get {orders : List Order} {requests : List DatabaseRequest} {refusal : Option Fault}
    (h : c.Carries orders requests refusal) (ho : ∀ o ∈ orders, o.method = "GET") : ∀ r ∈ requests, r.method = "GET" := by
  induction h with
  | nil => exact nofun
  | refused _ => exact nofun
  | sent hm _ ih =>
    intro r hr
    rcases List.mem_cons.1 hr with rfl | hr
    · rw [(of_make hm).1, ho _ (by simp)]
      decide
    · exact ih (fun o h => ho o (List.mem_cons_of_mem _ h)) r hr

end Client

/-- For the queries a database is asked at most, and nothing is posted. -/
theorem Metadata.sent_queries (m : Metadata) (b : Backend) (t : Trace) :
    ∃ requests, (m.queries b t).2.sent = t.sent ++ requests ∧ ∀ x ∈ requests, x.method = "GET" := by
  obtain ⟨orders, ⟨requests, refusal, hc, hs, -⟩, rfl, -⟩ := obeys_queries m b t
  refine ⟨requests, hs, hc.method_get fun o ho => ?_⟩
  unfold asks at ho
  split at ho
  · rw [List.mem_singleton.1 ho]
    rfl
  · cases ho

namespace Service

open Session (Ends ends_bind)

variable {s : Service} {r : WebRequest}

/-! ## Answers -/

/-- The response to a request, which is `failed` if a fault ends the session. -/
def answered (s : Service) (r : WebRequest) (b : Backend) (t : Trace) : WebResponse :=
  match (s.respond r b t).1 with
  | .ok w => w
  | .error _ => failed

/-- An answer has status 200. -/
theorem ends_answer_status (v : Json) : Ends (answer v) (·.status = 200) := by
  intro b t w hw
  cases hc : v.canonicalize with
  | ok x =>
    rw [run_answer hc] at hw
    cases hw
    rfl
  | error e =>
    rw [answer, hc] at hw
    cases hw

/-- What is run ends with status 200, whatever comes of it. -/
theorem ends_runQuery_status (s : Service) (name : String) (ps : Entries Json) :
    Ends (s.runQuery name ps) (·.status = 200) := by
  refine ends_bind fun outcome => ?_
  cases outcome with
  | ok v => exact ends_answer_status v
  | error e => exact ends_bind fun _ => ends_answer_status _

/-- A fault is no response, whatever would be added to it. -/
theorem respond_of_dispatch_error (hm : r.method ≠ "OPTIONS") {b : Backend} {t t' : Trace} {e : Fault}
    (hd : s.dispatch r b t = (.error e, t')) : s.respond r b t = (.error e, t') := by
  rw [respond]
  cases ho : r.header? "origin" with
  | none => exact hd
  | some origin =>
    have ha : askedMethod? r = none := by rw [askedMethod?, if_neg hm]
    simp only [ha]
    exact Session.run_bind_error hd

/-- What a request is answered at its path is what it is answered altogether. -/
theorem status_answered_iff (hm : r.method ≠ "OPTIONS") (b : Backend) (t : Trace) :
    (s.answered r b t).status = 404 ↔ ∃ w, (s.dispatch r b t).1 = .ok w ∧ w.status = 404 := by
  cases hd : s.dispatch r b t with
  | mk outcome t' =>
    cases outcome with
    | ok w =>
      obtain ⟨headers, ha⟩ := respond_of_dispatch_ok hm hd
      rw [answered, ha]
      simp
    | error e =>
      rw [answered, respond_of_dispatch_error hm hd]
      simp [failed]

/-- A derived path is answered with status 404 when the queries are known and none of them matches. -/
theorem status_answerDerived_iff (slug rest : List Char) (b : Backend) (t : Trace) :
    (∃ w, (s.answerDerived r slug rest b t).1 = .ok w ∧ w.status = 404) ↔
      ∃ queries t', s.metadata.queries b t = (.ok queries, t') ∧
        ∀ q ∈ queries, ¬ q.Matches (String.ofList slug) (segments rest) := by
  cases hq : s.metadata.queries b t with
  | mk outcome t' =>
    cases outcome with
    | error e =>
      rw [answerDerived, Session.run_bind_error hq]
      simp
    | ok queries =>
      have hiff : (Query.resolve queries (String.ofList slug) (segments rest)).isSome = true ↔
          ∃ q ∈ queries, q.Matches (String.ofList slug) (segments rest) := Query.isSome_resolve_iff
      rw [answerDerived, Session.run_bind_ok hq]
      cases hr : Query.resolve queries (String.ofList slug) (segments rest) with
      | none =>
        rw [hr] at hiff
        refine iff_of_true ⟨noQuery slug rest, rfl, rfl⟩ ⟨queries, t', rfl, fun q hm hq => ?_⟩
        cases hiff.2 ⟨q, hm, hq⟩
      | some found =>
        rw [hr] at hiff
        refine iff_of_false ?_ ?_
        · rintro ⟨w, hw, h404⟩
          have h200 : w.status = 200 := (ends_bind fun _ => ends_bind fun _ => ends_runQuery_status s _ _) b t' w hw
          rw [h200] at h404
          cases h404
        · rintro ⟨queries', t'', he, hn⟩
          cases he
          obtain ⟨q, hm, hq⟩ := hiff.1 rfl
          exact hn q hm hq

/-- A request for a derived path that is answered with status 404 has made the service ask for the queries, and no more. -/
theorem trace_of_status_answerDerived {slug rest : List Char} {b : Backend} {t : Trace}
    (h : ∃ w, (s.answerDerived r slug rest b t).1 = .ok w ∧ w.status = 404) :
    (s.answerDerived r slug rest b t).2 = (s.metadata.queries b t).2 := by
  obtain ⟨queries, t', hq, hn⟩ := (status_answerDerived_iff slug rest b t).1 h
  have hr : Query.resolve queries (String.ofList slug) (segments rest) = none := by
    rw [← Option.not_isSome_iff_eq_none, Query.isSome_resolve_iff]
    rintro ⟨q, hm, hq⟩
    exact hn q hm hq
  rw [answerDerived, Session.run_bind_ok hq, hr, hq]
  rfl

/-- A path is resolved to the first query that matches, and status 404 says that none does.

1. Some query is resolved exactly when one matches, and it is the first one that does, with each of its path parameters bound
   to the segment at its last place.
2. Derived paths are a slug below the root of queries and what stands behind the slash.
3. A request for such a path is answered with status 404 exactly when the queries are known and none of them matches the slug
   and the segments, and then nothing is posted. -/
theorem resolves_first_match :
    (∀ queries slug segments,
      ((Query.resolve queries slug segments).isSome = true ↔ ∃ q ∈ queries, q.Matches slug segments) ∧
      ∀ q values, Query.resolve queries slug segments = some (q, values) →
        (∃ before after, queries = before ++ q :: after ∧ q.Matches slug segments ∧
          ∀ p ∈ before, ¬ p.Matches slug segments) ∧
        Query.BoundBy (q.pathParameters.map (·.name)) segments values) ∧
    (∀ path slug rest, Route.ofPath? path = some (.derived slug rest) ↔
      slug ≠ [] ∧ '/' ∉ slug ∧ '\n' ∉ rest ∧
        (path = Route.queryRoot ++ (slug ++ '/' :: rest) ∨ path = Route.queryRoot ++ (slug ++ '/' :: (rest ++ ['\n'])))) ∧
    ∀ (s : Service) (r : WebRequest) (slug rest : List Char), Route.ofPath? r.path = some (.derived slug rest) →
      r.method ∈ (Route.derived slug rest).methods → ∀ b t,
        ((s.answered r b t).status = 404 ↔
          ∃ queries t', s.metadata.queries b t = (.ok queries, t') ∧
            ∀ q ∈ queries, ¬ q.Matches (String.ofList slug) (segments rest)) ∧
        ((s.answered r b t).status = 404 →
          ∃ requests, (s.respond r b t).2.sent = t.sent ++ requests ∧ ∀ x ∈ requests, x.method = "GET") := by
  refine ⟨fun queries slug segments => ⟨Query.isSome_resolve_iff, fun q values h => ?_⟩, fun _ _ _ => Route.ofPath?_derived_iff,
    fun s r slug rest hp hm b t => ?_⟩
  · obtain ⟨before, after, hs, hq, hb⟩ := Query.exists_split_of_resolve h
    refine ⟨⟨before, after, hs, hq, hb⟩, ?_⟩
    rw [(Query.resolve_eq_some_iff.1 h).2]
    exact Query.boundBy_bind hq
  · have ho := ne_options_of_mem_methods hm
    have hd : s.dispatch r b t = s.answerDerived r slug rest b t := congrFun (congrFun (dispatch_of_route hp hm) b) t
    have hiff := status_answered_iff (s := s) ho b t
    rw [hd] at hiff
    refine ⟨hiff.trans (status_answerDerived_iff slug rest b t), fun h => ?_⟩
    rw [(respond_of_dispatch ho b t).1, hd, trace_of_status_answerDerived (hiff.1 h)]
    exact Metadata.sent_queries s.metadata b t

/-- A service with one query, whose path has one segment. -/
def getUserService : Service := fileService "QUERY getUser (user_id: ID) => User\n"

def getUser : Query := .derived "getUser" [⟨"user_id", "ID"⟩]

/-- A query with a path parameter that repeats. -/
def getPair : Query := .derived "getPair" [⟨"id", "ID"⟩, ⟨"limit", "I32"⟩, ⟨"id", "ID"⟩]

/-- Two segments are one too many, an empty one counts for nothing, and of a parameter that repeats the last segment counts. -/
theorem resolves_first_match_getUser :
    (∀ b, (getUserService.answered (plainRequest "/api/query/get-user/ann//7" "") b .empty).status = 404) ∧
      (∀ b, (getUserService.answered (plainRequest "/api/query/getUser//ann/" "") b .empty).status ≠ 404) ∧
      ∀ values, Query.resolve [getUser, getPair] "get-pair" ["a", "b"] = some (getPair, values) →
        values.get? "id" = some "b" := by
  have hload : getUserService.metadata.disk.loadQueries getUserService.metadata.queriesPath = .ok (.ok [getUser]) := by
    decide +kernel
  obtain ⟨hresolve, -, hanswer⟩ := resolves_first_match
  refine ⟨fun b => ?_, fun b h => ?_, fun values h => ?_⟩
  · obtain ⟨logs, hq⟩ := Metadata.run_queries_local rfl hload b .empty
    have hroute : Route.ofPath? (plainRequest "/api/query/get-user/ann//7" "").path =
        some (.derived "get-user".toList "ann//7".toList) := by decide
    refine (hanswer getUserService _ _ _ hroute (by decide) b .empty).1.2 ⟨_, _, hq, fun q hm hq => ?_⟩
    have hlen : (segments "ann//7".toList).length = 2 := by decide
    rw [List.mem_singleton.1 hm] at hq
    exact absurd (hq.2.trans hlen) (by decide)
  · obtain ⟨logs, hq⟩ := Metadata.run_queries_local rfl hload b .empty
    have hroute : Route.ofPath? (plainRequest "/api/query/getUser//ann/" "").path =
        some (.derived "getUser".toList "/ann/".toList) := by decide
    obtain ⟨queries, t', hq', hn⟩ := (hanswer getUserService _ _ _ hroute (by decide) b .empty).1.1 h
    rw [hq] at hq'
    cases hq'
    exact hn getUser (List.mem_singleton.2 rfl) ⟨.inr (by decide), by decide⟩
  · have hbound := ((hresolve [getUser, getPair] "get-pair" ["a", "b"]).2 getPair values h).2
    exact hbound.value 1 (by decide) (by decide)

end Service

end HelixGateway
