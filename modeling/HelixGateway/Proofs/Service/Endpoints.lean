import HelixGateway.Proofs.Json.Reordering
import HelixGateway.Proofs.Parameters.PathValue
import HelixGateway.Proofs.Query.Paths
import HelixGateway.Proofs.Service.Run

/-!
# Listed endpoints are served

A service with local files lists an endpoint for each of its queries. A request for the path of an endpoint, with a segment
of letters and digits in the place of each placeholder, is one POST to the query with the path parameters for a body, as long
as the address of the query is not too long. There is one exception: a query without path parameters whose one capital is
its first letter. Its slug has no hyphen and is taken for the name of a query (`posts_slug_of_capitalized`).

Main statement: `serves_listed_iff`.
-/

namespace HelixGateway

/-! ## The address of a database -/

/-- There is no slash in an integer. -/
theorem slash_not_mem_toString (n : Int) : '/' ∉ (toString n).toList := by
  rw [Decimal.toList_toString, List.mem_append, not_or]
  refine ⟨?_, fun h => (Decimal.isDigits_toDigits n.natAbs).ne (by decide) '/' h rfl⟩
  split
  · decide
  · decide

namespace Service

open Query (Distinct PlainName isCapitalized slug)
open Parameters (Alphanumeric)

/-- A service with local files whose queries are `qs`, and a database with an address. -/
structure ServesFiles (s : Service) (qs : List Query) : Prop where
  source : s.config.source = .localFiles
  loaded : s.disk.loadQueries s.config.settings.queriesPath = .ok (.ok qs)
  distinct : Distinct qs
  reached : ∃ url, s.client.Reaches "" url

variable {s : Service} {qs : List Query} {q : Query} {r : WebRequest}

/-- With local files no key is sent, so it is plain. -/
theorem ServesFiles.hasPlainKey (h : ServesFiles s qs) : s.client.hasPlainKey = true := by
  have hk : s.client.apiKey = none := Config.apiKey_eq_none (by rw [h.source]; decide)
  rw [Client.hasPlainKey, Client.sentKey, hk]
  rfl

theorem ServesFiles.isRemote (h : ServesFiles s qs) : s.metadata.source.isRemote = false := by
  have hs : s.metadata.source = .localFiles := h.source
  rw [hs]
  decide

/-- The last element of two lists is in the second one, unless that is empty. -/
theorem mem_of_getLast?_append {l m : List Char} (hm : m ≠ []) {x : Char} (h : x ∈ (l ++ m).getLast?) : x ∈ m := by
  rw [List.getLast?_append, List.getLast?_eq_some_getLast hm, Option.some_or, Option.mem_def, Option.some.injEq] at h
  rw [← h]
  exact List.getLast_mem hm

/-- The address of the database does not end in a slash. -/
theorem not_mem_getLast?_helixUrl (c : Config) : '/' ∉ c.helixUrl.toList.getLast? := by
  by_cases hs : c.source = .cloud
  · rw [Config.helixUrl, hs, String.toList_ofList]
    intro hm
    have hl := Text.getLast?_dropEndWhile (· == '/') (c.cloudUrl.getD "").toList '/' hm
    simp at hl
  · have hp := slash_not_mem_toString ((Config.givenPort c.helixPort).getD c.settings.helixPort)
    rw [Config.helixUrl_local hs, String.toList_append, String.toList_append, List.append_assoc]
    intro hx
    rcases List.mem_append.1 (mem_of_getLast?_append (List.append_ne_nil_of_left_ne_nil (by decide) _) hx) with hm | hm
    · exact absurd hm (by decide)
    · exact hp hm

/-- The address of a query stands below that of the database. -/
theorem resolve_name (s : Service) {name : String} (hn : '/' ∉ name.toList) :
    s.client.resolve name = s.config.helixUrl ++ "/" ++ name := by
  have hb : Text.dropEndWhile (· == '/') s.config.helixUrl.toList = s.config.helixUrl.toList := by
    refine Text.dropEndWhile_eq_self_iff.2 fun x hx => ?_
    rw [beq_eq_false_iff_ne]
    rintro rfl
    exact not_mem_getLast?_helixUrl s.config hx
  have hr : s.client.root = s.config.helixUrl := (congrArg String.ofList hb).trans String.ofList_toList
  rw [Client.resolve_of_not_mem hn, hr]

/-! ## The list -/

/-- The entry of a query in the list of endpoints is sent as it is. -/
theorem settled_toJson (q : Query) : Json.Settled q.toJson := by
  have hp : Json.Settled (.arr (q.parameters.map (·.toJson))) := by
    refine .arr fun v hv => ?_
    obtain ⟨p, -, rfl⟩ := List.mem_map.1 hv
    exact .obj (by simp [Json.Settled.str]) (show ∀ k ∈ ["name", "param_type"], Json.keyPlace k = .other by decide)
  exact .obj (by simp [Json.Settled.str, hp])
    (show ∀ k ∈ ["path", "method", "query_name", "parameters"], Json.keyPlace k = .other by decide)

theorem settled_listing (qs : List Query) : Json.Settled (Query.listing qs) := by
  refine .arr fun v hv => ?_
  obtain ⟨q, -, rfl⟩ := List.mem_map.1 hv
  exact settled_toJson q

/-- The queries that the metadata has are listed. -/
theorem dispatch_listing (hp : r.path = "/api/endpoints".toList) (hm : r.method = "GET") {b : Backend} {t t' : Trace}
    (hq : s.metadata.queries b t = (.ok qs, t')) : s.dispatch r b t = (.ok (withStatus 200 (Query.listing qs)), t') := by
  have hs := settled_listing qs
  have hw := run_answer hs.canonical b t'
  rw [hs.finite] at hw
  have hroute : Route.ofPath? r.path = some .endpoints := by
    rw [hp]
    decide
  have hmethod : r.method ∈ Route.methods .endpoints := by
    rw [hm]
    decide
  rw [dispatch_of_route hroute hmethod, answerRoute, answerEndpoints, Session.run_bind_ok hq]
  exact hw

/-- The queries themselves are listed, and nothing is sent for it. -/
theorem dispatch_endpoints (h : ServesFiles s qs) (hp : r.path = "/api/endpoints".toList) (hm : r.method = "GET")
    (b : Backend) (t : Trace) :
    ∃ logs, s.dispatch r b t = (.ok (withStatus 200 (Query.listing qs)), ⟨t.sent, logs⟩) := by
  obtain ⟨logs, hq⟩ := Metadata.run_queries_local h.isRemote h.loaded b t
  exact ⟨logs, dispatch_listing hp hm hq⟩

/-- Each query is listed at the path with its placeholders. -/
theorem ServesFiles.path_eq (h : ServesFiles s qs) (hq : q ∈ qs) :
    q.path = q.pathWith fun name => "\x7b" ++ name ++ "\x7d" := by
  obtain ⟨outcome, -, ho⟩ := map_eq_ok h.loaded
  obtain ⟨text, -, rfl⟩ := map_eq_ok ho
  exact Query.path_of_mem_parse hq

/-! ## One POST -/

/-- A run sends one request, a POST to the query with a name, whose body is an object with the given keys. -/
def Posts (s : Service) (name : String) (keys : List String) (t t' : Trace) : Prop :=
  ∃ request ps, t'.sent = t.sent ++ [request] ∧ request.method = "POST" ∧
    request.resolved = s.config.helixUrl ++ "/" ++ name ∧ Url.parse request.resolved.toList = .ok request.url ∧
    request.body = some (Json.obj ps).compact ∧ (Entries.keys ps).Nodup ∧ ∀ k, k ∈ Entries.keys ps ↔ k ∈ keys

/-- The characters of names and slugs are plain ones in an address. -/
theorem plain_of_name_or_slug {c : Char} (h : Text.isNameChar c = true ∨ c = '-') : c ≠ '/' ∧ Url.isControl c = false := by
  rcases h with h | rfl
  · exact Text.forall_isNameChar (p := fun c => c ≠ '/' ∧ Url.isControl c = false) (by decide) h
  · decide

/-- There is no slash in names and slugs. -/
theorem slash_not_mem_of_name_or_slug {name : String} (h : ∀ c ∈ name.toList, Text.isNameChar c = true ∨ c = '-') :
    '/' ∉ name.toList :=
  fun hm => (plain_of_name_or_slug (h '/' hm)).1 rfl

/-- A query that is run is posted under its own name and no other, unless its address is too long. -/
theorem posts_runQuery_iff (hkey : s.client.hasPlainKey = true)
    (hreach : ∃ e url, Client.isFullUrl e = false ∧ s.client.Reaches e url) {run : String}
    (hn : ∀ c ∈ run.toList, Text.isNameChar c = true ∨ c = '-') {ps : Entries Json} (hf : Json.fieldsFinite ps = true)
    (hd : (Entries.keys ps).Nodup) {keys : List String} (hk : ∀ k, k ∈ Entries.keys ps ↔ k ∈ keys) (name : String)
    (b : Backend) (t : Trace) (logs : List LogRecord) :
    Posts s name keys t (s.runQuery run ps b ⟨t.sent, logs⟩).2 ↔
      run = name ∧ (s.config.helixUrl ++ "/" ++ name).length ≤ Url.maxLength := by
  have hs := slash_not_mem_of_name_or_slug hn
  have hr := s.resolve_name hs
  by_cases hl : (s.config.helixUrl ++ "/" ++ run).length ≤ Url.maxLength
  · obtain ⟨e, base, he, hb⟩ := hreach
    obtain ⟨url, hu⟩ := Client.reaches_of_reaches hb he (Client.isFullUrl_of_not_mem hs)
      (fun c hc => (plain_of_name_or_slug (hn c hc)).2) (by rwa [hr])
    obtain ⟨logs', hrun⟩ := run_runQuery hu hkey hf b ⟨t.sent, logs⟩
    rw [hrun, trace_answerOutcome]
    constructor
    · rintro ⟨request, ps', hs, -, ha, -⟩
      have hq := List.singleton_inj.1 (List.append_cancel_left hs)
      rw [← hq] at ha
      have hrn : run = name := (String.append_right_inj _).1 (hr.symm.trans ha)
      exact ⟨hrn, hrn ▸ hl⟩
    · rintro ⟨rfl, -⟩
      exact ⟨_, ps, rfl, rfl, hr, hu.parsed, rfl, hd, hk⟩
  · have hlong : Url.maxLength < (s.client.resolve run).length := by
      rw [hr]
      omega
    rw [run_runQuery_of_error (Client.prepare_of_long hlong "POST" (.obj ps))]
    constructor
    · rintro ⟨request, ps', hs, -⟩
      have hz := congrArg List.length hs
      simp at hz
    · rintro ⟨rfl, hl'⟩
      exact absurd hl' hl

/-! ## Listed endpoints -/

/-- The name that a request for a listed endpoint runs. -/
def servedName (q : Query) : String :=
  if q.pathParameters = [] ∧ isCapitalized q.name = true then slug q.name else q.name

/-- The slug of a query without path parameters leads to the name that is served. -/
theorem nameOf_slug (h : ServesFiles s qs) (hq : q ∈ qs) (hp : q.pathParameters = []) :
    nameOf qs (slug q.name) = servedName q := by
  have hc := Query.isCapitalized_iff (h.distinct.names q hq)
  have hl : q.pathParameters.length = ([] : List String).length := by rw [hp]; rfl
  rw [nameOf, Query.resolve_slug h.distinct hq hl, servedName]
  by_cases hm : '-' ∈ (slug q.name).toList
  · rw [if_pos (List.contains_iff_mem.2 hm), if_neg fun hf => (hc.1 hf.2).1 hm]
    rfl
  · rw [if_neg fun hf => hm (List.contains_iff_mem.1 hf)]
    by_cases hs : slug q.name = q.name
    · rw [if_neg fun hf => (hc.1 hf.2).2 hs, hs]
    · rw [if_pos ⟨hp, hc.2 ⟨hm, hs⟩⟩]

/-- The served name is the query's own unless the query has no path parameters and its name starts with a capital. -/
theorem servedName_eq_iff (hn : PlainName q.name) :
    servedName q = q.name ↔ ¬ (q.pathParameters = [] ∧ isCapitalized q.name = true) := by
  rw [servedName]
  split
  · rename_i hf
    exact iff_of_false ((Query.isCapitalized_iff hn).1 hf.2).2 (not_not_intro hf)
  · rename_i hf
    exact iff_of_true rfl hf

/-- A served name has characters of names and hyphens. -/
theorem of_mem_servedName (hn : PlainName q.name) {c : Char} (hc : c ∈ (servedName q).toList) :
    Text.isNameChar c = true ∨ c = '-' := by
  rw [servedName] at hc
  split at hc
  · exact (Query.of_mem_slug hn hc).1
  · exact Or.inl (hn.chars c hc)

/-- A request without query string and body for the path of a listed endpoint. -/
structure AsksFor (r : WebRequest) (q : Query) (segment : String → String) : Prop where
  method : r.method ∈ ["DELETE", "GET", "POST", "PUT"]
  path : r.path = (q.pathWith segment).toList
  query : r.query = []
  body : r.body = []

/-- Segments of letters and digits can be told apart. -/
theorem separable_of_alphanumeric {segment : String → String} (hv : ∀ p ∈ q.pathParameters, Alphanumeric (segment p.name)) :
    Query.Separable (q.segmentsOf segment) := by
  intro s hs
  obtain ⟨p, hp, rfl⟩ := List.mem_map.1 hs
  exact ⟨(hv p hp).nonempty, (hv p hp).not_mem (by decide) (by decide), (hv p hp).not_mem (by decide) (by decide)⟩

/-- Without path parameters, a request for a listed endpoint runs what its slug is taken for. -/
theorem dispatch_flat (h : ServesFiles s qs) (hq : q ∈ qs) (hp : q.pathParameters = []) {segment : String → String}
    (ha : AsksFor r q segment) (b : Backend) (t : Trace) :
    ∃ logs, s.dispatch r b t = s.runQuery (servedName q) [] b ⟨t.sent, logs⟩ := by
  have hroute : Route.ofPath? (q.pathWith segment).toList = some (.query (slug q.name).toList) :=
    Query.ofPath?_pathWith_flat (h.distinct.names q hq) hp
  rw [← ha.path] at hroute
  obtain ⟨logs, hrun⟩ := run_answerQuery_bare h.isRemote h.loaded ha.query ha.body (slug q.name) b t
  refine ⟨logs, ?_⟩
  rw [dispatch_of_route hroute ha.method, answerRoute, String.ofList_toList, hrun]
  exact congrArg (fun name => s.runQuery name [] b ⟨t.sent, logs⟩) (nameOf_slug h hq hp)

/-- With path parameters, a request for a listed endpoint runs the query with the segments as they are read. -/
theorem dispatch_derived (h : ServesFiles s qs) (hq : q ∈ qs) (hp : q.pathParameters ≠ []) {segment : String → String}
    (hv : ∀ p ∈ q.pathParameters, Alphanumeric (segment p.name)) (ha : AsksFor r q segment) (b : Backend) (t : Trace) :
    ∃ logs, s.dispatch r b t =
      s.runQuery q.name (Parameters.readings (q.bind (q.segmentsOf segment)) (Query.catalogue qs q.name)) b
        ⟨t.sent, logs⟩ := by
  obtain ⟨rest, hroute, hs⟩ := Query.ofPath?_pathWith_derived (h.distinct.names q hq) hp (separable_of_alphanumeric hv)
  rw [← ha.path] at hroute
  have hr : Query.resolve qs (String.ofList (slug q.name).toList) (segments rest) =
      some (q, q.bind (q.segmentsOf segment)) := by
    rw [String.ofList_toList, hs]
    exact Query.resolve_slug h.distinct hq (by simp [Query.segmentsOf])
  have ho : ∀ e ∈ (q.bind (q.segmentsOf segment)).entries,
      ¬ Parameters.Overflows e.2 ((Query.catalogue qs q.name).get? e.1) := by
    intro e he
    obtain ⟨p, hp, hs⟩ := List.mem_map.1 (Query.of_mem_bind he)
    rw [← hs]
    exact Parameters.not_overflows_of_alphanumeric (hv p hp) _
  obtain ⟨logs, hrun⟩ :=
    run_answerDerived_bare h.isRemote h.loaded ha.query ha.body hr (Parameters.merge_of_not_overflows ho) b t
  refine ⟨logs, ?_⟩
  rw [dispatch_of_route hroute ha.method, answerRoute, hrun]
  rfl

/-- A request for a listed endpoint runs a query with the path parameters. -/
theorem dispatch_listed (h : ServesFiles s qs) (hq : q ∈ qs) {segment : String → String}
    (hv : ∀ p ∈ q.pathParameters, Alphanumeric (segment p.name)) (ha : AsksFor r q segment) (b : Backend) (t : Trace) :
    ∃ ps logs, s.dispatch r b t = s.runQuery (servedName q) ps b ⟨t.sent, logs⟩ ∧ Json.fieldsFinite ps = true ∧
      (Entries.keys ps).Nodup ∧ ∀ k, k ∈ Entries.keys ps ↔ k ∈ q.pathParameters.map (·.name) := by
  by_cases hp : q.pathParameters = []
  · obtain ⟨logs, hd⟩ := dispatch_flat h hq hp ha b t
    refine ⟨[], logs, hd, rfl, List.nodup_nil, fun k => ?_⟩
    rw [hp]
    rfl
  · obtain ⟨logs, hd⟩ := dispatch_derived h hq hp hv ha b t
    refine ⟨_, logs, ?_, Parameters.fieldsFinite_readings (q.bind (q.segmentsOf segment)) (Query.catalogue qs q.name), ?_,
      fun k => ?_⟩
    · rw [hd, servedName, if_neg fun hf => hp hf.1]
    · rw [Parameters.keys_readings]
      exact (q.bind (q.segmentsOf segment)).nodup
    · rw [Parameters.keys_readings]
      exact Query.mem_keys_bind (by simp [Query.segmentsOf])

/-- A request for a listed endpoint is one POST to the name that it runs, and to no other. -/
theorem posts_listed_iff (h : ServesFiles s qs) (hq : q ∈ qs) {segment : String → String}
    (hv : ∀ p ∈ q.pathParameters, Alphanumeric (segment p.name)) (ha : AsksFor r q segment) (name : String) (b : Backend)
    (t : Trace) :
    Posts s name (q.pathParameters.map (·.name)) t (s.respond r b t).2 ↔
      servedName q = name ∧ (s.config.helixUrl ++ "/" ++ name).length ≤ Url.maxLength := by
  have hn := h.distinct.names q hq
  have hm : r.method ≠ "OPTIONS" := ne_options_of_mem_methods (show r.method ∈ Route.methods (.query []) from ha.method)
  obtain ⟨ps, logs, hrun, hf, hd, hk⟩ := dispatch_listed h hq hv ha b t
  rw [(respond_of_dispatch hm b t).1, hrun]
  obtain ⟨base, hb⟩ := h.reached
  have hserved : ∀ c ∈ (servedName q).toList, Text.isNameChar c = true ∨ c = '-' := fun c hc => of_mem_servedName hn hc
  exact posts_runQuery_iff h.hasPlainKey ⟨"", base, by rfl, hb⟩ hserved hf hd hk name b t logs

/-- The endpoints of the queries are listed, with a path for each that has a placeholder for each path parameter. A request
for the path, with letters and digits in the place of the placeholders, is one POST to the query, whose body has the path
parameters for its only keys, if and only if

1. the query has path parameters, or its name has some other capital than a first letter, or none at all, and
2. the address of the query is not too long. -/
theorem serves_listed_iff (h : ServesFiles s qs) :
    (∀ (r : WebRequest) (b : Backend) (t : Trace), r.path = "/api/endpoints".toList → r.method = "GET" →
      ∃ headers logs, s.respond r b t = (.ok ⟨200, headers, .json (Query.listing qs)⟩, ⟨t.sent, logs⟩)) ∧
    ∀ q ∈ qs, (q.path = q.pathWith fun name => "\x7b" ++ name ++ "\x7d") ∧
      ∀ (segment : String → String) (r : WebRequest) (b : Backend) (t : Trace),
        (∀ p ∈ q.pathParameters, Alphanumeric (segment p.name)) → AsksFor r q segment →
          (Posts s q.name (q.pathParameters.map (·.name)) t (s.respond r b t).2 ↔
            ¬ (q.pathParameters = [] ∧ isCapitalized q.name = true) ∧
              (s.config.helixUrl ++ "/" ++ q.name).length ≤ Url.maxLength) := by
  refine ⟨fun r b t hp hm => ?_, fun q hq => ⟨h.path_eq hq, fun segment r b t hv ha => ?_⟩⟩
  · obtain ⟨logs, hd⟩ := dispatch_endpoints h hp hm b t
    obtain ⟨ht, hw⟩ := respond_of_dispatch (s := s) (r := r) (by rw [hm]; decide) b t
    rw [hd] at ht hw
    obtain ⟨headers, ha⟩ := hw _ rfl
    exact ⟨headers, logs, Prod.ext ha ht⟩
  · rw [posts_listed_iff h hq hv ha, servedName_eq_iff (h.distinct.names q hq)]

/-! ## Two queries -/

/-- A service with the queries `Users`, which has no parameters, and `getUser`. -/
def userService : Service := fileService "QUERY Users () => [User]\nQUERY getUser (user_id: ID) => User"

def userQueries : List Query := [.derived "Users" [], .derived "getUser" [⟨"user_id", "ID"⟩]]

theorem servesFiles_users : ServesFiles userService userQueries where
  source := rfl
  loaded := by decide +kernel
  distinct := by
    refine ⟨fun q hq => ?_, by decide⟩
    rcases List.mem_pair.1 hq with rfl | rfl
    · exact ⟨by decide, by decide⟩
    · exact ⟨by decide, by decide⟩
  reached := ⟨_, reaches_fileService _⟩

/-- A request for one of them posts the value on its path. -/
theorem serves_listed_getUser :
    ServesFiles userService userQueries ∧
      ∀ b, Posts userService "getUser" ["user_id"] .empty
        (userService.respond (plainRequest "/api/query/get-user/7" "") b .empty).2 := by
  have hq : Query.derived "getUser" [⟨"user_id", "ID"⟩] ∈ userQueries := by decide
  have ha : AsksFor (plainRequest "/api/query/get-user/7" "") (.derived "getUser" [⟨"user_id", "ID"⟩]) fun _ => "7" :=
    ⟨by decide, by decide, rfl, rfl⟩
  refine ⟨servesFiles_users, fun b => ?_⟩
  exact (((serves_listed_iff servesFiles_users).2 _ hq).2 _ _ b _ (fun p _ => ⟨by decide, by decide⟩) ha).2
    ⟨by decide, by decide +kernel⟩

/-- The query `Users` is listed at `/api/query/users`, but a request for that is a POST to `users`, and none to `Users`. -/
theorem posts_slug_of_capitalized :
    ServesFiles userService userQueries ∧
      ∃ q ∈ userQueries, q.path = "/api/query/users" ∧ q.name = "Users" ∧
        ∀ b, Posts userService "users" [] .empty
            (userService.respond (plainRequest "/api/query/users" "") b .empty).2 ∧
          ¬ Posts userService "Users" [] .empty
            (userService.respond (plainRequest "/api/query/users" "") b .empty).2 := by
  have hq : Query.derived "Users" [] ∈ userQueries := by decide
  have ha : AsksFor (plainRequest "/api/query/users" "") (.derived "Users" []) fun _ => "" :=
    ⟨by decide, by decide, rfl, rfl⟩
  have hp := fun name b => posts_listed_iff servesFiles_users hq (fun p hp => by cases hp) ha name b .empty
  refine ⟨servesFiles_users, _, hq, by decide, rfl, fun b => ⟨(hp "users" b).2 ⟨by decide, by decide +kernel⟩, fun h => ?_⟩⟩
  exact absurd ((hp "Users" b).1 h).1 (by decide)

end Service

end HelixGateway
