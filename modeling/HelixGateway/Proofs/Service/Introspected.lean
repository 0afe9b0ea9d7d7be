import HelixGateway.Proofs.Json.Bytes
import HelixGateway.Proofs.Json.Equality
import HelixGateway.Proofs.Service.Endpoints

/-!
# Endpoints of a database that reports its queries

A service in front of a database lists an endpoint for each query that the database reports, at the name as it is. A request
for such an endpoint is a POST to the query, unless its name is taken for the slug of another one: one with a hyphen is, if a
query without path parameters that stands before it has this slug (`posts_other_of_captured`).

Main statement: `posts_introspected_iff`.
-/

namespace HelixGateway

/-! ## Introspections that succeed -/

/-- From one trace to the other the database is asked about itself some times, and reports `d` each time. -/
inductive Client.Reports (c : Client) (b : Backend) (d : Introspection) : ℕ → Trace → Trace → Prop where
  | none (t : Trace) : Reports c b d 0 t t
  | again {n : ℕ} {t t' t'' : Trace} (h : c.introspect b t = (.ok (.ok d), t')) :
      Reports c b d n t' t'' → Reports c b d (n + 1) t t''

/-- A database that reports the same whenever it is asked does so any number of times. -/
theorem Client.exists_reports {c : Client} {b : Backend} {d : Introspection}
    (h : ∀ t, ∃ t', c.introspect b t = (.ok (.ok d), t')) (n : ℕ) (t : Trace) : ∃ t', c.Reports b d n t t' := by
  induction n generalizing t with
  | zero => exact ⟨t, .none t⟩
  | succ n ih =>
    obtain ⟨t₁, hi⟩ := h t
    obtain ⟨t', hr⟩ := ih t₁
    exact ⟨t', .again hi hr⟩

/-- A database that has reported something can be reached. -/
theorem Client.Reports.reached {c : Client} {b : Backend} {d : Introspection} {n : ℕ} {t t' : Trace}
    (h : c.Reports b d n t t') (hn : 0 < n) :
    c.hasPlainKey = true ∧ ∃ e url, isFullUrl e = false ∧ c.Reaches e url := by
  cases h with
  | none => exact absurd hn (Nat.lt_irrefl 0)
  | again hi _ => exact reaches_of_introspect hi

namespace Metadata

variable {m : Metadata} {d : Introspection} {b : Backend} {t t' : Trace}

/-- The queries of a database are those that it reports. -/
theorem run_queries_remote (hm : m.source.isRemote = true) (h : m.client.introspect b t = (.ok (.ok d), t')) :
    m.queries b t = (.ok d.served, t') := by
  rw [queries, if_pos hm, Session.run_bind_ok h]
  rfl

/-- The types of a query's parameters are those that the database reports. -/
theorem run_catalogue_remote (hm : m.source.isRemote = true) (h : m.client.introspect b t = (.ok (.ok d), t'))
    (name : String) : m.catalogue name b t = (.ok (d.catalogue name), t') := by
  rw [catalogue, if_pos hm, Session.run_bind_ok h]
  rfl

end Metadata

namespace Service

variable {s : Service} {r : WebRequest} {d : Introspection} {b : Backend} {t t' : Trace}

/-! ## Names of queries -/

/-- A name of ASCII letters, digits, low lines and hyphens. -/
structure ReportedName (name : String) : Prop where
  nonempty : name.toList ≠ []
  chars : ∀ c ∈ name.toList, Text.isNameChar c = true ∨ c = '-'

/-- A service in front of a database that reports `d`, whose queries have names of their own. -/
structure ServesReported (s : Service) (d : Introspection) : Prop where
  source : s.config.source ≠ .localFiles
  names : ∀ q ∈ d.queries, ReportedName q.name
  distinct : (d.queries.map (·.name)).Nodup

/-- The queries that may come between the name of a query and the query: those before it, or all others if it has path
parameters itself, since then it has no endpoint at its bare name. -/
def rivals (before : List KnownQuery) (q : KnownQuery) (after : List KnownQuery) : List KnownQuery :=
  if q.toQuery.pathParameters = [] then before else before ++ after

/-- Whether the name of a query is taken for the slug of another one, which has no path parameters. -/
def Captured (before : List KnownQuery) (q : KnownQuery) (after : List KnownQuery) : Prop :=
  '-' ∈ q.name.toList ∧ ∃ p ∈ rivals before q after, p.toQuery.pathParameters = [] ∧ Query.slug p.name = q.name

/-! ## The name that is run -/

section Names

variable {before after : List KnownQuery} {q : KnownQuery}

/-- A reported query fits a bare name that is its slug or its own, if it has no path parameters. -/
theorem fits_toQuery_iff {p : KnownQuery} {name : String} :
    p.toQuery.fits name 0 = true ↔ (Query.slug p.name = name ∨ p.name = name) ∧ p.toQuery.pathParameters = [] := by
  rw [Query.fits_iff, List.length_eq_zero_iff]
  rfl

/-- A name is resolved to the first rival that it fits, and else to the query itself unless that has path parameters. -/
theorem find?_fits (before : List KnownQuery) (q : KnownQuery) (after : List KnownQuery) :
    ((before ++ q :: after).map (·.toQuery)).find? (·.fits q.name 0) =
      (((rivals before q after).map (·.toQuery)).find? (·.fits q.name 0)).or
        (if q.toQuery.pathParameters = [] then some q.toQuery else none) := by
  rw [List.map_append, List.map_cons, List.find?_append, rivals]
  by_cases hp : q.toQuery.pathParameters = []
  · have hq : q.toQuery.fits q.name 0 = true := fits_toQuery_iff.2 ⟨.inr rfl, hp⟩
    rw [if_pos hp, if_pos hp, List.find?_cons_of_pos (p := fun x : Query => x.fits q.name 0) hq]
  · have hq : ¬ q.toQuery.fits q.name 0 = true := fun hf => hp (fits_toQuery_iff.1 hf).2
    rw [if_neg hp, if_neg hp, List.find?_cons_of_neg (p := fun x : Query => x.fits q.name 0) hq, Option.or_none, List.map_append,
      List.find?_append]

/-- A rival has another name. -/
theorem name_ne_of_mem_rivals (hd : ((before ++ q :: after).map (·.name)).Nodup) {p : KnownQuery}
    (hp : p ∈ rivals before q after) : p.name ≠ q.name := by
  have hm : p ∈ before ++ after := by
    rw [rivals] at hp
    split at hp
    · exact List.mem_append_left after hp
    · exact hp
  have hperm : ((before ++ q :: after).map (·.name)).Perm (q.name :: (before ++ after).map (·.name)) :=
    List.perm_middle.map fun p : KnownQuery => p.name
  have hq := (List.nodup_cons.1 (hperm.nodup_iff.1 hd)).1
  intro he
  exact hq (he ▸ List.mem_map_of_mem hm)

/-- A query is run under its own name unless this is captured. -/
theorem nameOf_reported_eq_iff (hd : ((before ++ q :: after).map (·.name)).Nodup) :
    nameOf ((before ++ q :: after).map (·.toQuery)) q.name = q.name ↔ ¬ Captured before q after := by
  by_cases hh : '-' ∈ q.name.toList
  · rw [nameOf, if_pos (List.contains_iff_mem.2 hh), Query.resolve, List.length_nil, find?_fits, Option.map_map]
    cases hf : ((rivals before q after).map (·.toQuery)).find? (·.fits q.name 0) with
    | none =>
      -- the query itself is found, or nothing is: its name is run either way
      rw [Option.none_or]
      refine iff_of_true ?_ ?_
      · split
        · rfl
        · rfl
      · rintro ⟨-, p, hp, hpp, hs⟩
        exact List.find?_eq_none.1 hf p.toQuery (List.mem_map_of_mem hp) (fits_toQuery_iff.2 ⟨.inl hs, hpp⟩)
    | some found =>
      -- what is run is the name of a rival, which fits by its slug
      obtain ⟨p, hp, rfl⟩ := List.mem_map.1 (List.mem_of_find?_eq_some hf)
      have hfit : p.toQuery.fits q.name 0 = true := List.find?_some (p := fun x : Query => x.fits q.name 0) hf
      obtain ⟨hn, hpp⟩ := fits_toQuery_iff.1 hfit
      have hne := name_ne_of_mem_rivals hd hp
      exact iff_of_false hne (not_not_intro ⟨hh, p, hp, hpp, hn.resolve_right hne⟩)
  · rw [nameOf, if_neg fun hc => hh (List.contains_iff_mem.1 hc)]
    exact iff_of_true rfl fun hc => hh hc.1

end Names

/-! ## Requests -/

/-- How often the database is asked about itself for a request by name: for the name if it may be a slug, and for the
types. -/
def timesAsked (name : String) : ℕ := if '-' ∈ name.toList then 2 else 1

theorem timesAsked_pos (name : String) : 0 < timesAsked name := by
  rw [timesAsked]
  split
  · exact Nat.two_pos
  · exact Nat.one_pos

/-- The name that a segment stands for is found, and the database is left to be asked for the types. -/
theorem run_flatName_reported (hs : s.metadata.source.isRemote = true) {name : String}
    (h : s.client.Reports b d (timesAsked name) t t') :
    ∃ t₁, s.flatName name b t = (.ok (nameOf d.served name), t₁) ∧ s.client.introspect b t₁ = (.ok (.ok d), t') := by
  unfold timesAsked at h
  unfold flatName nameOf
  by_cases hh : '-' ∈ name.toList
  · rw [if_pos hh] at h
    rw [if_pos (List.contains_iff_mem.2 hh), if_pos (List.contains_iff_mem.2 hh)]
    obtain _ | ⟨h₁, h⟩ := h
    obtain _ | ⟨h₂, h⟩ := h
    cases h
    refine ⟨_, ?_, h₂⟩
    rw [Session.run_bind_ok (Metadata.run_queries_remote hs h₁)]
    rfl
  · rw [if_neg hh] at h
    rw [if_neg fun hc => hh (List.contains_iff_mem.1 hc), if_neg fun hc => hh (List.contains_iff_mem.1 hc)]
    obtain _ | ⟨h₁, h⟩ := h
    cases h
    exact ⟨t, rfl, h₁⟩

/-- A request without query string and body runs the query that its name stands for. -/
theorem run_answerQuery_reported (hs : s.metadata.source.isRemote = true) (hq : r.query = []) (hb : r.body = [])
    {name : String} (h : s.client.Reports b d (timesAsked name) t t') :
    s.answerQuery r name b t = s.runQuery (nameOf d.served name) [] b t' := by
  have hbody : readBody r b t = (.ok (.ok none), t) := by
    unfold readBody
    rw [hb]
    rfl
  obtain ⟨t₁, hname, hlast⟩ := run_flatName_reported hs h
  rw [answerQuery, Session.run_bind_ok hbody, Session.run_bind_ok hname,
    Session.run_bind_ok (Metadata.run_catalogue_remote hs hlast _), WebRequest.parameters_of_query_nil hq]
  exact Session.run_bind_ok rfl

theorem ServesReported.isRemote (h : ServesReported s d) : s.metadata.source.isRemote = true := by
  have hs : s.metadata.source ≠ .localFiles := h.source
  rw [DataSource.isRemote]
  exact decide_eq_true hs

/-- The name that is run is reported, or the one that was asked for. -/
theorem ServesReported.nameOf (h : ServesReported s d) {asked : String} (hn : ReportedName asked) :
    ReportedName (nameOf d.served asked) := by
  rw [Service.nameOf]
  split
  · cases hf : Query.resolve d.served asked [] with
    | none => exact hn
    | some found =>
      obtain ⟨q, hq, he⟩ := List.mem_map.1 (Query.mem_of_resolve hf)
      show ReportedName found.1.name
      rw [← he]
      exact h.names q hq
  · exact hn

/-- A request without query string and body for a path of a query. -/
structure AsksAt (r : WebRequest) (path : String) : Prop where
  method : r.method ∈ ["DELETE", "GET", "POST", "PUT"]
  path : r.path = path.toList
  query : r.query = []
  body : r.body = []

/-- A request by name is one POST to the query that the name stands for, and to no other, once the database has told of
itself. -/
theorem posts_reported_iff (h : ServesReported s d) {asked : String} (hn : ReportedName asked)
    (ha : AsksAt r (Query.pathRoot ++ "/" ++ asked)) (hr : s.client.Reports b d (timesAsked asked) t t') (name : String) :
    Posts s name [] t' (s.respond r b t).2 ↔
      nameOf d.served asked = name ∧ (s.config.helixUrl ++ "/" ++ name).length ≤ Url.maxLength := by
  have hm : r.method ≠ "OPTIONS" := ne_options_of_mem_methods (show r.method ∈ Route.methods (.query []) from ha.method)
  have hroute : Route.ofPath? r.path = some (.query asked.toList) := by
    rw [ha.path, String.toList_append]
    exact (Route.ofPath?_queryRoot asked.toList).trans
      (Route.ofQueryPath?_name hn.nonempty (slash_not_mem_of_name_or_slug hn.chars))
  obtain ⟨hkey, hreach⟩ := hr.reached (timesAsked_pos asked)
  rw [(respond_of_dispatch hm b t).1, dispatch_of_route hroute ha.method, answerRoute, String.ofList_toList,
    run_answerQuery_reported h.isRemote ha.query ha.body hr]
  have hd : (Entries.keys ([] : Entries Json)).Nodup := List.nodup_nil
  exact posts_runQuery_iff hkey hreach (h.nameOf hn).chars rfl hd (fun k => Iff.rfl) name b t' t'.logs

/-- The endpoints of the queries that a database reports are listed, each at its name as it is. As long as the database goes
on to report the same, a request for one of them is one POST to its query, if and only if

1. its name is not taken for the slug of another query, and
2. the address of the query is not too long. -/
theorem posts_introspected_iff (h : ServesReported s d) :
    (∀ (r : WebRequest) (b : Backend) (t t' : Trace), r.path = "/api/endpoints".toList → r.method = "GET" →
      s.client.Reports b d 1 t t' →
        ∃ headers, s.respond r b t = (.ok ⟨200, headers, .json (Query.listing d.served)⟩, t')) ∧
    ∀ (before : List KnownQuery) (q : KnownQuery) (after : List KnownQuery), d.queries = before ++ q :: after →
      q.toQuery.path = "/api/query/" ++ q.name ∧
      ∀ (r : WebRequest) (b : Backend) (t t' : Trace), AsksAt r q.toQuery.path →
        s.client.Reports b d (timesAsked q.name) t t' →
          (Posts s q.name [] t' (s.respond r b t).2 ↔
            ¬ Captured before q after ∧ (s.config.helixUrl ++ "/" ++ q.name).length ≤ Url.maxLength) := by
  refine ⟨fun r b t t' hp hm hr => ?_, fun before q after hd => ⟨rfl, fun r b t t' ha hr => ?_⟩⟩
  · obtain _ | ⟨hi, hr⟩ := hr
    cases hr
    have hl := dispatch_listing hp hm (Metadata.run_queries_remote h.isRemote hi)
    obtain ⟨ht, hw⟩ := respond_of_dispatch (s := s) (r := r) (by rw [hm]; decide) b t
    rw [hl] at ht hw
    obtain ⟨headers, ho⟩ := hw _ rfl
    exact ⟨headers, Prod.ext ho ht⟩
  · have hq : q ∈ d.queries := by
      rw [hd]
      exact List.mem_append_right before List.mem_cons_self
    have hdistinct := h.distinct
    rw [hd] at hdistinct
    have hserved : d.served = (before ++ q :: after).map (·.toQuery) := by
      rw [Introspection.served, hd]
    rw [posts_reported_iff h (h.names q hq) ha hr, hserved, nameOf_reported_eq_iff hdistinct]

/-! ## Three queries -/

/-- A service in front of a local database. -/
def databaseService : Service where
  config := ⟨.localDatabase, ⟨none, "localhost", 6969, "schema.hx", "queries.hx", "0.0.0.0", 8000, []⟩, none, none, by decide⟩
  disk := ⟨[], [], []⟩

/-- The queries `getUser`, `get-user` and `create-user`, as they are reported. -/
def userReport : String :=
  "\x7b\"queries\":[\x7b\"name\":\"getUser\"\x7d,\x7b\"name\":\"get-user\"\x7d,\x7b\"name\":\"create-user\"\x7d]\x7d"

def reportedUsers : Introspection := ⟨.empty, [⟨"getUser", []⟩, ⟨"get-user", []⟩, ⟨"create-user", []⟩]⟩

theorem servesReported_users : ServesReported databaseService reportedUsers where
  source := by decide
  names := by
    have hn : ∀ name ∈ ["getUser", "get-user", "create-user"], name.toList ≠ [] ∧
        ∀ c ∈ name.toList, Text.isNameChar c = true ∨ c = '-' := by decide +kernel
    intro q hq
    obtain ⟨he, hc⟩ := hn q.name (List.mem_map_of_mem hq)
    exact ⟨he, hc⟩
  distinct := by decide

theorem readBytes_userReport :
    Json.readBytes (Text.Utf8.encode userReport.toList) =
      .ok ⟨.obj [("queries", .arr [.obj [("name", .str "getUser")], .obj [("name", .str "get-user")],
        .obj [("name", .str "create-user")]])], true⟩ := by
  rw [Json.readBytes_encode (by decide +kernel)]
  decide +kernel

/-- The database reports these queries whenever it is asked. -/
theorem introspect_users (t : Trace) :
    ∃ t', databaseService.client.introspect (replying userReport) t = (.ok (.ok reportedUsers), t') := by
  have hr : databaseService.client.Reaches (databaseService.client.resolve "introspect")
      ⟨"http".toList, [], "localhost".toList, some 6969, "/introspect".toList, none, none⟩ :=
    ⟨by rfl, by decide, by rfl⟩
  have hk : databaseService.client.hasPlainKey = true := by decide
  exact Client.introspect_of_reply hr hk (fun sent r => rfl) readBytes_userReport rfl t

/-- A name with a hyphen that is no slug of another query is posted as it is. -/
theorem posts_introspected_createUser :
    ServesReported databaseService reportedUsers ∧
      ∃ t', databaseService.client.Reports (replying userReport) reportedUsers 2 .empty t' ∧
        Posts databaseService "create-user" [] t'
          (databaseService.respond (plainRequest "/api/query/create-user" "") (replying userReport) .empty).2 := by
  obtain ⟨t', hr⟩ := Client.exists_reports introspect_users 2 .empty
  have hd : reportedUsers.queries = [⟨"getUser", []⟩, ⟨"get-user", []⟩] ++ ⟨"create-user", []⟩ :: [] := rfl
  have ha : AsksAt (plainRequest "/api/query/create-user" "") (KnownQuery.mk "create-user" []).toQuery.path :=
    ⟨by decide, by decide, rfl, rfl⟩
  refine ⟨servesReported_users, t', hr, ?_⟩
  have hn : ¬ Captured [⟨"getUser", []⟩, ⟨"get-user", []⟩] ⟨"create-user", []⟩ [] := by
    rintro ⟨-, p, hp, -, hs⟩
    rcases List.mem_pair.1 hp with rfl | rfl
    · exact absurd hs (by decide)
    · exact absurd hs (by decide)
  exact (((posts_introspected_iff servesReported_users).2 _ _ _ hd).2 _ _ _ _ ha hr).2 ⟨hn, by decide +kernel⟩

/-- The query `get-user` is listed at `/api/query/get-user`, but a request for that is a POST to `getUser`, and none to
`get-user`. -/
theorem posts_other_of_captured :
    ServesReported databaseService reportedUsers ∧
      ∃ q ∈ reportedUsers.queries, q.name = "get-user" ∧ q.toQuery.path = "/api/query/get-user" ∧
        ∃ t', databaseService.client.Reports (replying userReport) reportedUsers 2 .empty t' ∧
          Posts databaseService "getUser" [] t'
              (databaseService.respond (plainRequest "/api/query/get-user" "") (replying userReport) .empty).2 ∧
            ¬ Posts databaseService "get-user" [] t'
              (databaseService.respond (plainRequest "/api/query/get-user" "") (replying userReport) .empty).2 := by
  obtain ⟨t', hr⟩ := Client.exists_reports introspect_users 2 .empty
  have hq : KnownQuery.mk "get-user" [] ∈ reportedUsers.queries := List.mem_cons_of_mem _ List.mem_cons_self
  have ha : AsksAt (plainRequest "/api/query/get-user" "") (Query.pathRoot ++ "/" ++ "get-user") :=
    ⟨by decide, by decide, rfl, rfl⟩
  have hp := fun name => posts_reported_iff servesReported_users (servesReported_users.names _ hq) ha hr name
  have hn : nameOf reportedUsers.served "get-user" = "getUser" := by decide
  refine ⟨servesReported_users, _, hq, rfl, by decide, t', hr, (hp "getUser").2 ⟨hn, by decide +kernel⟩, fun h => ?_⟩
  rw [hp "get-user", hn] at h
  exact absurd h.1 (by decide)

end Service

end HelixGateway
