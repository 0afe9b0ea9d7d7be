import HelixGateway.Proofs.Client
import HelixGateway.Service

/-!
# Runs of the service

What a part of the service does in one run: whom it asks, and what it answers. A query and an inspection that reach the
database send it one request each, and their answer is made of the reply alone. With local files, metadata sends nothing.

Main statements: `run_runQuery`, `run_inspect`, `run_answerDerived`, `run_answerQuery_bare`, `run_answerDerived_bare`,
`respond_of_dispatch`.
-/

namespace HelixGateway

theorem OrdMap.empty_insertAll {α : Type} (m : OrdMap α) : empty.insertAll m = m :=
  ext (Entries.collapse_of_nodup m.nodup)

/-! ## Metadata from local files -/

namespace Metadata

variable {m : Metadata}

/-- What could not be read is replaced, and only the log tells. -/
theorem run_orWarn {ε α : Type} (outcome : Except ε α) (warning : ε → String) (absent : α) (b : Backend) (t : Trace) :
    ∃ logs, orWarn outcome warning absent b t = (.ok (outcome.toOption.getD absent), ⟨t.sent, logs⟩) := by
  cases outcome with
  | ok x => exact ⟨t.logs, rfl⟩
  | error e => exact ⟨_, rfl⟩

/-- With local files the schema is read and nothing is sent. -/
theorem run_schema_local (h : m.source.isRemote = false) {outcome : Except LoadError Schema}
    (hl : m.disk.loadSchema m.schemaPath = .ok outcome) (b : Backend) (t : Trace) :
    ∃ logs, m.schema b t = (.ok (outcome.toOption.getD .empty), ⟨t.sent, logs⟩) := by
  rw [schema, h]
  simp only [Bool.false_eq_true, if_false, hl]
  rw [Session.run_bind_ok (show Session.ofExcept (.ok outcome) b t = (.ok outcome, t) from rfl)]
  exact run_orWarn outcome _ _ b t

/-- With local files the queries are read and nothing is sent. -/
theorem run_queries_local (h : m.source.isRemote = false) {outcome : Except LoadError (List Query)}
    (hl : m.disk.loadQueries m.queriesPath = .ok outcome) (b : Backend) (t : Trace) :
    ∃ logs, m.queries b t = (.ok (outcome.toOption.getD []), ⟨t.sent, logs⟩) := by
  rw [queries, h]
  simp only [Bool.false_eq_true, if_false, hl]
  rw [Session.run_bind_ok (show Session.ofExcept (.ok outcome) b t = (.ok outcome, t) from rfl)]
  exact run_orWarn outcome _ _ b t

/-- With local files the types of a query's parameters are read and nothing is sent. -/
theorem run_catalogue_local (h : m.source.isRemote = false) {outcome : Except LoadError (List Query)}
    (hl : m.disk.loadQueries m.queriesPath = .ok outcome) (name : String) (b : Backend) (t : Trace) :
    ∃ logs, m.catalogue name b t = (.ok (Query.catalogue (outcome.toOption.getD []) name), ⟨t.sent, logs⟩) := by
  rw [catalogue, h]
  simp only [Bool.false_eq_true, if_false, hl]
  rw [Session.run_bind_ok (show Session.ofExcept (.ok outcome) b t = (.ok outcome, t) from rfl)]
  obtain ⟨logs, hw⟩ := run_orWarn (outcome.map fun qs => Query.catalogue qs name)
    (fun e => "Could not read query definitions for parameter types: " ++ e.message) .empty b t
  refine ⟨logs, hw.trans ?_⟩
  cases outcome with
  | ok qs => rfl
  | error e => rfl

end Metadata

namespace Service

variable {s : Service} {r : WebRequest}

/-! ## Answers -/

/-- A value that can be put in order is answered in order, with null for numbers that are not finite. -/
theorem run_answer {v w : Json} (h : v.canonicalize = .ok w) (b : Backend) (t : Trace) :
    answer v b t = (.ok (withStatus 200 w.finiteOrNull), t) := by
  rw [answer, h]
  rfl

/-- An answer neither sends nor logs anything. -/
theorem trace_answer (v : Json) (b : Backend) (t : Trace) : (answer v b t).2 = t := by
  rw [answer]
  cases v.canonicalize with
  | ok w => rfl
  | error e => rfl

/-- What is answered to what comes of a call: the result of its outcome, unless the reply is a fault. -/
def answerOutcome (result : Except ServiceError Json → Json) (reply : Except Fault (Except ServiceError Json)) :
    Session WebResponse :=
  Session.ofExcept reply >>= fun outcome => answer (result outcome)

/-- The result of an outcome is answered as it is. -/
theorem answerOutcome_ok (result : Except ServiceError Json → Json) (outcome : Except ServiceError Json) (b : Backend)
    (t : Trace) : answerOutcome result (.ok outcome) b t = answer (result outcome) b t := rfl

/-- Answering an outcome neither sends nor logs anything. -/
theorem trace_answerOutcome (result : Except ServiceError Json → Json) (reply : Except Fault (Except ServiceError Json))
    (b : Backend) (t : Trace) : (answerOutcome result reply b t).2 = t := by
  cases reply with
  | ok outcome => rw [answerOutcome_ok, trace_answer]
  | error e => rfl

/-! ## Calls of the database -/

/-- A query that is reached is posted once, and answered by what comes of it. -/
theorem run_runQuery {name : String} {url : Url} (hr : s.client.Reaches name url) (hk : s.client.hasPlainKey = true)
    {ps : Entries Json} (hf : Json.fieldsFinite ps = true) (b : Backend) (t : Trace) :
    ∃ logs, s.runQuery name ps b t =
      answerOutcome (queryResult name) (Client.readReply (s.client.resolve name)
        (b.reply t.sent (s.client.requestFor "POST" name url (some (Json.obj ps).compact))))
        b ⟨t.sent ++ [s.client.requestFor "POST" name url (some (Json.obj ps).compact)], logs⟩ := by
  have hrun := Client.run_request hr hk (Client.encodeBody_obj hf) "POST" b t
  rw [runQuery, Client.query]
  generalize Client.readReply _ _ = reply at hrun ⊢
  match reply with
  | .ok (.ok v) => exact ⟨t.logs, Session.run_bind_ok hrun⟩
  | .ok (.error e) => exact ⟨_, Session.run_bind_ok hrun⟩
  | .error e => exact ⟨t.logs, Session.run_bind_error hrun⟩

/-- A query whose address is no address is answered with the fault, and nothing is sent. -/
theorem run_runQuery_of_error {name : String} {ps : Entries Json} {e : Fault}
    (h : s.client.prepare "POST" name (.obj ps) = .error e) (b : Backend) (t : Trace) :
    s.runQuery name ps b t = (.error e, t) := by
  rw [runQuery, Client.query]
  exact Session.run_bind_error (Client.run_request_of_error h b t)

/-- An inspection whose parameters can be written is read at the address that holds them. -/
theorem inspect_of_isWritable {endpoint : String} {p : Passthrough} (hw : p.isWritable = true) (fallback : Entries Json) :
    s.inspect endpoint p fallback = s.inspectAt endpoint (p.toUrl endpoint) fallback := by
  rw [inspect, Passthrough.url_of_isWritable hw]
  rfl

/-- An inspection that is reached is asked for once, and answered by what comes of it. -/
theorem run_inspect {endpoint : String} {p : Passthrough} (hw : p.isWritable = true) {url : Url}
    (hr : s.client.Reaches (p.toUrl endpoint) url) (hk : s.client.hasPlainKey = true) (fallback : Entries Json) (b : Backend)
    (t : Trace) :
    ∃ logs, s.inspect endpoint p fallback b t =
      answerOutcome (inspectionResult fallback) (Client.readReply (s.client.resolve (p.toUrl endpoint))
        (b.reply t.sent (s.client.requestFor "GET" (p.toUrl endpoint) url none)))
        b ⟨t.sent ++ [s.client.requestFor "GET" (p.toUrl endpoint) url none], logs⟩ := by
  have hn : Client.encodeBody .null = .ok none := rfl
  have hrun := Client.run_request hr hk hn "GET" b t
  rw [inspect_of_isWritable hw, inspectAt, Client.get]
  generalize Client.readReply _ _ = reply at hrun ⊢
  match reply with
  | .ok (.ok v) => exact ⟨t.logs, Session.run_bind_ok hrun⟩
  | .ok (.error e) => exact ⟨_, Session.run_bind_ok hrun⟩
  | .error e => exact ⟨t.logs, Session.run_bind_error hrun⟩

/-- An inspection whose address is no address is answered with the fault, and nothing is sent. -/
theorem run_inspect_of_error {endpoint : String} {p : Passthrough} (hw : p.isWritable = true) {e : Fault}
    (h : s.client.prepare "GET" (p.toUrl endpoint) .null = .error e) (fallback : Entries Json) (b : Backend) (t : Trace) :
    s.inspect endpoint p fallback b t = (.error e, t) := by
  rw [inspect_of_isWritable hw, inspectAt, Client.get]
  exact Session.run_bind_error (Client.run_request_of_error h b t)

/-! ## Bodies -/

/-- The JSON value in the body of a request, if it holds one that can be read. It is a fault if that cannot be sent on. -/
def bodyOf (r : WebRequest) : Except Fault (Option Json) :=
  if r.body.all isBodyBlank then .ok none
  else
    match Json.readBytes r.body with
    | .ok v => (Client.sendable v).map some
    | .error _ => .ok none

/-- A body that cannot be read is left out, and only the log tells. -/
theorem run_readBody (r : WebRequest) (b : Backend) (t : Trace) :
    ∃ logs, readBody r b t = (.ok (bodyOf r), ⟨t.sent, logs⟩) := by
  unfold readBody bodyOf
  split
  · exact ⟨t.logs, rfl⟩
  · cases Json.readBytes r.body with
    | ok v => exact ⟨t.logs, rfl⟩
    | error e => exact ⟨_, rfl⟩

/-- An empty body holds nothing. -/
theorem bodyOf_of_nil (h : r.body = []) : bodyOf r = .ok none := by
  rw [bodyOf, h]
  rfl

/-! ## Queries -/

/-- A derived path runs the query that it is resolved to, with what its values and those of the query string are typed as. -/
theorem run_answerDerived {queries : List Query} {b : Backend} {t t' : Trace}
    (hqs : s.metadata.queries b t = (.ok queries, t')) {slug rest : List Char} {q : Query} {values : OrdMap String}
    (hr : Query.resolve queries (String.ofList slug) (segments rest) = some (q, values)) {ps : Entries Json}
    {body : Option Json} (hbody : bodyOf r = .ok body)
    (hm : Parameters.merge (r.parameters.insertAll values) body (Query.catalogue queries q.name) = .ok ps) :
    ∃ logs, s.answerDerived r slug rest b t = s.runQuery q.name ps b ⟨t'.sent, logs⟩ := by
  obtain ⟨logs, hb⟩ := run_readBody r b t'
  refine ⟨logs, ?_⟩
  rw [answerDerived, Session.run_bind_ok hqs]
  simp only [hr]
  rw [Session.run_bind_ok hb, hbody]
  exact Session.run_bind_ok (congrArg (·, _) hm)

/-! ## Queries without parameters of their own -/

/-- The name that a single segment stands for among some queries. -/
def nameOf (qs : List Query) (segment : String) : String :=
  if segment.toList.contains '-' then ((Query.resolve qs segment []).map fun found => found.1.name).getD segment
  else segment

section LocalFiles

variable (h : s.metadata.source.isRemote = false) {outcome : Except LoadError (List Query)}
  (hl : s.disk.loadQueries s.config.settings.queriesPath = .ok outcome)

include h hl

/-- With local files the name behind a segment is found and nothing is sent. -/
theorem run_flatName (segment : String) (b : Backend) (t : Trace) :
    ∃ logs, s.flatName segment b t = (.ok (nameOf (outcome.toOption.getD []) segment), ⟨t.sent, logs⟩) := by
  unfold flatName nameOf
  split
  · obtain ⟨logs, hq⟩ := Metadata.run_queries_local h hl b t
    rw [Session.run_bind_ok hq]
    exact ⟨logs, rfl⟩
  · exact ⟨t.logs, rfl⟩

/-- A single segment runs the query that it stands for, without parameters. -/
theorem run_answerQuery_bare (hq : r.query = []) (hb : r.body = []) (segment : String) (b : Backend) (t : Trace) :
    ∃ logs, s.answerQuery r segment b t =
      s.runQuery (nameOf (outcome.toOption.getD []) segment) [] b ⟨t.sent, logs⟩ := by
  obtain ⟨logs₁, hbody⟩ := run_readBody r b t
  obtain ⟨logs₂, hf⟩ := run_flatName h hl segment b ⟨t.sent, logs₁⟩
  obtain ⟨logs₃, hc⟩ := Metadata.run_catalogue_local h hl (nameOf (outcome.toOption.getD []) segment) b ⟨t.sent, logs₂⟩
  refine ⟨logs₃, ?_⟩
  rw [answerQuery, Session.run_bind_ok hbody, Session.run_bind_ok hf, Session.run_bind_ok hc,
    WebRequest.parameters_of_query_nil hq, bodyOf_of_nil hb]
  exact Session.run_bind_ok rfl

/-- A derived path runs the query that it is resolved to, with the values of its path parameters alone. -/
theorem run_answerDerived_bare (hq : r.query = []) (hb : r.body = []) {slug rest : List Char} {q : Query}
    {values : OrdMap String}
    (hr : Query.resolve (outcome.toOption.getD []) (String.ofList slug) (segments rest) = some (q, values))
    {ps : Entries Json}
    (hm : Parameters.merge values none (Query.catalogue (outcome.toOption.getD []) q.name) = .ok ps) (b : Backend)
    (t : Trace) : ∃ logs, s.answerDerived r slug rest b t = s.runQuery q.name ps b ⟨t.sent, logs⟩ := by
  obtain ⟨logs, hqs⟩ := Metadata.run_queries_local h hl b t
  refine run_answerDerived hqs hr (bodyOf_of_nil hb) ?_
  rw [WebRequest.parameters_of_query_nil hq, OrdMap.empty_insertAll, hm]

end LocalFiles

/-! ## Whole requests -/

/-- What a request comes to at its path is what it comes to altogether, but for the headers for its origin. -/
theorem respond_of_dispatch (hm : r.method ≠ "OPTIONS") (b : Backend) (t : Trace) :
    (s.respond r b t).2 = (s.dispatch r b t).2 ∧
      ∀ w, (s.dispatch r b t).1 = .ok w →
        ∃ headers, (s.respond r b t).1 = .ok ⟨w.status, w.headers ++ headers, w.payload⟩ := by
  rw [respond]
  cases ho : r.header? "origin" with
  | none =>
    refine ⟨rfl, fun w hw => ⟨[], ?_⟩⟩
    rw [List.append_nil]
    exact hw
  | some origin =>
    have ha : askedMethod? r = none := by rw [askedMethod?, if_neg hm]
    simp only [ha]
    cases hd : s.dispatch r b t with
    | mk outcome t' =>
      cases outcome with
      | ok w =>
        rw [Session.run_bind_ok hd]
        refine ⟨rfl, fun w' hw => ⟨Cors.headers s.config.settings.origins origin, ?_⟩⟩
        cases hw
        rfl
      | error e =>
        rw [Session.run_bind_error hd]
        refine ⟨rfl, fun w hw => ?_⟩
        cases hw

/-- A response is what the request is answered with, and headers. -/
theorem respond_of_dispatch_ok (hm : r.method ≠ "OPTIONS") {b : Backend} {t t' : Trace} {w : WebResponse}
    (hd : s.dispatch r b t = (.ok w, t')) :
    ∃ headers, s.respond r b t = (.ok ⟨w.status, w.headers ++ headers, w.payload⟩, t') := by
  obtain ⟨ht, hw⟩ := respond_of_dispatch (s := s) hm b t
  rw [hd] at ht hw
  obtain ⟨headers, ha⟩ := hw w rfl
  exact ⟨headers, Prod.ext ha ht⟩

/-- No route has the method of a preflight. -/
theorem ne_options_of_mem_methods {route : Route} {method : String} (h : method ∈ route.methods) : method ≠ "OPTIONS" := by
  rintro rfl
  unfold Route.methods at h
  split at h
  · exact absurd h (by decide)
  · exact absurd h (by decide)
  · exact absurd h (by decide)

/-- A request with a method of its route is answered by the route. -/
theorem dispatch_of_route {route : Route} (hp : Route.ofPath? r.path = some route) (hm : r.method ∈ route.methods) :
    s.dispatch r = s.answerRoute r route := by
  rw [dispatch, hp]
  exact if_pos (List.contains_iff_mem.2 hm)

/-! ## A small service -/

/-- A service with queries in a file, and a database at the usual place. -/
def fileService (queries : String) : Service where
  config := ⟨.localFiles, ⟨none, "localhost", 6969, "schema.hx", "queries.hx", "0.0.0.0", 8000, []⟩, none, none, by decide⟩
  disk := ⟨[], [(["queries.hx"], Text.Utf8.encode queries.toList)], []⟩

/-- A request that only reads what is at a path. -/
def plainRequest (path query : String) : WebRequest := ⟨"GET", "localhost:8000", path.toList, query.toList, [], []⟩

/-- A database that replies the same to all requests. -/
def replying (text : String) : Backend := ⟨fun _ _ => .response 200 (Text.Utf8.encode text.toList)⟩

/-- The database of the service has an address. -/
theorem reaches_fileService (queries : String) :
    (fileService queries).client.Reaches "" ⟨"http".toList, [], "localhost".toList, some 6969, ['/'], none, none⟩ := by
  have hc : (fileService queries).client = (fileService "").client := rfl
  rw [hc]
  exact ⟨by rfl, by decide, by rfl⟩

end Service

end HelixGateway
