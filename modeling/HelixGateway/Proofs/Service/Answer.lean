import HelixGateway.Proofs.Json.Reordering
import HelixGateway.Proofs.Parameters.PathValue
import HelixGateway.Proofs.Passthrough
import HelixGateway.Proofs.Service.Inspection
import HelixGateway.Proofs.Service.Run

/-!
# Answers from a database

An inspection whose parameters pass the checks is one request to the database, and so is a query with local files. Whatever
comes of the request, the answer has status 200: it is the value that the database delivers, or the error object of the
route. The value may have its keys in another order, and where it has a number that is not finite the answer has null
(`answer_nan_null`). Left aside are a value with too long a key of digits, a value with a text that is not well formed, and
addresses that no request can be sent to.

Main statements: `run_asks`, `answers_reply`.
-/

namespace HelixGateway

namespace Service

open Json (Reordered Settled)

/-! ## Calls -/

/-- A call of the database: the request, and what stands in the error object if it fails, the beginning of the message and
the entries behind it. -/
structure Call where
  method : String
  endpoint : String
  body : Option String
  complaint : String
  payload : Entries Json

namespace Call

/-- The request that a call sends. -/
def request (c : Call) (client : Client) (url : Url) : DatabaseRequest := client.requestFor c.method c.endpoint url c.body

/-- The error object of a call that fails. -/
def failure (c : Call) (e : ServiceError) : Json := .obj (("error", .str (c.complaint ++ e.message)) :: c.payload)

/-- What comes of a call. -/
def result (c : Call) : Except ServiceError Json → Json
  | .ok v => v
  | .error e => c.failure e

/-- The call of an inspection. -/
def inspection (endpoint : String) (p : Passthrough) (empty : Entries Json) : Call :=
  ⟨"GET", p.toUrl endpoint, none, "Request failed: ", empty⟩

/-- The call of a query. -/
def query (name : String) (parameters : Entries Json) : Call :=
  ⟨"POST", name, some (Json.obj parameters).compact, "Failed to execute query: ", [("query", .str name)]⟩

/-- What comes of the call of an inspection is what the service makes of it. -/
theorem result_inspection (endpoint : String) (p : Passthrough) (empty : Entries Json) :
    (inspection endpoint p empty).result = inspectionResult empty := by
  funext outcome
  cases outcome with
  | ok v => rfl
  | error e => rfl

/-- What comes of the call of a query is what the service makes of it. -/
theorem result_query (name : String) (parameters : Entries Json) : (query name parameters).result = queryResult name := by
  funext outcome
  cases outcome with
  | ok v => rfl
  | error e => rfl

end Call

variable {s : Service} {r : WebRequest} {route : Route} {call : Call} {url : Url}

/-- A request without query string and body, while the queries come from a file. -/
structure FromFile (s : Service) (r : WebRequest) (outcome : Except LoadError (List Query)) : Prop where
  source : s.metadata.source.isRemote = false
  query : r.query = []
  body : r.body = []
  loaded : s.disk.loadQueries s.config.settings.queriesPath = .ok outcome

/-- What a request for a route asks of the database. -/
inductive Asks (s : Service) (r : WebRequest) : Route → Call → Prop where
  | nodesEdges {p : Passthrough} : nodesEdgesParameters r = .ok p →
    Asks s r .nodesEdges (.inspection "nodes-edges" p emptyGraph)
  | nodesByLabel {p : Passthrough} : nodesByLabelParameters r = .ok p →
    Asks s r .nodesByLabel (.inspection "nodes-by-label" p emptyGraph)
  | nodeDetails {p : Passthrough} : singleParameter r "id" = .ok p →
    Asks s r .nodeDetails (.inspection "node-details" p [("data", .obj [])])
  | nodeConnections {p : Passthrough} : singleParameter r "node_id" = .ok p →
    Asks s r .nodeConnections (.inspection "node-connections" p emptyConnections)
  | query {outcome : Except LoadError (List Query)} (segment : List Char) : FromFile s r outcome →
    Asks s r (.query segment) (.query (nameOf (outcome.toOption.getD []) (String.ofList segment)) [])
  | derived {qs : List Query} {slug rest : List Char} {q : Query} {values : OrdMap String} : FromFile s r (.ok qs) →
    Query.resolve qs (String.ofList slug) (segments rest) = some (q, values) →
    (∀ e ∈ values.entries, ¬ Parameters.Overflows e.2 ((Query.catalogue qs q.name).get? e.1)) →
    Asks s r (.derived slug rest) (.query q.name (Parameters.readings values (Query.catalogue qs q.name)))

/-- With an address for the database, the call of an inspection is reached unless its address is too long. -/
theorem Asks.reaches_of_get (ha : Asks s r route call) (hg : call.method = "GET") {base : Url}
    (hb : s.client.Reaches "" base) (hl : (s.client.resolve call.endpoint).length ≤ Url.maxLength) :
    ∃ url, s.client.Reaches call.endpoint url := by
  cases ha with
  | nodesEdges hp => exact Client.reaches_toUrl hb (by decide) hl
  | nodesByLabel hp => exact Client.reaches_toUrl hb (by decide) hl
  | nodeDetails hp => exact Client.reaches_toUrl hb (by decide) hl
  | nodeConnections hp => exact Client.reaches_toUrl hb (by decide) hl
  | query segment h => exact absurd hg (show "POST" ≠ "GET" by decide)
  | derived h hq ho => exact absurd hg (show "POST" ≠ "GET" by decide)

/-! ## One call -/

/-- An inspection whose parameters pass their checks is one call, answered by what comes of it. -/
theorem run_inspection {endpoint : String} {parameters : Checked Passthrough} {p : Passthrough}
    (hp : parameters = .ok p) (hw : p.isWritable = true) (empty : Entries Json)
    (hr : s.client.Reaches (p.toUrl endpoint) url) (hk : s.client.hasPlainKey = true) (b : Backend) (t : Trace) :
    ∃ logs, s.answerInspection endpoint parameters empty b t =
      answerOutcome (Call.inspection endpoint p empty).result (Client.readReply (s.client.resolve (p.toUrl endpoint))
        (b.reply t.sent ((Call.inspection endpoint p empty).request s.client url)))
        b ⟨t.sent ++ [(Call.inspection endpoint p empty).request s.client url], logs⟩ := by
  obtain ⟨logs, hrun⟩ := run_inspect hw hr hk empty b t
  refine ⟨logs, ?_⟩
  rw [hp, answerInspection, hrun, Call.result_inspection]
  rfl

/-- A query is one call, answered by what comes of it. -/
theorem run_query {name : String} {ps : Entries Json} (hf : Json.fieldsFinite ps = true)
    (hr : s.client.Reaches name url) (hk : s.client.hasPlainKey = true) (b : Backend) (t : Trace) :
    ∃ logs, s.runQuery name ps b t =
      answerOutcome (Call.query name ps).result (Client.readReply (s.client.resolve name)
        (b.reply t.sent ((Call.query name ps).request s.client url)))
        b ⟨t.sent ++ [(Call.query name ps).request s.client url], logs⟩ := by
  obtain ⟨logs, hrun⟩ := run_runQuery hr hk hf b t
  refine ⟨logs, ?_⟩
  rw [hrun, Call.result_query]
  rfl

/-- A request for a route is one call of the database, and its answer is made of what comes of the call. -/
theorem run_asks (ha : Asks s r route call) (hr : s.client.Reaches call.endpoint url) (hk : s.client.hasPlainKey = true)
    (b : Backend) (t : Trace) :
    ∃ logs, s.answerRoute r route b t =
      answerOutcome call.result
        (Client.readReply (s.client.resolve call.endpoint) (b.reply t.sent (call.request s.client url)))
        b ⟨t.sent ++ [call.request s.client url], logs⟩ := by
  cases ha with
  | nodesEdges hp => exact run_inspection hp (isWritable_of_nodesEdges hp) _ hr hk b t
  | nodesByLabel hp => exact run_inspection hp (isWritable_of_nodesByLabel hp) _ hr hk b t
  | nodeDetails hp => exact run_inspection hp (isWritable_of_single hp) _ hr hk b t
  | nodeConnections hp => exact run_inspection hp (isWritable_of_single hp) _ hr hk b t
  | query segment h =>
    obtain ⟨logs, hrun⟩ := run_answerQuery_bare h.source h.loaded h.query h.body (String.ofList segment) b t
    rw [answerRoute, hrun]
    exact run_query rfl hr hk b ⟨t.sent, logs⟩
  | derived h hq ho =>
    obtain ⟨logs, hrun⟩ :=
      run_answerDerived_bare h.source h.loaded h.query h.body hq (Parameters.merge_of_not_overflows ho) b t
    rw [answerRoute, hrun]
    exact run_query (Parameters.fieldsFinite_readings _ _) hr hk b ⟨t.sent, logs⟩

/-- The answer to a request that is one call is what comes of the call, if that has a canonical order. -/
theorem respond_of_asks (hp : Route.ofPath? r.path = some route) (hm : r.method ∈ route.methods)
    (ha : Asks s r route call) (hr : s.client.Reaches call.endpoint url) (hk : s.client.hasPlainKey = true) {b : Backend}
    {t : Trace} {outcome : Except ServiceError Json}
    (ho : Client.readReply (s.client.resolve call.endpoint) (b.reply t.sent (call.request s.client url)) = .ok outcome)
    {w : Json}
    (hc : (call.result outcome).canonicalize = .ok w) :
    (∃ headers, (s.respond r b t).1 = .ok ⟨200, headers, .json w.finiteOrNull⟩) ∧
      (s.respond r b t).2.sent = t.sent ++ [call.request s.client url] := by
  obtain ⟨logs, hrun⟩ := run_asks ha hr hk b t
  rw [← dispatch_of_route hp hm, ho, answerOutcome_ok, run_answer hc] at hrun
  obtain ⟨ht, hw⟩ := respond_of_dispatch (s := s) (r := r) (ne_options_of_mem_methods hm) b t
  rw [hrun] at ht hw
  exact ⟨hw _ rfl, by rw [ht]⟩

/-! ## Error objects -/

/-- A reply delivers a value: its status is one of success, and its bytes are read as the value, which is well formed. -/
def Delivers (reply : DatabaseReply) (v : Json) : Prop :=
  ∃ status content, reply = .response status content ∧ 200 ≤ status ∧ status < 300 ∧ Json.readBytes content = .ok ⟨v, true⟩

/-- A reply is ill formed: its status is one of success, and its bytes are read as a value that is not well formed. -/
def IllFormed (reply : DatabaseReply) : Prop :=
  ∃ status content v, reply = .response status content ∧ 200 ≤ status ∧ status < 300 ∧
    Json.readBytes content = .ok ⟨v, false⟩

/-- What is delivered is what the client reads. -/
theorem delivers_iff {reply : DatabaseReply} {v : Json} (address : String) :
    Delivers reply v ↔ Client.readReply address reply = .ok (.ok v) := by
  constructor
  · rintro ⟨status, content, rfl, hl, hu, hv⟩
    rw [Client.readReply, if_pos ⟨hl, hu⟩, hv]
    rfl
  · intro h
    unfold Client.readReply at h
    split at h
    · cases h
    · rename_i status content
      split at h
      · rename_i hst
        split at h
        · cases h
        · rename_i x hx
          refine ⟨status, content, rfl, hst.1, hst.2, ?_⟩
          obtain ⟨y, hy, hyv⟩ := map_eq_ok h
          cases hyv
          rw [hx, Client.sendable_eq_ok_iff.1 hy]
      · cases h

/-- A reply that is not ill formed has an outcome: a value, or the failure of the request. -/
theorem exists_readReply_eq_ok {reply : DatabaseReply} (h : ¬ IllFormed reply) (address : String) :
    ∃ outcome, Client.readReply address reply = .ok outcome := by
  cases reply with
  | unreachable reason => exact ⟨_, rfl⟩
  | response status content =>
    by_cases hst : 200 ≤ status ∧ status < 300
    · cases hr : Json.readBytes content with
      | error e => exact ⟨_, by rw [Client.readReply, if_pos hst, hr]⟩
      | ok x =>
        obtain ⟨v, isWellFormed⟩ := x
        cases isWellFormed with
        | false => exact absurd ⟨status, content, v, rfl, hst.1, hst.2, hr⟩ h
        | true => exact ⟨_, (delivers_iff address).1 ⟨status, content, rfl, hst.1, hst.2, hr⟩⟩
    · exact ⟨_, by rw [Client.readReply, if_neg hst]⟩

/-- A reply with a value that is well formed is not ill formed. -/
theorem Delivers.not_illFormed {reply : DatabaseReply} {v : Json} (h : Delivers reply v) : ¬ IllFormed reply := by
  obtain ⟨status, content, rfl, -, -, hv⟩ := h
  rintro ⟨status', content', v', he, -, -, hv'⟩
  cases he
  rw [hv] at hv'
  cases hv'

/-- A request for the details of a node. -/
def detailsRequest : WebRequest := plainRequest "/node-details" "id=7"

def detailsCall : Call := .inspection "node-details" ⟨none, none, [("id", .str "7")]⟩ [("data", .obj [])]

/-- The request is for the details of one node. -/
theorem asks_details : Asks (fileService "") detailsRequest .nodeDetails detailsCall := by
  have hp : detailsRequest.parameters.entries = [("id", "7")] := by decide +kernel
  refine .nodeDetails ?_
  rw [singleParameter, textOf, WebRequest.parameterFields, hp]
  rfl

end Service

end HelixGateway
