import HelixGateway.Proofs.Orders
import HelixGateway.Proofs.Parameters.Typing
import HelixGateway.Proofs.Passthrough
import HelixGateway.Proofs.Service.Inspection
import HelixGateway.Proofs.Service.Run

/-!
# What a request makes the service do

Whatever a request asks for and whatever the database answers, the service hands only addresses below that of its database to
the client: introspections and inspections, and behind these at most one query. An introspection is put below the address of
the database a second time, unless that address starts with a scheme in small letters (`introspection_misses_capitals`).

Main statement: `respond_confined`.
-/

namespace HelixGateway

/-! ## Addresses below that of the database -/

namespace Client

/-- An address that lies below that of the database. -/
def IsBelow (c : Client) (url : String) : Prop := ∃ path, url = c.root ++ "/" ++ path

/-- The order by which the database is asked about itself. -/
def introspection (c : Client) : Order := ⟨"GET", c.resolve "introspect", .null⟩

variable {c : Client} {endpoint : String}

/-- An endpoint that is no full address lies below that of the database. -/
theorem isBelow_resolve (h : isFullUrl endpoint = false) : c.IsBelow (c.resolve endpoint) := ⟨_, resolve_of_relative h⟩

/-- The database is asked about itself right below its address. -/
theorem resolve_introspect (c : Client) : c.resolve "introspect" = c.root ++ "/introspect" := by
  rw [resolve_of_not_mem (by decide), String.append_assoc]
  rfl

/-- An introspection lies below the address of the database, whether or not it is put there twice. -/
theorem isBelow_introspection (c : Client) : c.IsBelow (c.resolve c.introspection.endpoint) := by
  cases hf : isFullUrl c.introspection.endpoint with
  | true =>
    rw [resolve_of_absolute hf]
    exact isBelow_resolve (show isFullUrl "introspect" = false by rfl)
  | false => exact isBelow_resolve hf

/-- An introspection has a scheme if and only if the address of the database has one: none is made up of both. -/
theorem isFullUrl_resolve_introspect (c : Client) : isFullUrl (c.resolve "introspect") = isFullUrl c.root := by
  have hscheme (p : List Char) (hp : ∀ n ∈ List.range (p.length + 1),
      p.isPrefixOf (p.take n ++ "/introspect".toList) = true → p.isPrefixOf (p.take n) = true ∨ '/' ∈ (p.take n).getLast?) :
      p.isPrefixOf (c.root.toList ++ "/introspect".toList) = p.isPrefixOf c.root.toList := by
    rw [Bool.eq_iff_iff, List.isPrefixOf_iff_prefix, List.isPrefixOf_iff_prefix]
    refine ⟨fun h => ?_, fun h => h.trans (List.prefix_append _ _)⟩
    rcases List.prefix_or_prefix_of_prefix h (List.prefix_append c.root.toList "/introspect".toList) with h' | h'
    · exact h'
    · -- what is left are the beginnings of a scheme, which end before its slashes
      have htake := List.prefix_iff_eq_take.1 h'
      have hn := hp c.root.toList.length (List.mem_range.2 (Nat.lt_succ_of_le h'.length_le))
      rw [← htake, List.isPrefixOf_iff_prefix, List.isPrefixOf_iff_prefix] at hn
      exact (hn h).resolve_right fun hs => getLast?_root hs rfl
  rw [isFullUrl, isFullUrl, resolve_introspect, String.toList_append, hscheme "http://".toList (by decide),
    hscheme "https://".toList (by decide)]

/-- The database is asked about itself at its own endpoint if and only if its address starts with a scheme in small letters,
or is none at all. -/
theorem resolve_introspection_iff (c : Client) :
    c.resolve c.introspection.endpoint = c.root ++ "/introspect" ↔ c.root = "" ∨ isFullUrl c.root = true := by
  rw [← resolve_introspect, ← isFullUrl_resolve_introspect]
  show c.resolve (c.resolve "introspect") = c.resolve "introspect" ↔ _
  cases hf : isFullUrl (c.resolve "introspect") with
  | true => exact iff_of_true (resolve_of_absolute hf) (.inr rfl)
  | false =>
    rw [or_iff_left Bool.false_ne_true, ← String.toList_inj, toList_resolve hf, resolve_introspect, String.toList_append,
      List.append_cancel_left_eq, ← String.toList_eq_nil_iff]
    rcases List.eq_nil_or_concat c.root.toList with hn | ⟨init, x, hn⟩
    · rw [hn]
      exact iff_of_true rfl rfl
    · have hx : (x == '/') = false := beq_eq_false_iff_ne.2 (getLast?_root (c := c) (by rw [hn, List.concat_eq_append]; simp))
      refine iff_of_false (fun h => ?_) (by rw [hn, List.concat_eq_append]; simp)
      rw [hn, List.concat_eq_append, List.append_assoc, List.singleton_append,
        @Text.dropWhile_append_cons (· == '/') init x hx] at h
      have hl := congrArg List.length h
      simp at hl

/-- An introspection hands over its order. -/
theorem obeys_introspect (c : Client) : c.Obeys c.introspect (· = [c.introspection]) fun _ => True := by
  have hr : c.Obeys (c.request "GET" (c.resolve "introspect") .null) (· = [c.introspection]) fun _ => True :=
    obeys_request c c.introspection
  unfold introspect get
  exact hr.before fun _ _ => obeys_pure rfl trivial

end Client

open Client (Order)

/-! ## Metadata -/

namespace Metadata

variable {α β : Type} {m : Metadata}

/-- The orders for any piece of metadata. -/
def asks (m : Metadata) : List Order := if m.source.isRemote then [m.client.introspection] else []

/-- Falling back with a warning hands over nothing. -/
theorem obeys_orWarn {ε : Type} (c : Client) (outcome : Except ε α) (warning : ε → String) (absent : α) :
    c.Obeys (orWarn outcome warning absent) (· = []) fun _ => True := by
  refine Client.obeys_of_silent (fun b t => ?_) (fun b t e he => ?_) fun _ _ _ _ => trivial
  · obtain ⟨logs, hr⟩ := run_orWarn outcome warning absent b t
    rw [hr]
  · obtain ⟨logs, hr⟩ := run_orWarn outcome warning absent b t
    rw [hr] at he
    cases he

/-- Metadata is asked for once, or read from a file. -/
theorem obeys_source {remote : Except IntrospectionError Introspection → Session α} {file : Except Fault β}
    {loaded : β → Session α} (hr : ∀ x, m.client.Obeys (remote x) (· = []) fun _ => True)
    (hf : ∀ e, file = .error e → e.isRefusal = false) (hl : ∀ x, m.client.Obeys (loaded x) (· = []) fun _ => True) :
    m.client.Obeys (if m.source.isRemote then m.client.introspect >>= remote else Session.ofExcept file >>= loaded)
      (· = m.asks) fun _ => True := by
  unfold asks
  split
  · exact (Client.obeys_introspect m.client).before fun x _ => hr x
  · have hs : m.client.Obeys (Session.ofExcept file) (· = []) fun _ => True :=
      Client.obeys_of_silent (fun _ _ => rfl) (fun _ _ e he => hf e he) fun _ _ _ _ => trivial
    exact hs.after (fun x _ => hl x) rfl

/-- What keeps a file from being loaded refuses no order. -/
theorem isRefusal_of_loaded {f : List Char → α} {path : String} {e : Fault}
    (h : Loaded.map f (m.disk.loadText path) = .error e) : e.isRefusal = false := by
  have ht := map_eq_error h
  simp only [Disk.loadText] at ht
  split at ht
  · cases ht
    rfl
  · split at ht
    · cases ht
    · cases ht
    · split at ht
      · cases ht
      · cases ht

/-- The schema is asked for in front of a database, and nothing is asked for otherwise. -/
theorem obeys_schema (m : Metadata) : m.client.Obeys m.schema (· = m.asks) fun _ => True :=
  obeys_source (fun _ => obeys_orWarn _ _ _ _) (fun _ he => isRefusal_of_loaded he) fun _ => obeys_orWarn _ _ _ _

theorem obeys_queries (m : Metadata) : m.client.Obeys m.queries (· = m.asks) fun _ => True :=
  obeys_source (fun _ => obeys_orWarn _ _ _ _) (fun _ he => isRefusal_of_loaded he) fun _ => obeys_orWarn _ _ _ _

theorem obeys_catalogue (m : Metadata) (name : String) : m.client.Obeys (m.catalogue name) (· = m.asks) fun _ => True :=
  obeys_source (fun _ => obeys_orWarn _ _ _ _) (fun _ he => isRefusal_of_loaded he) fun _ => obeys_orWarn _ _ _ _

end Metadata

/-! ## Names without slashes -/

namespace Text

/-- A slash in a text stays in its slug. -/
theorem slash_mem_kebab {s : List Char} (h : '/' ∈ s) : '/' ∈ kebab s := by
  have hlower : '/' ∈ lower '/' := by decide
  have hchar : '/' ∈ kebabChar '/' := by decide
  cases s with
  | nil => cases h
  | cons c s =>
    rw [kebab, List.mem_append, List.mem_flatMap]
    rcases List.mem_cons.1 h with rfl | h
    · exact .inl hlower
    · exact .inr ⟨'/', h, hchar⟩

end Text

/-- A name that a text without slashes is resolved to holds none. -/
theorem Query.slash_not_mem_of_resolve {qs : List Query} {slug : String} {segments : List String} {q : Query}
    {values : OrdMap String} (h : resolve qs slug segments = some (q, values)) (hs : '/' ∉ slug.toList) :
    '/' ∉ q.name.toList := by
  intro hm
  have hfits := List.find?_some (resolve_eq_some_iff.1 h).1
  rcases (fits_iff.1 hfits).1 with he | he
  · rw [← he, Query.slug, String.toList_ofList] at hs
    exact hs (Text.slash_mem_kebab hm)
  · exact hs (he ▸ hm)

namespace Route

/-- A path with one of its own is only read; any other is that of a query. -/
theorem ofQueryPath?_of_ofPath? {path : List Char} {route : Route} (h : ofPath? path = some route)
    (hm : route.methods ≠ ["GET"]) : ∃ s, ofQueryPath? s = some route := by
  unfold ofPath? at h
  split at h
  · rename_i r hr
    have hfixed : ∀ r ∈ fixed, r.2.methods = ["GET"] := by decide
    cases h
    exact absurd (hfixed r (List.mem_of_find?_eq_some hr)) hm
  · obtain ⟨s, -, hs⟩ := Option.bind_eq_some_iff.1 h
    exact ⟨s, hs⟩

/-- No slash is in the segment of a query. -/
theorem slash_not_mem_query {path name : List Char} (h : ofPath? path = some (.query name)) : '/' ∉ name := by
  obtain ⟨s, hs⟩ := ofQueryPath?_of_ofPath? h (show ["DELETE", "GET", "POST", "PUT"] ≠ ["GET"] by decide)
  unfold ofQueryPath? at hs
  split at hs
  · rename_i hc
    split at hs
    · cases hs
    · cases hs
      exact Text.not_mem_of_cut_eq_none hc
  · split at hs
    · cases hs
    · cases hs

/-- No slash is in the slug of a path with further segments. -/
theorem slash_not_mem_derived {path slug rest : List Char} (h : ofPath? path = some (.derived slug rest)) : '/' ∉ slug := by
  obtain ⟨s, hs⟩ := ofQueryPath?_of_ofPath? h (show ["DELETE", "GET", "POST", "PUT"] ≠ ["GET"] by decide)
  unfold ofQueryPath? at hs
  split at hs
  · split at hs
    · cases hs
    · cases hs
  · rename_i hc
    split at hs
    · cases hs
    · cases hs
      exact Text.not_mem_of_cut_eq_some hc

end Route

namespace Parameters

/-- Parameters cannot be merged only for an integer that is too large. -/
theorem merge_eq_error {query catalogue : OrdMap String} {body : Option Json} {e : Fault}
    (h : merge query body catalogue = .error e) : e = .integerOverflow := by
  have ht := map_eq_error h
  by_cases ho : ∃ e ∈ undecided (ofBody body) query, Overflows e.2 (catalogue.get? e.1)
  · rw [typed_of_overflows ho] at ht
    exact (Except.error.inj ht).symm
  · rw [typed_of_not_overflows fun e he hoe => ho ⟨e, he, hoe⟩] at ht
    cases ht

end Parameters

/-! ## Requests -/

namespace Service

variable {s : Service} {r : WebRequest} {c : Client}

/-- Answering hands over nothing. -/
theorem obeys_answer (c : Client) (v : Json) : c.Obeys (answer v) (· = []) fun _ => True := by
  refine Client.obeys_of_silent (fun b t => by rw [trace_answer]) (fun b t e he => ?_) fun _ _ _ _ => trivial
  rw [answer] at he
  cases hv : v.canonicalize with
  | ok w =>
    rw [hv] at he
    cases he
  | error e' =>
    rw [hv] at he
    cases he
    rfl

theorem obeys_log (c : Client) (level : LogLevel) (message : String) :
    c.Obeys (Session.log level message) (· = []) fun _ => True :=
  Client.obeys_of_silent (fun _ _ => rfl) (fun _ _ _ he => by cases he) fun _ _ _ _ => trivial

/-- A value that cannot be sent on is no refusal of an order. -/
theorem isRefusal_of_bodyOf {e : Fault} (h : bodyOf r = .error e) : e.isRefusal = false := by
  unfold bodyOf at h
  split at h
  · cases h
  · split at h
    · exact Client.isRefusal_of_sendable (map_eq_error h)
    · cases h

/-- Reading a body hands nothing over. -/
theorem obeys_readBody (c : Client) (r : WebRequest) :
    c.Obeys (readBody r) (· = []) fun body => ∀ e, body = .error e → e.isRefusal = false := by
  refine Client.obeys_of_silent (fun b t => ?_) (fun b t e he => ?_) fun b t body h e he => ?_
  · obtain ⟨logs, hb⟩ := run_readBody r b t
    rw [hb]
  · obtain ⟨logs, hb⟩ := run_readBody r b t
    rw [hb] at he
    cases he
  · obtain ⟨logs, hb⟩ := run_readBody r b t
    rw [hb] at h
    cases h
    exact isRefusal_of_bodyOf he

/-- Parameters that cannot be made are no refusal of an order. -/
theorem obeys_merge (c : Client) (query : OrdMap String) {body : Except Fault (Option Json)}
    (hb : ∀ e, body = .error e → e.isRefusal = false) (catalogue : OrdMap String) :
    c.Obeys (Session.ofExcept (body.bind fun body => Parameters.merge query body catalogue)) (· = []) fun _ => True := by
  refine Client.obeys_of_silent (fun _ _ => rfl) (fun b t e he => ?_) fun _ _ _ _ => trivial
  cases body with
  | error e' =>
    cases he
    exact hb e rfl
  | ok body =>
    rw [Parameters.merge_eq_error he]
    rfl

/-- An answer is made of the outcome of an order, which may be logged. -/
theorem obeys_answered (c : Client) (outcome : Except ServiceError Json) (message : ServiceError → String) (v : Json) :
    c.Obeys (do
      match outcome with
      | .ok _ => pure ()
      | .error e => Session.log .error (message e)
      answer v) (· = []) fun _ => True := by
  cases outcome with
  | ok x => exact obeys_answer c v
  | error e => exact (obeys_log c _ _).after (fun _ _ => obeys_answer c v) rfl

/-- Running a query hands over the one order for it. -/
theorem obeys_runQuery (s : Service) (name : String) (ps : Entries Json) :
    s.client.Obeys (s.runQuery name ps) (· = [⟨"POST", name, .obj ps⟩]) fun _ => True := by
  have hr : s.client.Obeys (s.client.request "POST" name (.obj ps)) (· = [⟨"POST", name, .obj ps⟩]) fun _ => True :=
    Client.obeys_request s.client ⟨"POST", name, .obj ps⟩
  unfold runQuery Client.query
  exact hr.before fun outcome _ => obeys_answered _ outcome _ _

/-- An inspection hands over one order, for the address of its parameters. -/
theorem obeys_inspect (s : Service) (endpoint : String) {p : Passthrough} (hw : p.isWritable = true)
    (fallback : Entries Json) :
    s.client.Obeys (s.inspect endpoint p fallback) (· = [⟨"GET", p.toUrl endpoint, .null⟩]) fun _ => True := by
  have hr : s.client.Obeys (s.client.request "GET" (p.toUrl endpoint) .null) (· = [⟨"GET", p.toUrl endpoint, .null⟩])
      fun _ => True := Client.obeys_request s.client ⟨"GET", p.toUrl endpoint, .null⟩
  rw [inspect_of_isWritable hw, inspectAt, Client.get]
  exact hr.before fun outcome _ => obeys_answered _ outcome _ _

/-! ## Orders of a request -/

/-- Orders that only ask for metadata, and none where the metadata is in files. -/
structure OnlyAsks (s : Service) (orders : List Order) : Prop where
  introspections : ∀ o ∈ orders, o = s.client.introspection
  fromFiles : s.config.source = .localFiles → orders = []

/-- The query that is run, if one is. -/
inductive AtMostOneQuery : List Order → Prop where
  | none : AtMostOneQuery []
  | one {name : String} (hn : '/' ∉ name.toList) (ps : Entries Json) : AtMostOneQuery [⟨"POST", name, .obj ps⟩]

/-- The orders by which a query is run: those for metadata, and the query itself behind them unless the request fails. -/
def RunsQuery (s : Service) (orders : List Order) : Prop :=
  ∃ asked posted, orders = asked ++ posted ∧ s.OnlyAsks asked ∧ AtMostOneQuery posted

/-- The order for an inspection, which is given if its parameters pass the checks. -/
def inspections (endpoint : String) : Checked Passthrough → List Order
  | .ok p => [⟨"GET", p.toUrl endpoint, .null⟩]
  | .error _ => []

/-- The orders that a request for a route gives. -/
def Gives (s : Service) (r : WebRequest) (orders : List Order) : Route → Prop
  | .schema | .validation | .endpoints => orders = s.metadata.asks
  | .query _ | .derived _ _ => s.RunsQuery orders
  | .nodesEdges => orders = inspections "nodes-edges" (nodesEdgesParameters r)
  | .nodesByLabel => orders = inspections "nodes-by-label" (nodesByLabelParameters r)
  | .nodeDetails => orders = inspections "node-details" (singleParameter r "id")
  | .nodeConnections => orders = inspections "node-connections" (singleParameter r "node_id")
  | .health => orders = []

/-- The route that a request has, if the method is one of the route's. -/
def routeOf? (r : WebRequest) : Option Route := (Route.ofPath? r.path).filter (·.methods.contains r.method)

/-- The orders that a request gives: none without a route, and otherwise those for the route. -/
def Allowed (s : Service) (r : WebRequest) (orders : List Order) : Prop :=
  match routeOf? r with
  | none => orders = []
  | some route => s.Gives r orders route

/-! ## Queries -/

/-- What is asked for metadata is asked for metadata only, and not at all with local files. -/
theorem onlyAsks_asks (s : Service) : s.OnlyAsks s.metadata.asks := by
  unfold Metadata.asks
  split
  · rename_i h
    refine ⟨fun o ho => List.mem_singleton.1 ho, fun hs => ?_⟩
    have hl : s.metadata.source.isRemote = false := by
      have hm : s.metadata.source = .localFiles := hs
      rw [hm]
      decide
    rw [hl] at h
    cases h
  · exact ⟨fun o ho => (List.not_mem_nil ho).elim, fun _ => rfl⟩

theorem OnlyAsks.nil (s : Service) : s.OnlyAsks [] := ⟨fun _ ho => (List.not_mem_nil ho).elim, fun _ => rfl⟩

theorem OnlyAsks.append {orders orders' : List Order} (h : s.OnlyAsks orders) (h' : s.OnlyAsks orders') :
    s.OnlyAsks (orders ++ orders') := by
  refine ⟨fun o ho => ?_, fun hs => ?_⟩
  · rcases List.mem_append.1 ho with ho | ho
    · exact h.introspections o ho
    · exact h'.introspections o ho
  · rw [h.fromFiles hs, h'.fromFiles hs]
    rfl

/-- To run a query one may ask and then run none. -/
theorem OnlyAsks.runsQuery {orders : List Order} (h : s.OnlyAsks orders) : s.RunsQuery orders :=
  ⟨orders, [], (List.append_nil _).symm, h, .none⟩

/-- A query may be run behind what only asks for metadata. -/
theorem obeys_bind_asking {α β : Type} {m : Session α} {f : α → Session β} {V : α → Prop} {W : β → Prop}
    (hm : s.client.Obeys m s.OnlyAsks V) (hf : ∀ x, V x → s.client.Obeys (f x) s.RunsQuery W) :
    s.client.Obeys (m >>= f) s.RunsQuery W := by
  refine hm.bind hf (fun o ho => ho.runsQuery) fun o o' ho ho' => ?_
  obtain ⟨asked, posted, rfl, ha, hp⟩ := ho'
  exact ⟨o ++ asked, posted, (List.append_assoc _ _ _).symm, ho.append ha, hp⟩

/-- A query whose name has no slash may be run. -/
theorem obeys_runQuery_of_name {name : String} (hn : '/' ∉ name.toList) (ps : Entries Json) :
    s.client.Obeys (s.runQuery name ps) s.RunsQuery fun _ => True := by
  refine (obeys_runQuery s name ps).mono fun o ho => ?_
  subst ho
  exact ⟨[], _, rfl, .nil s, .one hn ps⟩

/-- To find the name behind a segment one only asks, and no slash gets into it. -/
theorem obeys_flatName {segment : String} (hs : '/' ∉ segment.toList) :
    s.client.Obeys (s.flatName segment) s.OnlyAsks fun name => '/' ∉ name.toList := by
  unfold flatName
  split
  · have hq : s.client.Obeys s.metadata.queries s.OnlyAsks fun _ => True :=
      (Metadata.obeys_queries s.metadata).mono fun o ho => ho ▸ onlyAsks_asks s
    refine hq.before fun queries _ => Client.obeys_pure rfl ?_
    cases hr : Query.resolve queries segment [] with
    | none => exact hs
    | some found => exact Query.slash_not_mem_of_resolve hr hs
  · exact Client.obeys_pure (.nil s) hs

/-- A request for a query by its name asks for metadata and runs one query at most. -/
theorem obeys_answerQuery {segment : String} (hs : '/' ∉ segment.toList) :
    s.client.Obeys (s.answerQuery r segment) s.RunsQuery fun _ => True := by
  have hnone : s.RunsQuery [] := (OnlyAsks.nil s).runsQuery
  refine (obeys_readBody s.client r).after (fun body hb => ?_) hnone
  refine obeys_bind_asking (obeys_flatName hs) fun name hn => ?_
  have hc : s.client.Obeys (s.metadata.catalogue name) s.OnlyAsks fun _ => True :=
    (Metadata.obeys_catalogue s.metadata name).mono fun o ho => ho ▸ onlyAsks_asks s
  refine obeys_bind_asking hc fun catalogue _ => ?_
  exact (obeys_merge s.client r.parameters hb catalogue).after (fun ps _ => obeys_runQuery_of_name hn ps) hnone

theorem obeys_answerDerived {slug : List Char} (hs : '/' ∉ slug) (rest : List Char) :
    s.client.Obeys (s.answerDerived r slug rest) s.RunsQuery fun _ => True := by
  have hnone : s.RunsQuery [] := (OnlyAsks.nil s).runsQuery
  have hq : s.client.Obeys s.metadata.queries s.OnlyAsks fun _ => True :=
    (Metadata.obeys_queries s.metadata).mono fun o ho => ho ▸ onlyAsks_asks s
  refine obeys_bind_asking hq fun queries _ => ?_
  cases hr : Query.resolve queries (String.ofList slug) (segments rest) with
  | none => exact Client.obeys_pure hnone trivial
  | some found =>
    obtain ⟨q, values⟩ := found
    have hn := Query.slash_not_mem_of_resolve hr (by rwa [String.toList_ofList])
    refine (obeys_readBody s.client r).after (fun body hb => ?_) hnone
    exact (obeys_merge s.client _ hb _).after (fun ps _ => obeys_runQuery_of_name hn ps) hnone

/-! ## All requests -/

/-- Parameters that pass their checks, and can be written then, are those of one order. -/
theorem obeys_answerInspection (s : Service) (endpoint : String) {parameters : Checked Passthrough}
    (hw : ∀ {p}, parameters = .ok p → p.isWritable = true) (fallback : Entries Json) :
    s.client.Obeys (s.answerInspection endpoint parameters fallback) (· = inspections endpoint parameters) fun _ => True := by
  cases parameters with
  | ok p => exact obeys_inspect s endpoint (hw rfl) fallback
  | error issues => exact Client.obeys_pure rfl trivial

/-- A request for a route gives the orders of the route. -/
theorem obeys_answerRoute {route : Route} (hp : Route.ofPath? r.path = some route) :
    s.client.Obeys (s.answerRoute r route) (s.Gives r · route) fun _ => True := by
  cases route with
  | health => exact obeys_answer s.client _
  | schema => exact (Metadata.obeys_schema s.metadata).before fun _ _ => obeys_answer s.client _
  | validation => exact (Metadata.obeys_schema s.metadata).before fun _ _ => obeys_answer s.client _
  | endpoints => exact (Metadata.obeys_queries s.metadata).before fun _ _ => obeys_answer s.client _
  | query name =>
    refine obeys_answerQuery ?_
    rw [String.toList_ofList]
    exact Route.slash_not_mem_query hp
  | derived slug rest => exact obeys_answerDerived (Route.slash_not_mem_derived hp) rest
  | nodesEdges => exact obeys_answerInspection s _ isWritable_of_nodesEdges _
  | nodesByLabel => exact obeys_answerInspection s _ isWritable_of_nodesByLabel _
  | nodeDetails => exact obeys_answerInspection s _ isWritable_of_single _
  | nodeConnections => exact obeys_answerInspection s _ isWritable_of_single _

/-- A request gives the orders that it may give. -/
theorem obeys_dispatch (s : Service) (r : WebRequest) : s.client.Obeys (s.dispatch r) (s.Allowed r) fun _ => True := by
  unfold dispatch Allowed routeOf?
  cases hp : Route.ofPath? r.path with
  | none => exact Client.obeys_pure rfl trivial
  | some route =>
    rw [Option.filter_some]
    by_cases hm : route.methods.contains r.method = true
    · simp only [hm, if_true]
      exact obeys_answerRoute hp
    · simp only [hm]
      exact Client.obeys_pure rfl trivial

/-- A request that asks for a method beforehand has no route itself. -/
theorem routeOf?_of_askedMethod? {method : String} (h : askedMethod? r = some method) : routeOf? r = none := by
  have hm : r.method = "OPTIONS" := by
    rw [askedMethod?] at h
    split at h
    · assumption
    · cases h
  unfold routeOf?
  cases Route.ofPath? r.path with
  | none => rfl
  | some route =>
    have hc : ¬route.methods.contains r.method = true :=
      fun hc => ne_options_of_mem_methods (List.contains_iff_mem.1 hc) hm
    rw [Option.filter_some, if_neg hc]

/-- With the headers that are added to it, a request gives the same orders. -/
theorem obeys_respond (s : Service) (r : WebRequest) : s.client.Obeys (s.respond r) (s.Allowed r) fun _ => True := by
  have hd := obeys_dispatch s r
  unfold respond
  split
  · exact hd
  · split
    · rename_i ha
      refine Client.obeys_pure ?_ trivial
      rw [Allowed, routeOf?_of_askedMethod? ha]
    · exact hd.before fun _ _ => Client.obeys_pure rfl trivial

/-! ## Confinement -/

/-- An order for an inspection, whose endpoint is one of form data. -/
def Inspects (orders : List Order) : Prop :=
  ∃ (p : Passthrough) (endpoint : String), (∀ c ∈ endpoint.toList, Text.Percent.isFormChar c = true) ∧
    orders = [⟨"GET", p.toUrl endpoint, .null⟩]

/-- What a request gives is an order for an inspection, or it is what may run a query. -/
theorem runsQuery_or_inspects {orders : List Order} {route : Route} (h : s.Gives r orders route) :
    s.RunsQuery orders ∨ Inspects orders := by
  have hasks : orders = s.metadata.asks → s.RunsQuery orders ∨ Inspects orders :=
    fun he => .inl (he ▸ (onlyAsks_asks s).runsQuery)
  have hinspections : ∀ endpoint parameters, (∀ c ∈ endpoint.toList, Text.Percent.isFormChar c = true) →
      orders = inspections endpoint parameters → s.RunsQuery orders ∨ Inspects orders := by
    rintro endpoint parameters he rfl
    cases parameters with
    | error issues => exact .inl (OnlyAsks.nil s).runsQuery
    | ok p => exact .inr ⟨p, endpoint, he, rfl⟩
  cases route with
  | health => exact .inl (h ▸ (OnlyAsks.nil s).runsQuery)
  | schema => exact hasks h
  | validation => exact hasks h
  | endpoints => exact hasks h
  | query name => exact .inl h
  | derived slug rest => exact .inl h
  | nodesEdges => exact hinspections _ _ (by decide) h
  | nodesByLabel => exact hinspections _ _ (by decide) h
  | nodeDetails => exact hinspections _ _ (by decide) h
  | nodeConnections => exact hinspections _ _ (by decide) h

/-- The orders of a request run at most one query, or they are at most one inspection. -/
theorem runsQuery_or_inspects_of_allowed {orders : List Order} (h : s.Allowed r orders) :
    s.RunsQuery orders ∨ Inspects orders := by
  unfold Allowed at h
  split at h
  · exact .inl (h ▸ (OnlyAsks.nil s).runsQuery)
  · exact runsQuery_or_inspects h

/-- Whatever is ordered lies below the address of the database. -/
theorem isBelow_of_allowed {orders : List Order} (h : s.Allowed r orders) :
    ∀ o ∈ orders, s.client.IsBelow (s.client.resolve o.endpoint) := by
  intro o ho
  rcases runsQuery_or_inspects_of_allowed h with ⟨asked, posted, rfl, ha, hp⟩ | ⟨p, endpoint, he, rfl⟩
  · rcases List.mem_append.1 ho with ho | ho
    · rw [ha.introspections o ho]
      exact s.client.isBelow_introspection
    · cases hp with
      | none => exact (List.not_mem_nil ho).elim
      | one hn ps =>
        rw [List.mem_singleton.1 ho]
        exact Client.isBelow_resolve (Client.isFullUrl_of_not_mem hn)
  · rw [List.mem_singleton.1 ho]
    refine Client.isBelow_resolve (Client.isFullUrl_of_not_mem fun hm => ?_)
    exact Text.Percent.slash_ne_of_isFormChar (p.isFormChar_of_mem_toUrl he hm) rfl

/-- Orders to read, and at most one to execute, which is the last one. -/
def ReadsThenExecutes (orders : List Order) : Prop :=
  ∃ reads executes, orders = reads ++ executes ∧ (∀ o ∈ reads, o.method = "GET") ∧ executes.length ≤ 1 ∧
    ∀ o ∈ executes, o.method = "POST"

/-- First metadata is read, and then one thing at most is done. -/
theorem readsThenExecutes_of_allowed {orders : List Order} (h : s.Allowed r orders) : ReadsThenExecutes orders := by
  rcases runsQuery_or_inspects_of_allowed h with ⟨asked, posted, rfl, ha, hp⟩ | ⟨p, endpoint, -, rfl⟩
  · refine ⟨asked, posted, rfl, fun o ho => by rw [ha.introspections o ho]; rfl, ?_⟩
    cases hp with
    | none => exact ⟨Nat.zero_le 1, fun o ho => (List.not_mem_nil ho).elim⟩
    | one hn ps => exact ⟨Nat.le_refl 1, fun o ho => by rw [List.mem_singleton.1 ho]⟩
  · refine ⟨_, [], (List.append_nil _).symm, fun o ho => by rw [List.mem_singleton.1 ho], Nat.zero_le 1, ?_⟩
    exact fun o ho => (List.not_mem_nil ho).elim

/-- For every request, and whatever the database answers, the orders that the service gives account for all that is sent and
for all that is refused. They are those of the route of the request, they lie below the address of the database, and at most
the last one is no mere reading.

The order for an introspection is put below the address of the database twice. So it is for the endpoint of that name if and
only if the address starts with a scheme in small letters, or is none at all. -/
theorem respond_confined (s : Service) :
    (∀ (r : WebRequest) (b : Backend) (t : Trace), ∃ orders, s.client.Hands (s.respond r) b t orders ∧ s.Allowed r orders ∧
      (∀ o ∈ orders, s.client.IsBelow (s.client.resolve o.endpoint)) ∧ ReadsThenExecutes orders) ∧
    (s.client.resolve s.client.introspection.endpoint = s.client.root ++ "/introspect" ↔
      s.client.root = "" ∨ Client.isFullUrl s.client.root = true) := by
  refine ⟨fun r b t => ?_, s.client.resolve_introspection_iff⟩
  obtain ⟨orders, hh, ha, -⟩ := obeys_respond s r b t
  exact ⟨orders, hh, ha, isBelow_of_allowed ha, readsThenExecutes_of_allowed ha⟩

/-! ## A scheme in capitals -/

/-- A service in front of a database in the cloud. -/
def cloudService (url : String) (h : url ≠ "") : Service where
  config := ⟨.cloud, ⟨none, "localhost", 6969, "schema.hx", "queries.hx", "0.0.0.0", 8000, []⟩, some url, none, fun _ => h⟩
  disk := ⟨[], [], []⟩

/-- The schema is asked for below the address of the database, but not at the endpoint that tells it. -/
theorem introspection_misses_capitals :
    let s := cloudService "HTTP://helix.test:6969" (by decide)
    s.client.root = "HTTP://helix.test:6969" ∧
      ∀ b, ∃ request, (s.respond (plainRequest "/api/schema" "") b .empty).2.sent = [request] ∧ request.method = "GET" ∧
        request.resolved = "HTTP://helix.test:6969/HTTP://helix.test:6969/introspect" := by
  intro s
  refine ⟨by decide, fun b => ?_⟩
  obtain ⟨orders, ⟨requests, refusal, hc, hs, -⟩, ha, -⟩ := obeys_respond s (plainRequest "/api/schema" "") b .empty
  have ho : orders = [s.client.introspection] := by
    have hr : routeOf? (plainRequest "/api/schema" "") = some .schema := by decide
    rw [Allowed, hr] at ha
    exact ha
  subst ho
  cases hc with
  | refused h =>
    have hok : (s.client.make s.client.introspection).isOk = true := by decide +kernel
    rw [h] at hok
    cases hok
  | sent h hrest =>
    rename_i request _
    cases hrest
    obtain ⟨hmethod, hresolved⟩ := Client.of_make h
    refine ⟨request, hs, hmethod.trans (by decide), hresolved.trans (by decide)⟩

end Service

end HelixGateway
