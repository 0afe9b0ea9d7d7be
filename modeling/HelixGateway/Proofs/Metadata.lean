import HelixGateway.Proofs.Introspection
import HelixGateway.Proofs.Json.Bytes
import HelixGateway.Proofs.Json.Equality
import HelixGateway.Proofs.Service.Answer
import HelixGateway.Proofs.Service.Confinement

/-!
# Metadata that cannot be read

Schema, queries, endpoints and types all come from one place. Where that is a database, they come from its reply to one
request: if the reply delivers a payload that passes the check, they are what the payload says, and otherwise all of them are
empty; a reply that is ill formed is left aside. Where it is a file, they are what the text of the file says, and without a
text they are empty. A path that is too long is no path without a file but a fault (`longPath_of_missing`).

Main statement: `reads_or_degrades`.
-/

namespace HelixGateway

/-! ## What one piece of metadata comes to -/

namespace Session

variable {α β : Type} {m : Session α} {b : Backend} {t : Trace}

/-- A session ends with a value, and sends some requests on the way. -/
def Yields (m : Session α) (b : Backend) (t : Trace) (x : α) (requests : List DatabaseRequest) : Prop :=
  ∃ logs, m b t = (.ok x, ⟨t.sent ++ requests, logs⟩)

/-- A session ends with a fault, and does nothing else. -/
def Breaks (m : Session α) (b : Backend) (t : Trace) (e : Fault) : Prop := m b t = (.error e, t)

/-- What is made of a value is what the session ends with instead. -/
theorem Yields.map {x : α} {requests : List DatabaseRequest} (h : m.Yields b t x requests) (f : α → β) :
    (m >>= fun x => pure (f x) : Session β).Yields b t (f x) requests := by
  obtain ⟨logs, h⟩ := h
  exact ⟨logs, run_bind_ok h⟩

theorem Breaks.map {e : Fault} (h : m.Breaks b t e) (f : α → β) : (m >>= fun x => pure (f x) : Session β).Breaks b t e :=
  run_bind_error h

end Session

/-- A reply tells what a database says about itself: it delivers a payload that passes the check. -/
def DatabaseReply.Tells (reply : DatabaseReply) (d : Introspection) : Prop :=
  ∃ v, Service.Delivers reply v ∧ v.checkIntrospection = .ok d

/-- A file holds a text: the path leads to a file, and its content is the text but for the ends of lines. -/
def Disk.Holds (disk : Disk) (path : String) (s : List Char) : Prop :=
  ∃ content t, disk.find? (.ofText path) = some (.file content) ∧ Text.Utf8.decode content = .ok t ∧ s = Text.unifyNewlines t

/-- A session sends one request and ends with what is read from the reply, if that tells anything. Nothing is said about a
reply that is ill formed. -/
structure Session.FollowsReply {α : Type} (m : Session α) (read : Introspection → α) (absent : α) (request : DatabaseRequest)
    (b : Backend) (t : Trace) : Prop where
  told : ∀ d, (b.reply t.sent request).Tells d → m.Yields b t (read d) [request]
  untold : ¬ Service.IllFormed (b.reply t.sent request) → (∀ d, ¬ (b.reply t.sent request).Tells d) →
    m.Yields b t absent [request]

/-- A session sends nothing and ends with what is read from a file, if that holds any text. -/
structure Session.FollowsFile {α : Type} (m : Session α) (read : List Char → α) (absent : α) (disk : Disk) (path : String)
    (b : Backend) (t : Trace) : Prop where
  held : ∀ s, disk.Holds path s → m.Yields b t (read s) []
  missing : (∀ s, ¬ disk.Holds path s) → disk.isTooLong (.ofText path) = false → m.Yields b t absent []
  long : disk.isTooLong (.ofText path) = true → m.Breaks b t (.longPath (Path.ofText path).text)

namespace Disk

variable {disk : Disk} {path : String}

/-- A path that is too long is a fault. -/
theorem loadText_eq_longPath (h : disk.isTooLong (.ofText path) = true) :
    disk.loadText path = .error (.longPath (Path.ofText path).text) := by
  rw [loadText]
  exact if_pos h

/-- Without a text, and unless the path is too long, it is told why there is none. -/
theorem loadText_eq_error (hn : ∀ s, ¬ disk.Holds path s) (hl : disk.isTooLong (.ofText path) = false) :
    ∃ e, disk.loadText path = .ok (.error e) := by
  cases h : disk.loadText path with
  | ok outcome =>
    cases outcome with
    | ok s => exact absurd (loadText_eq_ok_iff.1 h) (hn s)
    | error e => exact ⟨e, rfl⟩
  | error e =>
    -- only a path that is too long is a fault
    simp only [loadText, hl, Bool.false_eq_true, if_false] at h
    split at h
    · cases h
    · cases h
    · split at h
      · cases h
      · cases h

end Disk

namespace Session

variable {α β : Type} {m : Session α} {b : Backend} {t : Trace}

/-- What is made of metadata follows the reply that the metadata follows. -/
theorem FollowsReply.map {read : Introspection → α} {absent : α} {request : DatabaseRequest}
    (h : m.FollowsReply read absent request b t) (f : α → β) :
    (m >>= fun x => pure (f x) : Session β).FollowsReply (fun d => f (read d)) (f absent) request b t :=
  ⟨fun d hd => (h.told d hd).map f, fun hi hn => (h.untold hi hn).map f⟩

theorem FollowsFile.map {read : List Char → α} {absent : α} {disk : Disk} {path : String}
    (h : m.FollowsFile read absent disk path b t) (f : α → β) :
    (m >>= fun x => pure (f x) : Session β).FollowsFile (fun s => f (read s)) (f absent) disk path b t :=
  ⟨fun s hs => (h.held s hs).map f, fun hn hl => (h.missing hn hl).map f, fun hl => (h.long hl).map f⟩

end Session

/-! ## Asking the database -/

namespace Client

variable {c : Client}

/-- A reply with an outcome tells what the introspection reads from the outcome. -/
theorem tells_iff {reply : DatabaseReply} {resolved : String} {outcome : Except ServiceError Json}
    (ho : readReply resolved reply = .ok outcome) {d : Introspection} (address : String) :
    reply.Tells d ↔ readIntrospection address outcome = .ok d := by
  constructor
  · rintro ⟨v, hv, hd⟩
    rw [(Service.delivers_iff resolved).1 hv] at ho
    cases ho
    rw [readIntrospection, hd]
    rfl
  · intro h
    cases outcome with
    | error e => cases h
    | ok v => exact ⟨v, (Service.delivers_iff resolved).2 ho, mapError_eq_ok h⟩

/-- A client can ask its database about itself: its key can stand in a header, and the address for it is not too long. -/
structure CanAsk (c : Client) : Prop where
  plain : c.hasPlainKey = true
  short : (c.resolve c.introspection.endpoint).length ≤ Url.maxLength

/-- With an address for the database, the address for an introspection is one too. -/
theorem reaches_introspection {base : Url} (hb : c.Reaches "" base) (hc : c.CanAsk) :
    ∃ url, c.Reaches c.introspection.endpoint url := by
  have hname : ∀ x ∈ "introspect".toList, Url.isControl x = false := by decide
  cases hf : isFullUrl (c.resolve "introspect") with
  | true =>
    have he : c.resolve c.introspection.endpoint = c.resolve "introspect" := resolve_of_absolute hf
    have hs := hc.short
    rw [he] at hs
    obtain ⟨url, hu⟩ := reaches_of_base hb (by rfl) hname hs
    refine ⟨url, ?_, hu.absolute, hu.host⟩
    rw [he]
    exact hu.parsed
  | false =>
    -- what is put below the address a second time is that address, which has no control characters
    refine reaches_of_base hb hf ?_ hc.short
    have hplain := (Url.parse_eq_ok_iff.1 hb.parsed).2.1
    rw [toList_resolve (by rfl)] at hplain
    intro x hx
    rw [introspection, toList_resolve (by rfl)] at hx
    rcases List.mem_append.1 hx with hx | hx
    · exact hplain x (List.mem_append_left _ hx)
    · rcases List.mem_cons.1 hx with rfl | hx
      · rfl
      · exact hname x ((List.dropWhile_sublist _).subset hx)

/-- A client that cannot ask is stopped before it sends anything. -/
theorem prepare_of_not_canAsk (h : ¬ c.CanAsk) : ∃ e, c.make c.introspection = .error e := by
  by_cases hl : Url.maxLength < (c.resolve c.introspection.endpoint).length
  · exact ⟨_, prepare_of_long hl "GET" .null⟩
  · cases hp : c.make c.introspection with
    | error e => exact ⟨e, rfl⟩
    | ok r =>
      obtain ⟨url, text, -, hk, -⟩ := prepare_eq_ok hp
      exact absurd ⟨hk, Nat.not_lt.1 hl⟩ h

/-- If no request can be made, an introspection sends nothing and ends with the fault of that. -/
theorem introspect_of_error {e : Fault} (h : c.make c.introspection = .error e) (b : Backend) (t : Trace) :
    c.introspect b t = (.error e, t) := by
  unfold introspect get
  exact Session.run_bind_error (run_request_of_error h b t)

/-- A client that reaches its database asks it once, and the outcome is what the reply tells. -/
theorem exists_introspect {url : Url} (hr : c.Reaches c.introspection.endpoint url) (hk : c.hasPlainKey = true) {b : Backend}
    {t : Trace} (hi : ¬ Service.IllFormed (b.reply t.sent (c.requestFor "GET" c.introspection.endpoint url none))) :
    ∃ outcome, c.introspect b t = (.ok outcome, ⟨t.sent ++ [c.requestFor "GET" c.introspection.endpoint url none], t.logs⟩) ∧
      ∀ d, (b.reply t.sent (c.requestFor "GET" c.introspection.endpoint url none)).Tells d ↔ outcome = .ok d := by
  have hn : encodeBody .null = .ok none := rfl
  obtain ⟨outcome, ho⟩ := Service.exists_readReply_eq_ok hi (c.resolve c.introspection.endpoint)
  have hrun := run_request hr hk hn "GET" b t
  rw [ho] at hrun
  exact ⟨_, run_introspect hrun, fun d => tells_iff ho _⟩

end Client

/-! ## Pieces of metadata -/

namespace Metadata

variable {α γ : Type}

/-- A piece of metadata that the database is asked for. -/
def fromDatabase (c : Client) (read : Introspection → α) (warning : IntrospectionError → String) (absent : α) : Session α := do
  let answer ← c.introspect
  orWarn (answer.map read) warning absent

/-- A piece of metadata that is made of what is loaded from a file. -/
def fromFile (loaded : Loaded γ) (read : γ → α) (warning : LoadError → String) (absent : α) : Session α := do
  let outcome ← Session.ofExcept loaded
  orWarn (outcome.map read) warning absent

/-- What is made of an introspection follows the reply to the request for it. -/
theorem followsReply_fromDatabase {c : Client} {url : Url} (hr : c.Reaches c.introspection.endpoint url)
    (hk : c.hasPlainKey = true) (read : Introspection → α) (warning : IntrospectionError → String) (absent : α)
    (b : Backend) (t : Trace) :
    (fromDatabase c read warning absent).FollowsReply read absent
      (c.requestFor "GET" c.introspection.endpoint url none) b t := by
  have hyields : ¬ Service.IllFormed (b.reply t.sent (c.requestFor "GET" c.introspection.endpoint url none)) →
      ∃ outcome : Except IntrospectionError Introspection,
        (fromDatabase c read warning absent).Yields b t ((outcome.map read).toOption.getD absent)
          [c.requestFor "GET" c.introspection.endpoint url none] ∧
        ∀ d, (b.reply t.sent (c.requestFor "GET" c.introspection.endpoint url none)).Tells d ↔ outcome = .ok d := by
    intro hi
    obtain ⟨outcome, hrun, htells⟩ := Client.exists_introspect hr hk hi
    obtain ⟨logs, hw⟩ := run_orWarn (outcome.map read) warning absent b
      ⟨t.sent ++ [c.requestFor "GET" c.introspection.endpoint url none], t.logs⟩
    refine ⟨outcome, ⟨logs, ?_⟩, htells⟩
    rw [fromDatabase, Session.run_bind_ok hrun]
    exact hw
  constructor
  · intro d hd
    obtain ⟨v, hv, -⟩ := id hd
    obtain ⟨outcome, hy, htells⟩ := hyields hv.not_illFormed
    rw [(htells d).1 hd] at hy
    exact hy
  · intro hi hn
    obtain ⟨outcome, hy, htells⟩ := hyields hi
    cases outcome with
    | ok d => exact absurd ((htells d).2 rfl) (hn d)
    | error e => exact hy

/-- What is made of an introspection that no request can be made for is the fault of that. -/
theorem breaks_fromDatabase {c : Client} {e : Fault} (h : c.make c.introspection = .error e) (read : Introspection → α)
    (warning : IntrospectionError → String) (absent : α) (b : Backend) (t : Trace) :
    (fromDatabase c read warning absent).Breaks b t e := by
  rw [Session.Breaks, fromDatabase]
  exact Session.run_bind_error (Client.introspect_of_error h b t)

/-- What is made of a file follows it. -/
theorem followsFile_fromFile (disk : Disk) (path : String) (parse : List Char → γ) (read : γ → α)
    (warning : LoadError → String) (absent : α) (b : Backend) (t : Trace) :
    (fromFile (Loaded.map parse (disk.loadText path)) read warning absent).FollowsFile (fun s => read (parse s)) absent disk path
      b t := by
  have hyields : ∀ outcome, disk.loadText path = .ok outcome →
      (fromFile (Loaded.map parse (disk.loadText path)) read warning absent).Yields b t
        ((outcome.map fun s => read (parse s)).toOption.getD absent) [] := by
    intro outcome ho
    obtain ⟨logs, hw⟩ := run_orWarn ((outcome.map parse).map read) warning absent b t
    have hload : Session.ofExcept (Loaded.map parse (disk.loadText path)) b t = (.ok (outcome.map parse), t) := by
      rw [ho]
      rfl
    refine ⟨logs, ?_⟩
    rw [fromFile, Session.run_bind_ok hload, hw, List.append_nil]
    cases outcome <;> rfl
  refine ⟨fun s hs => ?_, fun hn hl => ?_, fun hl => ?_⟩
  · exact hyields _ (Disk.loadText_eq_ok_iff.2 hs)
  · obtain ⟨e, he⟩ := Disk.loadText_eq_error hn hl
    exact hyields _ he
  · rw [Session.Breaks, fromFile, Disk.loadText_eq_longPath hl]
    exact Session.run_bind_error rfl

/-! ## All four -/

variable {m : Metadata}

/-- The endpoints of the queries. -/
def endpoints (m : Metadata) : Session Json := do
  let queries ← m.queries
  pure (Query.listing queries)

/-- These are the endpoints that the service answers with. -/
theorem answerEndpoints_eq (s : Service) : s.answerEndpoints = s.metadata.endpoints >>= Service.answer := by
  funext b t
  rw [Service.answerEndpoints, endpoints]
  cases h : s.metadata.queries b t with
  | mk outcome t' =>
    cases outcome with
    | ok queries => rw [Session.run_bind_ok h, Session.run_bind_ok (Session.run_bind_ok h)]
    | error e => rw [Session.run_bind_error h, Session.run_bind_error (Session.run_bind_error h)]

/-- All metadata is what one reply tells, or, if it tells nothing and is not ill formed, all of it is empty. -/
structure FollowsReply (m : Metadata) (name : String) (request : DatabaseRequest) (b : Backend) (t : Trace) : Prop where
  schema : m.schema.FollowsReply (·.schema) .empty request b t
  queries : m.queries.FollowsReply (·.served) [] request b t
  endpoints : m.endpoints.FollowsReply (fun d => Query.listing d.served) (Query.listing []) request b t
  catalogue : (m.catalogue name).FollowsReply (·.catalogue name) .empty request b t

/-- All metadata is what two files hold, and empty for want of them. -/
structure FollowsFiles (m : Metadata) (name : String) (b : Backend) (t : Trace) : Prop where
  schema : m.schema.FollowsFile Schema.parse .empty m.disk m.schemaPath b t
  queries : m.queries.FollowsFile Query.parse [] m.disk m.queriesPath b t
  endpoints : m.endpoints.FollowsFile (fun s => Query.listing (Query.parse s)) (Query.listing []) m.disk m.queriesPath b t
  catalogue : (m.catalogue name).FollowsFile (fun s => Query.catalogue (Query.parse s) name) .empty m.disk m.queriesPath b t

/-- No metadata is there, only a fault. -/
structure Breaks (m : Metadata) (name : String) (b : Backend) (t : Trace) (e : Fault) : Prop where
  schema : m.schema.Breaks b t e
  queries : m.queries.Breaks b t e
  endpoints : m.endpoints.Breaks b t e
  catalogue : (m.catalogue name).Breaks b t e

/-- In front of a database the schema is asked for. -/
theorem schema_eq_fromDatabase (h : m.source.isRemote = true) :
    ∃ warning, m.schema = fromDatabase m.client (·.schema) warning .empty := by
  rw [schema, if_pos h]
  exact ⟨_, rfl⟩

theorem queries_eq_fromDatabase (h : m.source.isRemote = true) :
    ∃ warning, m.queries = fromDatabase m.client (·.served) warning [] := by
  rw [queries, if_pos h]
  exact ⟨_, rfl⟩

theorem catalogue_eq_fromDatabase (h : m.source.isRemote = true) (name : String) :
    ∃ warning, m.catalogue name = fromDatabase m.client (·.catalogue name) warning .empty := by
  rw [catalogue, if_pos h]
  exact ⟨_, rfl⟩

theorem orWarn_map_id {α ε : Type} (outcome : Except ε α) (warning : ε → String) (absent : α) :
    orWarn (outcome.map id) warning absent = orWarn outcome warning absent := by
  cases outcome <;> rfl

/-- With local files the schema is made of its file. -/
theorem schema_eq_fromFile (h : m.source.isRemote = false) :
    ∃ warning, m.schema = fromFile (Loaded.map Schema.parse (m.disk.loadText m.schemaPath)) id warning .empty := by
  rw [schema, if_neg (Bool.eq_false_iff.1 h)]
  simp only [fromFile, orWarn_map_id]
  exact ⟨_, rfl⟩

theorem queries_eq_fromFile (h : m.source.isRemote = false) :
    ∃ warning, m.queries = fromFile (Loaded.map Query.parse (m.disk.loadText m.queriesPath)) id warning [] := by
  rw [queries, if_neg (Bool.eq_false_iff.1 h)]
  simp only [fromFile, orWarn_map_id]
  exact ⟨_, rfl⟩

theorem catalogue_eq_fromFile (h : m.source.isRemote = false) (name : String) :
    ∃ warning, m.catalogue name = fromFile (Loaded.map Query.parse (m.disk.loadText m.queriesPath))
      (fun queries => Query.catalogue queries name) warning .empty := by
  rw [catalogue, if_neg (Bool.eq_false_iff.1 h)]
  exact ⟨_, rfl⟩

/-- All metadata follows the reply of a database that can be asked. -/
theorem followsReply {url : Url} (h : m.source.isRemote = true) (hr : m.client.Reaches m.client.introspection.endpoint url)
    (hk : m.client.hasPlainKey = true) (name : String) (b : Backend) (t : Trace) :
    m.FollowsReply name (m.client.requestFor "GET" m.client.introspection.endpoint url none) b t := by
  obtain ⟨w₁, hschema⟩ := schema_eq_fromDatabase h
  obtain ⟨w₂, hqueries⟩ := queries_eq_fromDatabase h
  obtain ⟨w₃, hcatalogue⟩ := catalogue_eq_fromDatabase h name
  have hq : m.queries.FollowsReply (·.served) [] (m.client.requestFor "GET" m.client.introspection.endpoint url none) b t := by
    rw [hqueries]
    exact followsReply_fromDatabase hr hk (·.served) w₂ [] b t
  refine ⟨?_, hq, ?_, ?_⟩
  · rw [hschema]
    exact followsReply_fromDatabase hr hk (·.schema) w₁ Schema.empty b t
  · rw [endpoints]
    exact hq.map Query.listing
  · rw [hcatalogue]
    exact followsReply_fromDatabase hr hk (·.catalogue name) w₃ OrdMap.empty b t

/-- Metadata of a database that cannot be asked is a fault. -/
theorem breaks {e : Fault} (h : m.source.isRemote = true) (he : m.client.make m.client.introspection = .error e)
    (name : String) (b : Backend) (t : Trace) : m.Breaks name b t e := by
  obtain ⟨w₁, hschema⟩ := schema_eq_fromDatabase h
  obtain ⟨w₂, hqueries⟩ := queries_eq_fromDatabase h
  obtain ⟨w₃, hcatalogue⟩ := catalogue_eq_fromDatabase h name
  have hq : m.queries.Breaks b t e := by
    rw [hqueries]
    exact breaks_fromDatabase he (·.served) w₂ [] b t
  refine ⟨?_, hq, ?_, ?_⟩
  · rw [hschema]
    exact breaks_fromDatabase he (·.schema) w₁ Schema.empty b t
  · rw [endpoints]
    exact hq.map Query.listing
  · rw [hcatalogue]
    exact breaks_fromDatabase he (·.catalogue name) w₃ OrdMap.empty b t

/-- With local files all metadata follows the two files. -/
theorem followsFiles (h : m.source.isRemote = false) (name : String) (b : Backend) (t : Trace) : m.FollowsFiles name b t := by
  obtain ⟨w₁, hschema⟩ := schema_eq_fromFile h
  obtain ⟨w₂, hqueries⟩ := queries_eq_fromFile h
  obtain ⟨w₃, hcatalogue⟩ := catalogue_eq_fromFile h name
  have hq : m.queries.FollowsFile Query.parse [] m.disk m.queriesPath b t := by
    rw [hqueries]
    exact followsFile_fromFile m.disk m.queriesPath Query.parse id w₂ [] b t
  refine ⟨?_, hq, ?_, ?_⟩
  · rw [hschema]
    exact followsFile_fromFile m.disk m.schemaPath Schema.parse id w₁ .empty b t
  · rw [endpoints]
    exact hq.map Query.listing
  · rw [hcatalogue]
    exact followsFile_fromFile m.disk m.queriesPath Query.parse (fun queries => Query.catalogue queries name) w₃ .empty b t

/-- In front of a database with an address, one request for it is sent for each piece of metadata, and all of them are what
the reply tells, or empty if it tells nothing and is not ill formed; but if the client cannot ask, all of them are one fault.
With local files nothing is sent, and the schema is what its file holds, the rest what the file of queries holds, or empty
where a file holds no text; but a path that is too long is a fault. -/
theorem reads_or_degrades (m : Metadata) (name : String) (b : Backend) (t : Trace) :
    (m.source.isRemote = true → ∀ base, m.client.Reaches "" base →
      (m.client.CanAsk → ∃ url, m.client.Reaches m.client.introspection.endpoint url ∧
        m.FollowsReply name (m.client.requestFor "GET" m.client.introspection.endpoint url none) b t) ∧
      (¬ m.client.CanAsk → ∃ e, m.Breaks name b t e)) ∧
    (m.source.isRemote = false → m.FollowsFiles name b t) := by
  refine ⟨fun hm base hb => ⟨fun hc => ?_, fun hc => ?_⟩, fun hm => followsFiles hm name b t⟩
  · obtain ⟨url, hu⟩ := Client.reaches_introspection hb hc
    exact ⟨url, hu, followsReply hm hu hc.plain name b t⟩
  · obtain ⟨e, he⟩ := Client.prepare_of_not_canAsk hc
    exact ⟨e, breaks hm he name b t⟩

/-! ## A database and a disk -/

/-- Metadata of a database. -/
def databaseMetadata : Metadata := ⟨.localDatabase, ⟨"http://helix.test", none⟩, .empty [], "schema.hx", "queries.hx"⟩

/-- The text of a report of one query. -/
def ageReport : String := "\x7b\"queries\":[\x7b\"name\":\"getUser\",\"parameters\":\x7b\"age\":\"i32\"\x7d\x7d]\x7d"

theorem tells_ageReport :
    (DatabaseReply.response 200 (Text.Utf8.encode ageReport.toList)).Tells Introspection.ageKnown := by
  have hread : Json.readBytes (Text.Utf8.encode ageReport.toList) = .ok ⟨Introspection.agePayload, true⟩ := by
    rw [Json.readBytes_encode (by decide +kernel)]
    decide +kernel
  exact ⟨Introspection.agePayload, ⟨200, _, rfl, by decide, by decide, hread⟩, Introspection.checkIntrospection_agePayload⟩

/-- Metadata from a file with a schema and from one with a byte that starts no character. -/
def diskMetadata : Metadata where
  source := .localFiles
  client := ⟨"http://helix.test", none⟩
  disk := ⟨[], [(["schema.hx"], Text.Utf8.encode "N::User".toList), (["queries.hx"], [0xFF])], []⟩
  schemaPath := "schema.hx"
  queriesPath := "queries.hx"

/-- The file of queries holds no text. -/
theorem not_holds_diskMetadata (s : List Char) : ¬ diskMetadata.disk.Holds diskMetadata.queriesPath s := by
  rintro ⟨content, t, hf, ht, -⟩
  have hfile : diskMetadata.disk.find? (.ofText diskMetadata.queriesPath) = some (.file [0xFF]) := by decide
  rw [hfile] at hf
  cases hf
  have hbad : (Text.Utf8.decode [0xFF]).isOk = false := by decide
  rw [ht] at hbad
  cases hbad

/-- A report, a database that cannot be reached, and two files of which one holds no text. -/
theorem reads_or_degrades_age :
    (∃ request, databaseMetadata.queries.Yields (Service.replying ageReport) .empty Introspection.ageKnown.served [request]) ∧
      (∃ request, databaseMetadata.queries.Yields ⟨fun _ _ => .unreachable ""⟩ .empty [] [request]) ∧
      ∀ b t, diskMetadata.schema.Yields b t (Schema.parse "N::User".toList) [] ∧ diskMetadata.queries.Yields b t [] [] := by
  have hm : databaseMetadata.source.isRemote = true := by decide
  have hb : databaseMetadata.client.Reaches "" ⟨"http".toList, [], "helix.test".toList, none, ['/'], none, none⟩ :=
    ⟨by rfl, by decide, by rfl⟩
  have hc : databaseMetadata.client.CanAsk := ⟨by decide, by decide +kernel⟩
  refine ⟨?_, ?_, fun b t => ?_⟩
  · obtain ⟨url, -, h⟩ := ((reads_or_degrades databaseMetadata "" (Service.replying ageReport) .empty).1 hm _ hb).1 hc
    exact ⟨_, h.queries.told _ tells_ageReport⟩
  · obtain ⟨url, -, h⟩ := ((reads_or_degrades databaseMetadata "" ⟨fun _ _ => .unreachable ""⟩ .empty).1 hm _ hb).1 hc
    refine ⟨_, h.queries.untold ?_ ?_⟩
    · rintro ⟨status, content, v, hr, -⟩
      cases hr
    · rintro d ⟨v, ⟨status, content, hr, -⟩, -⟩
      cases hr
  · have h := (reads_or_degrades diskMetadata "" b t).2 (by decide)
    have hschema : diskMetadata.disk.Holds diskMetadata.schemaPath "N::User".toList :=
      ⟨Text.Utf8.encode "N::User".toList, "N::User".toList, by decide, by rfl, by decide⟩
    exact ⟨h.schema.held _ hschema, h.queries.missing not_holds_diskMetadata (by decide)⟩

/-! ## A path that is too long -/

def longName : String := String.ofList (List.replicate 256 'a')

/-- A name without slashes is a path of one part. -/
theorem ofText_longName : Path.ofText longName = ⟨"", [longName]⟩ := by
  have hl : longName.toList = List.replicate 256 'a' := String.toList_ofList
  have hroot : Path.rootOf (List.replicate 256 'a') = "" := by decide
  have hparts : (Text.pieces (· == '/') (List.replicate 256 'a')).filter (fun p => !p.isEmpty && p != ['.']) =
      [List.replicate 256 'a'] := by decide +kernel
  rw [Path.ofText, hl, hroot, hparts]
  rfl

/-- A name of 256 letters is too long on any disk. -/
theorem isTooLong_longName (disk : Disk) : disk.isTooLong (.ofText longName) = true := by
  have hsize : longName.utf8ByteSize = 256 := by decide +kernel
  have hup : longName ≠ ".." := by
    intro he
    rw [he] at hsize
    exact absurd hsize (by decide)
  rw [ofText_longName]
  simp [Disk.isTooLong, Disk.meetsLongName, hup, hsize, Disk.maxNameSize]

/-- A path with a name of 256 letters leads to nothing, and still the schema is not empty but a fault. -/
theorem longPath_of_missing :
    let m : Metadata := ⟨.localFiles, ⟨"http://helix.test", none⟩, .empty [], longName, "queries.hx"⟩
    m.disk.find? (.ofText longName) = none ∧ ∀ b t, m.schema b t = (.error (.longPath longName), t) := by
  intro m
  have htext : (Path.ofText longName).text = longName := by
    rw [ofText_longName]
    simp [Path.text]
  refine ⟨if_pos (isTooLong_longName m.disk), fun b t => ?_⟩
  have h := (followsFiles (m := m) (by decide) "" b t).schema.long (isTooLong_longName m.disk)
  rw [htext] at h
  exact h

end Metadata

end HelixGateway
