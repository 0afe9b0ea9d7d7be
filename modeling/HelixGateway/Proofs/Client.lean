import HelixGateway.Client
import HelixGateway.Proofs.Address
import HelixGateway.Proofs.Results

/-!
# What a client sends

An endpoint that a client reaches gets exactly one request, and what comes of it is what its reply means. The endpoints of
a database with an address are reached as long as they are no addresses of their own, hold no control characters and are not
too long.

Main statements: `run_request`, `reaches_of_base`, `prepare_of_long`.
-/

namespace HelixGateway

namespace Client

/-- An endpoint with an address that requests can be sent to: it is read as `url`, says by itself where a request goes, and
names a host that can be read. -/
structure Reaches (c : Client) (endpoint : String) (url : Url) : Prop where
  parsed : Url.parse (c.resolve endpoint).toList = .ok url
  absolute : url.isAbsolute = true
  host : checkHost url = .ok ()

/-- The request for an endpoint with an address. -/
def requestFor (c : Client) (method endpoint : String) (url : Url) (body : Option String) : DatabaseRequest :=
  ⟨String.ofList (method.toList.flatMap Text.upper), c.resolve endpoint, url, c.sentKey, body⟩

variable {c : Client} {endpoint : String} {url : Url}

/-! ## One request -/

/-- A request is made for an address that can be reached, if its body can be written. -/
theorem prepare_of_reaches (hr : c.Reaches endpoint url) (hk : c.hasPlainKey = true) {body : Json} {text : Option String}
    (hb : encodeBody body = .ok text) (method : String) :
    c.prepare method endpoint body = .ok (c.requestFor method endpoint url text) := by
  have ht : url.target = url := by rw [Url.target, if_pos hr.absolute]
  simp only [prepare, hr.parsed, hk, if_true, hb, ht, hr.host]
  rfl

/-- What a request is put together from. -/
theorem prepare_eq_ok {method : String} {body : Json} {r : DatabaseRequest} (h : c.prepare method endpoint body = .ok r) :
    ∃ url text, Url.parse (c.resolve endpoint).toList = .ok url ∧ c.hasPlainKey = true ∧ encodeBody body = .ok text ∧
      checkHost url.target = .ok () ∧ r = c.requestFor method endpoint url.target text := by
  rw [prepare] at h
  split at h
  · cases h
  · rename_i url hu
    split at h
    · rename_i hk
      split at h
      · cases h
      · rename_i text hb
        obtain ⟨⟨⟩, hc, rfl⟩ := map_eq_ok h
        exact ⟨url, text, hu, hk, hb, hc, rfl⟩
    · cases h

/-- A request that is put together is sent once. -/
theorem run_request_of_prepare {method : String} {body : Json} {r : DatabaseRequest}
    (h : c.prepare method endpoint body = .ok r) (b : Backend) (t : Trace) :
    c.request method endpoint body b t = (accept r (b.reply t.sent r), { t with sent := t.sent ++ [r] }) := by
  rw [request, h, Session.run_bind_ok rfl, Session.run_bind_ok (Session.run_send r b t)]
  rfl

/-- A request is sent once, and what comes of it is what its reply means. -/
theorem run_request (hr : c.Reaches endpoint url) (hk : c.hasPlainKey = true) {body : Json} {text : Option String}
    (hb : encodeBody body = .ok text) (method : String) (b : Backend) (t : Trace) :
    c.request method endpoint body b t =
      (readReply (c.resolve endpoint) (b.reply t.sent (c.requestFor method endpoint url text)),
        { t with sent := t.sent ++ [c.requestFor method endpoint url text] }) := by
  rw [run_request_of_prepare (prepare_of_reaches hr hk hb method)]
  have ha : ∀ reply, accept (c.requestFor method endpoint url text) reply = readReply (c.resolve endpoint) reply := by
    intro reply
    cases reply with
    | unreachable reason => rfl
    | response status content => exact if_pos hr.absolute
  rw [ha]

/-- A request that cannot be put together is not sent. -/
theorem run_request_of_error {method : String} {body : Json} {e : Fault} (h : c.prepare method endpoint body = .error e)
    (b : Backend) (t : Trace) : c.request method endpoint body b t = (.error e, t) := by
  rw [request, h]
  exact Session.run_bind_error rfl

/-- No request is made for an address that is too long. -/
theorem prepare_of_long (h : Url.maxLength < (c.resolve endpoint).length) (method : String) (body : Json) :
    c.prepare method endpoint body = .error (.badUrl .tooLong) := by
  rw [prepare, Url.parse_of_length_lt (by rwa [String.length_toList])]

/-! ## Endpoints below the address of a database -/

/-- An endpoint without a slash is no full address. -/
theorem isFullUrl_of_not_mem {endpoint : String} (h : '/' ∉ endpoint.toList) : isFullUrl endpoint = false := by
  have hp : ∀ scheme : List Char, '/' ∈ scheme → scheme.isPrefixOf endpoint.toList = false := by
    intro scheme hm
    rw [Bool.eq_false_iff]
    intro hi
    exact h ((List.isPrefixOf_iff_prefix.1 hi).subset hm)
  rw [isFullUrl, hp _ (by decide), hp _ (by decide)]
  rfl

/-- The address of the database without slashes at its end. -/
def root (c : Client) : String := String.ofList (Text.dropEndWhile (· == '/') c.baseUrl.toList)

/-- The root is the address of the database without slashes at its end. -/
theorem toList_root (c : Client) : c.root.toList = Text.dropEndWhile (· == '/') c.baseUrl.toList := String.toList_ofList

/-- The root does not end in a slash. -/
theorem getLast?_root {x : Char} (h : x ∈ c.root.toList.getLast?) : x ≠ '/' := by
  rw [toList_root] at h
  simpa using Text.getLast?_dropEndWhile (· == '/') c.baseUrl.toList x h

/-- A name without slashes is an endpoint right below the address of the database. -/
theorem resolve_of_not_mem (h : '/' ∉ endpoint.toList) : c.resolve endpoint = c.root ++ "/" ++ endpoint := by
  have hd : endpoint.toList.dropWhile (· == '/') = endpoint.toList := by
    refine Text.dropWhile_eq_self_iff.2 fun x hx => ?_
    rw [beq_eq_false_iff_ne]
    rintro rfl
    exact h (List.mem_of_head? hx)
  rw [resolve_of_relative (isFullUrl_of_not_mem h), hd, String.ofList_toList]
  rfl

/-- An endpoint is put behind the root and one slash. -/
theorem toList_resolve (hf : isFullUrl endpoint = false) :
    (c.resolve endpoint).toList = c.root.toList ++ '/' :: endpoint.toList.dropWhile (· == '/') := by
  rw [resolve_of_relative hf, toList_root]
  simp

/-- The host of an address is checked the same way for every address on its server. -/
theorem checkHost_of_sameServer {u v : Url} (h : Url.SameServer u v) : checkHost v = checkHost u := by
  rw [checkHost, checkHost, h.host, h.location]

/-- If one endpoint is reached, then so is any other one. -/
theorem reaches_of_reaches {e : String} {base : Url} (hb : c.Reaches e base) (he : isFullUrl e = false)
    (hf : isFullUrl endpoint = false) (hc : ∀ x ∈ endpoint.toList, Url.isControl x = false)
    (hl : (c.resolve endpoint).length ≤ Url.maxLength) : ∃ url, c.Reaches endpoint url := by
  have hp := hb.parsed
  rw [toList_resolve he] at hp
  rw [← String.length_toList, toList_resolve hf] at hl
  have hslash : ∀ s : List Char, '/' ∉ (s.dropWhile (· == '/')).head? := by
    intro s hm
    have hn := List.head?_dropWhile_not (· == '/') s
    rw [Option.mem_def.1 hm] at hn
    simp at hn
  have hlast : '/' ∉ c.root.toList.getLast? := fun hm => getLast?_root hm rfl
  have hd : ∀ x ∈ endpoint.toList.dropWhile (· == '/'), Url.isControl x = false :=
    fun x hx => hc x ((List.dropWhile_sublist _).subset hx)
  obtain ⟨url, hu, hs⟩ := Url.parse_below hlast (hslash e.toList) hp hb.absolute hd hl
  refine ⟨url, ?_, ?_, ?_⟩
  · rw [toList_resolve hf]
    exact hu
  · rw [hs.isAbsolute, hb.absolute]
  · rw [checkHost_of_sameServer hs, hb.host]

/-- With an address for the database itself, its endpoints are reached. -/
theorem reaches_of_base {base : Url} (hb : c.Reaches "" base) (hf : isFullUrl endpoint = false)
    (hc : ∀ x ∈ endpoint.toList, Url.isControl x = false) (hl : (c.resolve endpoint).length ≤ Url.maxLength) :
    ∃ url, c.Reaches endpoint url :=
  reaches_of_reaches hb (by rfl) hf hc hl

/-! ## Values that are sent on -/

/-- A value is sent on as it is, if it is well formed. -/
theorem sendable_eq_ok_iff {v : Json.Shown Json} {w : Json} : sendable v = .ok w ↔ v = ⟨w, true⟩ := by
  obtain ⟨value, isWellFormed⟩ := v
  cases isWellFormed with
  | false => simp [sendable]
  | true => simp [sendable]

/-! ## Introspections -/

/-- Only a request for an absolute address is answered with a value. -/
theorem isAbsolute_of_accept {r : DatabaseRequest} {reply : DatabaseReply} {v : Json} (h : accept r reply = .ok (.ok v)) :
    r.url.isAbsolute = true := by
  unfold accept at h
  split at h
  · cases h
  · split at h
    · assumption
    · cases h

/-- An address is absolute if what is sent of it is. -/
theorem isAbsolute_of_target {url : Url} (h : url.target.isAbsolute = true) : url.isAbsolute = true := by
  rw [Url.target] at h
  split at h
  · assumption
  · cases h

/-- An endpoint that something was read at can be reached. -/
theorem reaches_of_request {method : String} {body v : Json} {b : Backend} {t t' : Trace}
    (h : c.request method endpoint body b t = (.ok (.ok v), t')) :
    c.hasPlainKey = true ∧ ∃ url, c.Reaches endpoint url := by
  cases hp : c.prepare method endpoint body with
  | error e =>
    rw [run_request_of_error hp] at h
    cases h
  | ok r =>
    rw [run_request_of_prepare hp] at h
    obtain ⟨url, text, hu, hk, -, hc, rfl⟩ := prepare_eq_ok hp
    have ha : url.isAbsolute = true := isAbsolute_of_target (isAbsolute_of_accept (Prod.mk.inj h).1)
    rw [Url.target, if_pos ha] at hc
    exact ⟨hk, url, hu, ha, hc⟩

/-- The introspection is the answer to one request for it. -/
theorem run_introspect {answer : Except ServiceError Json} {b : Backend} {t t' : Trace}
    (h : c.request "GET" (c.resolve "introspect") .null b t = (.ok answer, t')) :
    c.introspect b t = (.ok (readIntrospection (c.resolve "introspect") answer), t') := by
  unfold introspect get
  rw [Session.run_bind_ok h]
  rfl

/-- A database that can be reached and answers with a payload that passes the check reports what the payload says. -/
theorem introspect_of_reply {url : Url} (hr : c.Reaches (c.resolve "introspect") url) (hk : c.hasPlainKey = true)
    {b : Backend} {content : Text.Bytes} (hb : ∀ sent r, b.reply sent r = .response 200 content) {payload : Json}
    (hp : Json.readBytes content = .ok ⟨payload, true⟩) {d : Introspection} (hd : payload.checkIntrospection = .ok d) (t : Trace) :
    ∃ t', c.introspect b t = (.ok (.ok d), t') := by
  have hn : encodeBody .null = .ok none := rfl
  have hrun := run_request hr hk hn "GET" b t
  have hread : ∀ address, readReply address (.response 200 content) = .ok (.ok payload) := by
    intro address
    rw [readReply, if_pos (by decide), hp]
    rfl
  rw [hb, hread] at hrun
  exact ⟨_, (run_introspect hrun).trans (by rw [readIntrospection, hd]; rfl)⟩

/-- A database that could be asked about itself can be reached at some endpoint that is no address of its own. -/
theorem reaches_of_introspect {d : Introspection} {b : Backend} {t t' : Trace} (h : c.introspect b t = (.ok (.ok d), t')) :
    c.hasPlainKey = true ∧ ∃ e url, isFullUrl e = false ∧ c.Reaches e url := by
  have hget : ∃ v, c.request "GET" (c.resolve "introspect") .null b t = (.ok (.ok v), t') := by
    cases hr : c.request "GET" (c.resolve "introspect") .null b t with
    | mk outcome t₁ =>
      cases outcome with
      | error e =>
        unfold introspect get at h
        rw [Session.run_bind_error hr] at h
        cases h
      | ok answer =>
        rw [run_introspect hr] at h
        obtain ⟨ha, rfl⟩ := Prod.mk.inj h
        cases answer with
        | error e => cases ha
        | ok v => exact ⟨v, rfl⟩
  obtain ⟨v, hv⟩ := hget
  obtain ⟨hk, url, hr⟩ := reaches_of_request hv
  refine ⟨hk, ?_⟩
  cases hf : isFullUrl (c.resolve "introspect") with
  | false => exact ⟨_, url, hf, hr⟩
  | true =>
    -- the endpoint that is given is the address of another one
    have hp := hr.parsed
    rw [resolve_of_absolute hf] at hp
    exact ⟨"introspect", url, by rfl, hp, hr.absolute, hr.host⟩

/-! ## Bodies -/

/-- An object of finite numbers is sent as its text. -/
theorem encodeBody_obj {fields : Entries Json} (h : Json.fieldsFinite fields = true) :
    encodeBody (.obj fields) = .ok (some (Json.obj fields).compact) := by
  have hf : (Json.obj fields).isFinite = true := h
  simp only [encodeBody, hf, if_true]

end Client

end HelixGateway
