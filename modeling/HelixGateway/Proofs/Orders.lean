import HelixGateway.Proofs.Client

/-!
# What a session hands to a client

A session reaches its database only through orders to a client, each a method, an endpoint and a body. An order is sent as the
request that is made of it; one that no request can be made of is refused, which ends the session. So a run is accounted for
by its orders, of which all but the last one are sent.

Main statements: `Client.obeys_request`, `Client.Obeys.bind`.
-/

namespace HelixGateway

/-- Whether a fault is the refusal of an order. -/
def Fault.isRefusal : Fault → Bool
  | .notJson | .badUrl _ | .badHost _ | .notAscii (.header _) => true
  | _ => false

namespace Client

/-- An order to a client. -/
structure Order where
  method : String
  endpoint : String
  body : Json

/-- The request that is made of an order. -/
def make (c : Client) (o : Order) : Except Fault DatabaseRequest := c.prepare o.method o.endpoint o.body

/-- `c.Carries orders requests refusal` says that the requests are made of the orders, one by one, up to one that is refused,
if there is such a one. -/
inductive Carries (c : Client) : List Order → List DatabaseRequest → Option Fault → Prop where
  | nil : Carries c [] [] none
  | sent {o : Order} {r : DatabaseRequest} {orders : List Order} {requests : List DatabaseRequest} {refusal : Option Fault}
      (h : c.make o = .ok r) : Carries c orders requests refusal → Carries c (o :: orders) (r :: requests) refusal
  | refused {o : Order} {e : Fault} (h : c.make o = .error e) : Carries c [o] [] (some e)

/-- The orders that a session hands to a client in a run: the requests that are sent are those made of them, and the run ends
with the refusal of the last one if and only if that one is refused. -/
def Hands {α : Type} (c : Client) (m : Session α) (b : Backend) (t : Trace) (orders : List Order) : Prop :=
  ∃ requests refusal, c.Carries orders requests refusal ∧ (m b t).2.sent = t.sent ++ requests ∧
    ∀ e, refusal = some e ↔ (m b t).1 = .error e ∧ e.isRefusal = true

/-- In every run of a session `P` holds of the orders that it hands over, and `V` of the value that it ends with. -/
def Obeys {α : Type} (c : Client) (m : Session α) (P : List Order → Prop) (V : α → Prop) : Prop :=
  ∀ b t, ∃ orders, c.Hands m b t orders ∧ P orders ∧ ∀ x, (m b t).1 = .ok x → V x

variable {α β : Type} {c : Client} {m : Session α} {f : α → Session β} {P Q R : List Order → Prop} {V : α → Prop}
  {W : β → Prop}

/-! ## Refusals -/

/-- A body that cannot be written refuses its order. -/
theorem isRefusal_of_encodeBody {body : Json} {e : Fault} (h : encodeBody body = .error e) : e.isRefusal = true := by
  unfold encodeBody at h
  split at h
  · cases h
  · split at h
    · cases h
    · cases h
      rfl

/-- A host that is not accepted refuses its order. -/
theorem isRefusal_of_checkHost {url : Url} {e : Fault} (h : checkHost url = .error e) : e.isRefusal = true := by
  rw [checkHost] at h
  split at h
  · cases h
    rfl
  · split at h
    · cases h
    · cases h
      rfl

/-- What keeps a request from being made refuses its order. -/
theorem isRefusal_of_make {o : Order} {e : Fault} (h : c.make o = .error e) : e.isRefusal = true := by
  rw [make, prepare] at h
  split at h
  · cases h
    rfl
  · split at h
    · split at h
      · rename_i he
        cases h
        exact isRefusal_of_encodeBody he
      · exact isRefusal_of_checkHost (map_eq_error h)
    · cases h
      rfl

/-- A value that cannot be sent on refuses no order. -/
theorem isRefusal_of_sendable {v : Json.Shown Json} {e : Fault} (h : sendable v = .error e) : e.isRefusal = false := by
  rw [sendable] at h
  split at h
  · cases h
  · cases h
    rfl

/-- What goes wrong with a reply refuses no order. -/
theorem isRefusal_of_readReply {address : String} {reply : DatabaseReply} {e : Fault}
    (h : readReply address reply = .error e) : e.isRefusal = false := by
  unfold readReply at h
  split at h
  · cases h
  · split at h
    · split at h
      · cases h
      · exact isRefusal_of_sendable (map_eq_error h)
    · cases h

/-- What is refused once it was answered is the address of the request or the value of the reply, and neither is an order. -/
theorem isRefusal_of_accept {r : DatabaseRequest} {reply : DatabaseReply} {e : Fault} (h : accept r reply = .error e) :
    e.isRefusal = false := by
  unfold accept at h
  split at h
  · exact isRefusal_of_readReply h
  · split at h
    · exact isRefusal_of_readReply h
    · cases h
      rfl

/-- A request says where its order goes. -/
theorem of_make {o : Order} {r : DatabaseRequest} (h : c.make o = .ok r) :
    r.method = String.ofList (o.method.toList.flatMap Text.upper) ∧ r.resolved = c.resolve o.endpoint := by
  obtain ⟨url, text, -, -, -, -, rfl⟩ := prepare_eq_ok h
  exact ⟨rfl, rfl⟩

/-- Orders that are all carried out may be followed by others. -/
theorem Carries.append {orders orders' : List Order} {requests requests' : List DatabaseRequest} {refusal : Option Fault}
    (h : c.Carries orders requests none) (h' : c.Carries orders' requests' refusal) :
    c.Carries (orders ++ orders') (requests ++ requests') refusal := by
  generalize hn : (none : Option Fault) = stop at h
  induction h with
  | nil => exact h'
  | sent hr _ ih => exact .sent hr (ih hn)
  | refused hr => cases hn

/-! ## Rules -/

/-- A rule for the orders of a session may be weakened. -/
theorem Obeys.mono (h : c.Obeys m P V) (hP : ∀ o, P o → Q o) : c.Obeys m Q V := by
  intro b t
  obtain ⟨orders, hh, ho, hv⟩ := h b t
  exact ⟨orders, hh, hP orders ho, hv⟩

/-- A session that sends nothing and does not end with a refusal hands over nothing. -/
theorem obeys_of_silent (hs : ∀ b t, (m b t).2.sent = t.sent) (hf : ∀ b t e, (m b t).1 = .error e → e.isRefusal = false)
    (hv : ∀ b t x, (m b t).1 = .ok x → V x) : c.Obeys m (· = []) V := by
  intro b t
  refine ⟨[], ⟨[], none, .nil, by rw [hs, List.append_nil], fun e => ⟨nofun, fun he => ?_⟩⟩, rfl, hv b t⟩
  rw [hf b t e he.1] at he
  cases he.2

theorem obeys_pure {x : α} (hP : P []) (hx : V x) : c.Obeys (pure x) P V := by
  have hs : c.Obeys (pure x) (· = []) V := by
    refine obeys_of_silent (fun _ _ => rfl) (fun _ _ _ h => ?_) fun b t y h => ?_
    · cases h
    · cases h
      exact hx
  exact hs.mono fun o ho => ho ▸ hP

/-- An order is handed over as it is. -/
theorem obeys_request (c : Client) (o : Order) :
    c.Obeys (c.request o.method o.endpoint o.body) (· = [o]) fun _ => True := by
  intro b t
  refine ⟨[o], ?_, rfl, fun _ _ => trivial⟩
  rw [Hands]
  cases ho : c.prepare o.method o.endpoint o.body with
  | error e =>
    rw [run_request_of_error ho]
    refine ⟨[], some e, .refused ho, (List.append_nil _).symm, fun e' => ?_⟩
    rw [Option.some.injEq]
    constructor
    · rintro rfl
      exact ⟨rfl, isRefusal_of_make ho⟩
    · rintro ⟨he, -⟩
      exact Except.error.inj he
  | ok r =>
    rw [run_request_of_prepare ho]
    refine ⟨[r], none, .sent ho .nil, rfl, fun e => ⟨nofun, ?_⟩⟩
    rintro ⟨he, hr⟩
    rw [isRefusal_of_accept he] at hr
    cases hr

/-- What one session after the other hands over is what the first one does, and then the second one unless the first one ended
with a fault. -/
theorem Obeys.bind (hm : c.Obeys m P V) (hf : ∀ x, V x → c.Obeys (f x) Q W) (hP : ∀ o, P o → R o)
    (hPQ : ∀ o o', P o → Q o' → R (o ++ o')) : c.Obeys (m >>= f) R W := by
  intro b t
  obtain ⟨orders, ⟨requests, refusal, hc, hs, he⟩, hp, hv⟩ := hm b t
  cases hr : m b t with
  | mk outcome t' =>
    rw [hr] at hs he hv
    cases outcome with
    | error e =>
      refine ⟨orders, ⟨requests, refusal, hc, ?_, ?_⟩, hP orders hp, ?_⟩
      · rw [Session.run_bind_error hr, hs]
      · rw [Session.run_bind_error hr]
        intro e'
        rw [he]
        exact ⟨fun h => ⟨congrArg _ (Except.error.inj h.1), h.2⟩, fun h => ⟨congrArg _ (Except.error.inj h.1), h.2⟩⟩
      · rw [Session.run_bind_error hr]
        exact fun x hx => by cases hx
    | ok x =>
      have hn : refusal = none := Option.eq_none_iff_forall_ne_some.2 fun e h => by cases ((he e).1 h).1
      obtain ⟨orders', ⟨requests', refusal', hc', hs', he'⟩, hq, hw⟩ := hf x (hv x rfl) b t'
      rw [hn] at hc
      refine ⟨orders ++ orders', ⟨requests ++ requests', refusal', hc.append hc', ?_, ?_⟩, hPQ _ _ hp hq, ?_⟩
      · rw [Session.run_bind_ok hr, hs', hs, List.append_assoc]
      · rw [Session.run_bind_ok hr]
        exact he'
      · rw [Session.run_bind_ok hr]
        exact hw

/-- What hands over nothing may go first. -/
theorem Obeys.after (hm : c.Obeys m (· = []) V) (hf : ∀ x, V x → c.Obeys (f x) P W) (hP : P []) : c.Obeys (m >>= f) P W := by
  refine hm.bind hf (fun o h => h ▸ hP) fun o o' h h' => ?_
  subst h
  exact h'

/-- What hands over nothing may go last. -/
theorem Obeys.before (hm : c.Obeys m P V) (hf : ∀ x, V x → c.Obeys (f x) (· = []) W) : c.Obeys (m >>= f) P W := by
  refine hm.bind hf (fun o h => h) fun o o' h h' => ?_
  subst h'
  rwa [List.append_nil]

end Client

end HelixGateway
