import HelixGateway.Proofs.Json.Bytes
import HelixGateway.Proofs.Json.Equality
import HelixGateway.Proofs.Json.Idempotence
import HelixGateway.Proofs.Service.Answer

/-!
# Answers in canonical order

Whatever is asked for and whatever the database delivers, the JSON value of an answer with status 200 is in canonical order,
and all its numbers are finite. All such answers are put together in one place, and what stands in their other parts has
another status, or is no JSON.

Main statement: `canonicalize_of_respond`.
-/

namespace HelixGateway

/-! ## What a session ends with -/

namespace Session

variable {α β : Type}

/-- Every run of a session that ends with a value ends with one of which `V` holds. -/
def Ends (m : Session α) (V : α → Prop) : Prop := ∀ b t x, (m b t).1 = .ok x → V x

theorem ends_pure {V : α → Prop} {x : α} (h : V x) : Ends (pure x) V := by
  intro b t y hy
  cases hy
  exact h

/-- What holds of the values of a session may be used in what comes behind it. -/
theorem Ends.bind {m : Session α} {f : α → Session β} {V : α → Prop} {W : β → Prop} (h : Ends m V)
    (hf : ∀ x, V x → Ends (f x) W) : Ends (m >>= f) W := by
  intro b t y hy
  cases hm : m b t with
  | mk outcome t' =>
    cases outcome with
    | error e =>
      rw [run_bind_error hm] at hy
      cases hy
    | ok x =>
      rw [run_bind_ok hm] at hy
      exact hf x (h b t x (congrArg Prod.fst hm)) b t' y hy

/-- What a session ends with is what its last part ends with. -/
theorem ends_bind {m : Session α} {f : α → Session β} {V : β → Prop} (h : ∀ x, Ends (f x) V) : Ends (m >>= f) V :=
  Ends.bind (V := fun _ => True) (fun _ _ _ _ => trivial) fun x _ => h x

end Session

/-- If a response has status 200 and carries a JSON value, the value is in canonical order and its numbers are finite. -/
def WebResponse.Settled (w : WebResponse) : Prop := ∀ v, w.status = 200 → w.payload = .json v → v.Settled

/-- A response with another status says nothing about its value. -/
theorem WebResponse.settled_of_status {w : WebResponse} (h : w.status ≠ 200) : w.Settled := fun _ hs => absurd hs h

namespace Service

open Session (Ends ends_pure ends_bind)

variable {s : Service} {r : WebRequest}

/-! ## Routes -/

/-- An answer carries a value in canonical order. -/
theorem ends_answer (v : Json) : Ends (answer v) WebResponse.Settled := by
  intro b t w hw
  cases hc : v.canonicalize with
  | ok x =>
    rw [run_answer hc] at hw
    cases hw
    intro y _ hy
    cases hy
    exact Json.settled_of_canonicalize hc
  | error e =>
    rw [answer, hc] at hw
    cases hw

theorem ends_runQuery (s : Service) (name : String) (ps : Entries Json) : Ends (s.runQuery name ps) WebResponse.Settled := by
  refine ends_bind fun outcome => ?_
  cases outcome with
  | ok v => exact ends_answer v
  | error e => exact ends_bind fun _ => ends_answer _

theorem ends_answerDerived (s : Service) (r : WebRequest) (slug rest : List Char) :
    Ends (s.answerDerived r slug rest) WebResponse.Settled := by
  refine ends_bind fun queries => ?_
  cases Query.resolve queries (String.ofList slug) (segments rest) with
  | none => exact ends_pure (WebResponse.settled_of_status (show 404 ≠ 200 by decide))
  | some found => exact ends_bind fun _ => ends_bind fun _ => ends_runQuery s _ _

theorem ends_answerInspection (s : Service) (endpoint : String) (parameters : Checked Passthrough) (fallback : Entries Json) :
    Ends (s.answerInspection endpoint parameters fallback) WebResponse.Settled := by
  cases parameters with
  | error issues => exact ends_pure (WebResponse.settled_of_status (show 422 ≠ 200 by decide))
  | ok p =>
    refine ends_bind fun url => ends_bind fun outcome => ?_
    cases outcome with
    | ok v => exact ends_answer v
    | error e => exact ends_bind fun _ => ends_answer _

/-- Every route answers with a value in canonical order, if with any and with status 200. -/
theorem ends_answerRoute (s : Service) (r : WebRequest) (route : Route) : Ends (s.answerRoute r route) WebResponse.Settled := by
  cases route with
  | health => exact ends_answer _
  | schema => exact ends_bind fun _ => ends_answer _
  | validation => exact ends_bind fun _ => ends_answer _
  | endpoints => exact ends_bind fun _ => ends_answer _
  | query name => exact ends_bind fun _ => ends_bind fun _ => ends_bind fun _ => ends_bind fun _ => ends_runQuery s _ _
  | derived slug rest => exact ends_answerDerived s r slug rest
  | nodesEdges => exact ends_answerInspection s _ _ _
  | nodesByLabel => exact ends_answerInspection s _ _ _
  | nodeDetails => exact ends_answerInspection s _ _ _
  | nodeConnections => exact ends_answerInspection s _ _ _

/-! ## All requests -/

/-- Without a route there is no status 200. -/
theorem settled_unrouted (r : WebRequest) : (unrouted r).Settled := by
  unfold unrouted
  split
  · exact WebResponse.settled_of_status (show 307 ≠ 200 by decide)
  · exact WebResponse.settled_of_status (show 404 ≠ 200 by decide)

/-- The answer to a preflight carries no value. -/
theorem settled_preflight (origins : List String) (origin method : String) :
    (Cors.preflight origins origin method).Settled := by
  intro v _ hv
  unfold Cors.preflight at hv
  extract_lets refused at hv
  split at hv
  · cases hv
  · cases hv

/-- What a request is answered with is settled, with a route or without one. -/
theorem ends_dispatch (s : Service) (r : WebRequest) : Ends (s.dispatch r) WebResponse.Settled := by
  unfold dispatch
  split
  · exact ends_pure (settled_unrouted r)
  · split
    · exact ends_answerRoute s r _
    · exact ends_pure (WebResponse.settled_of_status (show 405 ≠ 200 by decide))

/-- A response with status 200 carries a value in canonical order, if it carries one. -/
theorem ends_respond (s : Service) (r : WebRequest) : Ends (s.respond r) WebResponse.Settled := by
  unfold respond
  split
  · exact ends_dispatch s r
  · split
    · exact ends_pure (settled_preflight _ _ _)
    · exact (ends_dispatch s r).bind fun w hw => ends_pure hw

/-- The JSON value of an answer with status 200 is a fixed point of canonical order, and all its numbers are finite. -/
theorem canonicalize_of_respond {b : Backend} {t : Trace} {headers : Entries String} {v : Json}
    (h : (s.respond r b t).1 = .ok ⟨200, headers, .json v⟩) : v.canonicalize = .ok v ∧ v.isFinite = true := by
  have hs := ends_respond s r b t _ h v rfl rfl
  refine ⟨hs.canonical, ?_⟩
  rw [← hs.finite]
  exact Json.isFinite_finiteOrNull v

/-- Details whose keys are out of order, inside too, with a number that is not finite. -/
def details : String :=
  "\x7b\"name\":7,\"id\":[\x7b\"id\":1,\"1\":NaN\x7d],\"10\":2,\"9\":3\x7d"

def deliveredDetails : Json :=
  .obj [("name", .int 7), ("id", .arr [.obj [("id", .int 1), ("1", .real .undefined)]]), ("10", .int 2), ("9", .int 3)]

def answeredDetails : Json :=
  .obj [("9", .int 3), ("10", .int 2), ("id", .arr [.obj [("1", .null), ("id", .int 1)]]), ("name", .int 7)]

/-- A database that replies so delivers the value. -/
theorem delivers_details : Delivers (.response 200 (Text.Utf8.encode details.toList)) deliveredDetails := by
  refine ⟨200, _, rfl, by decide, by decide, ?_⟩
  rw [Json.readBytes_encode (by decide +kernel)]
  decide +kernel

/-- A value with keys out of order and a number that is not finite is answered in order and with null. -/
theorem canonicalize_of_respond_details :
    (∃ headers, ((fileService "").respond detailsRequest (replying details) .empty).1 =
        .ok ⟨200, headers, .json answeredDetails⟩) ∧
      answeredDetails.canonicalize = .ok answeredDetails ∧ answeredDetails.isFinite = true := by
  obtain ⟨url, hu⟩ := asks_details.reaches_of_get rfl (reaches_fileService "") (by decide +kernel)
  obtain ⟨w, hw⟩ := Json.canonicalize_eq_ok_iff.2 (show deliveredDetails.hasShortKeys = true by decide)
  obtain ⟨⟨headers, hr⟩, -⟩ := respond_of_asks (by decide) (by decide) asks_details hu rfl (b := replying details)
    (t := .empty) ((delivers_iff _).1 delivers_details) hw
  have hv : w.finiteOrNull = answeredDetails := by
    have hc : deliveredDetails.finiteOrNull.canonicalize = .ok answeredDetails :=
      (Json.canonicalize_eq_canonical (by decide)).trans rfl
    exact Except.ok.inj ((Json.canonicalize_finiteOrNull hw).symm.trans hc)
  rw [hv] at hr
  exact ⟨⟨headers, hr⟩, canonicalize_of_respond hr⟩

end Service

end HelixGateway
