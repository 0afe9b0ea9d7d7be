import HelixGateway.Proofs.Introspection
import HelixGateway.Proofs.Passthrough
import HelixGateway.Service

/-!
# Parameters of inspections

What the service takes from a request before it passes an inspection on: a limit, which is none or a natural number, and
texts. So the parameters that pass the checks can always be written.

Main statements: `limitOf_eq_ok_iff`, `isWritable_of_nodesEdges`, `isWritable_of_nodesByLabel`, `isWritable_of_single`.
-/

namespace HelixGateway

/-! ## Parameters of a request -/

/-- The fields of the query string are its parameters as texts. -/
theorem WebRequest.get?_parameterFields (r : WebRequest) (k : String) :
    r.parameterFields.get? k = (r.parameters.get? k).map Json.str := Entries.get?_mapValues _ _ k

namespace Service

variable {s : Service} {r : WebRequest}

/-- The sign and size of a limit are checked behind its reading. -/
theorem checkLimit_eq_ok_iff {v : Json} {limit : Option Int} :
    checkLimit v = .ok limit ↔ ∃ n, v.checkInteger = .ok n ∧ 0 ≤ n ∧ limit = some n := by
  rw [checkLimit]
  cases v.checkInteger with
  | error e =>
    refine ⟨nofun, ?_⟩
    rintro ⟨n, hn, -⟩
    cases hn
  | ok n =>
    show (if n < 0 then Checked.fail .tooSmall else .ok (some n)) = .ok limit ↔ _
    by_cases h : n < 0
    · rw [if_pos h]
      refine ⟨nofun, ?_⟩
      rintro ⟨m, hm, h0, -⟩
      cases hm
      omega
    · rw [if_neg h]
      constructor
      · rintro ⟨⟩
        exact ⟨n, rfl, by omega, rfl⟩
      · rintro ⟨m, hm, -, rfl⟩
        cases hm
        rfl

/-- The limit that a request asks for: none, or the natural number that its text is read as. -/
inductive AsksLimit (r : WebRequest) : Option Int → Prop where
  | absent (h : r.parameters.get? "limit" = none) : AsksLimit r none
  | read {text : String} {n : Int} (h : r.parameters.get? "limit" = some text) (hn : (Json.str text).checkInteger = .ok n)
      (h0 : 0 ≤ n) : AsksLimit r (some n)

/-- A request asks for one limit at most. -/
theorem AsksLimit.unique {limit limit' : Option Int} (h : AsksLimit r limit) (h' : AsksLimit r limit') : limit = limit' := by
  cases h with
  | absent ha =>
    cases h' with
    | absent => rfl
    | read ha' =>
      rw [ha] at ha'
      cases ha'
  | read ha hn =>
    cases h' with
    | absent ha' =>
      rw [ha] at ha'
      cases ha'
    | read ha' hn' =>
      rw [ha] at ha'
      cases ha'
      rw [hn] at hn'
      cases hn'
      rfl

/-- The limit that passes its check is the one that is asked for. -/
theorem limitOf_eq_ok_iff {limit : Option Int} : limitOf r = .ok limit ↔ AsksLimit r limit := by
  have hf := r.get?_parameterFields "limit"
  cases hl : r.parameters.get? "limit" with
  | none =>
    rw [hl, Option.map_none] at hf
    rw [limitOf, Json.optional_of_missing (by simpa using hf)]
    constructor
    · rintro ⟨⟩
      exact .absent hl
    · rintro (_ | ⟨h, -, -⟩)
      · rfl
      · rw [hl] at h
        cases h
  | some text =>
    rw [hl, Option.map_some] at hf
    have hread : limitOf r = .ok limit ↔ checkLimit (.str text) = .ok limit := by
      have hhas : Entries.has r.parameterFields "limit" = true := by rw [Entries.has, hf]; rfl
      rw [limitOf, Json.optional, List.find?_cons_of_pos hhas]
      constructor
      · intro h
        obtain ⟨v, hv, hc⟩ := Json.of_required h
        rw [hf] at hv
        cases hv
        exact hc
      · exact Json.required_of_get? hf
    rw [hread, checkLimit_eq_ok_iff]
    constructor
    · rintro ⟨n, hn, h0, rfl⟩
      exact .read hl hn h0
    · rintro (h | ⟨h, hn, h0⟩)
      · rw [hl] at h
        cases h
      · rw [hl] at h
        cases h
        exact ⟨_, hn, h0, rfl⟩

/-- A text that has to be there is the parameter of its name. -/
theorem textOf_eq_ok_iff {k text : String} : textOf r k = .ok text ↔ r.parameters.get? k = some text := by
  have hf := r.get?_parameterFields k
  constructor
  · intro h
    obtain ⟨v, hv, hc⟩ := Json.of_required h
    rw [hf] at hv
    obtain ⟨t, ht, rfl⟩ := Option.map_eq_some_iff.1 hv
    cases hc
    exact ht
  · intro h
    rw [h, Option.map_some] at hf
    exact Json.required_of_get? hf rfl

/-- A text that may be missing passes its check. -/
theorem optional_text (r : WebRequest) (k : String) :
    Json.optional (fun v => v.checkText.map some) r.parameterFields [k] none = .ok (r.parameters.get? k) := by
  have hf := r.get?_parameterFields k
  cases hk : r.parameters.get? k with
  | none =>
    rw [hk, Option.map_none] at hf
    exact Json.optional_of_missing (by simpa using hf)
  | some text =>
    rw [hk, Option.map_some] at hf
    exact Json.optional_of_first hf rfl

/-! ## Numbers that can be written -/

/-- A limit that is asked for is no negative number. -/
theorem AsksLimit.nonneg {limit : Option Int} (h : AsksLimit r limit) : ∀ n ∈ limit, 0 ≤ n := by
  cases h with
  | absent _ => exact fun n hn => by cases hn
  | read _ _ h0 => exact fun n hn => by cases hn; exact h0

/-- Beside texts only the limit has to be written, and the greatest one is small. -/
theorem isWritable_passthrough {limit : Option Int} (h : ∀ n ∈ limit, 0 ≤ n) (extra : Entries (Option String)) :
    (passthrough limit extra).isWritable = true := by
  refine (Passthrough.Texts.isWritable_iff (t := ⟨Passthrough.validLimit limit, none, extra⟩)).2 fun n hn => ?_
  obtain ⟨hm, hle⟩ := Option.filter_eq_some_iff.1 hn
  have hnonneg := h n hm
  have hmax : n ≤ 300 := of_decide_eq_true hle
  exact Nat.lt_of_lt_of_le (show n.natAbs < 10 ^ 3 by omega) (Nat.pow_le_pow_right (by decide) (by decide))

/-- The parameters of an inspection of nodes and edges can be written. -/
theorem isWritable_of_nodesEdges {p : Passthrough} (h : nodesEdgesParameters r = .ok p) : p.isWritable = true := by
  obtain ⟨⟨limit, label⟩, hb, rfl⟩ := map_eq_ok h
  exact isWritable_passthrough (limitOf_eq_ok_iff.1 (Checked.both_eq_ok_iff.1 hb).1).nonneg _

/-- The parameters of an inspection of the nodes with a label can be written. -/
theorem isWritable_of_nodesByLabel {p : Passthrough} (h : nodesByLabelParameters r = .ok p) : p.isWritable = true := by
  obtain ⟨⟨label, limit⟩, hb, rfl⟩ := map_eq_ok h
  exact isWritable_passthrough (limitOf_eq_ok_iff.1 (Checked.both_eq_ok_iff.1 hb).2).nonneg _

/-- The single parameter of an inspection can be written. -/
theorem isWritable_of_single {k : String} {p : Passthrough} (h : singleParameter r k = .ok p) : p.isWritable = true := by
  obtain ⟨value, -, rfl⟩ := map_eq_ok h
  exact isWritable_passthrough (fun n hn => by cases hn) _

end Service

end HelixGateway
