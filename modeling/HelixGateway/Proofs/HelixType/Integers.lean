import HelixGateway.HelixType.Coercion
import HelixGateway.Proofs.Decimal.Rounding
import HelixGateway.Proofs.Parameters.PathValue
import HelixGateway.Proofs.Text.NameChar

/-!
# Integers of a width

The text of an integer is a sign, which may be missing, and digits. The unsigned types know no minus sign. Leading zeros say
nothing, but they count among the digits, of which there may be no more than 4300. A text is read as an integer of a type just
if it is such a text of an integer in the range of the type, and every other one is refused. The 128-bit integers are read in
the same way, and then become the nearest doubles.

Main statements: `readInteger_eq_ok_iff`, `coerce_integers`.
-/

namespace HelixGateway

open Decimal
open Text (dropFinalNewline dropFinalNewline_of_not_mem)

/-- The ranges of the types whose values are integers. -/
def ScalarType.range? : ScalarType → Option HelixType.IntegerRange
  | .i32 => some ⟨true, -2 ^ 31, 2 ^ 31 - 1⟩
  | .i64 => some ⟨true, -2 ^ 63, 2 ^ 63 - 1⟩
  | .u32 => some ⟨false, 0, 2 ^ 32 - 1⟩
  | .u64 => some ⟨false, 0, 2 ^ 64 - 1⟩
  | _ => none

namespace HelixType

/-! ## Texts of integers -/

/-- The texts of an integer: one to 4300 digits, behind a sign or not. A minus sign has to be allowed. -/
inductive Writes (minusAllowed : Bool) : List Char → ℤ → Prop where
  | bare {ds : List Char} (h : IsDigits ds) (hl : ds.length ≤ 4300) : Writes minusAllowed ds (placeValue ds)
  | plus {ds : List Char} (h : IsDigits ds) (hl : ds.length ≤ 4300) : Writes minusAllowed ('+' :: ds) (placeValue ds)
  | minus {ds : List Char} (h : IsDigits ds) (hl : ds.length ≤ 4300) (hm : minusAllowed = true) :
      Writes minusAllowed ('-' :: ds) (-placeValue ds)

/-- A text of an integer that lies in a range. -/
structure IntegerRange.Holds (range : IntegerRange) (s : List Char) (n : ℤ) : Prop where
  writes : Writes range.minusAllowed s n
  least : range.least ≤ n
  greatest : n ≤ range.greatest

theorem not_isBlank_of_isDigits {ds : List Char} (h : IsDigits ds) : ∀ c ∈ ds, Text.isBlank c = false :=
  fun c hc => Text.not_isBlank_of_isDigit (h.isDigit c hc)

/-- There is no blank in the text of an integer. -/
theorem Writes.not_isBlank {minusAllowed : Bool} {s : List Char} {n : ℤ} (h : Writes minusAllowed s n) :
    ∀ c ∈ s, Text.isBlank c = false := by
  cases h with
  | bare h => exact not_isBlank_of_isDigits h
  | plus h => exact List.forall_mem_cons.2 ⟨by decide, not_isBlank_of_isDigits h⟩
  | minus h => exact List.forall_mem_cons.2 ⟨by decide, not_isBlank_of_isDigits h⟩

/-- An integer is written by its decimal digits. -/
theorem writes_toString {minusAllowed : Bool} {n : ℤ} (hm : n < 0 → minusAllowed = true)
    (hlen : (Nat.toDigits 10 n.natAbs).length ≤ 4300) : Writes minusAllowed (toString n).toList n := by
  have hv := placeValue_toDigits n.natAbs
  have hd := isDigits_toDigits n.natAbs
  rw [toList_toString]
  by_cases hn : n < 0
  · have h := Writes.minus hd hlen (hm hn)
    rw [hv, show -(n.natAbs : ℤ) = n by omega] at h
    rwa [if_pos hn]
  · have h : Writes minusAllowed _ _ := .bare hd hlen
    rw [hv, show (n.natAbs : ℤ) = n by omega] at h
    rwa [if_neg hn]

/-- A text has the parts of an integer exactly if it is a sign that is allowed and digits, one final line feed aside. -/
theorem integerParts?_eq_some_iff {minusAllowed negative : Bool} {s ds : List Char} :
    integerParts? minusAllowed s = some (negative, ds) ↔
      readSign (dropFinalNewline s) = (negative, ds) ∧ (negative = true → minusAllowed = true) ∧ IsDigits ds := by
  obtain ⟨negative', ds', hr⟩ : ∃ negative' ds', readSign (dropFinalNewline s) = (negative', ds') := ⟨_, _, rfl⟩
  have hb : ((negative' && !minusAllowed) || ds'.isEmpty || !ds'.all Text.isDigit) = false ↔
      (negative' = true → minusAllowed = true) ∧ IsDigits ds' := by
    rw [isDigits_iff]
    cases negative' <;> cases minusAllowed <;> simp
  simp only [integerParts?, hr]
  split
  · rename_i h
    refine ⟨nofun, ?_⟩
    rintro ⟨he, hm, hd⟩
    cases he
    rw [hb.2 ⟨hm, hd⟩] at h
    cases h
  · rename_i h
    constructor
    · intro he
      cases he
      exact ⟨rfl, hb.1 (Bool.not_eq_true _ ▸ h)⟩
    · rintro ⟨he, -⟩
      rw [he]

/-- A text writes an integer exactly if it has its parts, of no more digits than are read. -/
theorem writes_iff {minusAllowed : Bool} {s : List Char} {n : ℤ} :
    Writes minusAllowed (dropFinalNewline s) n ↔
      ∃ negative ds, integerParts? minusAllowed s = some (negative, ds) ∧ ds.length ≤ maxDigits ∧
        signed negative (digitsValue ds) = n := by
  simp only [integerParts?_eq_some_iff, digitsValue_eq_placeValue]
  generalize dropFinalNewline s = u
  constructor
  · rintro (⟨h, hl⟩ | ⟨h, hl⟩ | ⟨h, hl, hm⟩)
    · have hs := readSign_digits h []
      rw [List.append_nil] at hs
      exact ⟨false, _, ⟨hs, nofun, h⟩, hl, rfl⟩
    · exact ⟨false, _, ⟨rfl, nofun, h⟩, hl, rfl⟩
    · exact ⟨true, _, ⟨rfl, fun _ => hm, h⟩, hl, rfl⟩
  · rintro ⟨negative, ds, ⟨hs, hm, h⟩, hl, rfl⟩
    unfold readSign at hs
    split at hs
    · cases hs
      exact .minus h hl (hm rfl)
    · cases hs
      exact .plus h hl
    · cases hs
      exact .bare h hl

/-- What an integer that is read was made of. -/
theorem of_readInteger_eq_ok {range : IntegerRange} {s : List Char} {n : ℤ} (h : readInteger range s = .ok n) :
    ∃ negative ds k, integerParts? range.minusAllowed s = some (negative, ds) ∧ ofDigits ds = .ok k ∧
      signed negative k = n := by
  unfold readInteger at h
  split at h
  · cases h
  · split at h
    · cases h
    · rename_i negative ds hp
      split at h
      · cases h
      · rename_i k hk
        refine ⟨negative, ds, k, hp, hk, ?_⟩
        simp only at h
        split at h
        · cases h
        · split at h
          · cases h
          · exact Except.ok.inj h

/-- An integer of a range is read from its parts. -/
theorem readInteger_of_parts {range : IntegerRange} {s ds : List Char} {negative : Bool} {k : ℕ}
    (hp : integerParts? range.minusAllowed s = some (negative, ds)) (hk : ofDigits ds = .ok k)
    (hl : range.least ≤ signed negative k) (hg : signed negative k ≤ range.greatest) :
    readInteger range s = .ok (signed negative k) := by
  have hs : ¬ s.isEmpty = true := by
    intro hs
    rw [List.isEmpty_iff.1 hs] at hp
    cases hp
  rw [readInteger, if_neg hs, hp]
  simp only [hk]
  rw [if_neg (by omega), if_neg (by omega)]

/-- **Integers are read exactly**, a line feed at the end of the text not being looked at. -/
theorem readInteger_eq_ok_iff {range : IntegerRange} {s : List Char} {n : ℤ} :
    readInteger range s = .ok n ↔ range.Holds (dropFinalNewline s) n := by
  constructor
  · intro h
    obtain ⟨hl, hg⟩ := inRange_of_readInteger h
    obtain ⟨negative, ds, k, hp, hk, hn⟩ := of_readInteger_eq_ok h
    obtain ⟨hlen, rfl⟩ := ofDigits_eq_ok_iff.1 hk
    exact ⟨writes_iff.2 ⟨negative, ds, hp, hlen, hn⟩, hl, hg⟩
  · rintro ⟨hw, hl, hg⟩
    obtain ⟨negative, ds, hp, hlen, rfl⟩ := writes_iff.1 hw
    exact readInteger_of_parts hp (ofDigits_eq_ok_iff.2 ⟨hlen, rfl⟩) hl hg

/-! ## Values of integer types -/

/-- The refusal of a text as a value of a scalar type; it carries both. -/
def Refused (value : String) (t : ScalarType) : Prop :=
  ∃ cause, coerce value (.scalar t) = .error (.conversion ⟨value, (HelixType.scalar t).text, cause⟩)

theorem coerce_scalar_ok {value : String} {t : ScalarType} {v : Json} :
    coerce value (.scalar t) = .ok v ↔ coerceScalar value.toList t = .ok v := by
  rw [coerce]
  cases coerceScalar value.toList t <;> simp [Except.mapError]

/-- A scalar type reads a text or refuses it. -/
theorem refused_of_forall_ne {value : String} {t : ScalarType} (h : ∀ v, coerce value (.scalar t) ≠ .ok v) :
    Refused value t := by
  cases hc : coerceScalar value.toList t with
  | ok v => exact absurd (coerce_scalar_ok.2 hc) (h v)
  | error cause =>
    refine ⟨cause, ?_⟩
    rw [coerce, hc]
    rfl

/-- A value of an integer type is read as an integer of its range. -/
theorem coerceScalar_of_range? {t : ScalarType} {range : IntegerRange} (h : t.range? = some range) (s : List Char) :
    coerceScalar s t = (readInteger range s).map .int := by
  cases t <;> cases h <;> rfl

/-- The ranges with negative numbers allow a minus sign, and no integer of a range has many digits. -/
theorem of_range? {t : ScalarType} {range : IntegerRange} (h : t.range? = some range) :
    (range.least < 0 → range.minusAllowed = true) ∧ -10 ^ 20 < range.least ∧ range.greatest < 10 ^ 20 := by
  cases t <;> cases h <;> decide

section NoNewline

variable {value : String} {range : IntegerRange}

/-- Without a line feed, an integer of a range is read exactly from its texts. -/
theorem readInteger_of_not_mem (hv : '\n' ∉ value.toList) {n : ℤ} :
    readInteger range value.toList = .ok n ↔ range.Holds value.toList n := by
  rw [readInteger_eq_ok_iff, dropFinalNewline_of_not_mem hv]

/-- Without a line feed, an integer type takes exactly the texts of the integers in its range. -/
theorem coerce_eq_int_iff (hv : '\n' ∉ value.toList) {t : ScalarType} (ht : t.range? = some range) {n : ℤ} :
    coerce value (.scalar t) = .ok (.int n) ↔ range.Holds value.toList n := by
  rw [coerce_scalar_ok, coerceScalar_of_range? ht, ← readInteger_of_not_mem hv]
  constructor
  · intro h
    obtain ⟨m, hm, he⟩ := map_eq_ok h
    cases he
    exact hm
  · intro h
    rw [h]
    rfl

/-- A text of no integer in the range is refused, whatever would be made of the integer. -/
theorem refused_of_not_holds (hv : '\n' ∉ value.toList) {t : ScalarType} {f : ℤ → Json}
    (ht : coerceScalar value.toList t = (readInteger range value.toList).map f) (h : ∀ n, ¬ range.Holds value.toList n) :
    Refused value t := by
  refine refused_of_forall_ne fun v hc => ?_
  rw [coerce_scalar_ok, ht] at hc
  obtain ⟨n, hn, -⟩ := map_eq_ok hc
  exact h n ((readInteger_of_not_mem hv).1 hn)

/-- The 128-bit integers become doubles, which they are all near enough to. -/
theorem coerce_u128 (hv : '\n' ∉ value.toList) {n : ℤ} (h : (unsignedRange 128).Holds value.toList n) :
    ∃ x : FiniteDouble, coerce value (.scalar .u128) = .ok (.real (.finite x)) ∧ x.IsNearest n := by
  have hc : coerce value (.scalar .u128) = .ok (.real (.ofRatio false n.toNat 1)) := by
    rw [coerce_scalar_ok, coerceScalar, (readInteger_of_not_mem hv).2 h]
    rfl
  have hn := Binary64.roundsTo_ofInt n
  have h0 : 0 ≤ n := h.least
  rw [decide_eq_false (not_lt.2 h0), ← Int.toNat_of_nonneg h0, Int.natAbs_natCast, Int.toNat_of_nonneg h0] at hn
  obtain ⟨x, hx⟩ := Binary64.exists_finite (isFinite_of_coerce hc)
  rw [← hx] at hn hc
  exact ⟨x, hc, hn.isNearest⟩

end NoNewline

/-- Every integer of a type is read back from its digits. -/
theorem coerce_toString {t : ScalarType} {range : IntegerRange} (ht : t.range? = some range) {n : ℤ}
    (hl : range.least ≤ n) (hg : n ≤ range.greatest) : coerce (toString n) (.scalar t) = .ok (.int n) := by
  obtain ⟨hm, hleast, hgreatest⟩ := of_range? ht
  have hlen : (Nat.toDigits 10 n.natAbs).length ≤ 20 :=
    (Nat.length_toDigits_le_iff (by decide) (by decide)).2 (by omega)
  have hw : Writes range.minusAllowed (toString n).toList n :=
    writes_toString (fun h0 => hm (by omega)) (hlen.trans (by decide))
  exact (coerce_eq_int_iff (fun hb => absurd (hw.not_isBlank _ hb) (by decide)) ht).2 ⟨hw, hl, hg⟩

/-- **Integers are read exactly.** A text without a line feed is an integer of a type just if it is written as one, and else it
is refused. -/
theorem coerce_integers {value : String} (hv : '\n' ∉ value.toList) :
    (∀ t range, ScalarType.range? t = some range →
      (∀ n, coerce value (.scalar t) = .ok (.int n) ↔ range.Holds value.toList n) ∧
      ((∀ n, ¬ range.Holds value.toList n) → Refused value t) ∧
      ∀ n, range.least ≤ n → n ≤ range.greatest → coerce (toString n) (.scalar t) = .ok (.int n)) ∧
    (∀ n, IntegerRange.Holds ⟨false, 0, 2 ^ 128 - 1⟩ value.toList n →
      ∃ x : FiniteDouble, coerce value (.scalar .u128) = .ok (.real (.finite x)) ∧ x.IsNearest n) ∧
    ((∀ n, ¬ IntegerRange.Holds ⟨false, 0, 2 ^ 128 - 1⟩ value.toList n) → Refused value .u128) := by
  refine ⟨fun t range ht => ⟨?_, ?_, ?_⟩, ?_, ?_⟩
  · exact fun n => coerce_eq_int_iff hv ht
  · exact refused_of_not_holds hv (coerceScalar_of_range? ht _)
  · exact fun n hl hg => coerce_toString ht hl hg
  · exact fun n => coerce_u128 hv
  · exact refused_of_not_holds hv rfl

/-- Leading zeros and a plus sign say nothing. The unsigned types refuse every minus sign. -/
theorem coerce_leadingZeros : coerce "+0042" (.scalar .u32) = .ok (.int 42) ∧ Refused "-0" .u32 := by
  have hd : IsDigits ['0', '0', '4', '2'] := ⟨by decide, by decide⟩
  have hplus : IntegerRange.Holds ⟨false, 0, 2 ^ 32 - 1⟩ "+0042".toList 42 := ⟨.plus hd (by decide), by decide, by decide⟩
  refine ⟨(((coerce_integers (by decide)).1 .u32 _ rfl).1 42).2 hplus, ((coerce_integers (by decide)).1 .u32 _ rfl).2.1 ?_⟩
  rintro n ⟨hw, -, -⟩
  cases hw with
  | bare h => exact absurd (h.digits '-' (by decide)) (by decide)
  | minus h hl hm => cases hm

end HelixType

end HelixGateway
