import HelixGateway.Proofs.Decimal.Positional
import HelixGateway.Proofs.Text.NameChar
import HelixGateway.Validation
import Mathlib.Data.List.Basic

/-!
# Integers in texts

A text may stand for an integer: digits, behind a sign or not, with zeros in front or not, before a fraction of zeros or not,
and white space around all that. The check of an integer reads such a text as what its digits stand for by their places.

Main statement: `checkInteger_of_spells`.
-/

namespace HelixGateway.Json

open Decimal Text

/-- The signs in front of a number, and whether they make it negative. -/
inductive IsSign : List Char → Bool → Prop where
  | none : IsSign [] false
  | plus : IsSign ['+'] false
  | minus : IsSign ['-'] true

/-- What may follow the digits of an integer: nothing, or a point and zeros. -/
inductive IsZeroFraction : List Char → Prop where
  | none : IsZeroFraction []
  | zeros {zs : List Char} (hne : zs ≠ []) (h : ∀ c ∈ zs, c = '0') : IsZeroFraction ('.' :: zs)

/-- The texts of an integer. -/
inductive SpellsInteger : List Char → ℤ → Prop where
  | intro {before sign ds fraction behind : List Char} {negative : Bool} (hb : ∀ c ∈ before, isSpace c = true)
      (hs : IsSign sign negative) (hd : IsDigits ds) (hf : IsZeroFraction fraction) (ha : ∀ c ∈ behind, isSpace c = true) :
      SpellsInteger (before ++ (sign ++ (ds ++ fraction) ++ behind)) (signed negative (placeValue ds))

/-! ## White space -/

/-- White space around a text is trimmed away, and nothing else. -/
theorem trimSpace_append {before s behind : List Char} (hb : ∀ c ∈ before, isSpace c = true)
    (ha : ∀ c ∈ behind, isSpace c = true) (hs : ∀ c ∈ s, isSpace c = false) (hne : s ≠ []) :
    trimSpace (before ++ (s ++ behind)) = s := by
  have hdrop : (before ++ (s ++ behind)).dropWhile isSpace = s ++ behind := by
    rw [List.dropWhile_append_of_pos hb, dropWhile_eq_self_iff, List.head?_append_of_ne_nil s hne]
    exact fun c hc => hs c (List.mem_of_head? hc)
  have hend : dropEndWhile isSpace (s ++ behind) = dropEndWhile isSpace s := by
    rw [dropEndWhile, List.reverse_append, List.dropWhile_append_of_pos fun c hc => ha c (List.mem_reverse.1 hc)]
    rfl
  rw [trimSpace, hdrop, hend]
  exact dropEndWhile_eq_self_iff.2 fun c hc => hs c (List.mem_of_getLast? hc)

/-! ## Zeros in front and behind -/

variable {ds fraction : List Char}

/-- Digits without zeros in front, but for a single zero. -/
structure IsPlain (ds : List Char) : Prop where
  digits : IsDigits ds
  leading : ds.head? = some '0' → ds.length = 1

theorem isDigit_of_ne_zero {c : Char} (hd : isDigit c = true) (h : c ≠ '0') : isLeading c = true := by
  rw [isLeading, hd, bne_iff_ne.2 h]
  rfl

/-- Behind a zero, all further zeros are dropped. -/
theorem dropZerosFrom?_digits (hd : ∀ c ∈ ds, isDigit c = true) (hf : IsZeroFraction fraction) :
    ∃ es, dropZerosFrom? '0' (ds ++ fraction) = some (es ++ fraction) ∧ IsPlain es ∧ placeValue es = placeValue ('0' :: ds) ∧
      es.length ≤ ds.length + 1 := by
  have hzero : ∀ ds : List Char, placeValue ('0' :: ds) = placeValue ds := fun ds => by
    rw [← digitsValue_eq_placeValue, ← digitsValue_eq_placeValue]
    rfl
  induction ds with
  | nil =>
    have hplain : IsPlain ['0'] := ⟨isDigits_iff.2 (by decide), fun _ => rfl⟩
    refine ⟨['0'], ?_, hplain, rfl, le_rfl⟩
    cases hf with
    | none => rfl
    | zeros hne h => rfl
  | cons c ds ih =>
    have hc := hd c List.mem_cons_self
    rw [List.cons_append, dropZerosFrom?]
    -- a zero is dropped, and any other digit stays with all that follows it
    by_cases h0 : c = '0'
    · subst h0
      obtain ⟨es, he, hp, hv, hl⟩ := ih fun x hx => hd x (List.mem_cons_of_mem _ hx)
      refine ⟨es, by rw [if_pos (Or.inl rfl), he], hp, ?_, by rw [List.length_cons]; omega⟩
      rw [hv, hzero, hzero, hzero]
    · have hlow : c ≠ '_' := by
        rintro rfl
        exact absurd hc (by decide)
      have hdigits : IsDigits (c :: ds) := ⟨List.cons_ne_nil _ _, fun x hx => isDigit_iff.1 (hd x hx)⟩
      refine ⟨c :: ds, ?_, ⟨hdigits, fun h => absurd (Option.some.inj h) h0⟩, (hzero _).symm, Nat.le_succ _⟩
      rw [if_neg (not_or.2 ⟨h0, hlow⟩), if_pos (isDigit_of_ne_zero hc h0)]
      rfl

/-- Zeros in front are dropped and the number stays the same; what follows the digits is kept. -/
theorem dropZeros?_digits (hd : IsDigits ds) (hf : IsZeroFraction fraction) :
    ∃ es, dropZeros? (ds ++ fraction) = some (es ++ fraction) ∧ IsPlain es ∧ placeValue es = placeValue ds ∧
      es.length ≤ ds.length := by
  cases ds with
  | nil => exact absurd rfl hd.nonempty
  | cons c ds =>
    rw [List.cons_append, dropZeros?]
    by_cases h0 : c = '0'
    · subst h0
      obtain ⟨es, he, hp, hv, hl⟩ := dropZerosFrom?_digits (fun x hx => hd.isDigit x (List.mem_cons_of_mem _ hx)) hf
      exact ⟨es, by rw [if_pos rfl, he], hp, hv, hl⟩
    · refine ⟨c :: ds, ?_, ⟨hd, fun h => absurd (Option.some.inj h) h0⟩, rfl, le_rfl⟩
      rw [if_neg h0, if_pos (isDigit_of_ne_zero (hd.isDigit c List.mem_cons_self) h0)]
      rfl

/-- A fraction of zeros is dropped. -/
theorem dropZeroFraction_digits (hd : IsDigits ds) (hf : IsZeroFraction fraction) :
    dropZeroFraction (ds ++ fraction) = ds := by
  have hpos : ∀ x ∈ ds, (x != '.') = true := fun x hx => bne_iff_ne.2 (hd.ne (by decide) x hx)
  rw [dropZeroFraction, List.dropWhile_append_of_pos hpos, List.takeWhile_append_of_pos hpos]
  cases hf with
  | none => exact List.append_nil ds
  | @zeros zs hne h =>
    have hall : (zs.all (· == '0') && !zs.isEmpty) = true := by
      rw [Bool.and_eq_true, List.all_eq_true, Bool.not_eq_true', List.isEmpty_eq_false_iff]
      exact ⟨fun c hc => beq_iff_eq.2 (h c hc), hne⟩
    show (if (zs.all (· == '0') && !zs.isEmpty) = true then ds ++ ('.' :: zs).takeWhile (· != '.') else _) = ds
    rw [if_pos hall]
    exact List.append_nil ds

/-- Digits without low lines are one group. -/
theorem joinGroups?_digits (hd : IsDigits ds) : joinGroups? ds = some ds := by
  have hne : ∀ x ∈ ds, x ≠ '_' := hd.ne (by decide)
  have hmem : '_' ∉ ds := fun h => hne _ h rfl
  rw [joinGroups?, if_neg, List.filter_eq_self.2 fun x hx => bne_iff_ne.2 (hne x hx)]
  rintro (h | h | h)
  · exact hmem (List.mem_of_head? h)
  · exact hmem (List.mem_of_getLast? h)
  · exact hmem ((occurs_iff.1 h).subset List.mem_cons_self)

/-! ## Whole texts -/

/-- Digits without zeros in front are read as the number they stand for, with its sign. -/
theorem plainInteger?_digits (hp : IsPlain ds) {negative : Bool} (hl : ds.length + negative.toNat ≤ maxDigits) :
    plainInteger? (if negative then '-' :: ds else ds) = some (signed negative (placeValue ds)) := by
  obtain ⟨hempty, hall⟩ := isDigits_iff.1 hp.digits
  have hlead : (ds.head? == some '0' && ds.length != 1) = false := by
    by_cases h : ds.head? = some '0'
    · rw [hp.leading h]
      simp
    · rw [beq_eq_false_iff_ne.2 h, Bool.false_and]
  cases negative with
  | true =>
    have hlen : ¬ maxDigits < ('-' :: ds).length := Nat.not_lt.2 hl
    show plainInteger? ('-' :: ds) = _
    rw [plainInteger?, hempty, hall, hlead, decide_eq_false hlen, digitsValue_eq_placeValue]
    rfl
  | false =>
    have hlen : ¬ maxDigits < ds.length := Nat.not_lt.2 hl
    show plainInteger? ds = _
    rw [plainInteger?, hempty, hall, hlead, decide_eq_false hlen, digitsValue_eq_placeValue]
    · rfl
    · rintro es rfl
      exact absurd rfl (hp.digits.ne (by decide) '-' List.mem_cons_self)

theorem IsSign.readSign {sign : List Char} {negative : Bool} (hs : IsSign sign negative) (hd : IsDigits ds)
    (r : List Char) : readSign (sign ++ (ds ++ r)) = (negative, ds ++ r) := by
  cases hs with
  | none => exact readSign_digits hd r
  | plus => rfl
  | minus => rfl

theorem not_isSpace_of_isDigit {c : Char} (h : isDigit c = true) : isSpace c = false := by
  rw [isSpace, not_isBlank_of_isDigit h, Bool.false_and]

/-- There is no white space inside the text of an integer. -/
theorem not_isSpace {sign : List Char} {negative : Bool} (hs : IsSign sign negative) (hd : IsDigits ds)
    (hf : IsZeroFraction fraction) : ∀ c ∈ sign ++ (ds ++ fraction), isSpace c = false := by
  intro c hc
  rw [List.mem_append, List.mem_append] at hc
  rcases hc with hc | hc | hc
  · cases hs with
    | none => cases hc
    | plus => rw [List.mem_singleton.1 hc]; decide
    | minus => rw [List.mem_singleton.1 hc]; decide
  · exact not_isSpace_of_isDigit (hd.isDigit c hc)
  · cases hf with
    | none => cases hc
    | zeros hne h =>
      rcases List.mem_cons.1 hc with rfl | hc
      · decide
      · rw [h c hc]
        decide

/-- The text of an integer is read as it, if it is not too long. -/
theorem checkInteger_of_spells {s : String} {n : ℤ} (h : SpellsInteger s.toList n) (hl : s.length ≤ maxDigits) :
    (Json.str s).checkInteger = .ok n := by
  have hshort : startsTooLong s.toList = false := by
    unfold startsTooLong
    rw [Bool.and_eq_false_iff, decide_eq_false_iff_not, String.length_toList]
    exact Or.inr (by omega)
  have hread : writtenInteger? s.toList = some n := by
    rw [← String.length_toList] at hl
    generalize s.toList = text at h hl
    obtain ⟨hb, hs, hd, hf, ha⟩ := h
    rename_i before sign ds fraction behind negative
    obtain ⟨es, hes, hp, hv, hle⟩ := dropZeros?_digits hd hf
    have hne : sign ++ (ds ++ fraction) ≠ [] := by simp [hd.nonempty]
    have hhead : ¬ (ds ++ fraction).head? = some '-' := by
      rw [List.head?_append_of_ne_nil ds hd.nonempty]
      exact fun hm => hd.ne (by decide) '-' (List.mem_of_head? hm) rfl
    have hfit : es.length + negative.toNat ≤ maxDigits := by
      have hsign : sign.length ≥ negative.toNat := by cases hs <;> decide
      simp only [List.length_append] at hl
      omega
    simp only [writtenInteger?, trimSpace_append hb ha (not_isSpace hs hd hf) hne, hs.readSign hd, if_neg hhead, hes,
      Option.bind_some, dropZeroFraction_digits hp.digits hf, joinGroups?_digits hp.digits]
    rw [plainInteger?_digits hp hfit, hv]
  simp only [checkInteger, hshort, hread]
  rfl

end HelixGateway.Json
