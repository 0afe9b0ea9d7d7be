import HelixGateway.Proofs.HelixType.Numbers
import HelixGateway.Proofs.Json.Numeral
import HelixGateway.Proofs.Text.Separator

/-!
# Two ways to list numbers

Numbers that are written as JSON writes them may be listed as a JSON array or with commas alone. Both lists are read as the
same doubles, but that zero loses its minus sign where an array has it as an integer: each number in the range of doubles is
there as the nearest one, in its place, and the others are left out. That takes integers in range and of no more digits than
are read, since an array with another one has no numbers at all.

Main statement: `finiteNumbers_joined`.
-/

namespace HelixGateway

open Decimal
open Json (Numeral joined)

namespace Json.Numeral

open HelixType

variable (l : Numeral)

/-- The number is less than half a place above the greatest finite double, its sign aside. -/
def InRange : Prop := |l.value| < 2 ^ 1024 - 2 ^ 970

instance : DecidablePred InRange := fun l => inferInstanceAs (Decidable (|l.value| < 2 ^ 1024 - 2 ^ 970))

/-- Without fraction and exponent, a numeral stands for the integer of its digits. -/
theorem value_of_isInteger (h : l.IsInteger) : l.value = (signed l.negative (placeValue l.whole) : ℤ) := by
  obtain ⟨hf, he⟩ := h
  rw [value, literal, hf, he, Literal.value, cast_signed]
  simp

/-! ## One number -/

/-- The mantissa of a numeral is what stands before its exponent. -/
theorem readMantissa?_chars :
    readMantissa? (l.whole ++ (l.fractionChars ++ l.exponentChars)) = some (l.whole, l.fraction.getD [], l.exponentChars) := by
  have hw := l.stops_fractionChars stops_nil
  obtain ⟨hd, hp⟩ := l.stops_exponentChars stops_nil
  rw [List.append_nil] at hw hd hp
  have hne : l.whole.isEmpty = false := List.isEmpty_eq_false_iff.2 l.isDigits.nonempty
  simp only [readMantissa?, takeWhile_digits l.isDigits hw, dropWhile_digits l.isDigits hw]
  cases hf : l.fraction with
  | none =>
    rw [l.fractionChars_eq_nil hf, List.nil_append]
    split
    · rename_i he
      rw [he] at hp
      exact absurd rfl (hp '.' rfl)
    · simp [hne]
  | some ds =>
    have hc : l.fractionChars = '.' :: ds := by rw [fractionChars, hf]; rfl
    rw [hc]
    simp [takeWhile_digits (l.isFraction ds hf) hd, dropWhile_digits (l.isFraction ds hf) hd, hne]

theorem literal?_chars : literal? l.negative (l.whole ++ (l.fractionChars ++ l.exponentChars)) = some l.literal := by
  rw [literal?, readMantissa?_chars]
  cases he : l.exponent with
  | none =>
    rw [l.exponentChars_eq_nil he]
    simp [literal, he]
  | some e =>
    have hc : l.exponentChars = e.letter :: (e.sign ++ e.digits) := by rw [exponentChars, he]; rfl
    have hr := l.readExponent?_exponentChars stops_nil
    rw [List.append_nil, he, hc] at hr
    rw [hc]
    simp [hr, literal, he]

theorem spells_chars : Spells l.chars l.literal.toBinary64 := by
  refine .literal ?_ l.literal?_chars
  rw [chars]
  cases l.negative with
  | true => rfl
  | false => exact readSign_digits l.isDigits _

/-- A numeral is read as the double of its literal. -/
theorem readFloat_chars : readFloat l.chars = .ok l.literal.toBinary64 := by
  rw [readFloat_eq_ok_iff, Text.dropFinalNewline_of_not_mem]
  · exact l.spells_chars
  · intro h
    exact absurd (l.not_isBlank h) (by decide)

/-- What a number is read as is the nearest double. Integers have to be in range. -/
theorem exists_number? (h : l.IsInteger → l.InRange) : ∃ x, number? l.json = some x ∧ Binary64.RoundsTo l.value x := by
  by_cases hi : l.IsInteger
  · have hr := Binary64.roundsTo_ofInt (signed l.negative (placeValue l.whole))
    rw [← l.value_of_isInteger hi] at hr
    refine ⟨_, ?_, hr⟩
    rw [json_of_isInteger hi]
    exact if_pos (hr.isFinite_iff.2 (h hi))
  · refine ⟨l.literal.toBinary64, ?_, l.literal.roundsTo_toBinary64⟩
    rw [json_of_not_isInteger hi]
    rfl

end Json.Numeral

namespace HelixType

open Binary64 (RoundsTo)

variable {ls : List Numeral} {xs ys : List FiniteDouble}

/-! ## Nearest doubles -/

/-- Doubles are those of some numbers, if they are the nearest ones of the numbers in range, in order. -/
def NearestTo (ls : List Numeral) (xs : List FiniteDouble) : Prop :=
  List.Forall₂ (fun x l => x.IsNearest l.value) xs (ls.filter (·.InRange))

/-- What is finite once numbers are rounded are the nearest doubles of those in range. -/
theorem exists_nearestTo {ds : List Binary64} (h : List.Forall₂ (fun l x => RoundsTo l.value x) ls ds) :
    ∃ xs : List FiniteDouble, ds.filter (·.isFinite) = xs.map .finite ∧ NearestTo ls xs := by
  induction h with
  | nil => exact ⟨[], rfl, .nil⟩
  | @cons l x ls ds hr _ ih =>
    obtain ⟨xs, hx, hn⟩ := ih
    -- a number is in range exactly if its double is kept
    by_cases hl : l.InRange
    · obtain ⟨y, rfl⟩ := Binary64.exists_finite (hr.isFinite_iff.2 hl)
      refine ⟨y :: xs, ?_, ?_⟩
      · rw [List.filter_cons_of_pos rfl, hx]
        rfl
      · rw [NearestTo, List.filter_cons_of_pos (by exact decide_eq_true hl)]
        exact .cons hr.isNearest hn
    · refine ⟨xs, ?_, ?_⟩
      · rw [List.filter_cons_of_neg (fun hf => hl (hr.isFinite_iff.1 hf)), hx]
      · rw [NearestTo, List.filter_cons_of_neg (by rwa [decide_eq_true_eq])]
        exact hn

/-- The nearest doubles of the same numbers are the same, but for the signs of zeros. -/
theorem NearestTo.same (hx : NearestTo ls xs) (hy : NearestTo ls ys) :
    List.Forall₂ (fun x y => x = y ∨ (x.mantissa = 0 ∧ y.mantissa = 0)) xs ys := by
  unfold NearestTo at hx hy
  generalize ls.filter (·.InRange) = ms at hx hy
  induction hx generalizing ys with
  | nil =>
    cases hy
    exact .nil
  | cons h _ ih =>
    cases hy with
    | cons h' hy => exact .cons (FiniteDouble.value_eq_value_iff.1 (h.unique h')) (ih hy)

/-! ## Arrays -/

/-- An array of numerals is read if its integers are in range. -/
theorem numbersOf_json (h : ∀ l ∈ ls, l.IsInteger → l.InRange) :
    numbersOf (ls.map (·.json)) = .ok ((ls.map (·.json)).filterMap number?) := by
  refine numbersOf_of_not_large fun n hm hn => ?_
  obtain ⟨l, hl, he⟩ := List.mem_map.1 hm
  obtain ⟨x, hx, -⟩ := l.exists_number? (h l hl)
  rw [he, number?, Binary64.ofInt?_eq_none_iff.2 hn] at hx
  cases hx

/-- The items of such an array are what its numerals are rounded to. -/
theorem roundsTo_json (h : ∀ l ∈ ls, l.IsInteger → l.InRange) :
    List.Forall₂ (fun l x => RoundsTo l.value x) ls ((ls.map (·.json)).filterMap number?) := by
  induction ls with
  | nil => exact .nil
  | cons l ls ih =>
    obtain ⟨x, hx, hr⟩ := l.exists_number? (h l List.mem_cons_self)
    rw [List.map_cons, List.filterMap_cons_some hx]
    exact .cons hr (ih fun m hm => h m (List.mem_cons_of_mem _ hm))

/-! ## Commas -/

/-- The number that a part between commas is, if it is one. -/
def partNumber? (part : List Char) : Option Binary64 :=
  match readFloat (Text.trim part) with
  | .ok x => some x
  | .error _ => none

/-- With blanks before it, a numeral is still read as a part between commas. -/
theorem partNumber?_chars {gap : List Char} (hg : ∀ c ∈ gap, Text.isBlank c = true) (l : Numeral) :
    partNumber? (gap ++ l.chars) = some l.literal.toBinary64 := by
  have ht : Text.trim (gap ++ l.chars) = l.chars := by
    have hs := @Text.trim_surrounded gap [] hg nofun l.chars
    rw [List.append_nil] at hs
    rw [hs, Text.trim_of_not_blank fun c => l.not_isBlank]
  rw [partNumber?, ht, l.readFloat_chars]

/-- The pieces of a list with commas are its numerals, the later ones with the blank before them. -/
theorem pieces_joined (l : Numeral) (ls : List Numeral) :
    Text.pieces (· == ',') (joined (l :: ls)) = l.chars :: ls.map ([' '] ++ ·.chars) := by
  have hj : joined (l :: ls) = Text.join [','] (l.chars :: (ls.map (·.chars)).map ([' '] ++ ·)) :=
    Text.join_cons ',' [' '] _ _
  rw [hj, List.map_map]
  refine Text.pieces_join (List.cons_ne_nil _ _) fun s hs => ?_
  rcases List.mem_cons.1 hs with rfl | hs
  · exact l.comma_not_mem
  · obtain ⟨m, -, rfl⟩ := List.mem_map.1 hs
    exact List.not_mem_cons_of_ne_of_not_mem (by decide) m.comma_not_mem

/-- A list with commas is read as the doubles of its numerals. -/
theorem commaNumbers_joined (ls : List Numeral) : commaNumbers (joined ls) = ls.map (·.literal.toBinary64) := by
  cases ls with
  | nil => rfl
  | cons l ls =>
    have hl : partNumber? l.chars = some l.literal.toBinary64 := @partNumber?_chars [] nofun l
    have hls : partNumber? ∘ (fun m : Numeral => [' '] ++ m.chars) = some ∘ fun m => m.literal.toBinary64 :=
      funext fun m => partNumber?_chars (by decide) m
    have hc : commaNumbers (joined (l :: ls)) = (Text.pieces (· == ',') (joined (l :: ls))).filterMap partNumber? := rfl
    rw [hc, pieces_joined, List.filterMap_cons_some hl, List.filterMap_map, hls, List.filterMap_eq_map]
    rfl

/-- Numbers with commas alone are no array, also where a number alone is JSON. -/
theorem listedNumbers_joined (ls : List Numeral) : listedNumbers (joined ls) = .ok (commaNumbers (joined ls)) := by
  unfold listedNumbers
  split
  · rename_i items hr
    have hh := Json.head?_of_read_arr hr
    cases ls with
    | nil => cases hh
    | cons l ls =>
      obtain ⟨t, ht⟩ := Json.exists_joined_append l ls []
      rw [List.append_nil] at ht
      rw [ht, l.skipGap_chars, List.head?_append_of_ne_nil _ l.chars_ne_nil] at hh
      rcases l.mem_chars (List.mem_of_head? hh) with h | h
      · exact absurd h (by decide)
      · exact absurd h (by decide)
  · rfl

/-- **Both lists have the same doubles.** For numbers as JSON writes them, the integers among them with no more than 4300
digits and in range, a JSON array and a list with commas are both read as the nearest doubles of the numbers in range, in
order. -/
theorem finiteNumbers_joined (h : ∀ l ∈ ls, l.IsInteger → l.whole.length ≤ 4300 ∧ l.InRange) :
    ∃ xs ys : List FiniteDouble,
      finiteNumbers ('[' :: (joined ls ++ [']'])) = .ok (xs.map .finite) ∧ NearestTo ls xs ∧
      finiteNumbers (joined ls) = .ok (ys.map .finite) ∧ NearestTo ls ys ∧
      List.Forall₂ (fun x y => x = y ∨ (x.mantissa = 0 ∧ y.mantissa = 0)) xs ys := by
  have hrange : ∀ l ∈ ls, l.IsInteger → l.InRange := fun l hl hi => (h l hl hi).2
  obtain ⟨xs, hx, hnx⟩ := exists_nearestTo (roundsTo_json hrange)
  have hrounds : List.Forall₂ (fun l x => RoundsTo l.value x) ls (ls.map (·.literal.toBinary64)) := by
    rw [List.forall₂_map_right_iff, List.forall₂_same]
    exact fun l _ => l.literal.roundsTo_toBinary64
  obtain ⟨ys, hy, hny⟩ := exists_nearestTo hrounds
  refine ⟨xs, ys, ?_, hnx, ?_, hny, hnx.same hny⟩
  · have hr : Json.read ('[' :: (joined ls ++ [']'])) = .ok (.arr (ls.map (·.json))) :=
      Json.read_joined fun l hl hi => (h l hl hi).1
    have hl : listedNumbers ('[' :: (joined ls ++ [']'])) = numbersOf (ls.map (·.json)) := by
      simp only [listedNumbers, hr]
    rw [finiteNumbers, hl, numbersOf_json hrange, ← hx]
    rfl
  · rw [finiteNumbers, listedNumbers_joined, commaNumbers_joined, ← hy]
    rfl

/-- One, zero with a minus sign, 2500 and a number that is too large. -/
def mixedNumerals : List Numeral := [
  ⟨false, ['1'], none, none, ⟨by decide, by decide⟩, by decide, nofun⟩,
  ⟨true, ['0'], none, none, ⟨by decide, by decide⟩, by decide, nofun⟩,
  ⟨false, ['2'], some ['5'], some ⟨'e', [], ['3'], .inl rfl, .inl rfl, ⟨by decide, by decide⟩⟩, ⟨by decide, by decide⟩,
    by decide, fun _ h => Option.some.inj h ▸ ⟨by decide, by decide⟩⟩,
  ⟨false, ['1'], none, some ⟨'E', ['+'], ['4', '0', '0'], .inr rfl, .inr (.inl rfl), ⟨by decide, by decide⟩⟩,
    ⟨by decide, by decide⟩, by decide, nofun⟩]

/-- An integer, a zero with a minus sign, a number with an exponent and one out of range are listed both ways. -/
theorem finiteNumbers_mixedNumerals :
    ∃ xs ys : List FiniteDouble,
      finiteNumbers "[1, -0, 2.5e3, 1E+400]".toList = .ok (xs.map .finite) ∧ NearestTo mixedNumerals xs ∧
      finiteNumbers "1, -0, 2.5e3, 1E+400".toList = .ok (ys.map .finite) ∧ NearestTo mixedNumerals ys ∧
      List.Forall₂ (fun x y => x = y ∨ (x.mantissa = 0 ∧ y.mantissa = 0)) xs ys := by
  refine @finiteNumbers_joined mixedNumerals fun l hl hi => ?_
  have hv := l.value_of_isInteger hi
  simp only [mixedNumerals, List.mem_cons, List.not_mem_nil, or_false] at hl
  rcases hl with rfl | rfl | rfl | rfl
  · refine ⟨by decide, ?_⟩
    have hone : |((1 : ℤ) : ℚ)| = 1 := by rw [Int.cast_one, abs_one]
    rw [Numeral.InRange, hv]
    exact hone.trans_lt Binary64.one_lt_bound
  · refine ⟨by decide, ?_⟩
    have hzero : |((0 : ℤ) : ℚ)| = 0 := by rw [Int.cast_zero, abs_zero]
    rw [Numeral.InRange, hv]
    exact hzero.trans_lt (zero_lt_one.trans Binary64.one_lt_bound)
  · cases hi.1
  · cases hi.2

end HelixType

end HelixGateway
