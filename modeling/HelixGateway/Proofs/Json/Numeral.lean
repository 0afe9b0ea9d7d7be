import HelixGateway.Json.Reader
import HelixGateway.Proofs.Decimal.Rounding
import HelixGateway.Proofs.Text.NameChar

/-!
# Numbers as JSON writes them

A number is written with or without a minus sign, with digits that start with a zero only where it is the only one, and then,
each of them if it is there, a point with digits and an exponent. From the start of a text a number is read up to where none of
its parts can go on, and it is read as an integer just if it has neither a point nor an exponent.

Main statements: `Numeral.readValue_chars`, `read_joined`.
-/

namespace HelixGateway.Json

open Decimal
open Text (isDigit)

/-! ## Written numbers -/

/-- An exponent as it is written. -/
structure ExponentPart where
  letter : Char
  sign : List Char
  digits : List Char
  isLetter : letter = 'e' ∨ letter = 'E'
  isSign : sign = [] ∨ sign = ['+'] ∨ sign = ['-']
  isDigits : IsDigits digits

/-- A number as it is written. -/
structure Numeral where
  negative : Bool
  whole : List Char
  fraction : Option (List Char)
  exponent : Option ExponentPart
  isDigits : IsDigits whole
  noLeadingZero : whole.head? = some '0' → whole = ['0']
  isFraction : ∀ ds ∈ fraction, IsDigits ds

namespace ExponentPart

def chars (e : ExponentPart) : List Char := e.letter :: (e.sign ++ e.digits)

def value (e : ExponentPart) : ℤ := signed (e.sign = ['-']) (placeValue e.digits)

end ExponentPart

namespace Numeral

def fractionChars (l : Numeral) : List Char := (l.fraction.map ('.' :: ·)).getD []

def exponentChars (l : Numeral) : List Char := (l.exponent.map (·.chars)).getD []

def chars (l : Numeral) : List Char :=
  (if l.negative then ['-'] else []) ++ (l.whole ++ (l.fractionChars ++ l.exponentChars))

/-- What a written number says. -/
def literal (l : Numeral) : Literal := ⟨l.negative, l.whole, l.fraction.getD [], (l.exponent.map (·.value)).getD 0⟩

/-- The number that is written. -/
def value (l : Numeral) : ℚ := l.literal.value

/-- An integer has neither a point nor an exponent. -/
def IsInteger (l : Numeral) : Prop := l.fraction = none ∧ l.exponent = none

/-- What a written number is read as. -/
def json (l : Numeral) : Json :=
  match l.fraction, l.exponent with
  | none, none => .int (signed l.negative (placeValue l.whole))
  | _, _ => .real l.literal.toBinary64

/-- An integer is read as the number of its digits, with its sign. -/
theorem json_of_isInteger {l : Numeral} (h : l.IsInteger) : l.json = .int (signed l.negative (placeValue l.whole)) := by
  rw [json, h.1, h.2]

theorem json_of_not_isInteger {l : Numeral} (h : ¬ l.IsInteger) : l.json = .real l.literal.toBinary64 := by
  unfold json
  split
  · rename_i hf he
    exact absurd ⟨hf, he⟩ h
  · rfl

end Numeral

/-! ## Parts of a number -/

/-- Where a number ends: what follows is nothing that could go on with it. -/
structure Stops (r : List Char) : Prop where
  digit : ∀ c ∈ r.head?, isDigit c = false
  point : ∀ c ∈ r.head?, c ≠ '.'
  letter : ∀ c ∈ r.head?, c ≠ 'e' ∧ c ≠ 'E'

variable {r : List Char}

theorem stops_nil : Stops [] := ⟨by simp, by simp, by simp⟩

/-- An exponent is read, up to what is no digit. -/
theorem ExponentPart.readExponent?_chars (e : ExponentPart) (hr : ∀ c ∈ r.head?, isDigit c = false) :
    readExponent? (e.chars ++ r) = some (e.value, r) := by
  have hs : readSign (e.sign ++ (e.digits ++ r)) = (decide (e.sign = ['-']), e.digits ++ r) := by
    rcases e.isSign with h | h | h
    · rw [h]
      exact readSign_digits e.isDigits r
    · rw [h]
      rfl
    · rw [h]
      rfl
  have hc : e.chars ++ r = e.letter :: (e.sign ++ (e.digits ++ r)) := by rw [chars, List.cons_append, List.append_assoc]
  rw [hc, readExponent?, if_pos e.isLetter]
  simp only [hs, takeWhile_digits e.isDigits hr, dropWhile_digits e.isDigits hr]
  split
  · rename_i hd
    exact absurd hd e.isDigits.nonempty
  · rw [value, digitsValue_eq_placeValue]

theorem readExponent?_eq_none (h : ∀ c ∈ r.head?, c ≠ 'e' ∧ c ≠ 'E') : readExponent? r = none := by
  cases r with
  | nil => rfl
  | cons c r => rw [readExponent?, if_neg (not_or.2 (h c rfl))]

/-- A fraction is read, up to what is no digit. -/
theorem readFraction?_chars {ds : List Char} (h : IsDigits ds) (hr : ∀ c ∈ r.head?, isDigit c = false) :
    readFraction? ('.' :: (ds ++ r)) = some (ds, r) := by
  simp only [readFraction?, takeWhile_digits h hr, dropWhile_digits h hr]
  split
  · exact absurd rfl h.nonempty
  · rfl

/-- Without a point there is no fraction. -/
theorem readFraction?_eq_none (h : ∀ c ∈ r.head?, c ≠ '.') : readFraction? r = none := by
  unfold readFraction?
  split
  · exact absurd rfl (h '.' rfl)
  · rfl

/-- Digits without a zero in front are read, up to what is no digit. -/
theorem readWhole?_chars {ds : List Char} (h : IsDigits ds) (hz : ds.head? = some '0' → ds = ['0'])
    (hr : ∀ c ∈ r.head?, isDigit c = false) : readWhole? (ds ++ r) = some (ds, r) := by
  have ht := takeWhile_digits h hr
  have hd := dropWhile_digits h hr
  cases ds with
  | nil => exact absurd rfl h.nonempty
  | cons c ds =>
    have hc := h.isDigit c List.mem_cons_self
    rw [List.cons_append] at ht hd ⊢
    rw [List.takeWhile_cons_of_pos hc, List.cons.injEq] at ht
    rw [List.dropWhile_cons_of_pos hc] at hd
    rw [readWhole?, if_pos hc]
    split
    · rename_i h0
      subst h0
      have hnil : ds = [] := (List.cons.inj (hz rfl)).2
      rw [hnil, List.nil_append]
    · rw [ht.2, hd]

namespace Numeral

variable (l : Numeral)

/-- Where the fraction ends there is neither a digit nor a point. -/
theorem stops_exponentChars (hr : Stops r) :
    (∀ c ∈ (l.exponentChars ++ r).head?, isDigit c = false) ∧ ∀ c ∈ (l.exponentChars ++ r).head?, c ≠ '.' := by
  unfold exponentChars
  cases l.exponent with
  | none => exact ⟨hr.digit, hr.point⟩
  | some e =>
    have hc : ∀ c ∈ (e.chars ++ r).head?, c = 'e' ∨ c = 'E' := by
      intro c hc
      cases hc
      exact e.isLetter
    refine ⟨fun c h => ?_, fun c h => ?_⟩
    · rcases hc c h with rfl | rfl <;> decide
    · rcases hc c h with rfl | rfl <;> decide

/-- Where the whole part ends there is no digit. -/
theorem stops_fractionChars (hr : Stops r) :
    ∀ c ∈ (l.fractionChars ++ (l.exponentChars ++ r)).head?, isDigit c = false := by
  unfold fractionChars
  cases l.fraction with
  | none => exact (l.stops_exponentChars hr).1
  | some ds =>
    intro c hc
    cases hc
    decide

/-- The fraction of a number is read, if it has one. -/
theorem readFraction?_fractionChars (hr : Stops r) :
    readFraction? (l.fractionChars ++ (l.exponentChars ++ r)) = l.fraction.map (·, l.exponentChars ++ r) := by
  obtain ⟨hd, hp⟩ := l.stops_exponentChars hr
  cases hf : l.fraction with
  | none =>
    rw [fractionChars, hf]
    exact readFraction?_eq_none hp
  | some ds =>
    rw [fractionChars, hf]
    exact readFraction?_chars (l.isFraction ds hf) hd

/-- The exponent of a number is read, if it has one. -/
theorem readExponent?_exponentChars (hr : Stops r) :
    readExponent? (l.exponentChars ++ r) = l.exponent.map (·.value, r) := by
  cases he : l.exponent with
  | none =>
    rw [exponentChars, he]
    exact readExponent?_eq_none hr.letter
  | some e =>
    rw [exponentChars, he]
    exact e.readExponent?_chars hr.digit

theorem fractionChars_eq_nil (h : l.fraction = none) : l.fractionChars = [] := by
  rw [fractionChars, h]
  rfl

theorem exponentChars_eq_nil (h : l.exponent = none) : l.exponentChars = [] := by
  rw [exponentChars, h]
  rfl

/-- A number behind its sign is read as far as it reaches. -/
theorem readUnsigned_chars (h : l.IsInteger → l.whole.length ≤ maxDigits) (hr : Stops r) :
    readUnsigned l.negative (l.whole ++ (l.fractionChars ++ (l.exponentChars ++ r))) = some (.ok l.json, r) := by
  have hf := l.readFraction?_fractionChars hr
  have he := l.readExponent?_exponentChars hr
  rw [readUnsigned, readWhole?_chars l.isDigits l.noLeadingZero (l.stops_fractionChars hr), Option.map_some]
  cases hfraction : l.fraction with
  | some ds =>
    rw [hfraction] at hf
    cases hexponent : l.exponent with
    | some e =>
      rw [hexponent] at he
      simp only [hf, he, Option.map_some, json, literal, hfraction, hexponent, Option.getD_some]
    | none =>
      rw [hexponent] at he
      rw [l.exponentChars_eq_nil hexponent, List.nil_append] at hf he ⊢
      simp only [hf, he, Option.map_some, Option.map_none, json, literal, hfraction, hexponent, Option.getD_some,
        Option.getD_none]
  | none =>
    rw [hfraction] at hf
    rw [l.fractionChars_eq_nil hfraction, List.nil_append] at hf ⊢
    cases hexponent : l.exponent with
    | some e =>
      rw [hexponent] at he
      simp only [hf, he, Option.map_some, Option.map_none, json, literal, hfraction, hexponent, Option.getD_some,
        Option.getD_none]
    | none =>
      rw [hexponent] at he
      rw [l.exponentChars_eq_nil hexponent, List.nil_append] at hf he ⊢
      have hd := ofDigits_eq_ok_iff.2 ⟨h ⟨hfraction, hexponent⟩, digitsValue_eq_placeValue l.whole⟩
      simp only [hf, he, hd, Option.map_none, json, hfraction, hexponent]
      rfl

/-- Behind its sign a number has its three parts, and then comes what follows. -/
theorem chars_append (r : List Char) :
    l.chars ++ r = (if l.negative then ['-'] else []) ++ (l.whole ++ (l.fractionChars ++ (l.exponentChars ++ r))) := by
  simp only [chars, List.append_assoc]

/-- A number is read as far as it reaches, unless it is an integer of too many digits. -/
theorem readNumber_chars (h : l.IsInteger → l.whole.length ≤ maxDigits) (hr : Stops r) :
    readNumber (l.chars ++ r) = .ok (l.json, r) := by
  have hu := l.readUnsigned_chars h hr
  rw [chars_append]
  cases hn : l.negative with
  | true =>
    rw [hn] at hu
    simp only [readNumber, if_true, List.cons_append, List.nil_append, hu]
  | false =>
    rw [hn] at hu
    have hs := readSign_digits l.isDigits (l.fractionChars ++ (l.exponentChars ++ r))
    simp only [Bool.false_eq_true, if_false, List.nil_append]
    generalize l.whole ++ (l.fractionChars ++ (l.exponentChars ++ r)) = s at hu hs
    have hne : ∀ s', s = '-' :: s' → False := by
      rintro s' rfl
      cases hs
    rw [readNumber]
    · simp only [hu]
    · exact hne

/-- Behind its sign a number starts with a digit. -/
theorem head?_readSign_chars (r : List Char) : ∃ c ∈ (readSign (l.chars ++ r)).2.head?, isDigit c = true := by
  obtain ⟨c, ds, hw⟩ := List.exists_cons_of_ne_nil l.isDigits.nonempty
  have hc : isDigit c = true := l.isDigits.isDigit c (by rw [hw]; exact List.mem_cons_self)
  have hs : (readSign (l.chars ++ r)).2 = l.whole ++ (l.fractionChars ++ (l.exponentChars ++ r)) := by
    rw [chars_append]
    cases l.negative with
    | true => rfl
    | false => exact congrArg Prod.snd (readSign_digits l.isDigits _)
  refine ⟨c, ?_, hc⟩
  rw [hs, hw]
  rfl

/-- Behind a sign no word starts with a digit. -/
theorem head?_readSign_words : ∀ p ∈ words, ∀ r, ∀ c ∈ (readSign (p.1 ++ r)).2.head?, isDigit c = false := by
  simp only [words, List.forall_mem_cons]
  refine ⟨?_, ?_, ?_, ?_, ?_, ?_, nofun⟩ <;>
  · intro r c hc
    cases hc
    decide

/-- It is read as a scalar, too, since no word starts as a number does. -/
theorem readScalar_chars (h : l.IsInteger → l.whole.length ≤ maxDigits) (hr : Stops r) :
    readScalar (l.chars ++ r) = .ok (l.json, r) := by
  unfold readScalar
  split
  · rename_i hs
    obtain ⟨p, hp, hw⟩ := List.exists_of_findSome?_eq_some hs
    obtain ⟨r', he, -⟩ := Option.map_eq_some_iff.1 hw
    obtain ⟨c, hc, hd⟩ := l.head?_readSign_chars r
    rw [Text.afterPrefix?_eq_some_iff.1 he] at hc
    rw [head?_readSign_words p hp r' c hc] at hd
    cases hd
  · exact l.readNumber_chars h hr

/-- A number is read as a value wherever one may stand. -/
theorem readValue_chars (h : l.IsInteger → l.whole.length ≤ maxDigits) (hr : Stops r) (strays : List ℕ) (fuel : ℕ) :
    readValue strays (fuel + 1) (l.chars ++ r) = .ok (⟨l.json, true⟩, r) := by
  obtain ⟨c, hc, hd⟩ := l.head?_readSign_chars r
  unfold readValue
  split
  · rename_i he
    rw [he] at hc
    cases hc
    cases hd
  · rename_i he
    rw [he] at hc
    cases hc
    cases hd
  · rename_i he
    rw [he] at hc
    cases hc
    cases hd
  · rw [l.readScalar_chars h hr]
    rfl

/-! ## Characters -/

/-- A number is written with digits, signs, a point and the letter of the exponent. -/
theorem mem_chars {c : Char} (hc : c ∈ l.chars) : isDigit c = true ∨ c ∈ ['-', '+', '.', 'e', 'E'] := by
  simp only [chars, List.mem_append] at hc
  rcases hc with hc | hc | hc | hc
  · cases hn : l.negative <;> simp [hn] at hc
    exact Or.inr (by simp [hc])
  · exact Or.inl (l.isDigits.isDigit c hc)
  · cases hf : l.fraction with
    | none => simp [fractionChars, hf] at hc
    | some ds =>
      rw [fractionChars, hf] at hc
      rcases List.mem_cons.1 hc with rfl | hc
      · exact Or.inr (by decide)
      · exact Or.inl ((l.isFraction ds hf).isDigit c hc)
  · cases he : l.exponent with
    | none => simp [exponentChars, he] at hc
    | some e =>
      rw [exponentChars, he] at hc
      rcases List.mem_cons.1 hc with rfl | hc
      · rcases e.isLetter with h | h <;> exact Or.inr (by simp [h])
      · rcases List.mem_append.1 hc with hc | hc
        · rcases e.isSign with h | h | h <;> rw [h] at hc
          · cases hc
          · exact Or.inr (by simp [List.mem_singleton.1 hc])
          · exact Or.inr (by simp [List.mem_singleton.1 hc])
        · exact Or.inl (e.isDigits.isDigit c hc)

/-- There is no blank in a number. -/
theorem not_isBlank {c : Char} (hc : c ∈ l.chars) : Text.isBlank c = false := by
  rcases l.mem_chars hc with h | h
  · exact Text.not_isBlank_of_isDigit h
  · exact (by decide : ∀ c ∈ ['-', '+', '.', 'e', 'E'], Text.isBlank c = false) c h

/-- No comma is in a number. -/
theorem comma_not_mem : ',' ∉ l.chars := by
  intro h
  rcases l.mem_chars h with h | h
  · exact absurd h (by decide)
  · exact absurd h (by decide)

theorem chars_ne_nil : l.chars ≠ [] := by
  obtain ⟨c, hc, -⟩ := l.head?_readSign_chars []
  intro h
  rw [h] at hc
  cases hc

/-- There is no gap before a number. -/
theorem skipGap_chars (r : List Char) : skipGap (l.chars ++ r) = l.chars ++ r := by
  rw [skipGap, Text.dropWhile_eq_self_iff, List.head?_append_of_ne_nil _ l.chars_ne_nil]
  intro c hc
  have hb := l.not_isBlank (List.mem_of_head? hc)
  rw [← Bool.not_eq_true]
  intro hg
  have hgap : c ∈ [' ', '\t', '\n', '\r'] := by simpa [isGap, or_assoc] using hg
  rw [(by decide : ∀ c ∈ [' ', '\t', '\n', '\r'], Text.isBlank c = true) c hgap] at hb
  cases hb

end Numeral

/-! ## Arrays of numbers -/

/-- A number ends at a comma and at a closing bracket. -/
theorem stops_of_mark {c : Char} (hc : c = ',' ∨ c = ']') (r : List Char) : Stops (c :: r) := by
  rcases hc with rfl | rfl
  · exact ⟨by simp [isDigit], by simp, by simp⟩
  · exact ⟨by simp [isDigit], by simp, by simp⟩

/-- Numbers with commas and spaces between them, as they stand in an array. -/
def joined (ls : List Numeral) : List Char := Text.join ", ".toList (ls.map (·.chars))

/-- A list of numbers starts with the first of them. -/
theorem exists_joined_append (l : Numeral) (ls : List Numeral) (r : List Char) :
    ∃ t, joined (l :: ls) ++ r = l.chars ++ t := by
  cases ls with
  | nil => exact ⟨r, rfl⟩
  | cons m ls => exact ⟨", ".toList ++ joined (m :: ls) ++ r, List.append_assoc _ _ _⟩

/-- Before a list of numbers there is no gap. -/
theorem skipGap_joined (l : Numeral) (ls : List Numeral) (r : List Char) :
    skipGap (joined (l :: ls) ++ r) = joined (l :: ls) ++ r := by
  obtain ⟨t, ht⟩ := exists_joined_append l ls r
  rw [ht, l.skipGap_chars]

/-- The numbers in an array are read one by one up to its closing bracket. -/
theorem readItems_joined {ls : List Numeral} (hne : ls ≠ []) (h : ∀ l ∈ ls, l.IsInteger → l.whole.length ≤ maxDigits)
    (strays : List ℕ) {fuel : ℕ} (hf : ls.length < fuel) (r : List Char) :
    readItems strays fuel (joined ls ++ ']' :: r) = .ok (ls.map fun l => ⟨l.json, true⟩, r) := by
  induction ls generalizing fuel with
  | nil => exact absurd rfl hne
  | cons l ls ih =>
    -- one round reads the item, and one the items behind it
    obtain ⟨k, rfl⟩ : ∃ k, fuel = k + 2 := ⟨fuel - 2, by rw [List.length_cons] at hf; omega⟩
    have hl := h l List.mem_cons_self
    cases ls with
    | nil =>
      have hv := l.readValue_chars hl (stops_of_mark (Or.inr rfl) r) strays k
      show readItems strays (k + 2) (l.chars ++ ']' :: r) = .ok ([⟨l.json, true⟩], r)
      rw [readItems, hv]
      rfl
    | cons m ls =>
      have hs : joined (l :: m :: ls) ++ ']' :: r = l.chars ++ ',' :: ' ' :: (joined (m :: ls) ++ ']' :: r) :=
        List.append_assoc _ _ _
      have hv := l.readValue_chars hl (stops_of_mark (Or.inl rfl) (' ' :: (joined (m :: ls) ++ ']' :: r))) strays k
      have hlen : (m :: ls).length < k + 1 := by
        rw [List.length_cons] at hf
        omega
      have hi := ih (List.cons_ne_nil m ls) (fun n hn => h n (List.mem_cons_of_mem _ hn)) hlen
      have hg : skipGap (' ' :: (joined (m :: ls) ++ ']' :: r)) = joined (m :: ls) ++ ']' :: r := skipGap_joined m ls _
      rw [hs, readItems, hv]
      show (readItems strays (k + 1) (skipGap (' ' :: (joined (m :: ls) ++ ']' :: r)))).map _ = _
      rw [hg, hi]
      rfl

/-- A list has at least a character for each number. -/
theorem length_le_length_joined (ls : List Numeral) : ls.length ≤ (joined ls).length := by
  induction ls with
  | nil => exact Nat.le_refl _
  | cons l ls ih =>
    have hl := List.length_pos_iff.2 l.chars_ne_nil
    cases ls with
    | nil => exact hl
    | cons m ls =>
      have hs : joined (l :: m :: ls) = l.chars ++ (", ".toList ++ joined (m :: ls)) := rfl
      rw [hs, List.length_append, List.length_append, List.length_cons]
      omega

/-- The items are the values of the array. -/
theorem value_arrayOf (ls : List Numeral) :
    (arrayOf (ls.map fun l => ⟨l.json, true⟩)).value = .arr (ls.map (·.json)) := by
  rw [arrayOf, List.map_map]
  rfl

/-- **An array of numbers is read as such.** -/
theorem read_joined {ls : List Numeral} (h : ∀ l ∈ ls, l.IsInteger → l.whole.length ≤ maxDigits) :
    read ('[' :: (joined ls ++ [']'])) = .ok (.arr (ls.map (·.json))) := by
  rw [read_of_not_mark (by decide), readDecoded, ← value_arrayOf]
  have hv : readValue [] (2 * ('[' :: (joined ls ++ [']'])).length + 2) ('[' :: (joined ls ++ [']'])) =
      .ok (arrayOf (ls.map fun l => ⟨l.json, true⟩), []) := by
    cases ls with
    | nil => rfl
    | cons l ls =>
      have hlen : (l :: ls).length < 2 * ('[' :: (joined (l :: ls) ++ [']'])).length + 1 := by
        have := length_le_length_joined (l :: ls)
        rw [List.length_cons (a := '['), List.length_append]
        omega
      have hi := readItems_joined (List.cons_ne_nil l ls) h [] hlen []
      rw [readValue]
      simp only [skipGap_joined]
      split
      · rename_i he
        obtain ⟨t, ht⟩ := exists_joined_append l ls [']']
        obtain ⟨c, hc, hd⟩ := l.head?_readSign_chars t
        rw [← ht, he] at hc
        cases hc
        cases hd
      · rw [hi]
        rfl
  have hg : skipGap ('[' :: (joined ls ++ [']'])) = '[' :: (joined ls ++ [']']) := rfl
  rw [hg, hv]
  rfl

end HelixGateway.Json
