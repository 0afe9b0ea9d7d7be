import HelixGateway.HelixType
import HelixGateway.Proofs.Results
import Mathlib.Data.List.Infix

/-!
# The grammar of types

The texts of types are those of a grammar: a scalar's name, or a type in brackets, or one in the parentheses of `Array`. A
derivation says by which of the three forms a text comes about. No text has two of them, and reading finds it just by looking
at the two ends of the text. A text without one is refused with what remains when all array forms around it are taken off.

Main statements: `Derivation.chars_injective`, `parse_eq_ok_iff`, `parse_eq_error_iff`, `parse_grammar`.
-/

namespace HelixGateway.HelixType

/-! ## Derivations -/

/-- A derivation of a text in the grammar of types. -/
inductive Derivation where
  | scalar (s : ScalarType)
  | bracketed (d : Derivation)
  | parenthesized (d : Derivation)
  deriving DecidableEq, Repr

namespace Derivation

/-- The characters that are derived. -/
def chars : Derivation → List Char
  | scalar s => s.name.toList
  | bracketed d => '[' :: (d.chars ++ [']'])
  | parenthesized d => "Array(".toList ++ (d.chars ++ [')'])

/-- The text that is derived. -/
def text (d : Derivation) : String := String.ofList d.chars

/-- The text of a derivation is its characters. -/
theorem toList_text (d : Derivation) : d.text.toList = d.chars := String.toList_ofList

/-- The type that the text stands for; both array forms mean the same. -/
def type : Derivation → HelixType
  | scalar s => .scalar s
  | bracketed d | parenthesized d => .array d.type

/-- Whether some array is written with its name. -/
def usesName : Derivation → Bool
  | scalar _ => false
  | bracketed d => d.usesName
  | parenthesized _ => true

/-- No scalar's name starts with a bracket. -/
theorem head?_name (s : ScalarType) : s.name.toList.head? ≠ some '[' := by
  cases s <;> decide

/-- No scalar's name has parentheses. -/
theorem parenthesis_not_mem_name (s : ScalarType) : '(' ∉ s.name.toList := by
  cases s <;> decide

/-- No scalar's name is an array that is written with its name. -/
theorem name_ne_parenthesized (s : ScalarType) (r : List Char) : s.name.toList ≠ "Array(".toList ++ (r ++ [')']) := by
  intro h
  exact parenthesis_not_mem_name s (h ▸ List.mem_append_left _ (by decide))

/-- **Unique reading.** No text has two derivations: its first character tells the form. -/
theorem chars_injective {d d' : Derivation} (h : d.chars = d'.chars) : d = d' := by
  induction d generalizing d' with
  | scalar s =>
    cases d' with
    | scalar s' =>
      have hs := ScalarType.ofName?_eq_some_iff.2 (show s'.name.toList = s'.name.toList from rfl)
      rw [show s'.name.toList = s.name.toList from h.symm, ScalarType.ofName?_eq_some_iff.2 rfl] at hs
      rw [Option.some.inj hs]
    | bracketed d' => exact absurd (congrArg List.head? h) (head?_name s)
    | parenthesized d' => exact absurd h (name_ne_parenthesized s _)
  | bracketed d ih =>
    cases d' with
    | scalar s' => exact absurd (congrArg List.head? h.symm) (head?_name s')
    | bracketed d' => rw [ih (List.append_cancel_right (List.cons.inj h).2)]
    | parenthesized d' => cases (congrArg List.head? h : some '[' = some 'A')
  | parenthesized d ih =>
    cases d' with
    | scalar s' => exact absurd h.symm (name_ne_parenthesized s' _)
    | bracketed d' => cases (congrArg List.head? h : some 'A' = some '[')
    | parenthesized d' => rw [ih (List.append_cancel_right (List.append_cancel_left h))]

/-- No text is derived in two ways. -/
theorem text_injective : Function.Injective text := by
  intro d d' h
  have hc := congrArg String.toList h
  rw [toList_text, toList_text] at hc
  exact chars_injective hc

/-! ## Canonical texts -/

/-- Where no array is written with its name, the text is the canonical one. -/
theorem textChars_type {d : Derivation} (h : d.usesName = false) : d.type.textChars = d.chars := by
  induction d with
  | scalar s => rfl
  | bracketed d ih => exact congrArg ('[' :: · ++ [']']) (ih h)
  | parenthesized d => cases h

/-- No canonical text has parentheses. -/
theorem parenthesis_not_mem_textChars (t : HelixType) : '(' ∉ t.textChars := by
  induction t with
  | scalar s => exact parenthesis_not_mem_name s
  | array t ih => simpa [textChars] using ih

/-- The name of arrays occurs in a text if and only if some array is written with it. -/
theorem usesName_iff {d : Derivation} : d.usesName = true ↔ "Array(".toList <:+: d.chars := by
  constructor
  · intro h
    induction d with
    | scalar s => cases h
    | bracketed d ih => exact (ih h).trans ⟨['['], [']'], rfl⟩
    | parenthesized d => exact ⟨[], d.chars ++ [')'], rfl⟩
  · intro h
    by_contra hn
    rw [← textChars_type (Bool.eq_false_iff.2 hn)] at h
    exact parenthesis_not_mem_textChars _ (h.subset (by decide))

/-- A text is the canonical one of its type exactly if no array in it is written with its name. -/
theorem text_type_iff {d : Derivation} : d.type.text = d.text ↔ d.usesName = false := by
  constructor
  · intro h
    have hc := congrArg String.toList h
    rw [HelixType.text, String.toList_ofList, toList_text] at hc
    by_contra hn
    have hi := usesName_iff.1 (Bool.of_not_eq_false hn)
    rw [← hc] at hi
    exact parenthesis_not_mem_textChars _ (hi.subset (by decide))
  · intro h
    rw [HelixType.text, textChars_type h, text]

end Derivation

/-! ## Array forms -/

/-- The second text is an array form around the first one. -/
inductive Wraps (r : List Char) : List Char → Prop where
  | bracketed : Wraps r ('[' :: (r ++ [']']))
  | parenthesized : Wraps r ("Array(".toList ++ (r ++ [')']))

/-- What remains of a text when array forms are taken off it from outside, as long as there are any. -/
inductive Stripped : List Char → List Char → Prop where
  | done {s : List Char} (h : ∀ r, ¬ Wraps r s) : Stripped s s
  | step {s r c : List Char} (h : Wraps r s) (ht : Stripped r c) : Stripped s c

/-- The element type of a text is what one array form stands around. -/
theorem element?_eq_some_iff {s r : List Char} : element? s = some r ↔ Wraps r s := by
  constructor
  · intro h
    rw [element?, Option.or_eq_some_iff] at h
    rcases h with h | ⟨-, h⟩
    · rw [Text.between?_eq_some_iff.1 h]
      exact .bracketed
    · rw [Text.between?_eq_some_iff.1 h]
      exact .parenthesized
  · rintro (_ | _)
    · exact element?_bracketed r
    · have hb : bracketed? ("Array(".toList ++ (r ++ [')'])) = none := rfl
      rw [element?, hb, parenthesized?, Text.between?_eq_some_iff.2 rfl]
      rfl

/-- A text has no element type exactly if no array form stands around anything in it. -/
theorem element?_eq_none_iff {s : List Char} : element? s = none ↔ ∀ r, ¬ Wraps r s := by
  rw [Option.eq_none_iff_forall_ne_some]
  exact forall_congr' fun r => not_congr element?_eq_some_iff

/-- A text is read as no scalar exactly if it is no scalar's name. -/
theorem ofName?_eq_none_iff {s : List Char} : ScalarType.ofName? s = none ↔ ∀ t : ScalarType, s ≠ t.name.toList := by
  rw [Option.eq_none_iff_forall_ne_some]
  exact forall_congr' fun t => not_congr ScalarType.ofName?_eq_some_iff

/-! ## Reading -/

/-- What is derived is read as the type it stands for. -/
theorem parseChars_chars (d : Derivation) : parseChars d.chars = .ok d.type := by
  induction d with
  | scalar s => exact parseChars_name s
  | bracketed d ih =>
    have hw : Wraps d.chars (Derivation.bracketed d).chars := .bracketed
    rw [parseChars_of_element? (element?_eq_some_iff.2 hw), ih]
    rfl
  | parenthesized d ih =>
    have hw : Wraps d.chars (Derivation.parenthesized d).chars := .parenthesized
    rw [parseChars_of_element? (element?_eq_some_iff.2 hw), ih]
    rfl

/-- What is read as a type is derived. -/
theorem exists_derivation {s : List Char} {t : HelixType} (h : parseChars s = .ok t) :
    ∃ d : Derivation, d.chars = s ∧ d.type = t := by
  induction s using parseChars.induct generalizing t with
  | case1 s u hu =>
    obtain rfl := ScalarType.ofName?_eq_some_iff.1 hu
    rw [parseChars_name] at h
    exact ⟨.scalar u, rfl, Except.ok.inj h⟩
  | case2 s hn r he ih =>
    rw [parseChars_of_element? he] at h
    obtain ⟨u, hu, rfl⟩ := map_eq_ok h
    obtain ⟨d, rfl, rfl⟩ := ih hu
    cases element?_eq_some_iff.1 he with
    | bracketed => exact ⟨.bracketed d, rfl, rfl⟩
    | parenthesized => exact ⟨.parenthesized d, rfl, rfl⟩
  | case3 s hn he =>
    rw [parseChars_of_none hn he] at h
    cases h

/-- A text is refused with what remains of it. -/
theorem parseChars_of_stripped {s c : List Char} (h : Stripped s c) (hc : ∀ t : ScalarType, c ≠ t.name.toList) :
    parseChars s = .error ⟨String.ofList c⟩ := by
  induction h with
  | done h => exact parseChars_of_none (ofName?_eq_none_iff.2 hc) (element?_eq_none_iff.2 h)
  | step h _ ih =>
    rw [parseChars_of_element? (element?_eq_some_iff.2 h), ih hc]
    rfl

/-- A refusal tells what remains when all array forms are taken off, and that is no scalar's name. -/
theorem stripped_of_parseChars {s : List Char} {e : UnknownType} (h : parseChars s = .error e) :
    Stripped s e.text.toList ∧ ∀ t : ScalarType, e.text.toList ≠ t.name.toList := by
  induction s using parseChars.induct with
  | case1 s u hu =>
    rw [ScalarType.ofName?_eq_some_iff.1 hu, parseChars_name] at h
    cases h
  | case2 s hn r he ih =>
    rw [parseChars_of_element? he] at h
    obtain ⟨hs, hc⟩ := ih (map_eq_error h)
    exact ⟨.step (element?_eq_some_iff.1 he) hs, hc⟩
  | case3 s hn he =>
    rw [parseChars_of_none hn he] at h
    cases h
    rw [String.toList_ofList]
    exact ⟨.done (element?_eq_none_iff.1 he), ofName?_eq_none_iff.1 hn⟩

/-- Reading succeeds exactly on the texts that are derived, with the types of their derivations. -/
theorem parse_eq_ok_iff {s : String} {t : HelixType} : parse s = .ok t ↔ ∃ d : Derivation, d.text = s ∧ d.type = t := by
  constructor
  · intro h
    obtain ⟨d, hd, ht⟩ := exists_derivation h
    exact ⟨d, by rw [Derivation.text, hd, String.ofList_toList], ht⟩
  · rintro ⟨d, rfl, rfl⟩
    rw [parse, Derivation.toList_text, parseChars_chars]

/-- Reading fails exactly on the texts that come down to what is no scalar's name, and tells what that is. -/
theorem parse_eq_error_iff {s : String} {e : UnknownType} :
    parse s = .error e ↔ Stripped s.toList e.text.toList ∧ ∀ t : ScalarType, e.text ≠ t.name := by
  constructor
  · intro h
    obtain ⟨hs, hc⟩ := stripped_of_parseChars h
    exact ⟨hs, fun t ht => hc t (congrArg String.toList ht)⟩
  · rintro ⟨hs, hc⟩
    rw [parse, parseChars_of_stripped hs fun t ht => hc t (String.toList_injective ht), String.ofList_toList]

/-- **The grammar of types.** Reading and writing types are determined by it:

1. A text is read as a type just if it has a derivation, and then as the type of that.
2. No text has two derivations.
3. All other texts are refused, each with what remains of it when array forms are taken off, which is no scalar's name.
4. Every type is read back from its text, and so no two types have the same text.
5. A text that is read is the one that its type is written as just if no array in it is written with its name, which is to
   say that `Array(` does not occur in it. -/
theorem parse_grammar :
    (∀ s t, parse s = .ok t ↔ ∃ d : Derivation, d.text = s ∧ d.type = t) ∧
      Function.Injective Derivation.text ∧
      (∀ s e, parse s = .error e ↔ Stripped s.toList e.text.toList ∧ ∀ t : ScalarType, e.text ≠ t.name) ∧
      (∀ t : HelixType, parse t.text = .ok t) ∧ Function.Injective HelixType.text ∧
      ∀ d : Derivation, parse d.text = .ok d.type ∧ (d.type.text = d.text ↔ d.usesName = false) ∧
        (d.usesName = true ↔ "Array(".toList <:+: d.text.toList) := by
  refine ⟨fun s t => parse_eq_ok_iff, Derivation.text_injective, fun s e => parse_eq_error_iff, parse_text,
    fun t u => text_injective, fun d => ⟨parse_eq_ok_iff.2 ⟨d, rfl, rfl⟩, Derivation.text_type_iff, ?_⟩⟩
  rw [Derivation.toList_text]
  exact Derivation.usesName_iff

/-- Brackets that do not belong together are taken off all the same, and the refusal tells what remains. -/
example : parse "[[F64][F64]]" = .error ⟨"F64][F64"⟩ := by
  have hw : Wraps "[F64][F64]".toList "[[F64][F64]]".toList := element?_eq_some_iff.1 (by decide)
  have hw' : Wraps "F64][F64".toList "[F64][F64]".toList := element?_eq_some_iff.1 (by decide)
  have hs : Stripped "[[F64][F64]]".toList "F64][F64".toList :=
    .step hw (.step hw' (.done (element?_eq_none_iff.1 (by decide))))
  exact parse_eq_error_iff.2 ⟨hs, fun t => by cases t <;> decide⟩

end HelixGateway.HelixType
