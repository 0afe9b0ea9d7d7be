import HelixGateway.Parameters
import HelixGateway.Proofs.Decimal.WholeNumber
import HelixGateway.Proofs.Results

/-!
# What typing makes of a query string

Typing is to give a value for every entry: `reading` says which. A value that does not fit its type stays a text, and
an array of floating-point numbers holds the finite numbers that its text lists and nothing else. Typing departs from it in one
case. An item of a JSON array that is an integer too large for a double is not left out, it ends the request
(`merge_largeItem`).

Main statements: `merge_eq_intended_iff`, `coerceQueryValue_eq_text_iff`.
-/

namespace HelixGateway

namespace HelixType

/-- The type of arrays of floating-point numbers. -/
def floats : HelixType := .array (.scalar .f64)

/-- The double that a JSON value is, if it is a number that has one. -/
def number? : Json → Option Binary64
  | .int n => Binary64.ofInt? n
  | .real x => some x
  | _ => none

/-- A text that is a JSON array with an integer that no double holds. -/
def ListsLarge (s : List Char) : Prop := ∃ items n, Json.read s = .ok (.arr items) ∧ Json.int n ∈ items ∧ Binary64.IsLarge n

/-- Whether a JSON value is an array with an integer that no double holds. -/
def hasLarge : Json → Bool
  | .arr items => items.any fun v =>
    match v with
    | .int n => decide (Binary64.IsLarge n)
    | _ => false
  | _ => false

/-- Whether a text lists an integer that is too large can be decided. -/
theorem listsLarge_iff {s : List Char} : ListsLarge s ↔ (Json.read s).toOption.any hasLarge = true := by
  constructor
  · rintro ⟨items, n, hr, hm, hn⟩
    rw [hr]
    exact List.any_eq_true.2 ⟨.int n, hm, decide_eq_true hn⟩
  · intro h
    cases hr : Json.read s with
    | error e => simp [hr, Except.toOption] at h
    | ok v =>
      cases v with
      | arr items =>
        rw [hr] at h
        obtain ⟨v, hm, hv⟩ := List.any_eq_true.1 h
        cases v with
        | int n => exact ⟨items, n, hr, hm, of_decide_eq_true hv⟩
        | _ => cases hv
      | _ => simp [hr, Except.toOption, hasLarge] at h

instance (s : List Char) : Decidable (ListsLarge s) := decidable_of_iff _ listsLarge_iff.symm

/-- The numbers that a text lists: the items of a JSON array, or else the parts between commas. -/
def listed (s : List Char) : List Binary64 :=
  match Json.read s with
  | .ok (.arr items) => items.filterMap number?
  | _ => commaNumbers s

/-! ## Arrays of floating-point numbers -/

/-- Items are read unless one of them is too large. -/
theorem numbersOf_of_not_large {items : List Json} (h : ∀ n, Json.int n ∈ items → ¬ Binary64.IsLarge n) :
    numbersOf items = .ok (items.filterMap number?) := by
  induction items with
  | nil => rfl
  | cons v items ih =>
    have hr := ih fun n hn => h n (List.mem_cons_of_mem _ hn)
    cases v with
    | int n =>
      obtain ⟨x, hx⟩ : ∃ x, Binary64.ofInt? n = some x :=
        Option.ne_none_iff_exists'.1 fun hn => h n (by simp) (Binary64.ofInt?_eq_none_iff.1 hn)
      rw [numbersOf, hx, hr, List.filterMap_cons_some (show number? (.int n) = some x from hx)]
      rfl
    | real x =>
      rw [numbersOf, hr, List.filterMap_cons_some (by rfl)]
      rfl
    | null => exact hr
    | bool b => exact hr
    | str s => exact hr
    | arr vs => exact hr
    | obj fields => exact hr

/-- One item that is too large ends the reading, wherever it stands. -/
theorem numbersOf_of_large {items : List Json} {n : Int} (hm : Json.int n ∈ items) (hn : Binary64.IsLarge n) :
    numbersOf items = .error .integerOverflow := by
  induction items with
  | nil => cases hm
  | cons v items ih =>
    rcases List.mem_cons.1 hm with rfl | hm
    · rw [numbersOf, Binary64.ofInt?_eq_none_iff.2 hn]
    · have hr := ih hm
      cases v with
      | int k =>
        rw [numbersOf]
        split
        · rfl
        · rw [hr]
          rfl
      | real x =>
        rw [numbersOf, hr]
        rfl
      | null => exact hr
      | bool b => exact hr
      | str s => exact hr
      | arr vs => exact hr
      | obj fields => exact hr

/-- A text is read as the numbers it lists, unless one is too large. -/
theorem listedNumbers_of_not_large {s : List Char} (h : ¬ ListsLarge s) : listedNumbers s = .ok (listed s) := by
  cases hr : Json.read s with
  | error e => simp only [listedNumbers, listed, hr]
  | ok v =>
    cases v with
    | arr items =>
      simp only [listedNumbers, listed, hr]
      exact numbersOf_of_not_large fun n hm hn => h ⟨items, n, hr, hm, hn⟩
    | _ => simp only [listedNumbers, listed, hr]

/-- With one that is too large, no number of the text is read. -/
theorem listedNumbers_of_large {s : List Char} (h : ListsLarge s) : listedNumbers s = .error .integerOverflow := by
  obtain ⟨items, n, hr, hm, hn⟩ := h
  simp only [listedNumbers, hr]
  exact numbersOf_of_large hm hn

/-- As an array of floating-point numbers, a value is the finite ones among those it lists. -/
theorem coerce_floats_of_not_large {value : String} (h : ¬ ListsLarge value.toList) :
    coerce value floats = .ok (.arr (((listed value.toList).filter (·.isFinite)).map .real)) := by
  rw [floats, coerce, finiteNumbers, listedNumbers_of_not_large h]
  rfl

/-- With an integer that is too large, a value is no such array. -/
theorem coerce_floats_of_large {value : String} (h : ListsLarge value.toList) :
    coerce value floats = .error .integerOverflow := by
  rw [floats, coerce, finiteNumbers, listedNumbers_of_large h]
  rfl

/-- Values of the other types are read or refused. -/
theorem coerce_ne_overflow {t : HelixType} (ht : t ≠ floats) (value : String) : coerce value t ≠ .error .integerOverflow := by
  intro h
  unfold coerce at h
  split at h
  · obtain ⟨cause, -, hc⟩ := mapError_eq_error h
    cases hc
  · exact ht rfl
  · cases h

/-- Only texts and ids stay texts. -/
theorem coerce_eq_text_iff (value : String) (t : HelixType) :
    coerce value t = .ok (.str value) ↔ t = .scalar .string ∨ t = .scalar .id := by
  constructor
  · intro h
    unfold coerce at h
    split at h
    · rename_i s
      have hs := mapError_eq_ok h
      cases s with
      | string => exact .inl rfl
      | id => exact .inr rfl
      | f64 =>
        simp only [coerceScalar] at hs
        split at hs
        · cases hs
        · split at hs
          · cases hs
          · cases hs
      | i32 | i64 | u32 | u64 | u128 =>
        obtain ⟨n, -, hn⟩ := map_eq_ok hs
        cases hn
    · obtain ⟨xs, -, hx⟩ := map_eq_ok h
      cases hx
    · cases h
  · rintro (rfl | rfl)
    · rw [coerce, coerceScalar, String.ofList_toList]
      rfl
    · rw [coerce, coerceScalar, String.ofList_toList]
      rfl

end HelixType

namespace Parameters

open HelixType (ListsLarge floats listed)

/-! ## One value -/

/-- What a value is to be read as, given the text of its type. -/
def reading (value : String) (type? : Option String) : Json :=
  match type?.map HelixType.parse with
  | some (.ok t) =>
    if t = floats then .arr (((listed value.toList).filter (·.isFinite)).map .real)
    else
      match HelixType.coerce value t with
      | .ok v => v
      | .error _ => .str value
  | _ => .str value

/-- A value that lists an integer too large for a double, where floating-point numbers are declared. -/
def Overflows (value : String) (type? : Option String) : Prop :=
  type?.map HelixType.parse = some (.ok floats) ∧ ListsLarge value.toList

/-- A value is read as its type says, unless it overflows. -/
theorem coerceQueryValue_of_not_overflows {value : String} {type? : Option String} (h : ¬ Overflows value type?) :
    coerceQueryValue value type? = .ok (reading value type?) := by
  cases type? with
  | none => rfl
  | some type =>
    cases hp : HelixType.parse type with
    | error e => simp [coerceQueryValue, reading, hp]
    | ok t =>
      simp only [coerceQueryValue, reading, Option.map_some, hp]
      by_cases ht : t = floats
      · have hl : ¬ ListsLarge value.toList := fun hl => h ⟨by rw [Option.map_some, hp, ht], hl⟩
        rw [if_pos ht, ht, HelixType.coerce_floats_of_not_large hl]
      · have hn := HelixType.coerce_ne_overflow ht value
        rw [if_neg ht]
        cases hc : HelixType.coerce value t with
        | ok v => rfl
        | error e =>
          cases e with
          | conversion e => rfl
          | integerOverflow => exact absurd hc hn

/-- A value that overflows is a fault. -/
theorem coerceQueryValue_of_overflows {value : String} {type? : Option String} (h : Overflows value type?) :
    coerceQueryValue value type? = .error .integerOverflow := by
  obtain ⟨hp, hl⟩ := h
  cases type? with
  | none => cases hp
  | some type =>
    rw [Option.map_some, Option.some.injEq] at hp
    simp only [coerceQueryValue, hp, HelixType.coerce_floats_of_large hl]

/-- The text of a type counts only as far as it is read. -/
theorem coerceQueryValue_congr {value a b : String} (h : HelixType.parse a = HelixType.parse b) :
    coerceQueryValue value (some a) = coerceQueryValue value (some b) := by
  simp only [coerceQueryValue, h]

/-- What a type makes of a value is what is read under the text of the type. -/
theorem coerceQueryValue_of_coerce {value : String} {t : HelixType} {v : Json} (h : HelixType.coerce value t = .ok v) :
    coerceQueryValue value (some t.text) = .ok v := by
  simp only [coerceQueryValue, HelixType.parse_text, h]

/-- What stays a text: a value of a type of texts, and one that is refused. -/
theorem coerceQueryValue_eq_text_iff {value : String} {t : HelixType} :
    coerceQueryValue value (some t.text) = .ok (.str value) ↔
      t = .scalar .string ∨ t = .scalar .id ∨ ∃ e, HelixType.coerce value t = .error (.conversion e) := by
  rw [← or_assoc, ← HelixType.coerce_eq_text_iff value]
  simp only [coerceQueryValue, HelixType.parse_text]
  cases HelixType.coerce value t with
  | ok v => simp
  | error e => cases e <;> simp

/-! ## Query strings -/

section Entries

variable {catalogue : OrdMap String} {es : Entries String}

/-- Entries of which none overflows are read one by one. -/
theorem typed_of_not_overflows (h : ∀ e ∈ es, ¬ Overflows e.2 (catalogue.get? e.1)) :
    typed catalogue es = .ok (es.map fun e => (e.1, reading e.2 (catalogue.get? e.1))) := by
  induction es with
  | nil => rfl
  | cons e es ih =>
    obtain ⟨k, value⟩ := e
    have hv := coerceQueryValue_of_not_overflows (h (k, value) (by simp))
    simp only [typed, hv, ih fun e he => h e (List.mem_cons_of_mem _ he)]
    rfl

/-- One entry that overflows ends the reading, wherever it stands. -/
theorem typed_of_overflows (h : ∃ e ∈ es, Overflows e.2 (catalogue.get? e.1)) :
    typed catalogue es = .error .integerOverflow := by
  induction es with
  | nil =>
    obtain ⟨e, he, -⟩ := h
    cases he
  | cons e es ih =>
    obtain ⟨k, value⟩ := e
    by_cases ho : Overflows value (catalogue.get? k)
    · simp only [typed, coerceQueryValue_of_overflows ho]
    · obtain ⟨e, he, hoe⟩ := h
      rcases List.mem_cons.1 he with rfl | he
      · exact absurd hoe ho
      · simp only [typed, coerceQueryValue_of_not_overflows ho, ih ⟨e, he, hoe⟩]
        rfl

end Entries

/-! ## Requests -/

/-- The parameters that a request is to have. -/
def intended (query : OrdMap String) (body : Option Json) (catalogue : OrdMap String) : Entries Json :=
  ofBody body ++ (undecided (ofBody body) query).map fun e => (e.1, reading e.2 (catalogue.get? e.1))

/-- A request has the parameters it is to have, unless an entry of its query string that counts overflows. -/
theorem merge_eq_intended_iff (query : OrdMap String) (body : Option Json) (catalogue : OrdMap String) :
    (merge query body catalogue = .ok (intended query body catalogue) ↔
        ∀ e ∈ undecided (ofBody body) query, ¬ Overflows e.2 (catalogue.get? e.1)) ∧
      (merge query body catalogue = .error .integerOverflow ↔
        ∃ e ∈ undecided (ofBody body) query, Overflows e.2 (catalogue.get? e.1)) := by
  by_cases h : ∃ e ∈ undecided (ofBody body) query, Overflows e.2 (catalogue.get? e.1)
  · have hm : merge query body catalogue = .error .integerOverflow := by
      rw [merge, typed_of_overflows h]
      rfl
    rw [hm]
    obtain ⟨e, he, ho⟩ := h
    exact ⟨⟨(fun h' => by cases h'), fun h' => absurd ho (h' e he)⟩, ⟨fun _ => ⟨e, he, ho⟩, fun _ => rfl⟩⟩
  · have hn : ∀ e ∈ undecided (ofBody body) query, ¬ Overflows e.2 (catalogue.get? e.1) :=
      fun e he ho => h ⟨e, he, ho⟩
    have hm : merge query body catalogue = .ok (intended query body catalogue) := by
      rw [merge, typed_of_not_overflows hn]
      rfl
    rw [hm]
    exact ⟨⟨fun _ => hn, fun _ => rfl⟩, ⟨(fun h' => by cases h'), fun h' => absurd h' h⟩⟩

/-- A JSON array with two times ten to the 308 as its only item. -/
def largeText : List Char := '[' :: '2' :: (List.replicate 308 '0' ++ [']'])

def largeItem : String := String.ofList largeText

theorem listsLarge_largeItem : ListsLarge largeItem.toList := by
  have h : ListsLarge largeText := by decide +kernel
  rwa [largeItem, String.toList_ofList]

/-- A request is refused for one item of one value. -/
theorem merge_largeItem :
    merge (.ofEntries [("v", largeItem)]) none (.ofEntries [("v", "[F64]")]) = .error .integerOverflow := by
  have ht : floats.text = "[F64]" := by decide
  have ho : Overflows largeItem (some "[F64]") :=
    ⟨by rw [Option.map_some, ← ht, HelixType.parse_text], listsLarge_largeItem⟩
  have hs : typed (.ofEntries [("v", "[F64]")]) [("v", largeItem)] = .error .integerOverflow :=
    typed_of_overflows ⟨("v", largeItem), List.mem_singleton.2 rfl, ho⟩
  exact congrArg (Except.map (ofBody none ++ ·)) hs

end Parameters

end HelixGateway
