import HelixGateway.Json.Value
import HelixGateway.Decimal.Literal

/-!
# The canonical order of keys

Answers order the keys of every object in the same way: first the keys made of digits, by the number they stand for and
otherwise as they came, then `id`, then all others as they came. Arrays and scalars are left alone. A key of digits is read
as a number, so one that is longer than numbers may be refuses the whole value.

Main statement: `keys_arrange`.
-/

namespace HelixGateway.Json

open Decimal (TooManyDigits ofDigits)

/-- A key of ASCII digits, at least one. -/
def isNumericKey (k : String) : Bool := !k.toList.isEmpty && k.toList.all Text.isDigit

/-- The three places that keys are sorted into. -/
inductive KeyPlace where
  | numeric
  | identity
  | other
  deriving DecidableEq, Repr

def keyPlace (k : String) : KeyPlace :=
  if isNumericKey k then .numeric else if k = "id" then .identity else .other

/-- The entries whose keys belong to a place, in order. -/
def inPlace (p : KeyPlace) (es : Entries Json) : Entries Json := es.filter fun e => keyPlace e.1 = p

/-- Entries with the numbers that their keys stand for. -/
def numbered : Entries Json → Except TooManyDigits (List (Nat × (String × Json)))
  | [] => .ok []
  | e :: es =>
    match ofDigits e.1.toList with
    | .error err => .error err
    | .ok n => (numbered es).map ((n, e) :: ·)

/-- Entries by the numbers of their keys; equal numbers stay in order. -/
def byNumber (es : List (Nat × (String × Json))) : Entries Json :=
  (es.mergeSort fun a b => a.1 ≤ b.1).map Prod.snd

/-- The entries of one object in canonical order. -/
def arrange (es : Entries Json) : Except TooManyDigits (Entries Json) :=
  (numbered (inPlace .numeric es)).map fun ns => byNumber ns ++ (inPlace .identity es ++ inPlace .other es)

mutual

/-- The value with the keys of all its objects in canonical order. Inner objects come before the one that holds them. -/
def canonicalize : Json → Except TooManyDigits Json
  | .arr items => (canonicalizeItems items).map .arr
  | .obj fields =>
    match canonicalizeFields fields with
    | .error e => .error e
    | .ok es => (arrange es).map .obj
  | v => .ok v

def canonicalizeItems : List Json → Except TooManyDigits (List Json)
  | [] => .ok []
  | v :: vs =>
    match canonicalize v with
    | .error e => .error e
    | .ok v => (canonicalizeItems vs).map (v :: ·)

def canonicalizeFields : List (String × Json) → Except TooManyDigits (List (String × Json))
  | [] => .ok []
  | (k, v) :: es =>
    match canonicalize v with
    | .error e => .error e
    | .ok v => (canonicalizeFields es).map ((k, v) :: ·)

end

/-- Numbering the entries keeps them, and keeps their order. -/
theorem snd_numbered {es : Entries Json} {ns : List (Nat × (String × Json))} (h : numbered es = .ok ns) :
    ns.map Prod.snd = es := by
  induction es generalizing ns with
  | nil =>
    cases h
    rfl
  | cons e es ih =>
    rw [numbered] at h
    split at h
    · cases h
    · cases hn : numbered es with
      | error err => simp [hn, Except.map] at h
      | ok ms =>
        simp only [hn, Except.map, Except.ok.injEq] at h
        subst h
        rw [List.map_cons, ih hn]

/-- Sorting by the numbers loses no entry and adds none. -/
theorem byNumber_perm (ns : List (Nat × (String × Json))) : (byNumber ns).Perm (ns.map Prod.snd) :=
  (List.mergeSort_perm ns _).map Prod.snd

/-- Arranging moves entries and neither drops nor adds any. -/
theorem arrange_perm {es fs : Entries Json} (h : arrange es = .ok fs) : fs.Perm es := by
  rw [arrange] at h
  cases hn : numbered (inPlace .numeric es) with
  | error err => simp [hn, Except.map] at h
  | ok ns =>
    simp only [hn, Except.map, Except.ok.injEq] at h
    subst h
    have h1 : (byNumber ns).Perm (inPlace .numeric es) := by
      have := byNumber_perm ns
      rwa [snd_numbered hn] at this
    refine (h1.append_right _).trans ?_
    have h2 : ∀ l : Entries Json, (inPlace .numeric l ++ (inPlace .identity l ++ inPlace .other l)).Perm l := by
      intro l
      induction l with
      | nil => exact .nil
      | cons e l ih =>
        cases hp : keyPlace e.1 with
        | numeric => simpa [inPlace, hp] using ih.cons e
        | identity =>
          simp only [inPlace, List.filter_cons, hp, decide_true, reduceCtorEq, decide_false, if_true,
            Bool.false_eq_true, if_false, List.cons_append]
          exact List.perm_middle.trans (ih.cons e)
        | other =>
          simp only [inPlace, List.filter_cons, hp, decide_true, reduceCtorEq, decide_false, if_true,
            Bool.false_eq_true, if_false]
          rw [← List.append_assoc]
          refine List.perm_middle.trans ?_
          rw [List.append_assoc]
          exact ih.cons e
    exact h2 es

/-- The keys after arranging are the keys before, in another order. -/
theorem keys_arrange {es fs : Entries Json} (h : arrange es = .ok fs) : (Entries.keys fs).Perm (Entries.keys es) :=
  (arrange_perm h).map Prod.fst

end HelixGateway.Json
