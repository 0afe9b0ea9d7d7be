import HelixGateway.Text.Blank

/-!
# Cutting text at separators

`afterPrefix?` and `between?` take fixed texts off the ends of a text, `cut` divides it at the first occurrence of a
separator, `split` at every occurrence, and `pieces` at every character of a class. No separator is empty where these are
used; an empty one occurs nowhere.

Main statements: `cut_eq_some`, which says that a cut loses nothing, and `length_lt_of_between?`, by which a reader that
peels a text ends.
-/

namespace HelixGateway.Text

/-- What follows `lead` in a text that starts with it. -/
def afterPrefix? : List Char → List Char → Option (List Char)
  | [], s => some s
  | _ :: _, [] => none
  | a :: lead, c :: s => if a = c then afterPrefix? lead s else none

/-- What precedes `tail` in a text that ends with it. -/
def beforeSuffix? (tail s : List Char) : Option (List Char) :=
  (afterPrefix? tail.reverse s.reverse).map List.reverse

/-- What stands between `lead` and `tail` in a text that starts with the one and then ends with the other. -/
def between? (lead tail s : List Char) : Option (List Char) :=
  (afterPrefix? lead s).bind (beforeSuffix? tail)

/-- A text without one line feed at its end. -/
def dropFinalNewline (s : List Char) : List Char := (beforeSuffix? ['\n'] s).getD s

/-- The parts of a text before and after the first occurrence of the separator. -/
def cut (sep : List Char) : List Char → Option (List Char × List Char)
  | [] => none
  | c :: s =>
    match afterPrefix? sep (c :: s) with
    | some rest => some ([], rest)
    | none => (cut sep s).map fun (a, b) => (c :: a, b)

/-- A text is its lead and what follows that. -/
theorem eq_append_of_afterPrefix? {lead s r : List Char} (h : afterPrefix? lead s = some r) : s = lead ++ r := by
  induction lead generalizing s with
  | nil => simpa [afterPrefix?] using h
  | cons a lead ih =>
    cases s with
    | nil => simp [afterPrefix?] at h
    | cons c s =>
      rw [afterPrefix?] at h
      split at h
      · rename_i hac
        rw [hac, ih h]
        rfl
      · cases h

/-- What follows the lead is found. -/
theorem afterPrefix?_append (lead r : List Char) : afterPrefix? lead (lead ++ r) = some r := by
  induction lead with
  | nil => rfl
  | cons a lead ih => simpa [afterPrefix?] using ih

/-- What follows the lead is found exactly if the text is made of the two. -/
theorem afterPrefix?_eq_some_iff {lead s r : List Char} : afterPrefix? lead s = some r ↔ s = lead ++ r :=
  ⟨eq_append_of_afterPrefix?, fun h => h ▸ afterPrefix?_append lead r⟩

/-- What precedes the tail is found exactly if the text is made of the two. -/
theorem beforeSuffix?_eq_some_iff {tail s r : List Char} : beforeSuffix? tail s = some r ↔ s = r ++ tail := by
  rw [beforeSuffix?, Option.map_eq_some_iff]
  constructor
  · rintro ⟨t, ht, rfl⟩
    rw [afterPrefix?_eq_some_iff, List.reverse_eq_iff] at ht
    simpa using ht
  · rintro rfl
    exact ⟨r.reverse, by simp [afterPrefix?_eq_some_iff], by simp⟩

/-- A line feed at the end is dropped. -/
theorem dropFinalNewline_append (s : List Char) : dropFinalNewline (s ++ ['\n']) = s := by
  rw [dropFinalNewline, beforeSuffix?_eq_some_iff.2 rfl]
  rfl

/-- Either a line feed is dropped, or the text stays as it is. -/
theorem dropFinalNewline_cases (s : List Char) : s = dropFinalNewline s ++ ['\n'] ∨ dropFinalNewline s = s := by
  cases h : beforeSuffix? ['\n'] s with
  | none =>
    rw [dropFinalNewline, h]
    exact Or.inr rfl
  | some r =>
    rw [dropFinalNewline, h]
    exact Or.inl (beforeSuffix?_eq_some_iff.1 h)

/-- A text without line feeds stays as it is. -/
theorem dropFinalNewline_of_not_mem {s : List Char} (h : '\n' ∉ s) : dropFinalNewline s = s := by
  refine (dropFinalNewline_cases s).resolve_left fun hs => h ?_
  rw [hs]
  exact List.mem_append_right _ (List.mem_singleton_self _)

/-- What is left over without line feeds is the text itself, or one line feed is missing. -/
theorem dropFinalNewline_eq_iff {s r : List Char} (h : '\n' ∉ r) :
    dropFinalNewline s = r ↔ s = r ∨ s = r ++ ['\n'] := by
  constructor
  · rintro rfl
    exact (dropFinalNewline_cases s).symm.imp_left Eq.symm
  · rintro (rfl | rfl)
    · exact dropFinalNewline_of_not_mem h
    · exact dropFinalNewline_append r

/-- What stands between lead and tail is found exactly if the text is made of the three. -/
theorem between?_eq_some_iff {lead tail s r : List Char} : between? lead tail s = some r ↔ s = lead ++ (r ++ tail) := by
  rw [between?, Option.bind_eq_some_iff]
  constructor
  · rintro ⟨t, ht, hr⟩
    rw [afterPrefix?_eq_some_iff.1 ht, beforeSuffix?_eq_some_iff.1 hr]
  · rintro rfl
    exact ⟨r ++ tail, afterPrefix?_append _ _, beforeSuffix?_eq_some_iff.2 rfl⟩

/-- What stands behind a lead is shorter than the text. -/
theorem length_lt_of_between? {lead tail s r : List Char} (hl : lead ≠ []) (h : between? lead tail s = some r) :
    r.length < s.length := by
  rw [between?_eq_some_iff.1 h]
  have := List.length_pos_iff.2 hl
  simp only [List.length_append]
  omega

/-- A cut loses nothing but the separator. -/
theorem cut_eq_some {sep s a b : List Char} (h : cut sep s = some (a, b)) : s = a ++ (sep ++ b) := by
  induction s generalizing a b with
  | nil => simp [cut] at h
  | cons c s ih =>
    rw [cut] at h
    split at h
    · rename_i rest hr
      simp only [Option.some.injEq, Prod.mk.injEq] at h
      obtain ⟨rfl, rfl⟩ := h
      simpa using eq_append_of_afterPrefix? hr
    · rw [Option.map_eq_some_iff] at h
      obtain ⟨⟨a', b'⟩, h', he⟩ := h
      simp only [Prod.mk.injEq] at he
      obtain ⟨rfl, rfl⟩ := he
      rw [ih h']
      rfl

/-- The parts of a text between the occurrences of the separator, found from the left and not overlapping. -/
def split (sep s : List Char) : List (List Char) :=
  if _hs : sep = [] then [s]
  else
    match _h : cut sep s with
    | none => [s]
    | some (a, b) => a :: split sep b
termination_by s.length
decreasing_by
  have hlen := congrArg List.length (cut_eq_some _h)
  have := List.length_pos_iff.2 _hs
  simp only [List.length_append] at hlen
  omega

/-- The parts of a text between the characters of the class `p`. -/
def pieces (p : Char → Bool) : List Char → List (List Char)
  | [] => [[]]
  | c :: s => if p c then [] :: pieces p s else consHead c (pieces p s)

/-- The part before the first occurrence of the separator, all of a text without one. -/
def before (sep s : List Char) : List Char :=
  match cut sep s with
  | none => s
  | some (a, _) => a

/-- The text without any occurrence of `sep`. -/
def without (sep s : List Char) : List Char := (split sep s).flatten

/-- Whether `part` occurs somewhere in the text. -/
def occurs (part : List Char) : List Char → Bool
  | [] => part.isEmpty
  | c :: s => part.isPrefixOf (c :: s) || occurs part s

/-- Joins texts, the separator between each two. -/
def join (sep : List Char) : List (List Char) → List Char
  | [] => []
  | [s] => s
  | s :: r => s ++ (sep ++ join sep r)

/-- A text without the first character of the separator is not cut. -/
theorem cut_eq_none_of_not_mem {c : Char} {sep s : List Char} (h : c ∉ s) : cut (c :: sep) s = none := by
  induction s with
  | nil => rfl
  | cons d s ih =>
    simp only [List.mem_cons, not_or] at h
    simp [cut, afterPrefix?, h.1, ih h.2]

/-- A text that does not hold the first character of a separator is cut off by it. -/
theorem cut_append_separator {c : Char} {a : List Char} (h : c ∉ a) (sep b : List Char) :
    cut (c :: sep) (a ++ c :: (sep ++ b)) = some (a, b) := by
  induction a with
  | nil => simp [cut, afterPrefix?, afterPrefix?_append]
  | cons d a ih =>
    simp only [List.mem_cons, not_or] at h
    simp [cut, afterPrefix?, h.1, ih h.2]

/-- A text is cut at the first occurrence of a separating character. -/
theorem cut_append_of_not_mem {c : Char} {a b : List Char} (h : c ∉ a) : cut [c] (a ++ c :: b) = some (a, b) :=
  cut_append_separator h [] b

/-- A text that is not cut does not hold the separating character. -/
theorem not_mem_of_cut_eq_none {c : Char} {s : List Char} (h : cut [c] s = none) : c ∉ s := by
  intro hm
  obtain ⟨a, b, rfl, ha⟩ := List.eq_append_cons_of_mem hm
  rw [cut_append_of_not_mem ha] at h
  cases h

/-- A cut at a character is one at its first occurrence. -/
theorem not_mem_of_cut_eq_some {c : Char} {s a b : List Char} (h : cut [c] s = some (a, b)) : c ∉ a := by
  intro hm
  obtain ⟨a₁, a₂, rfl, ha⟩ := List.eq_append_cons_of_mem hm
  rw [cut_eq_some h, List.append_assoc, List.cons_append, cut_append_of_not_mem ha, Option.some.injEq, Prod.mk.injEq] at h
  have hl := congrArg List.length h.1
  simp at hl

/-- A text without the separator is one piece. -/
theorem split_of_cut_eq_none {sep s : List Char} (h : cut sep s = none) : split sep s = [s] := by
  rw [split]
  split
  · rfl
  · split
    · rfl
    · rename_i h'
      rw [h] at h'
      cases h'

/-- The first piece is what stands before the first separator, and the others are split off the rest. -/
theorem split_of_cut_eq_some {sep s a b : List Char} (hs : sep ≠ []) (h : cut sep s = some (a, b)) :
    split sep s = a :: split sep b := by
  rw [split, dif_neg hs]
  split
  · rename_i h'
    rw [h] at h'
    cases h'
  · rename_i h'
    rw [h] at h'
    cases h'
    rfl

/-- A part occurs in a text exactly if the text is the part with something around it. -/
theorem occurs_iff {part s : List Char} : occurs part s = true ↔ part <:+: s := by
  induction s with
  | nil => simp [occurs]
  | cons c s ih => rw [occurs, Bool.or_eq_true, ih, List.isPrefixOf_iff_prefix, List.infix_cons_iff]

end HelixGateway.Text
