import HelixGateway.Text.Split

/-!
# Lines of joined texts

Two texts with a line feed between them have the lines of the one and then the lines of the other. What the first ends with
decides how the line feed counts: it completes a carriage return before it, or ends a line that is open, or else it stands
for a blank line between the two.

Ways to end a line that are made one do not change the lines.

Main statements: `lines_append_newline`, `lines_append_of_break`, `lines_append_of_line`, `lines_join`, `lines_unifyNewlines`.
-/

namespace HelixGateway.Text

/-- A line break in front opens an empty line, unless it is the first half of one. -/
theorem lines_cons_of_break {c : Char} (h : isLineBreak c = true) {s : List Char} (hs : ∀ t, c = '\r' → s ≠ '\n' :: t) :
    lines (c :: s) = [] :: lines s := by
  rw [lines]
  · rw [if_pos h]
  · exact hs

/-- A line feed in front opens an empty line. -/
theorem lines_lineFeed (s : List Char) : lines ('\n' :: s) = [] :: lines s :=
  lines_cons_of_break (by decide) fun _ h => absurd h (by decide)

/-- What is put in front of lines goes to the first one, whatever follows. -/
theorem consHead_append {ls : List (List Char)} (h : ls ≠ []) (c : Char) (ms : List (List Char)) :
    consHead c (ls ++ ms) = consHead c ls ++ ms := by
  cases ls with
  | nil => exact absurd rfl h
  | cons l ls => rfl

/-- A text that is not empty has a line. -/
theorem lines_ne_nil {s : List Char} (h : s ≠ []) : lines s ≠ [] := by
  intro hl
  unfold lines at hl
  split at hl
  · exact h rfl
  · cases hl
  · split at hl
    · cases hl
    · rename_i c s _ _
      cases hs : lines s with
      | nil => simp [hs, consHead] at hl
      | cons l ls => simp [hs, consHead] at hl

/-- A line feed between two texts separates their lines, with a blank line in the gap or nothing. The gap depends on the
first text alone. -/
theorem lines_append_newline (s : List Char) :
    ∃ gap, (gap = [] ∨ gap = [[]]) ∧ ∀ t, lines (s ++ '\n' :: t) = lines s ++ (gap ++ lines t) := by
  fun_induction lines s with
  | case1 => exact ⟨[[]], Or.inr rfl, lines_lineFeed⟩
  | case2 s ih =>
    obtain ⟨gap, hg, ht⟩ := ih
    refine ⟨gap, hg, fun t => ?_⟩
    rw [List.cons_append, List.cons_append, lines, ht]
    rfl
  | case3 c s hs hc ih =>
    by_cases hr : c = '\r' ∧ s = []
    · -- the line feed and the carriage return before it are one break
      obtain ⟨rfl, rfl⟩ := hr
      refine ⟨[], Or.inl rfl, fun t => ?_⟩
      show lines ('\r' :: '\n' :: t) = [] :: lines t
      rw [lines]
    · obtain ⟨gap, hg, ht⟩ := ih
      refine ⟨gap, hg, fun t => ?_⟩
      have hcut : lines (c :: (s ++ '\n' :: t)) = [] :: lines (s ++ '\n' :: t) := by
        refine lines_cons_of_break hc fun u hcr hu => ?_
        cases s with
        | nil => exact hr ⟨hcr, rfl⟩
        | cons d s =>
          obtain ⟨rfl, -⟩ := List.cons.inj hu
          exact hs s hcr rfl
      rw [List.cons_append, hcut, ht]
      rfl
  | case4 c s hs hc ih =>
    have hcut : ∀ t, lines (c :: (s ++ '\n' :: t)) = consHead c (lines (s ++ '\n' :: t)) :=
      fun t => lines_cons_of_not_break (by simpa using hc) _
    by_cases he : s = []
    · -- the line feed ends the line that the character opens
      subst he
      refine ⟨[], Or.inl rfl, fun t => ?_⟩
      rw [List.cons_append, hcut, List.nil_append, lines_lineFeed]
      rfl
    · obtain ⟨gap, hg, ht⟩ := ih
      refine ⟨gap, hg, fun t => ?_⟩
      rw [List.cons_append, hcut, ht, consHead_append (lines_ne_nil he)]

/-! ## Whole lines -/

/-- Behind a break the lines of a text go on as those of what follows. -/
theorem lines_append_of_break {a s : List Char} (ha : ∀ c ∈ a.getLast?, isLineBreak c = true) (hs : s.head? ≠ some '\n') :
    lines (a ++ s) = lines a ++ lines s := by
  fun_induction lines a with
  | case1 => rfl
  | case2 a ih =>
    have hl : ∀ c ∈ a.getLast?, isLineBreak c = true := by
      cases a with
      | nil => simp
      | cons d a => simpa using ha
    rw [List.cons_append, List.cons_append, lines, ih hl]
    rfl
  | case3 c a hr hc ih =>
    have hl : ∀ c ∈ a.getLast?, isLineBreak c = true := by
      cases a with
      | nil => simp
      | cons d a => simpa using ha
    rw [List.cons_append, lines_cons_of_break hc, ih hl]
    · rfl
    · intro t hcr ht
      cases a with
      | nil => exact hs (by rw [show s = '\n' :: t from ht]; rfl)
      | cons d a =>
        obtain ⟨rfl, -⟩ := List.cons.inj ht
        exact hr a hcr rfl
  | case4 c a hr hc ih =>
    cases a with
    | nil => exact absurd (ha c rfl) hc
    | cons d a =>
      rw [List.cons_append, lines_cons_of_not_break (by simpa using hc), ih (by simpa using ha),
        consHead_append (lines_ne_nil (by simp))]

/-- A line before a break, or at the end of the text, stands first among the lines. -/
theorem lines_append_of_line {l b : List Char} (hn : l ≠ []) (hl : ∀ c ∈ l, isLineBreak c = false)
    (hb : ∀ c ∈ b.head?, isLineBreak c = true) : lines (l ++ b) = l :: (lines b).tail := by
  induction l with
  | nil => exact absurd rfl hn
  | cons c l ih =>
    rw [List.cons_append, lines_cons_of_not_break (hl c (by simp))]
    cases l with
    | nil =>
      rw [List.nil_append]
      unfold lines
      split
      · rfl
      · rfl
      · rw [if_pos (hb _ rfl)]
        rfl
    | cons d l =>
      rw [ih (by simp) fun x hx => hl x (List.mem_cons_of_mem _ hx)]
      rfl

/-! ## Unified newlines -/

/-- A text has the same lines when all its newlines are line feeds: what a carriage return and what it takes along are
replaced by is one break, and so were they. -/
theorem lines_unifyNewlines (s : List Char) : lines (unifyNewlines s) = lines s := by
  fun_induction unifyNewlines s with
  | case1 => rfl
  | case2 s ih => rw [lines_lineFeed, ih, lines]
  | case3 c s hs ih =>
    by_cases hr : c = '\r'
    · -- the carriage return stands alone, as no line feed follows it
      subst hr
      rw [if_pos rfl, lines_lineFeed, ih, lines_cons_of_break (by decide) fun t _ => hs t rfl]
    · rw [if_neg hr]
      cases hc : isLineBreak c with
      | true =>
        rw [lines_cons_of_break hc fun _ h => absurd h hr, lines_cons_of_break hc fun _ h => absurd h hr, ih]
      | false => rw [lines_cons_of_not_break hc, lines_cons_of_not_break hc, ih]

/-! ## Joined lines -/

/-- A text of lines joined by line feeds has those lines, but for a blank one at its end. -/
theorem lines_join {ls : List (List Char)} (h : ∀ l ∈ ls, ∀ c ∈ l, isLineBreak c = false) :
    lines (join ['\n'] ls) = ls ∨ lines (join ['\n'] ls) ++ [[]] = ls := by
  induction ls with
  | nil => exact Or.inl rfl
  | cons l ls ih =>
    cases ls with
    | nil =>
      rw [join]
      cases l with
      | nil => exact Or.inr rfl
      | cons c l =>
        left
        have hl := h (c :: l) (by simp)
        clear h ih
        induction l generalizing c with
        | nil =>
          rw [lines_cons_of_not_break (hl c (by simp))]
          rfl
        | cons d l ih =>
          rw [lines_cons_of_not_break (hl c (by simp)), ih d fun x hx => hl x (List.mem_cons_of_mem _ hx)]
          rfl
    | cons m ms =>
      rw [join]
      · rw [List.singleton_append, lines_append_break (h l (by simp)), List.cons_append]
        rcases ih fun l' hl' => h l' (List.mem_cons_of_mem _ hl') with hi | hi
        · exact Or.inl (congrArg (l :: ·) hi)
        · exact Or.inr (congrArg (l :: ·) hi)
      · exact nofun

end HelixGateway.Text
