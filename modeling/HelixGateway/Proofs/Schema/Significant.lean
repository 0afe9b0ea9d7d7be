import HelixGateway.Proofs.Text.Lines
import HelixGateway.Schema.Parser

/-!
# The lines of a schema that count

A block reader trims every line and passes over blank lines and comments, and between blocks both start no declaration. So
a text is read like the text of its significant lines alone: those that are neither blank nor a comment, trimmed.

Main statements: `parseLines_significant`, `parse_join`.
-/

namespace HelixGateway.Block

open Text

/-- Whether a trimmed line says something: it is neither empty nor a comment. -/
def counts (l : List Char) : Bool := !l.isEmpty && !isComment l

/-- The lines that count, trimmed. -/
def significant (ls : Lines) : Lines := (ls.map trim).filter counts

@[simp] theorem significant_nil : significant [] = [] := rfl

/-- A line that counts is kept, trimmed. -/
theorem significant_cons_of_counts {l : List Char} (h : counts (trim l) = true) (ls : Lines) :
    significant (l :: ls) = trim l :: significant ls := by
  simp [significant, h]

/-- A line that does not count is left out. -/
theorem significant_cons_of_skip {l : List Char} (h : counts (trim l) = false) (ls : Lines) :
    significant (l :: ls) = significant ls := by
  simp [significant, h]

/-- Whether a line counts does not depend on the other lines. -/
theorem significant_append (ls ms : Lines) : significant (ls ++ ms) = significant ls ++ significant ms := by
  simp [significant]

/-! ## Reading blocks -/

variable {σ : Type}

/-- A body passes over a line that does not count. -/
theorem takeTextLines_cons_of_skip (step : σ → List Char → Outcome σ) (state : σ) {l : List Char}
    (h : counts (trim l) = false) (ls : Lines) :
    takeTextLines step state (l :: ls) = takeTextLines step state ls := by
  have hs : ((trim l).isEmpty || isComment (trim l)) = true := by
    cases hl : (trim l).isEmpty <;> simp_all [counts]
  rw [takeTextLines]
  simp [hs]

/-- A line that counts is read, trimmed, and ends the body or does not. -/
theorem takeTextLines_cons_of_counts (step : σ → List Char → Outcome σ) (state : σ) {l : List Char}
    (h : counts (trim l) = true) (ls : Lines) :
    takeTextLines step state (l :: ls) =
      if (step state (trim l)).closed then ((step state (trim l)).state, ls)
      else takeTextLines step (step state (trim l)).state ls := by
  have hs : ((trim l).isEmpty || isComment (trim l)) = false := by
    cases hl : (trim l).isEmpty <;> simp_all [counts]
  rw [takeTextLines]
  simp [hs]

/-- The body of a block is read from the lines that count, and what it leaves of them is what counts of the lines that it
leaves of the text. -/
theorem takeTextLines_significant (step : σ → List Char → Outcome σ) (state : σ) (ls : Lines) :
    takeTextLines step state (significant ls) =
      ((takeTextLines step state ls).1, significant (takeTextLines step state ls).2) := by
  induction ls generalizing state with
  | nil => rfl
  | cons l ls ih =>
    cases h : counts (trim l) with
    | false => rw [significant_cons_of_skip h, takeTextLines_cons_of_skip step state h, ih]
    | true =>
      have ht : counts (trim (trim l)) = true := by rw [trim_trim, h]
      rw [significant_cons_of_counts h, takeTextLines_cons_of_counts step state ht,
        takeTextLines_cons_of_counts step state h, trim_trim]
      cases hc : (step state (trim l)).closed with
      | true => rfl
      | false => exact ih _

/-- A body is the same without the lines that do not count. -/
theorem readBody_significant (step : σ → List Char → Outcome σ) (state : σ) (header : List Char) (rest : Lines) :
    readBody step state header (significant rest) =
      ((readBody step state header rest).1, significant (readBody step state header rest).2) := by
  rw [readBody, readBody]
  split
  · rfl
  · exact takeTextLines_significant step _ rest

/-- What a reader gives, with the lines that count of those it leaves. -/
def leaveSignificant {α : Type} : Except BlockError (α × Lines) → Except BlockError (α × Lines) :=
  Except.map fun r => (r.1, significant r.2)

theorem readVertex_significant (expected : Kind) (first : List Char) (rest : Lines) :
    readVertex expected (trim first) (significant rest) = leaveSignificant (readVertex expected first rest) := by
  simp only [readVertex, trim_trim]
  cases vertexHeader? (trim first) with
  | none => rfl
  | some h =>
    obtain ⟨kind, s⟩ := h
    simp only [readBody_significant]
    rfl

theorem readEdge_significant (first : List Char) (rest : Lines) :
    readEdge (trim first) (significant rest) = leaveSignificant (readEdge first rest) := by
  simp only [readEdge, trim_trim]
  cases afterPrefix? edgePrefix (trim first) with
  | none => rfl
  | some s =>
    simp only [readBody_significant]
    rfl

end HelixGateway.Block

namespace HelixGateway.Schema

open Block (Lines counts significant leaveSignificant)
open Text (trim)

/-! ## Reading schemas -/

/-- A declaration is the same without the lines that do not count. -/
theorem readFirst_significant (l : List Char) (ls : Lines) :
    readFirst (trim l) (significant ls) = ((readFirst l ls).1, significant (readFirst l ls).2) := by
  rw [readFirst, readFirst, Block.readVertex_significant, Block.readEdge_significant]
  cases Block.readVertex .node l ls with
  | ok r => rfl
  | error e =>
    cases Block.readEdge l ls with
    | ok r => rfl
    | error e => rfl

/-- A line that does not count starts no declaration. -/
theorem starts_nothing_of_skip {l : List Char} (h : counts l = false) :
    Block.vertexHeader? l = none ∧ Text.afterPrefix? Block.edgePrefix l = none := by
  cases l with
  | nil => exact ⟨rfl, rfl⟩
  | cons c l =>
    have hc : c = '/' := by
      simp only [counts, List.isEmpty_cons, Bool.not_false, Bool.true_and, Bool.not_eq_false'] at h
      obtain ⟨t, ht⟩ := List.isPrefixOf_iff_prefix.1 h
      exact (List.cons.inj ht).1.symm
    subst hc
    exact ⟨rfl, rfl⟩

/-- A schema is read from the lines that count. -/
theorem parseLines_significant (ls : Lines) : parseLines (significant ls) = parseLines ls := by
  induction ls using parseLines.induct with
  | case1 => rfl
  | case2 l ls ih =>
    cases h : counts (trim l) with
    | false =>
      obtain ⟨hv, he⟩ := starts_nothing_of_skip h
      have hr : (readFirst l ls).2 = ls := by rw [readFirst_of_skip hv he]
      rw [Block.significant_cons_of_skip h, parseLines_cons_of_skip ls hv he, ← hr, ih]
    | true => rw [Block.significant_cons_of_counts h, parseLines, parseLines, readFirst_significant, ih]

/-! ## Texts and lines -/

/-- The text of some lines is read like the lines. -/
theorem parse_join {ls : Lines} (h : ∀ l ∈ ls, ∀ c ∈ l, Text.isLineBreak c = false) :
    parse (Text.join ['\n'] ls) = parseLines ls := by
  rw [parse, ← parseLines_significant, ← parseLines_significant ls]
  rcases Text.lines_join h with hl | hl
  · rw [hl]
  · have hs : significant ls = significant (Text.lines (Text.join ['\n'] ls)) :=
      calc significant ls = significant (Text.lines (Text.join ['\n'] ls) ++ [[]]) := by rw [hl]
        _ = significant (Text.lines (Text.join ['\n'] ls)) := by
          rw [Block.significant_append, show significant [[]] = [] from rfl, List.append_nil]
    rw [hs]

end HelixGateway.Schema
