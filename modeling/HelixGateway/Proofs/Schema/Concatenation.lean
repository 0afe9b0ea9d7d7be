import HelixGateway.Proofs.Schema.Cursor
import HelixGateway.Proofs.Schema.Significant
import HelixGateway.Proofs.Text.Lines

/-!
# Schemas one behind the other

A block that is closed depends on its own lines alone. So a text whose blocks are all closed, and another text on the lines
behind it, declare what the one declares and then what the other declares. A block that the end of the text leaves open goes
on into what follows; all that one more closing brace can do is to close it, and it declares the same as before.

Main statements: `parseLines_append`, `parseLines_append_closing`, `parse_append_newline`.
-/

namespace HelixGateway.Block

open Text

variable {σ : Type} (step : σ → List Char → Outcome σ) (state : σ)

/-- Whether none of the lines that a body is read from closes it: neither those behind the brace on the line `header` nor
those of `rest` that count. -/
def neverClosed (header : List Char) (rest : Lines) : Bool :=
  (takeLines step state (inlineLines (behindBrace header) ++ significant rest)).2.isNone

/-- Further lines are taken in the state that those before them leave, or are left with the rest. -/
theorem takeLines_append (ls ms : Lines) :
    takeLines step state (ls ++ ms) =
      match takeLines step state ls with
      | (state', some left) => (state', some (left ++ ms))
      | (state', none) => takeLines step state' ms := by
  induction ls generalizing state with
  | nil => rfl
  | cons l ls ih =>
    rw [List.cons_append, takeLines, takeLines]
    cases hc : (step state l).closed with
    | true => rfl
    | false => simpa [hc] using ih (step state l).state

/-- A body that is closed leaves the lines that come later, and one that is not goes on with them. -/
theorem takeTextLines_append (ls ms : Lines) :
    takeTextLines step state (ls ++ ms) =
      if (takeLines step state (significant ls)).2.isNone then takeTextLines step (takeTextLines step state ls).1 ms
      else ((takeTextLines step state ls).1, (takeTextLines step state ls).2 ++ ms) := by
  induction ls generalizing state with
  | nil => rfl
  | cons l ls ih =>
    rw [List.cons_append]
    cases h : counts (trim l) with
    | false =>
      rw [takeTextLines_cons_of_skip step state h, takeTextLines_cons_of_skip step state h, significant_cons_of_skip h, ih]
    | true =>
      rw [takeTextLines_cons_of_counts step state h, takeTextLines_cons_of_counts step state h, significant_cons_of_counts h,
        takeLines]
      cases hc : (step state (trim l)).closed with
      | true => rfl
      | false => simpa [hc] using ih (step state (trim l)).state

/-- A body that no line closes takes all lines. -/
theorem takeTextLines_of_never (ls : Lines) (h : (takeLines step state (significant ls)).2.isNone = true) :
    (takeTextLines step state ls).2 = [] := by
  induction ls generalizing state with
  | nil => rfl
  | cons l ls ih =>
    cases hl : counts (trim l) with
    | false =>
      rw [significant_cons_of_skip hl] at h
      rw [takeTextLines_cons_of_skip step state hl]
      exact ih state h
    | true =>
      rw [significant_cons_of_counts hl, takeLines] at h
      rw [takeTextLines_cons_of_counts step state hl]
      cases hc : (step state (trim l)).closed with
      | true => simp [hc] at h
      | false =>
        simp only [hc, Bool.false_eq_true, if_false] at h ⊢
        exact ih _ h

/-- Whether a body is closed says what more lines do to it. -/
theorem readBody_append (header : List Char) (rest ms : Lines) :
    readBody step state header (rest ++ ms) =
      if neverClosed step state header rest then takeTextLines step (readBody step state header rest).1 ms
      else ((readBody step state header rest).1, (readBody step state header rest).2 ++ ms) := by
  rw [neverClosed, takeLines_append, readBody, readBody]
  cases takeLines step state (inlineLines (behindBrace header)) with
  | mk state' left =>
    cases left with
    | some left => rfl
    | none => exact takeTextLines_append step state' rest ms

variable {step state} {header : List Char} {rest left : Lines} {state' : σ}

/-- A closed body leaves further lines with the rest. -/
theorem readBody_append_of_closed (h : neverClosed step state header rest = false)
    (hb : readBody step state header rest = (state', left)) (ms : Lines) :
    readBody step state header (rest ++ ms) = (state', left ++ ms) := by
  rw [readBody_append, h, hb]
  rfl

/-- A body that no line closes leaves nothing. -/
theorem eq_nil_of_neverClosed (h : neverClosed step state header rest = true)
    (hb : readBody step state header rest = (state', left)) : left = [] := by
  rw [neverClosed, takeLines_append] at h
  rw [readBody] at hb
  cases ht : takeLines step state (inlineLines (behindBrace header)) with
  | mk inner behind =>
    rw [ht] at h hb
    cases behind with
    | some behind => cases h
    | none =>
      have hn := takeTextLines_of_never step inner rest h
      simp only at hb
      rwa [hb] at hn

/-- A closing brace behind a body that was never closed is the last line of the body. -/
theorem readBody_append_closing (h : neverClosed step state header rest = true)
    (hb : readBody step state header rest = (state', left)) :
    readBody step state header (rest ++ [closing]) = ((step state' closing).state, []) := by
  have ht : counts (trim closing) = true ∧ trim closing = closing := by decide
  rw [readBody_append, if_pos h, hb, takeTextLines_cons_of_counts step state' ht.1, ht.2]
  split
  · rfl
  · rfl

end HelixGateway.Block

namespace HelixGateway.Schema

open Block
open Text (trim)

/-! ## Lines -/

/-- Whether a line starts a declaration whose block is still open at the end of the lines behind it. -/
def leavesOpen (l : List Char) (ls : Lines) : Bool :=
  if (vertexHeader? (trim l)).isSome then neverClosed vertexStep .empty (trim l) ls
  else (Text.afterPrefix? edgePrefix (trim l)).isSome && neverClosed edgeStep .start (trim l) ls

/-- Whether the reading of some lines reaches their end inside a block. -/
def endsOpen (ls : Lines) : Bool :=
  match ls with
  | [] => false
  | l :: ls => leavesOpen l ls || endsOpen (readFirst l ls).2
termination_by ls.length
decreasing_by exact Nat.lt_succ_of_le (suffix_readFirst l ls).length_le

/-- A declaration whose block is closed leaves the lines that come later. -/
theorem readFirst_append {l : List Char} {ls : Lines} (h : leavesOpen l ls = false) (ms : Lines) :
    readFirst l (ls ++ ms) = ((readFirst l ls).1, (readFirst l ls).2 ++ ms) := by
  unfold leavesOpen at h
  cases hv : vertexHeader? (trim l) with
  | some header =>
    obtain ⟨kind, s⟩ := header
    simp only [hv, Option.isSome_some, if_true] at h
    cases hb : readBody vertexStep .empty (trim l) ls with
    | mk properties left =>
      rw [readFirst_of_vertexHeader hv hb, readFirst_of_vertexHeader hv (readBody_append_of_closed h hb ms)]
  | none =>
    cases he : Text.afterPrefix? edgePrefix (trim l) with
    | some s =>
      simp only [hv, he, Option.isSome_none, Option.isSome_some, Bool.false_eq_true, if_false, Bool.true_and] at h
      cases hb : readBody edgeStep .start (trim l) ls with
      | mk state left =>
        rw [readFirst_of_edgePrefix hv he hb, readFirst_of_edgePrefix hv he (readBody_append_of_closed h hb ms)]
    | none => rw [readFirst_of_skip hv he, readFirst_of_skip hv he]

/-- A closing brace keeps what an edge has read. -/
theorem edgeStep_closing (state : EdgeState) :
    (edgeStep state closing).state = { state with inProperties := false } := by
  obtain ⟨source, target, inProperties, properties⟩ := state
  cases inProperties <;> rfl

/-- One more closing brace closes an open block, or the properties of an open edge; what is declared is the same. -/
theorem readFirst_append_closing {l : List Char} {ls : Lines} (h : leavesOpen l ls = true) :
    (readFirst l ls).2 = [] ∧ readFirst l (ls ++ [closing]) = readFirst l ls := by
  unfold leavesOpen at h
  cases hv : vertexHeader? (trim l) with
  | some header =>
    obtain ⟨kind, s⟩ := header
    simp only [hv, Option.isSome_some, if_true] at h
    cases hb : readBody vertexStep .empty (trim l) ls with
    | mk properties left =>
      obtain rfl := eq_nil_of_neverClosed h hb
      rw [readFirst_of_vertexHeader hv hb, readFirst_of_vertexHeader hv (readBody_append_closing h hb)]
      exact ⟨rfl, rfl⟩
  | none =>
    cases he : Text.afterPrefix? edgePrefix (trim l) with
    | some s =>
      simp only [hv, he, Option.isSome_none, Option.isSome_some, Bool.false_eq_true, if_false, Bool.true_and] at h
      cases hb : readBody edgeStep .start (trim l) ls with
      | mk state left =>
        obtain rfl := eq_nil_of_neverClosed h hb
        rw [readFirst_of_edgePrefix hv he hb, readFirst_of_edgePrefix hv he (readBody_append_closing h hb),
          edgeStep_closing]
        exact ⟨rfl, rfl⟩
    | none => simp [hv, he] at h

/-- What follows lines whose blocks are all closed is read on its own. -/
theorem parseLines_append {ls : Lines} (h : endsOpen ls = false) (ms : Lines) :
    parseLines (ls ++ ms) = parseLines ls ++ parseLines ms := by
  induction ls using parseLines.induct with
  | case1 =>
    rw [parseLines]
    rfl
  | case2 l ls ih =>
    rw [endsOpen, Bool.or_eq_false_iff] at h
    rw [List.cons_append, parseLines, readFirst_append h.1, ih h.2, parseLines, append_assoc]

/-- A closing brace at the end declares nothing, and ends nothing that was not at its end. -/
theorem parseLines_append_closing (ls : Lines) : parseLines (ls ++ [closing]) = parseLines ls := by
  induction ls using parseLines.induct with
  | case1 => exact parseLines_cons_of_skip [] rfl rfl
  | case2 l ls ih =>
    cases ho : leavesOpen l ls with
    | false => rw [List.cons_append, parseLines, readFirst_append ho, ih, parseLines]
    | true =>
      obtain ⟨hn, hf⟩ := readFirst_append_closing ho
      rw [List.cons_append, parseLines, parseLines, hf]

/-! ## Texts -/

/-- A text behind a line feed is read from its own lines. -/
theorem parse_append_lineFeed (s t : List Char) : parse (s ++ '\n' :: t) = parseLines (Text.lines s ++ Text.lines t) := by
  obtain ⟨gap, hg, ht⟩ := Text.lines_append_newline s
  have hs : significant gap = [] := by
    rcases hg with rfl | rfl
    · rfl
    · rfl
  rw [parse, ht, ← parseLines_significant, ← parseLines_significant (Text.lines s ++ Text.lines t)]
  simp only [significant_append, hs, List.nil_append]

/-- Reading is total and goes text by text.

1. No line of a text is refused when the text is read with a cursor, and what is read is its schema.
2. If the text does not end inside a block, a text on the lines behind it adds its own declarations at the end.
3. Whether the text ends inside a block or not, one more closing brace on a line behind it changes nothing. -/
theorem parse_append_newline (s : List Char) :
    readFrom (Text.lines s) 0 = .ok (parse s) ∧
    (endsOpen (Text.lines s) = false → ∀ t, parse (s ++ '\n' :: t) = parse s ++ parse t) ∧
    parse (s ++ ['\n', '\x7d']) = parse s := by
  refine ⟨readFrom_eq_ok (Text.lines s) 0, fun h t => ?_, ?_⟩
  · rw [parse_append_lineFeed, parseLines_append h]
    rfl
  · have hl : Text.lines ['\x7d'] = [closing] := by decide
    rw [parse_append_lineFeed, hl, parseLines_append_closing]
    rfl

/-- A text that ends with a closed edge, and one that ends inside a node. -/
theorem parse_append_newline_edge :
    endsOpen (Text.lines "E::Knows \x7b\nFrom: A\nProperties: \x7b\nsince: Date\n\x7d\n\x7d".toList) = false ∧
      parse ("E::Knows \x7b\nFrom: A\nProperties: \x7b\nsince: Date\n\x7d\n\x7d".toList ++
          '\n' :: "N::A \x7b id: ID".toList) =
        ⟨[⟨"A", .node, .ofEntries [("id", "ID")]⟩], [⟨"Knows", "A", "", .ofEntries [("since", "Date")]⟩], []⟩ := by
  have h : endsOpen (Text.lines "E::Knows \x7b\nFrom: A\nProperties: \x7b\nsince: Date\n\x7d\n\x7d".toList) = false := by
    decide +kernel
  refine ⟨h, ((parse_append_newline _).2.1 h _).trans ?_⟩
  decide +kernel

end HelixGateway.Schema
