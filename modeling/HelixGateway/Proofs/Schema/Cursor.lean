import HelixGateway.Proofs.Results
import HelixGateway.Schema.Parser

/-!
# Reading a schema with a cursor

A schema may be read by moving a cursor over its lines. A line that starts a declaration is handed to the reader of its kind,
which refuses it or moves the cursor behind the block; any other line moves the cursor by one. The readers refuse nothing
that is handed to them and the cursor is never past the end when a line is read, so the reading comes to the schema of the
text.

Main statement: `readFrom_eq_ok`.
-/

namespace HelixGateway.Block

section Cursor

variable {α : Type} {reader : List Char → Lines → Except BlockError (α × Lines)} {ls : Lines} {i : Nat} {block : α}

/-- A reader whose blocks end at a line behind their first one. -/
def EndsBehind (reader : List Char → Lines → Except BlockError (α × Lines)) : Prop :=
  ∀ first rest block left, reader first rest = .ok (block, left) → left <:+ rest

/-- At a cursor inside a text are its line and those behind it. -/
theorem linesFrom_of_lt (hi : i < ls.length) : linesFrom ls i = ls[i] :: ls.drop (i + 1) := by
  rw [linesFrom, if_pos (by omega), Int.toNat_natCast, List.drop_eq_getElem_cons hi]

/-- A cursor inside a text moves to where the lines start that the reader leaves. -/
theorem readAt_of_lt (hi : i < ls.length) :
    readAt reader ls i =
      (reader ls[i] (ls.drop (i + 1))).map fun (block, left) => (block, (ls.length : Int) - left.length) := by
  have hl : (1 + (ls.drop (i + 1)).length + i : Int) = ls.length := by
    rw [List.length_drop]
    omega
  rw [readAt, linesFrom_of_lt hi]
  refine congrArg (fun f => Except.map f (reader ls[i] (ls.drop (i + 1)))) (funext fun r => ?_)
  rw [← hl]
  refine Prod.ext rfl ?_
  show (i : Int) + (1 + (ls.drop (i + 1)).length - r.2.length) = 1 + (ls.drop (i + 1)).length + i - r.2.length
  omega

/-- A cursor that is not past the end moves forward to where the lines that are left begin. -/
theorem of_readAt_eq_ok (hr : EndsBehind reader) (hi : i < ls.length) {next : Int}
    (h : readAt reader ls i = .ok (block, next)) :
    i < next.toNat ∧ reader ls[i] (ls.drop (i + 1)) = .ok (block, ls.drop next.toNat) := by
  rw [readAt_of_lt hi] at h
  cases hb : reader ls[i] (ls.drop (i + 1)) with
  | error e =>
    rw [hb] at h
    cases h
  | ok r =>
    obtain ⟨b, left⟩ := r
    rw [hb] at h
    simp only [Except.map, Except.ok.injEq, Prod.mk.injEq] at h
    obtain ⟨rfl, rfl⟩ := h
    have hs := hr _ _ _ _ hb
    have hlen := hs.length_le
    rw [List.length_drop] at hlen
    have hnext : ((ls.length : Int) - left.length).toNat = ls.length - left.length := by omega
    rw [hnext]
    refine ⟨by omega, ?_⟩
    rw [← List.suffix_iff_eq_drop.1 (hs.trans (List.drop_suffix (i + 1) ls))]

end Cursor

end HelixGateway.Block

namespace HelixGateway.Schema

open Block
open Text (afterPrefix? trim)

/-! ## Declarations by their kinds -/

/-- The kind of declaration that a trimmed line starts. -/
def declared? (l : List Char) : Option Kind :=
  if (afterPrefix? (vertexPrefix .node) l).isSome then some .node
  else if (afterPrefix? (vertexPrefix .vector) l).isSome then some .vector
  else if (afterPrefix? edgePrefix l).isSome then some .edge
  else none

/-- Reads a declaration of a kind, and puts it where it belongs in a schema. -/
def readKind (kind : Kind) (first : List Char) (rest : Lines) : Except BlockError (Schema × Lines) :=
  match kind with
  | .node => (readVertex .node first rest).map fun (v, left) => (⟨[v], [], []⟩, left)
  | .vector => (readVertex .vector first rest).map fun (v, left) => (⟨[], [], [v]⟩, left)
  | .edge => (readEdge first rest).map fun (e, left) => (⟨[], [e], []⟩, left)

/-- The readers of all three kinds end behind the line they start from. -/
theorem endsBehind_readKind (kind : Kind) : EndsBehind (readKind kind) := by
  intro first rest s left h
  cases kind with
  | node | vector =>
    obtain ⟨r, hr, he⟩ := map_eq_ok h
    obtain ⟨-, rfl⟩ := Prod.mk.inj he
    exact suffix_readVertex hr
  | edge =>
    obtain ⟨r, hr, he⟩ := map_eq_ok h
    obtain ⟨-, rfl⟩ := Prod.mk.inj he
    exact suffix_readEdge hr

/-- What a line starts with says what it declares. -/
theorem declared?_cases (l : List Char) :
    (∃ s, declared? l = some .node ∧ vertexHeader? l = some (.node, s)) ∨
    (∃ s, declared? l = some .vector ∧ vertexHeader? l = some (.vector, s)) ∨
    (∃ s, declared? l = some .edge ∧ vertexHeader? l = none ∧ afterPrefix? edgePrefix l = some s) ∨
    (declared? l = none ∧ vertexHeader? l = none ∧ afterPrefix? edgePrefix l = none) := by
  unfold declared? vertexHeader?
  cases hn : afterPrefix? (vertexPrefix .node) l with
  | some s => exact Or.inl ⟨s, rfl, rfl⟩
  | none =>
    cases hv : afterPrefix? (vertexPrefix .vector) l with
    | some s => exact Or.inr (Or.inl ⟨s, rfl, rfl⟩)
    | none =>
      cases he : afterPrefix? edgePrefix l with
      | some s => exact Or.inr (Or.inr (Or.inl ⟨s, rfl, rfl, rfl⟩))
      | none => exact Or.inr (Or.inr (Or.inr ⟨rfl, rfl, rfl⟩))

/-- The reader of the kind that a line declares does not refuse the line. -/
theorem readKind_of_declared {l : List Char} {kind : Kind} (h : declared? (trim l) = some kind) (ls : Lines) :
    readKind kind l ls = .ok (readFirst l ls) := by
  obtain ⟨s, hd, hh⟩ | ⟨s, hd, hh⟩ | ⟨s, hd, hh, he⟩ | ⟨hd, -⟩ := declared?_cases (trim l)
  · obtain rfl : Kind.node = kind := Option.some.inj (hd.symm.trans h)
    simp only [readKind, readVertex, hh, readFirst_of_vertexHeader hh rfl]
    rfl
  · obtain rfl : Kind.vector = kind := Option.some.inj (hd.symm.trans h)
    simp only [readKind, readVertex, hh, readFirst_of_vertexHeader hh rfl]
    rfl
  · obtain rfl : Kind.edge = kind := Option.some.inj (hd.symm.trans h)
    simp only [readKind, readEdge, he, readFirst_of_edgePrefix hh he rfl]
    rfl
  · rw [hd] at h
    cases h

/-- A line that opens no block declares nothing. -/
theorem parseLines_cons_of_not_declared {l : List Char} (h : declared? (trim l) = none) (ls : Lines) :
    parseLines (l :: ls) = parseLines ls := by
  obtain ⟨s, hd, -⟩ | ⟨s, hd, -⟩ | ⟨s, hd, -⟩ | ⟨-, hv, he⟩ := declared?_cases (trim l)
  · rw [hd] at h
    cases h
  · rw [hd] at h
    cases h
  · rw [hd] at h
    cases h
  · exact parseLines_cons_of_skip ls hv he

/-- Reads the declarations from a cursor on. -/
def readFrom (ls : Lines) (i : Nat) : Except BlockError Schema :=
  if hi : i < ls.length then
    match declared? (trim ls[i]) with
    | none => readFrom ls (i + 1)
    | some kind =>
      match h : readAt (readKind kind) ls i with
      | .error e => .error e
      | .ok (s, next) => (readFrom ls next.toNat).map (s ++ ·)
  else .ok .empty
termination_by ls.length - i
decreasing_by
  · omega
  · have := (of_readAt_eq_ok (endsBehind_readKind kind) hi h).1
    omega

/-- The reading with a cursor ends without a refusal, and the schema of the lines is what it comes to. -/
theorem readFrom_eq_ok (ls : Lines) (i : Nat) : readFrom ls i = .ok (parseLines (ls.drop i)) := by
  fun_induction readFrom ls i with
  | case1 i hi h ih =>
    rw [ih, List.drop_eq_getElem_cons hi, parseLines_cons_of_not_declared h]
  | case2 i hi kind hk e h =>
    rw [readAt_of_lt hi, readKind_of_declared hk] at h
    cases h
  | case3 i hi kind hk s next h ih =>
    have hb := (of_readAt_eq_ok (endsBehind_readKind kind) hi h).2
    rw [readKind_of_declared hk, Except.ok.injEq] at hb
    rw [ih, List.drop_eq_getElem_cons hi, parseLines, hb]
    rfl
  | case4 i hi =>
    rw [List.drop_eq_nil_of_le (Nat.le_of_not_lt hi), parseLines]

end HelixGateway.Schema
