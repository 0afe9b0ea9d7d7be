import HelixGateway.Proofs.Schema.EdgeBlock

/-!
# Blocks depend on their own lines

A reader of blocks refuses a line by what the line starts with. Otherwise it moves forward and stays within the text. A block
that a brace closes is made of the lines that the reader moves over: it is read again, with the same number of lines, wherever
these lines stand and whatever stands around them. A block that the end of the text closes would go on with more lines.

Nodes and vectors are read alike. Their declarations start differently, so it does not count which start is tried first.

Main statements: `readBody_of_closed_inside`, `readsBlocks_readWith`, `readers_local`.
-/

namespace HelixGateway.Block

open Text

/-- The lines of the body that the line `header` opens: those behind its brace, and those of `rest` that count. -/
def bodyLines (header : List Char) (rest : Lines) : Lines := inlineLines (behindBrace header) ++ significant rest

/-! ## Bodies -/

section Body

variable {σ : Type} {step : σ → List Char → Outcome σ} {state final : σ} {header : List Char} {inside left : Lines}

/-- A body takes at least one line, if there is one. -/
theorem length_takeTextLines_lt (step : σ → List Char → Outcome σ) (state : σ) (l : List Char) (ls : Lines) :
    (takeTextLines step state (l :: ls)).2.length < (l :: ls).length := by
  refine Nat.lt_succ_of_le (List.IsSuffix.length_le ?_)
  cases hl : counts (trim l) with
  | false =>
    rw [takeTextLines_cons_of_skip step state hl]
    exact suffix_takeTextLines step state ls
  | true =>
    rw [takeTextLines_cons_of_counts step state hl]
    split
    · exact List.suffix_rfl
    · exact suffix_takeTextLines step _ ls

/-- A body that is closed is closed by a line in front of what it leaves. -/
theorem readBody_of_closed_inside (hc : neverClosed step state header (inside ++ left) = false)
    (hb : readBody step state header (inside ++ left) = (final, left)) (after : Lines) :
    readBody step state header (inside ++ after) = (final, after) := by
  rw [readBody_append] at hb
  cases hn : neverClosed step state header inside with
  | false =>
    simp only [hn, Bool.false_eq_true, if_false, Prod.mk.injEq, List.append_left_eq_self] at hb
    rw [readBody_append, hn, hb.1, hb.2]
    rfl
  | true =>
    -- the lines in front do not close the body, so it takes some of what it leaves
    cases left with
    | nil =>
      rw [List.append_nil, hn] at hc
      cases hc
    | cons l ls =>
      simp only [hn, if_true] at hb
      have hlt := length_takeTextLines_lt step (readBody step state header inside).1 l ls
      rw [hb] at hlt
      exact absurd hlt (Nat.lt_irrefl _)

end Body

/-! ## Bodies that are closed -/

/-- Any closing brace closes a node or a vector. -/
theorem isNone_takeLines_vertex_iff (properties : OrdMap String) (ls : Lines) :
    (takeLines vertexStep properties ls).2.isNone = true ↔ closing ∉ ls := by
  induction ls generalizing properties with
  | nil => simp [takeLines]
  | cons l ls ih =>
    by_cases hl : l = closing
    · simp [takeLines, vertexStep, hl]
    · simp [takeLines, vertexStep, hl, Ne.symm hl, ih]

/-- A closing brace closes an edge if it does not close the properties. -/
theorem isNone_takeLines_edge_iff (ls : Lines) : (takeLines edgeStep .start ls).2.isNone = true ↔ StaysOpen ls := by
  constructor
  · intro hn
    -- from the end, since a line that is read counts in the state that the lines before it leave
    induction ls using List.reverseRecOn with
    | nil => exact fun _ hp => absurd hp List.not_mem_nil
    | append_singleton ls l ih =>
      have hs : StaysOpen ls := by
        refine ih ?_
        rw [takeLines_append] at hn
        cases ht : takeLines edgeStep .start ls with
        | mk state left =>
          rw [ht] at hn
          cases left with
          | none => rfl
          | some left => cases hn
      rw [takeLines_append, takeLines_of_staysOpen hs] at hn
      refine (staysOpen_concat ls l).2 ⟨hs, fun hl => ?_⟩
      by_contra ho
      rw [Bool.not_eq_true] at ho
      simp [takeLines, edgeStep_after, hl, ho] at hn
  · intro hs
    rw [takeLines_of_staysOpen hs]
    rfl

/-! ## Readers -/

/-- The reader of blocks that has `header?` for their first lines, takes body lines by `step` and builds the block of both. -/
def readWith {η σ α : Type} (kind : Kind) (header? : List Char → Option η) (step : σ → List Char → Outcome σ) (start : σ)
    (build : η → σ → α) (first : List Char) (rest : Lines) : Except BlockError (α × Lines) :=
  match header? (trim first) with
  | none => .error (.invalid kind (String.ofList (trim first)))
  | some h =>
    let (state, left) := readBody step start (trim first) rest
    .ok (build h state, left)

/-- Nodes and vectors are read by the common reader. -/
theorem readVertex_eq_readWith (expected : Kind) :
    readVertex expected =
      readWith expected vertexHeader? vertexStep .empty fun h properties => ⟨blockName h.2, h.1, properties⟩ := by
  funext first rest
  rw [readVertex, readWith]
  cases vertexHeader? (trim first) <;> rfl

theorem readEdge_eq_readWith :
    readEdge =
      readWith .edge (afterPrefix? edgePrefix) edgeStep .start fun s state =>
        ⟨blockName s, state.source, state.target, state.properties⟩ := by
  funext first rest
  rw [readEdge, readWith]
  cases afterPrefix? edgePrefix (trim first) <;> rfl

/-- What the reader of blocks of a kind does at a cursor, `first` being the line there and `rest` the lines behind it: `starts`
are the texts that its declarations start with, and `closes` tells of which bodies a brace closes the block. -/
structure ReadsBlocks {α : Type} (kind : Kind) (starts : List String) (closes : Lines → Prop)
    (reader : List Char → Lines → Except BlockError (α × Lines)) : Prop where
  /-- A line that starts otherwise is refused. -/
  refuses : ∀ {ls : Lines} {i : Int} {first : List Char} {rest : Lines}, linesFrom ls i = first :: rest →
    (∀ s ∈ starts, ¬s.toList <+: trim first) → readAt reader ls i = .error (.invalid kind (String.ofList (trim first)))
  /-- At any other line there is a block, and the cursor moves forward and not past the end. -/
  advances : ∀ {ls : Lines} {i : Int} {first : List Char} {rest : Lines}, linesFrom ls i = first :: rest →
    (∃ s ∈ starts, s.toList <+: trim first) →
    ∃ block next, readAt reader ls i = .ok (block, next) ∧ i < next ∧ next ≤ ls.length
  /-- A block that is closed by a brace is read from the lines that the cursor moves over, whatever is before and behind them. -/
  isLocal : ∀ {ls : Lines} {i : Nat} (hi : i < ls.length) {block : α} {next : Int},
    readAt reader ls i = .ok (block, next) → closes (bodyLines (trim ls[i]) (ls.drop (i + 1))) →
    ∀ before after : Lines, readAt reader (before ++ (ls.take next.toNat).drop i ++ after) before.length =
      .ok (block, before.length + (next - i))

section ReadWith

variable {η σ α : Type} {kind : Kind} {header? : List Char → Option η} {step : σ → List Char → Outcome σ} {start : σ}
  {build : η → σ → α} {first : List Char} {rest inside left : Lines} {block : α}

/-- The common reader ends behind the line it starts from. -/
theorem endsBehind_readWith : EndsBehind (readWith kind header? step start build) := by
  intro first rest block left h
  rw [readWith] at h
  cases hh : header? (trim first) with
  | none =>
    rw [hh] at h
    cases h
  | some a =>
    rw [hh] at h
    obtain ⟨-, rfl⟩ := Prod.mk.inj (Except.ok.inj h)
    exact suffix_readBody step start (trim first) rest

/-- A closed block is read from the lines in front of those that it leaves. -/
theorem readWith_of_closed (h : readWith kind header? step start build first (inside ++ left) = .ok (block, left))
    (hc : neverClosed step start (trim first) (inside ++ left) = false) (after : Lines) :
    readWith kind header? step start build first (inside ++ after) = .ok (block, after) := by
  rw [readWith] at h ⊢
  cases hh : header? (trim first) with
  | none =>
    rw [hh] at h
    cases h
  | some a =>
    rw [hh] at h
    cases hb : readBody step start (trim first) (inside ++ left) with
    | mk final left' =>
      simp only [hb, Except.ok.injEq, Prod.mk.injEq] at h
      obtain ⟨rfl, rfl⟩ := h
      simp only [readBody_of_closed_inside hc hb]

/-- A line of some lines, with those in front of a later place, and the lines from there on. -/
theorem drop_eq_inside_append {ls : Lines} {i j : Nat} (hij : i < j) (hj : j ≤ ls.length) :
    ls.drop (i + 1) = (ls.take j).drop (i + 1) ++ ls.drop j := by
  conv_lhs => rw [← List.take_append_drop j ls]
  rw [List.drop_append_of_le_length]
  rw [List.length_take]
  omega

/-- A cursor does not move past the end. -/
theorem le_length_of_readAt {reader : List Char → Lines → Except BlockError (α × Lines)} {ls : Lines} {i next : Int}
    (hl : linesFrom ls i = first :: rest) (h : readAt reader ls i = .ok (block, next)) : next ≤ ls.length := by
  rw [readAt, hl] at h
  obtain ⟨r, -, hn⟩ := map_eq_ok h
  have hlen := place_add_length hl
  have hnext : i + (1 + rest.length - r.2.length) = next := congrArg Prod.snd hn
  omega

/-- The common reader reads blocks, if the header and the closing of its kind are described rightly. -/
theorem readsBlocks_readWith {starts : List String} {closes : Lines → Prop}
    (hs : ∀ l, header? l = none ↔ ∀ s ∈ starts, ¬s.toList <+: l)
    (hc : ∀ header rest, neverClosed step start header rest = true ↔ ¬closes (bodyLines header rest)) :
    ReadsBlocks kind starts closes (readWith kind header? step start build) where
  refuses := by
    intro ls i first rest hl hn
    rw [readAt, hl]
    simp only [readWith, (hs (trim first)).2 hn]
    rfl
  advances := by
    intro ls i first rest hl hm
    cases hh : header? (trim first) with
    | none =>
      obtain ⟨s, hin, hp⟩ := hm
      exact absurd hp ((hs (trim first)).1 hh s hin)
    | some a =>
      have hlen := place_add_length hl
      have hle := (suffix_readBody step start (trim first) rest).length_le
      refine ⟨build a (readBody step start (trim first) rest).1,
        i + (1 + rest.length - (readBody step start (trim first) rest).2.length), ?_, by omega, by omega⟩
      rw [readAt, hl]
      simp only [readWith, hh]
      rfl
  isLocal := by
    intro ls i hi block next h hclosed before after
    obtain ⟨hlt, hr⟩ := of_readAt_eq_ok endsBehind_readWith hi h
    have hle : next.toNat ≤ ls.length := by
      have := le_length_of_readAt (linesFrom_of_lt hi) h
      omega
    rw [drop_eq_inside_append hlt hle] at hr hclosed
    have hclose : neverClosed step start (trim ls[i]) ((ls.take next.toNat).drop (i + 1) ++ ls.drop next.toNat) = false := by
      rw [← Bool.not_eq_true, hc]
      exact not_not_intro hclosed
    have hread := readWith_of_closed hr hclose after
    have hlines : (ls.take next.toNat).drop i = ls[i] :: (ls.take next.toNat).drop (i + 1) := by
      rw [List.drop_eq_getElem_cons (by rw [List.length_take]; omega), List.getElem_take]
    have hfrom : linesFrom (before ++ (ls.take next.toNat).drop i ++ after) before.length =
        ls[i] :: ((ls.take next.toNat).drop (i + 1) ++ after) := by
      rw [linesFrom, if_pos (by omega), Int.toNat_natCast, List.append_assoc, List.drop_left, hlines]
      rfl
    rw [readAt, hfrom]
    simp only [hread, Except.map, Except.ok.injEq, Prod.mk.injEq, true_and, List.length_append, List.length_drop,
      List.length_take]
    omega

end ReadWith

/-! ## Nodes, vectors and edges -/

/-- Nothing follows the lead exactly if the text does not start with it. -/
theorem afterPrefix?_eq_none_iff {lead s : List Char} : afterPrefix? lead s = none ↔ ¬lead <+: s := by
  rw [Option.eq_none_iff_forall_ne_some]
  constructor
  · rintro h ⟨r, rfl⟩
    exact h r (afterPrefix?_append lead r)
  · intro h r hr
    exact h ⟨r, (eq_append_of_afterPrefix? hr).symm⟩

/-- The kind of vertex that a line declares, and what follows the start of the declaration, the starts being tried in the
order of `kinds`. -/
def vertexHeaderAmong? (kinds : List VertexKind) (l : List Char) : Option (VertexKind × List Char) :=
  kinds.findSome? fun kind => (afterPrefix? (vertexPrefix kind) l).map (kind, ·)

section Headers

variable {kinds : List VertexKind} {kind kind' : VertexKind} {l s s' : List Char}

/-- The start of a header tells its kind. -/
theorem eq_of_vertexPrefix_append (h : vertexPrefix kind ++ s = vertexPrefix kind' ++ s') : kind = kind' ∧ s = s' := by
  cases kind with
  | node =>
    cases kind' with
    | node => exact ⟨rfl, List.append_cancel_left h⟩
    | vector => exact absurd (List.cons.inj h).1 (by decide)
  | vector =>
    cases kind' with
    | node => exact absurd (List.cons.inj h).1 (by decide)
    | vector => exact ⟨rfl, List.append_cancel_left h⟩

/-- A header is its start and what is read behind it, whichever kinds are tried. -/
theorem eq_append_of_vertexHeaderAmong? (h : vertexHeaderAmong? kinds l = some (kind, s)) : l = vertexPrefix kind ++ s := by
  obtain ⟨tried, -, ht⟩ := List.exists_of_findSome?_eq_some h
  obtain ⟨r, hr, he⟩ := Option.map_eq_some_iff.1 ht
  cases he
  exact eq_append_of_afterPrefix? hr

/-- One start at most fits a line, so the order does not count in which they are tried. -/
theorem vertexHeaderAmong?_eq_some_iff (hk : ∀ kind, kind ∈ kinds) :
    vertexHeaderAmong? kinds l = some (kind, s) ↔ l = vertexPrefix kind ++ s := by
  refine ⟨eq_append_of_vertexHeaderAmong?, ?_⟩
  rintro rfl
  cases hf : vertexHeaderAmong? kinds (vertexPrefix kind ++ s) with
  | none =>
    have hn := List.findSome?_eq_none_iff.1 hf kind (hk kind)
    rw [afterPrefix?_append] at hn
    cases hn
  | some found =>
    obtain ⟨kind', s'⟩ := found
    obtain ⟨rfl, rfl⟩ := eq_of_vertexPrefix_append (eq_append_of_vertexHeaderAmong? hf)
    rfl

/-- A header is read by trying the kinds in one order. -/
theorem vertexHeader?_eq_among (l : List Char) : vertexHeader? l = vertexHeaderAmong? [.node, .vector] l := by
  rw [vertexHeader?, vertexHeaderAmong?, List.findSome?_cons, List.findSome?_singleton]
  cases afterPrefix? (vertexPrefix .node) l <;> rfl

/-- In whatever order the kinds are tried, the same header is read. -/
theorem vertexHeaderAmong?_eq (hk : ∀ kind, kind ∈ kinds) (l : List Char) :
    vertexHeaderAmong? kinds l = vertexHeader? l := by
  have hboth : ∀ kind : VertexKind, kind ∈ [VertexKind.node, .vector] := by
    intro kind
    cases kind <;> simp
  rw [vertexHeader?_eq_among]
  refine Option.ext fun found => ?_
  obtain ⟨kind, s⟩ := found
  rw [vertexHeaderAmong?_eq_some_iff hk, vertexHeaderAmong?_eq_some_iff hboth]

/-- A line is no header of a node or a vector exactly if it has neither start. -/
theorem vertexHeader?_eq_none_iff : vertexHeader? l = none ↔ ∀ s ∈ ["N::", "V::"], ¬s.toList <+: l := by
  rw [vertexHeader?_eq_among, vertexHeaderAmong?, List.findSome?_eq_none_iff]
  simp [afterPrefix?_eq_none_iff, vertexPrefix]

end Headers

/-- Nodes and vectors start with their letters, and any closing brace closes them. -/
theorem readsBlocks_readVertex (expected : Kind) :
    ReadsBlocks expected ["N::", "V::"] (closing ∈ ·) (readVertex expected) := by
  rw [readVertex_eq_readWith]
  refine readsBlocks_readWith (fun l => vertexHeader?_eq_none_iff) fun header rest => ?_
  exact isNone_takeLines_vertex_iff .empty (bodyLines header rest)

/-- Edges start with their letter, and a closing brace outside the properties closes them. -/
theorem readsBlocks_readEdge : ReadsBlocks .edge ["E::"] (¬StaysOpen ·) readEdge := by
  rw [readEdge_eq_readWith]
  refine readsBlocks_readWith (fun l => ?_) fun header rest => ?_
  · rw [afterPrefix?_eq_none_iff, List.forall_mem_singleton]
    rfl
  · rw [not_not]
    exact isNone_takeLines_edge_iff (bodyLines header rest)

/-- Readers that give the same blocks give them at the same places. -/
theorem toOption_readAt_congr {α : Type} {reader reader' : List Char → Lines → Except BlockError (α × Lines)}
    (h : ∀ first rest, (reader first rest).toOption = (reader' first rest).toOption) (ls : Lines) (i : Int) :
    (readAt reader ls i).toOption = (readAt reader' ls i).toOption := by
  rw [readAt, readAt]
  cases linesFrom ls i with
  | nil => rfl
  | cons first rest =>
    simp only
    rw [toOption_map, toOption_map, h]

/-- The kind that is expected counts in refusals only. -/
theorem toOption_readVertex (expected expected' : Kind) (first : List Char) (rest : Lines) :
    (readVertex expected first rest).toOption = (readVertex expected' first rest).toOption := by
  rw [readVertex, readVertex]
  cases vertexHeader? (trim first) <;> rfl

/-- The readers of blocks make progress and are local.

1. At every place below the number of lines there is a line.
2. The reader of nodes refuses a line exactly if it starts with neither `N::` nor `V::`, and else gives a block and moves
   forward and not past the end. If a line of the body is a closing brace, the block and the number of lines that are moved over
   stay the same when other lines stand before the block and behind it.
3. So does the reader of vectors.
4. So does the reader of edges, with `E::`, if some closing brace of the body does not close the properties.
5. The readers of nodes and of vectors refuse the same lines, and else give the same block and the same place.
6. It does not count which of the starts of nodes and vectors these two try first. -/
theorem readers_local :
    (∀ (ls : Lines) (i : Nat) (hi : i < ls.length), linesFrom ls i = ls[i] :: ls.drop (i + 1)) ∧
    ReadsBlocks .node ["N::", "V::"] (closing ∈ ·) (readVertex .node) ∧
    ReadsBlocks .vector ["N::", "V::"] (closing ∈ ·) (readVertex .vector) ∧
    ReadsBlocks .edge ["E::"] (¬StaysOpen ·) readEdge ∧
    (∀ ls i, (readAt (readVertex .node) ls i).toOption = (readAt (readVertex .vector) ls i).toOption) ∧
    ∀ (kinds : List VertexKind), (∀ kind, kind ∈ kinds) → ∀ expected, readVertex expected =
      readWith expected (vertexHeaderAmong? kinds) vertexStep .empty fun h properties => ⟨blockName h.2, h.1, properties⟩ := by
  refine ⟨fun ls i hi => linesFrom_of_lt hi, readsBlocks_readVertex .node, readsBlocks_readVertex .vector,
    readsBlocks_readEdge, toOption_readAt_congr (toOption_readVertex .node .vector), fun kinds hk expected => ?_⟩
  rw [readVertex_eq_readWith, funext (vertexHeaderAmong?_eq hk)]

/-- An edge between an open node and another one. -/
def followsLines : Lines :=
  ["N::A \x7b", " E::Follows \x7b From: A, Properties: \x7b since: Date", "\x7d", "", "To: B", "\x7d", "N::B \x7b\x7d"].map
    String.toList

/-- The edge is the same, five lines long, at the start of a text and with a closing brace and an end behind it. -/
theorem readers_local_follows :
    readAt readEdge followsLines 1 = .ok (⟨"Follows", "A", "B", .ofEntries [("since", "Date")]⟩, 6) ∧
      readAt readEdge ((followsLines.take 6).drop 1 ++ ["\x7d".toList, "To: C".toList]) 0 =
        .ok (⟨"Follows", "A", "B", .ofEntries [("since", "Date")]⟩, 5) := by
  have h : readAt readEdge followsLines 1 = .ok (⟨"Follows", "A", "B", .ofEntries [("since", "Date")]⟩, 6) := by
    decide +kernel
  refine ⟨h, ?_⟩
  have hi : 1 < followsLines.length := by decide
  have hc : ¬StaysOpen (bodyLines (trim followsLines[1]) (followsLines.drop (1 + 1))) := by
    revert hi
    decide +kernel
  exact readers_local.2.2.2.1.isLocal hi h hc [] ["\x7d".toList, "To: C".toList]

end HelixGateway.Block
