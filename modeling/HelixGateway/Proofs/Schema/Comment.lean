import HelixGateway.Proofs.Schema.EdgeBlock
import HelixGateway.Proofs.Schema.RoundTrip

/-!
# Comments behind the brace of a block

What stands behind the brace of a block on its first line is cut at braces and commas before comments are dropped. Of a comment
that stands there only the part up to the first of these marks is dropped, and what is cut off behind it is read as lines of
the body. So a comment changes nothing, in whatever schema it stands, exactly when these lines say nothing of the block and
do not end it; a comment without marks is such a one.

Two small texts tell any other comment apart: a block with nothing behind its first line, which shows what the comment says,
and one with an end of an edge there, which shows whether the comment has closed the block or opened the properties.

Main statements: `ignored_of_noMark`, `readBody_commented`, `parse_commented_iff`.
-/

namespace HelixGateway.Block

open Text
open Schema (isMark cutInline_append)

/-! ## Bodies that say nothing -/

section Nothing

variable {pieces : Lines}

/-- Lines leave a vertex open when none of them is a closing brace, and then they add the properties that they say. -/
theorem takeLines_vertex_iff {m : OrdMap String} :
    takeLines vertexStep .empty pieces = (m, none) ↔
      (∀ l ∈ pieces, l ≠ closing) ∧ m = .ofEntries (saidProperties pieces) := by
  induction pieces using List.reverseRecOn generalizing m with
  | nil =>
    simp only [takeLines, Prod.mk.injEq, and_true]
    constructor
    · intro h
      exact ⟨List.forall_mem_nil _, h.symm⟩
    · rintro ⟨-, h⟩
      exact h.symm
  | append_singleton pieces l ih =>
    rw [takeLines_append, List.forall_mem_append, List.forall_mem_singleton, ← addProperty_saidProperties]
    cases ht : takeLines vertexStep .empty pieces with
    | mk m' left =>
      cases left with
      | some left =>
        -- already closed
        simp only [Prod.mk.injEq, reduceCtorEq, and_false, false_iff]
        rintro ⟨⟨ho, -⟩, -⟩
        rw [ih.2 ⟨ho, rfl⟩] at ht
        cases ht
      | none =>
        obtain ⟨ho, rfl⟩ := ih.1 ht
        by_cases hl : l = closing
        · simp [takeLines, vertexStep, hl]
        · simp only [takeLines, vertexStep, hl, if_false, Bool.false_eq_true, Prod.mk.injEq, and_true]
          exact ⟨fun h => ⟨⟨ho, hl⟩, h.symm⟩, fun h => h.2.symm⟩

/-- Lines leave an edge open when the closing braces among them all close its properties. -/
theorem takeLines_edge_iff {state : EdgeState} :
    takeLines edgeStep .start pieces = (state, none) ↔ StaysOpen pieces ∧ state = .after pieces := by
  constructor
  · intro h
    have hs : StaysOpen pieces := by
      induction pieces using List.reverseRecOn generalizing state with
      | nil => nofun
      | append_singleton pieces l ih =>
        rw [takeLines_append] at h
        cases ht : takeLines edgeStep .start pieces with
        | mk mid left =>
          rw [ht] at h
          cases left with
          | some left => cases h
          | none =>
            have ho := ih ht
            rw [takeLines_of_staysOpen ho] at ht
            obtain ⟨rfl, -⟩ := Prod.mk.inj ht
            rw [staysOpen_concat]
            refine ⟨ho, fun hc => ?_⟩
            by_contra ho'
            have hp : propertiesOpen pieces = false := by simpa using ho'
            simp [takeLines, edgeStep_after, hc, hp] at h
    rw [takeLines_of_staysOpen hs, Prod.mk.injEq] at h
    exact ⟨hs, h.1.symm⟩
  · rintro ⟨hs, rfl⟩
    exact takeLines_of_staysOpen hs

/-- Lines say no property exactly if none of them has a colon. -/
theorem saidProperties_eq_nil_iff : saidProperties pieces = [] ↔ ∀ l ∈ pieces, ':' ∉ l := by
  rw [saidProperties, List.filterMap_eq_nil_iff]
  refine forall₂_congr fun l _ => ?_
  rw [← isSome_parseProperty?_iff, Option.not_isSome_iff_eq_none]

end Nothing

/-! ## The lines of a comment -/

/-- A comment, with a blank before the slashes and behind them. -/
def comment (c : List Char) : List Char := ' ' :: '/' :: '/' :: ' ' :: c

/-- The lines that are cut from a comment behind an opening brace. -/
def commentLines (c : List Char) : Lines := inlineLines (comment c)

/-- A comment behind the opening brace of a block says nothing: the lines that are cut from it do not close the block, name no
end, say no property and do not leave the properties open. -/
def Ignored (kind : Kind) (c : List Char) : Prop :=
  match kind with
  | .node | .vector => ∀ l ∈ commentLines c, l ≠ closing ∧ ':' ∉ l
  | .edge => StaysOpen (commentLines c) ∧ EdgeState.after (commentLines c) = .start

/-- Nothing is cut from a comment without braces and commas. -/
theorem commentLines_of_noMark {c : List Char} (h : ∀ x ∈ c, isMark x = false) : commentLines c = [] := by
  have hm : ∀ x ∈ comment c, isMark x = false := by
    intro x hx
    rcases List.mem_append.1 (show x ∈ [' ', '/', '/', ' '] ++ c from hx) with hx | hx
    · have hlead : ∀ x ∈ [' ', '/', '/', ' '], isMark x = false := by decide
      exact hlead x hx
    · exact h x hx
  have hc : cutInline [] (comment c) = [trim (comment c)] := by
    have := cutInline_append hm [] []
    rw [List.append_nil] at this
    rw [this, cutInline, List.append_nil, List.reverse_reverse]
  have ht : isComment (trim (comment c)) = true := by
    rw [comment, trim_cons_of_blank rfl]
    have h2 : trim ('/' :: '/' :: ' ' :: c) = '/' :: '/' :: trimEnd (' ' :: c) :=
      dropEndWhile_append_cons (c := '/') (by rfl) ['/'] (' ' :: c)
    rw [h2]
    rfl
  rw [commentLines, inlineLines, hc]
  simp [ht]

/-- A comment without marks is ignored. -/
theorem ignored_of_noMark (kind : Kind) {c : List Char} (h : ∀ x ∈ c, isMark x = false) : Ignored kind c := by
  cases kind with
  | node | vector =>
    intro l hl
    rw [commentLines_of_noMark h] at hl
    cases hl
  | edge =>
    show StaysOpen (commentLines c) ∧ _
    rw [commentLines_of_noMark h]
    exact ⟨nofun, rfl⟩

/-! ## Blanks around a comment -/

section Blanks

variable {b : Char} (hb : isBlank b = true)

include hb

theorem isMark_of_blank : isMark b = false := by
  rw [isMark, Bool.or_eq_false_iff, Bool.or_eq_false_iff]
  refine ⟨⟨?_, ?_⟩, ?_⟩
  all_goals
    rw [decide_eq_false_iff_not]
    rintro rfl
    exact absurd hb (by decide)

/-- A blank in front of the piece that is being cut changes no piece. -/
theorem cutInline_concat_blank (current s : List Char) : cutInline (current ++ [b]) s = cutInline current s := by
  have ht (x : List Char) : trim (x ++ [b]).reverse = trim x.reverse := by
    rw [List.reverse_append]
    exact trim_cons_of_blank hb _
  induction s generalizing current with
  | nil => rw [cutInline, cutInline, ht]
  | cons c s ih =>
    rw [cutInline, cutInline, ht]
    rw [← List.cons_append, ih]

/-- A blank at the end of the text changes no piece. -/
theorem cutInline_append_blank (current s : List Char) : cutInline current (s ++ [b]) = cutInline current s := by
  induction s generalizing current with
  | nil =>
    have hm : ∀ c ∈ [b], isMark c = false := by
      intro c hc
      rw [List.mem_singleton.1 hc]
      exact isMark_of_blank hb
    have := cutInline_append hm current []
    rw [List.append_nil] at this
    rw [List.nil_append, this, cutInline, cutInline]
    simp [trim_append_blank hb]
  | cons c s ih =>
    rw [List.cons_append, cutInline, cutInline, ih, ih]

end Blanks

/-- Blanks at the end of a text change none of its pieces. -/
theorem inlineLines_trimEnd (s : List Char) : inlineLines (trimEnd s) = inlineLines s := by
  induction s using List.reverseRecOn with
  | nil => rfl
  | append_singleton s b ih =>
    cases hb : isBlank b with
    | true => rw [trimEnd, dropEndWhile_append_singleton hb, ← trimEnd, ih, inlineLines, inlineLines, cutInline_append_blank hb]
    | false =>
      rw [trimEnd, dropEndWhile_append_cons hb]
      rfl

theorem inlineLines_append_of_blank {blanks : List Char} (h : ∀ b ∈ blanks, isBlank b = true) (s : List Char) :
    inlineLines (blanks ++ s) = inlineLines s := by
  induction blanks with
  | nil => rfl
  | cons b blanks ih =>
    have hb := h b (by simp)
    have hc : cutInline [] (b :: (blanks ++ s)) = cutInline [] (blanks ++ s) := by
      rw [← cutInline_concat_blank hb [] (blanks ++ s)]
      have hm : ∀ c ∈ [b], isMark c = false := by
        intro c hc
        rw [List.mem_singleton.1 hc]
        exact isMark_of_blank hb
      exact cutInline_append hm [] (blanks ++ s)
    rw [List.cons_append, inlineLines, hc, ← inlineLines, ih fun x hx => h x (List.mem_cons_of_mem _ hx)]

/-! ## First lines with a comment -/

/-- A line with a brace, the first one in it, and nothing but blanks behind it. -/
def EndsInBrace (l : List Char) : Prop :=
  ∃ s blanks, l = s ++ '\x7b' :: blanks ∧ '\x7b' ∉ s ∧ ∀ b ∈ blanks, isBlank b = true

section Header

variable {l : List Char} {σ : Type} (step : σ → List Char → Outcome σ) (state : σ)

/-- Trimming a line with a brace trims what is before the brace in front, and what is behind it at the end. -/
theorem trim_append_brace (s r : List Char) :
    trim (s ++ '\x7b' :: r) = s.dropWhile isBlank ++ '\x7b' :: trimEnd r := by
  rw [trim, dropWhile_append_cons (by rfl), trimEnd, dropEndWhile_append_cons (by rfl)]
  rfl

/-- What stands behind the brace, with blanks at its ends or without, gives the same lines. -/
theorem inlineLines_behindBrace_trim {s blanks : List Char} (hs : '\x7b' ∉ s) (hb : ∀ b ∈ blanks, isBlank b = true)
    (r : List Char) : inlineLines (behindBrace (trim (s ++ '\x7b' :: (blanks ++ r)))) = inlineLines r := by
  have hd : '\x7b' ∉ s.dropWhile isBlank := by
    intro hm
    exact hs ((List.dropWhile_sublist isBlank).subset hm)
  rw [trim_append_brace, behindBrace, cut_append_of_not_mem hd]
  exact (inlineLines_trimEnd (blanks ++ r)).trans (inlineLines_append_of_blank hb r)

/-- A body behind a first line with a comment is read from the comment and the lines behind it. -/
theorem readBody_commented (h : EndsInBrace l) (c : List Char) (rest : Lines) :
    readBody step state (trim (l ++ comment c)) rest =
      match takeLines step state (commentLines c) with
      | (state, some _) => (state, rest)
      | (state, none) => takeTextLines step state rest := by
  obtain ⟨s, blanks, rfl, hs, hb⟩ := h
  rw [readBody, List.append_assoc, List.cons_append, inlineLines_behindBrace_trim hs hb]
  rfl

/-- Without a comment, a body is read from the lines behind its first one. -/
theorem readBody_of_endsInBrace (h : EndsInBrace l) (rest : Lines) :
    readBody step state (trim l) rest = takeTextLines step state rest := by
  obtain ⟨s, blanks, rfl, hs, hb⟩ := h
  rw [readBody, ← List.append_nil blanks, inlineLines_behindBrace_trim hs hb]
  rfl

/-- More text behind the brace stays behind it. -/
theorem trim_commented (h : EndsInBrace l) (c : List Char) :
    '\x7b' ∈ trim l ∧ ∃ x, trim (l ++ comment c) = trim l ++ x := by
  obtain ⟨s, blanks, rfl, -, hb⟩ := h
  have hn : trimEnd blanks = [] := by
    rw [trimEnd, dropEndWhile, List.reverse_eq_nil_iff, List.dropWhile_eq_nil_iff]
    intro x hx
    exact hb x (List.mem_reverse.1 hx)
  rw [List.append_assoc, List.cons_append, trim_append_brace, trim_append_brace, hn]
  refine ⟨by simp, trimEnd (blanks ++ comment c), ?_⟩
  simp

end Header

end HelixGateway.Block

namespace HelixGateway.Schema

open Block
open Text

/-! ## Headers -/

/-- In the text `a ++ (l ++ b)` the line `l` opens a block, and nothing but blanks stands behind its brace. -/
structure HeaderAt (kind : Kind) (a l b : List Char) : Prop where
  starts : ∀ c ∈ a.getLast?, isLineBreak c = true
  ends : ∀ c ∈ b.head?, isLineBreak c = true
  reached : endsOpen (lines a) = false
  unbroken : Unbroken l
  declares : declared? (trim l) = some kind
  brace : EndsInBrace l

theorem forall_mem_some {x : Char} (h : isLineBreak x = true) : ∀ c ∈ some x, isLineBreak c = true := by
  intro c hc
  rw [← Option.some.inj hc, h]

section Line

variable {a l b : List Char}

/-- A line of a text that the reading comes to outside of any block is read with the lines behind it. -/
theorem parse_line (ha : ∀ c ∈ a.getLast?, isLineBreak c = true) (hb : ∀ c ∈ b.head?, isLineBreak c = true)
    (ho : endsOpen (lines a) = false) (hn : l ≠ []) (hu : Unbroken l) :
    parse (a ++ (l ++ b)) = parseLines (lines a) ++ parseLines (l :: (lines b).tail) := by
  have hh : (l ++ b).head? ≠ some '\n' := by
    cases l with
    | nil => exact absurd rfl hn
    | cons c l =>
      rw [List.cons_append, List.head?_cons]
      intro h
      have hc := hu c (by simp)
      rw [Option.some.inj h] at hc
      exact absurd hc (by decide)
  rw [parse, lines_append_of_break ha hh, lines_append_of_line hn hu hb, parseLines_append ho]

/-- Lines of which none opens a block declare nothing. -/
theorem parseLines_eq_empty {ls : Lines} (h : ∀ l ∈ ls, declared? (trim l) = none) : parseLines ls = .empty := by
  induction ls with
  | nil => rw [parseLines]
  | cons l ls ih =>
    rw [parseLines_cons_of_not_declared (h l (by simp)), ih fun x hx => h x (List.mem_cons_of_mem _ hx)]

/-- A declaration in front of lines that declare nothing is the whole schema. -/
theorem parseLines_cons_eq_readFirst {ls : Lines} (h : ∀ l ∈ ls, declared? (trim l) = none) (l : List Char) :
    parseLines (l :: ls) = (readFirst l ls).1 := by
  rw [parseLines, parseLines_eq_empty fun x hx => h x ((suffix_readFirst l ls).subset hx)]
  show append _ _ = _
  simp [append, empty]

end Line

section Read

variable {l t : List Char}

/-- The name of a block ends at the first brace, whatever follows. -/
theorem blockName_append (ht : '\x7b' ∈ t) (x : List Char) : blockName (t ++ x) = blockName t := by
  obtain ⟨a, b, rfl, ha⟩ := List.eq_append_cons_of_mem ht
  rw [blockName, blockName, before, before, List.append_assoc, List.cons_append, cut_append_of_not_mem ha,
    cut_append_of_not_mem ha]

/-- A header is the letter of its kind, the colons, and what is read behind them. -/
theorem eq_append_of_vertexHeader? {kind : VertexKind} {header : List Char} (h : vertexHeader? header = some (kind, t)) :
    header = vertexPrefix kind ++ t := by
  unfold vertexHeader? at h
  split at h
  · rename_i hn
    cases h
    exact eq_append_of_afterPrefix? hn
  · obtain ⟨r, hr, he⟩ := Option.map_eq_some_iff.1 h
    cases he
    exact eq_append_of_afterPrefix? hr

/-- A vertex is declared with the properties of its body, with the comment and without it. -/
theorem readFirst_commented_vertex {kind : VertexKind} (hv : vertexHeader? (trim l) = some (kind, t)) (h : EndsInBrace l)
    (c : List Char) (rest : Lines) :
    let plain := takeTextLines vertexStep .empty rest
    let commented := readBody vertexStep .empty (trim (l ++ comment c)) rest
    readFirst l rest = (ofVertex ⟨blockName t, kind, plain.1⟩, plain.2) ∧
    readFirst (l ++ comment c) rest = (ofVertex ⟨blockName t, kind, commented.1⟩, commented.2) := by
  intro plain commented
  obtain ⟨hm, x, hx⟩ := trim_commented h c
  have ht := eq_append_of_vertexHeader? hv
  have hmt : '\x7b' ∈ t := by
    rw [ht] at hm
    rcases List.mem_append.1 hm with hm | hm
    · cases kind with
      | node => exact absurd hm (by decide)
      | vector => exact absurd hm (by decide)
    · exact hm
  have hvc : vertexHeader? (trim (l ++ comment c)) = some (kind, t ++ x) := by
    rw [hx, ht, List.append_assoc]
    exact Declaration.vertexHeader?_vertexPrefix kind (t ++ x)
  constructor
  · exact readFirst_of_vertexHeader hv (readBody_of_endsInBrace _ _ h rest)
  · rw [← blockName_append hmt x]
    exact readFirst_of_vertexHeader hvc rfl

/-- An edge is declared with the ends and the properties of its body, with the comment and without it. -/
theorem readFirst_commented_edge (he : afterPrefix? edgePrefix (trim l) = some t) (h : EndsInBrace l) (c : List Char)
    (rest : Lines) :
    let plain := takeTextLines edgeStep .start rest
    let commented := readBody edgeStep .start (trim (l ++ comment c)) rest
    readFirst l rest = (ofEdge ⟨blockName t, plain.1.source, plain.1.target, plain.1.properties⟩, plain.2) ∧
    readFirst (l ++ comment c) rest =
      (ofEdge ⟨blockName t, commented.1.source, commented.1.target, commented.1.properties⟩, commented.2) := by
  intro plain commented
  obtain ⟨hm, x, hx⟩ := trim_commented h c
  have ht : trim l = edgePrefix ++ t := eq_append_of_afterPrefix? he
  have hmt : '\x7b' ∈ t := by
    rw [ht] at hm
    rcases List.mem_append.1 hm with hm | hm
    · exact absurd hm (by decide)
    · exact hm
  have hec : afterPrefix? edgePrefix (trim (l ++ comment c)) = some (t ++ x) := by
    rw [hx, ht, List.append_assoc, afterPrefix?_append]
  constructor
  · refine readFirst_of_edgePrefix ?_ he (readBody_of_endsInBrace _ _ h rest)
    rw [ht, Declaration.vertexHeader?_edgePrefix]
  · rw [← blockName_append hmt x]
    refine readFirst_of_edgePrefix ?_ hec rfl
    rw [hx, ht, List.append_assoc, Declaration.vertexHeader?_edgePrefix]

end Read

/-! ## Telling comments apart -/

/-- The first line of a small block of a kind. -/
def firstLine : Kind → List Char
  | .node => "N::A \x7b".toList
  | .vector => "V::A \x7b".toList
  | .edge => "E::A \x7b".toList

/-- A line that is an end of an edge, and a property of a vertex or among the properties of an edge. -/
def endLine : List Char := "From:b".toList

/-- The first line of a small block opens it at the start of a text. -/
theorem headerAt_firstLine (kind : Kind) {b : List Char} (hb : ∀ c ∈ b.head?, isLineBreak c = true) :
    HeaderAt kind [] (firstLine kind) b where
  starts := by simp
  ends := hb
  reached := by rw [lines, endsOpen]
  unbroken := by cases kind <;> decide
  declares := by cases kind <;> rfl
  brace := by
    cases kind with
    | node => exact ⟨"N::A ".toList, [], rfl, by decide, List.forall_mem_nil _⟩
    | vector => exact ⟨"V::A ".toList, [], rfl, by decide, List.forall_mem_nil _⟩
    | edge => exact ⟨"E::A ".toList, [], rfl, by decide, List.forall_mem_nil _⟩

section Apart

variable {c : List Char}

/-- A comment on one line is on one line with its slashes. -/
theorem unbroken_comment (hc : Unbroken c) : Unbroken (comment c) := by
  have hlead : Unbroken [' ', '/', '/', ' '] := by decide
  exact unbroken_append.2 ⟨hlead, hc⟩

/-- A comment that leaves a vertex alone with nothing behind its first line and with a property there leaves the body open
and empty. -/
theorem takeLines_vertex_of_readBody {l : List Char} (hl : EndsInBrace l)
    (h : ∀ rest, rest = [] ∨ rest = [endLine] →
      (readBody vertexStep .empty (trim (l ++ comment c)) rest).1 = (takeTextLines vertexStep .empty rest).1) :
    takeLines vertexStep .empty (commentLines c) = (.empty, none) := by
  have h0 := h [] (.inl rfl)
  have h1 := h [endLine] (.inr rfl)
  rw [readBody_commented _ _ hl] at h0 h1
  cases ht : takeLines vertexStep .empty (commentLines c) with
  | mk m left =>
    rw [ht] at h0 h1
    cases left with
    | none => exact congrArg (·, none) h0
    | some left =>
      -- the property is not read
      have hm : m = .empty := h0
      have hne : (OrdMap.empty : OrdMap String) ≠ (takeTextLines vertexStep .empty [endLine]).1 := by decide
      exact absurd (hm.symm.trans h1) hne

/-- A comment that leaves an edge alone with nothing behind its first line and with an end there leaves the body open and
empty. -/
theorem takeLines_edge_of_readBody {l : List Char} (hl : EndsInBrace l)
    (h : ∀ rest, rest = [] ∨ rest = [endLine] →
      (readBody edgeStep .start (trim (l ++ comment c)) rest).1.source = (takeTextLines edgeStep .start rest).1.source ∧
      (readBody edgeStep .start (trim (l ++ comment c)) rest).1.target = (takeTextLines edgeStep .start rest).1.target ∧
      (readBody edgeStep .start (trim (l ++ comment c)) rest).1.properties =
        (takeTextLines edgeStep .start rest).1.properties) :
    takeLines edgeStep .start (commentLines c) = (.start, none) := by
  have h0 := h [] (.inl rfl)
  have h1 := (h [endLine] (.inr rfl)).1
  rw [readBody_commented _ _ hl] at h0 h1
  cases ht : takeLines edgeStep .start (commentLines c) with
  | mk state left =>
    obtain ⟨source, target, inProperties, properties⟩ := state
    rw [ht] at h0 h1
    cases left with
    | some left =>
      -- the end is not read
      have hs : source = "" := h0.1
      have hb : source = "b" := h1
      rw [hs] at hb
      exact absurd hb (by decide)
    | none =>
      obtain ⟨rfl, rfl, rfl⟩ : source = "" ∧ target = "" ∧ properties = .empty := h0
      cases inProperties with
      | false => rfl
      | true =>
        -- the end is read as a property
        have hs : (takeTextLines edgeStep ⟨"", "", true, .empty⟩ [endLine]).1.source = "" := by decide
        have hb : (takeTextLines edgeStep .start [endLine]).1.source = "b" := by decide
        exact absurd (hs.symm.trans (h1.trans hb)) (by decide)

/-- If a comment changes nothing in any schema, reading the body behind a first line with the comment comes to the same. -/
theorem readFirst_firstLine {kind : Kind} (hc : Unbroken c)
    (h : ∀ a l b, HeaderAt kind a l b → parse (a ++ (l ++ comment c ++ b)) = parse (a ++ (l ++ b))) {rest : Lines}
    (hr : rest = [] ∨ rest = [endLine]) :
    (readFirst (firstLine kind ++ comment c) rest).1 = (readFirst (firstLine kind) rest).1 := by
  obtain ⟨b, hb, rfl⟩ : ∃ b : List Char, (∀ x ∈ b.head?, isLineBreak x = true) ∧ (lines b).tail = rest := by
    rcases hr with rfl | rfl
    · exact ⟨[], nofun, rfl⟩
    · exact ⟨'\n' :: endLine, forall_mem_some rfl, by decide⟩
  have hd : ∀ l ∈ (lines b).tail, declared? (trim l) = none := by
    rcases hr with hr | hr
    · rw [hr]
      nofun
    · rw [hr]
      decide
  have hh := headerAt_firstLine kind hb
  have hn : firstLine kind ≠ [] := by cases kind <;> nofun
  have hu : Unbroken (firstLine kind ++ comment c) := unbroken_append.2 ⟨hh.unbroken, unbroken_comment hc⟩
  have hp := h [] (firstLine kind) b hh
  rw [List.nil_append, List.nil_append, parse, parse, lines_append_of_line (by simp [hn]) hu hb,
    lines_append_of_line hn hh.unbroken hb] at hp
  rw [← parseLines_cons_eq_readFirst hd, hp, parseLines_cons_eq_readFirst hd]

end Apart

/-! ## Ignored comments -/

section Ignored

variable {c : List Char} {kind : Kind}

/-- Behind the first line of a node or of a vector a comment is ignored when the lines cut from it leave the body open and
empty. -/
theorem ignored_node_iff : Ignored .node c ↔ takeLines vertexStep .empty (commentLines c) = (.empty, none) := by
  rw [takeLines_vertex_iff, eq_comm (a := OrdMap.empty), OrdMap.ofEntries_eq_empty_iff, saidProperties_eq_nil_iff, ← forall₂_and]
  rfl

/-- Behind the first line of an edge a comment is ignored when the lines cut from it leave the body as it starts. -/
theorem ignored_edge_iff : Ignored .edge c ↔ takeLines edgeStep .start (commentLines c) = (.start, none) := by
  rw [takeLines_edge_iff, eq_comm (a := EdgeState.start)]
  rfl

/-- Behind lines that say nothing, a body is read as if they were not there. -/
theorem readBody_of_ignored {σ : Type} {step : σ → List Char → Outcome σ} {state : σ}
    (h : takeLines step state (commentLines c) = (state, none)) {l : List Char} (hl : EndsInBrace l) (rest : Lines) :
    readBody step state (trim (l ++ comment c)) rest = takeTextLines step state rest := by
  rw [readBody_commented _ _ hl, h]

/-- An ignored comment does not change the block behind which it stands. -/
theorem readFirst_of_ignored {a l b : List Char} (hh : HeaderAt kind a l b) (hi : Ignored kind c) (rest : Lines) :
    readFirst (l ++ comment c) rest = readFirst l rest := by
  have hl := hh.brace
  obtain ⟨t, hd, hv⟩ | ⟨t, hd, hv⟩ | ⟨t, hd, hv, he⟩ | ⟨hd, -⟩ := declared?_cases (trim l)
  · obtain rfl : Kind.node = kind := Option.some.inj (hd.symm.trans hh.declares)
    obtain ⟨hp, hc⟩ := readFirst_commented_vertex hv hl c rest
    rw [hp, hc, readBody_of_ignored (ignored_node_iff.1 hi) hl]
  · obtain rfl : Kind.vector = kind := Option.some.inj (hd.symm.trans hh.declares)
    obtain ⟨hp, hc⟩ := readFirst_commented_vertex hv hl c rest
    rw [hp, hc, readBody_of_ignored (ignored_node_iff.1 hi) hl]
  · obtain rfl : Kind.edge = kind := Option.some.inj (hd.symm.trans hh.declares)
    obtain ⟨hp, hc⟩ := readFirst_commented_edge he hl c rest
    rw [hp, hc, readBody_of_ignored (ignored_edge_iff.1 hi) hl]
  · have hn := hd.symm.trans hh.declares
    cases hn

/-- A comment that changes nothing in two small vertices leaves the body of a vertex open and empty. -/
theorem takeLines_vertex_of_readFirst {kind : VertexKind} {l t : List Char} (hv : vertexHeader? (trim l) = some (kind, t))
    (hl : EndsInBrace l)
    (h : ∀ rest, rest = [] ∨ rest = [endLine] → (readFirst (l ++ comment c) rest).1 = (readFirst l rest).1) :
    takeLines vertexStep .empty (commentLines c) = (.empty, none) := by
  refine takeLines_vertex_of_readBody hl fun rest hr => ?_
  obtain ⟨hplain, hcommented⟩ := readFirst_commented_vertex hv hl c rest
  have hs := h rest hr
  rw [hplain, hcommented] at hs
  cases kind <;> simpa [ofVertex] using hs

/-- A comment that changes nothing in two small edges leaves the body of an edge as it starts. -/
theorem takeLines_edge_of_readFirst {l t : List Char} (he : afterPrefix? edgePrefix (trim l) = some t) (hl : EndsInBrace l)
    (h : ∀ rest, rest = [] ∨ rest = [endLine] → (readFirst (l ++ comment c) rest).1 = (readFirst l rest).1) :
    takeLines edgeStep .start (commentLines c) = (.start, none) := by
  refine takeLines_edge_of_readBody hl fun rest hr => ?_
  obtain ⟨hplain, hcommented⟩ := readFirst_commented_edge he hl c rest
  have hs := h rest hr
  rw [hplain, hcommented] at hs
  simpa [ofEdge] using hs

/-- A comment that changes nothing in the two small texts of a kind is ignored. -/
theorem ignored_of_firstLine
    (h : ∀ rest, rest = [] ∨ rest = [endLine] →
      (readFirst (firstLine kind ++ comment c) rest).1 = (readFirst (firstLine kind) rest).1) : Ignored kind c := by
  have hl := (headerAt_firstLine kind (b := []) nofun).brace
  cases kind with
  | node =>
    have hv : vertexHeader? (trim (firstLine .node)) = some (.node, "A \x7b".toList) := by decide
    exact ignored_node_iff.2 (takeLines_vertex_of_readFirst hv hl h)
  | vector =>
    have hv : vertexHeader? (trim (firstLine .vector)) = some (.vector, "A \x7b".toList) := by decide
    exact ignored_node_iff.2 (takeLines_vertex_of_readFirst hv hl h)
  | edge =>
    have he : afterPrefix? edgePrefix (trim (firstLine .edge)) = some "A \x7b".toList := by decide
    exact ignored_edge_iff.2 (takeLines_edge_of_readFirst he hl h)

/-- A comment behind the brace of a block changes nothing, whatever the schema, exactly when the lines cut from it say nothing;
and nothing is cut from a comment without braces and commas. -/
theorem parse_commented_iff (kind : Kind) {c : List Char} (hc : Unbroken c) :
    (Ignored kind c ↔ ∀ a l b, HeaderAt kind a l b → parse (a ++ (l ++ comment c ++ b)) = parse (a ++ (l ++ b))) ∧
    ((∀ x ∈ c, isMark x = false) → Ignored kind c) := by
  refine ⟨⟨?_, ?_⟩, ignored_of_noMark kind⟩
  · intro hi a l b hh
    have hn : l ≠ [] := by
      obtain ⟨s, blanks, rfl, -⟩ := hh.brace
      simp
    have hu : Unbroken (l ++ comment c) := unbroken_append.2 ⟨hh.unbroken, unbroken_comment hc⟩
    rw [parse_line hh.starts hh.ends hh.reached hn hh.unbroken, parse_line hh.starts hh.ends hh.reached (by simp [hn]) hu,
      parseLines, readFirst_of_ignored hh hi, ← parseLines]
  · intro h
    exact ignored_of_firstLine fun rest hr => readFirst_firstLine hc h hr

/-- A comment behind a comma opens the properties of an edge and closes them again, which says nothing. -/
theorem parse_commented_ends :
    Ignored .edge "both ends, Properties: \x7b\x7d".toList ∧
      parse ("N::A \x7b\x7d\n".toList ++ (" E::Knows \x7b ".toList ++ comment "both ends, Properties: \x7b\x7d".toList ++
          "\r\nFrom: A\n\x7d".toList)) =
        parse ("N::A \x7b\x7d\n".toList ++ (" E::Knows \x7b ".toList ++ "\r\nFrom: A\n\x7d".toList)) := by
  have hi : Ignored .edge "both ends, Properties: \x7b\x7d".toList := ⟨by decide +kernel, rfl⟩
  have hh : HeaderAt .edge "N::A \x7b\x7d\n".toList " E::Knows \x7b ".toList "\r\nFrom: A\n\x7d".toList :=
    { starts := forall_mem_some (x := '\n') rfl
      ends := forall_mem_some (x := '\r') rfl
      reached := by decide +kernel
      unbroken := by decide
      declares := by decide
      brace := ⟨" E::Knows ".toList, [' '], rfl, by decide, by decide⟩ }
  exact ⟨hi, (parse_commented_iff .edge (by decide)).1.1 hi _ _ _ hh⟩

/-- What stands behind a comma in a comment is read as a property. -/
theorem parse_commented_key :
    HeaderAt .node [] "N::User \x7b".toList "\n\x7d".toList ∧ Unbroken "key, name: String".toList ∧
      parse ([] ++ ("N::User \x7b".toList ++ comment "key, name: String".toList ++ "\n\x7d".toList)) =
        ⟨[⟨"User", .node, .ofEntries [("name", "String")]⟩], [], []⟩ ∧
      parse ([] ++ ("N::User \x7b".toList ++ comment "key, name: String".toList ++ "\n\x7d".toList)) ≠
        parse ([] ++ ("N::User \x7b".toList ++ "\n\x7d".toList)) := by
  have hh : HeaderAt .node [] "N::User \x7b".toList "\n\x7d".toList :=
    { starts := nofun
      ends := forall_mem_some (x := '\n') rfl
      reached := by decide +kernel
      unbroken := by decide
      declares := by decide
      brace := ⟨"N::User ".toList, [], rfl, by decide, nofun⟩ }
  refine ⟨hh, by decide, ?_, ?_⟩
  · decide +kernel
  · decide +kernel

end Ignored

end HelixGateway.Schema
