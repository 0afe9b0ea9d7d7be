import HelixGateway.Proofs.Schema.Concatenation
import Mathlib.Data.List.DropRight

/-!
# What the block of an edge says

The body of an edge is what stands behind the brace of its first line, cut into lines, and the lines behind that one that
count. It can be described without running through it: the properties are open behind some lines if they were opened since
the last closing brace, and the block ends at the first closing brace before which they are not open. Of the lines before that
one, those outside the properties name the ends, the last one of each label, and those inside with a colon are the properties,
each key at the place where it is first written and with the value that is last written. `EdgeState.after` is this
description as a state, which the steps of a run keep (`edgeStep_after`).

Main statements: `takeLines_of_staysOpen`, `exists_extent`, `readAt_edge`.
-/

namespace HelixGateway

namespace Block

open Text

/-! ## Inside and outside -/

/-- Whether the properties of an edge are open behind some lines: a line behind the last closing brace opens them. -/
def propertiesOpen (before : Lines) : Bool := (before.rtakeWhile (· ≠ closing)).any opensProperties

/-- Each line with the lines that stand before it. -/
def withBefore (before : Lines) : Lines → List (Lines × List Char)
  | [] => []
  | l :: ls => (before, l) :: withBefore (before ++ [l]) ls

/-- The lines of a body that stand inside the properties, or those that do not. -/
def linesWhere (inside : Bool) (body : Lines) : Lines :=
  ((withBefore [] body).filter fun p => propertiesOpen p.1 = inside).map Prod.snd

/-- The closing braces among some lines all close the properties, and so none of them closes the block. -/
def StaysOpen (body : Lines) : Prop := ∀ p ∈ withBefore [] body, p.2 = closing → propertiesOpen p.1 = true

instance (body : Lines) : Decidable (StaysOpen body) :=
  inferInstanceAs (Decidable (∀ p ∈ withBefore [] body, p.2 = closing → propertiesOpen p.1 = true))

/-- Lines behind others have those before them. -/
theorem withBefore_append (before a b : Lines) :
    withBefore before (a ++ b) = withBefore before a ++ withBefore (before ++ a) b := by
  induction a generalizing before with
  | nil => simp [withBefore]
  | cons l a ih => simp [withBefore, ih]

section Concat

variable (body : Lines) (l : List Char)

/-- One more line closes the properties, or opens them, or leaves them as they are. -/
theorem propertiesOpen_concat :
    propertiesOpen (body ++ [l]) = (decide (l ≠ closing) && (propertiesOpen body || opensProperties l)) := by
  by_cases hl : l = closing
  · simp [propertiesOpen, hl]
  · simp [propertiesOpen, hl]

/-- One more line stands where the lines before it leave off. -/
theorem linesWhere_concat (inside : Bool) :
    linesWhere inside (body ++ [l]) =
      if propertiesOpen body = inside then linesWhere inside body ++ [l] else linesWhere inside body := by
  rw [linesWhere, withBefore_append, List.filter_append, List.map_append, ← linesWhere]
  by_cases h : propertiesOpen body = inside
  · simp [withBefore, h]
  · simp [withBefore, h]

/-- A body stays open with one more line unless that is a closing brace outside the properties. -/
theorem staysOpen_concat : StaysOpen (body ++ [l]) ↔ StaysOpen body ∧ (l = closing → propertiesOpen body = true) := by
  rw [StaysOpen, withBefore_append, List.forall_mem_append]
  simp [withBefore, StaysOpen]

end Concat

/-! ## What the lines say -/

/-- The name in the last one of some lines with a label; empty without such a line. -/
def lastEnd (label : String) (ls : Lines) : String :=
  ((ls.filterMap (afterPrefix? label.toList)).getLast?.map endName).getD ""

/-- The properties that some lines say, in order and with repetitions. -/
def saidProperties (ls : Lines) : Entries String := ls.filterMap parseProperty?

/-- What is read of an edge behind some lines of its body. -/
def EdgeState.after (body : Lines) : EdgeState :=
  ⟨lastEnd "From:" (linesWhere false body), lastEnd "To:" (linesWhere false body), propertiesOpen body,
    .ofEntries (saidProperties (linesWhere true body))⟩

/-- The lines that say a property are those with a colon. -/
theorem isSome_parseProperty?_iff (l : List Char) : (parseProperty? l).isSome = true ↔ ':' ∈ l := by
  have hm : ':' ∈ dropEndWhile (· == ',') (trim l) ↔ ':' ∈ l := by
    rw [mem_dropEndWhile_iff (by decide), mem_trim_iff (by decide)]
  rw [parseProperty?, Option.isSome_map, ← hm]
  generalize dropEndWhile (· == ',') (trim l) = s
  constructor
  · intro hs
    by_contra hc
    rw [cut_eq_none_of_not_mem hc] at hs
    cases hs
  · intro hc
    rw [Option.isSome_iff_ne_none]
    exact fun hn => not_mem_of_cut_eq_none hn hc

section Step

variable {ls : Lines} {l s : List Char} {label : String}

/-- One more line with the label names the end. -/
theorem lastEnd_concat_of_some (h : afterPrefix? label.toList l = some s) : lastEnd label (ls ++ [l]) = endName s := by
  simp [lastEnd, List.filterMap_append, h]

/-- One more line without the label leaves the end as it is. -/
theorem lastEnd_concat_of_none (h : afterPrefix? label.toList l = none) : lastEnd label (ls ++ [l]) = lastEnd label ls := by
  simp [lastEnd, List.filterMap_append, h]

/-- One more line adds the property that it says, if it says one. -/
theorem addProperty_saidProperties (ls : Lines) (l : List Char) :
    addProperty (.ofEntries (saidProperties ls)) l = .ofEntries (saidProperties (ls ++ [l])) := by
  rw [addProperty, saidProperties, saidProperties, List.filterMap_append]
  cases hp : parseProperty? l with
  | none => simp [hp]
  | some e =>
    obtain ⟨name, type⟩ := e
    simp [hp, OrdMap.ofEntries_concat]

/-- A line with the label of an end says nothing else. -/
theorem of_afterPrefix?_from (h : afterPrefix? "From:".toList l = some s) :
    afterPrefix? "To:".toList l = none ∧ opensProperties l = false := by
  rw [eq_append_of_afterPrefix? h]
  exact ⟨rfl, rfl⟩

/-- A line that names the target opens no properties. -/
theorem opensProperties_of_to (h : afterPrefix? "To:".toList l = some s) : opensProperties l = false := by
  rw [eq_append_of_afterPrefix? h]
  rfl

/-- One line of an edge: a closing brace outside the properties ends the block, and any other line is added to what the lines
before it say. -/
theorem edgeStep_after (body : Lines) (l : List Char) :
    edgeStep (.after body) l =
      if l = closing ∧ propertiesOpen body = false then ⟨.after body, true⟩ else ⟨.after (body ++ [l]), false⟩ := by
  cases ho : propertiesOpen body with
  | true =>
    -- inside, the lines outside stay the same
    have hout : linesWhere false (body ++ [l]) = linesWhere false body := by simp [linesWhere_concat, ho]
    have hin : linesWhere true (body ++ [l]) = linesWhere true body ++ [l] := by simp [linesWhere_concat, ho]
    rw [if_neg (by simp), edgeStep, EdgeState.after, EdgeState.after, hout, hin, ← addProperty_saidProperties,
      propertiesOpen_concat, ho]
    by_cases hl : l = closing
    · have hp : parseProperty? closing = none := by decide
      simp [hl, addProperty, hp]
    · simp [hl]
  | false =>
    -- outside, the lines inside stay the same
    have hout : linesWhere false (body ++ [l]) = linesWhere false body ++ [l] := by simp [linesWhere_concat, ho]
    have hin : linesWhere true (body ++ [l]) = linesWhere true body := by simp [linesWhere_concat, ho]
    rw [edgeStep, EdgeState.after, EdgeState.after, hout, hin, propertiesOpen_concat, ho]
    by_cases hl : l = closing
    · simp [hl]
    · cases hf : afterPrefix? "From:".toList l with
      | some s =>
        obtain ⟨ht, hp⟩ := of_afterPrefix?_from hf
        simp [hl, lastEnd_concat_of_some hf, lastEnd_concat_of_none ht, hp]
      | none =>
        cases ht : afterPrefix? "To:".toList l with
        | some s => simp [hl, lastEnd_concat_of_none hf, lastEnd_concat_of_some ht, opensProperties_of_to ht]
        | none => simp [hl, lastEnd_concat_of_none hf, lastEnd_concat_of_none ht]

/-- Inside the properties a line leaves the ends alone, and outside it leaves the properties alone. -/
theorem edgeStep_keeps (state : EdgeState) (l : List Char) :
    (state.inProperties = true →
      (edgeStep state l).state.source = state.source ∧ (edgeStep state l).state.target = state.target) ∧
    (state.inProperties = false → (edgeStep state l).state.properties = state.properties) := by
  constructor
  · intro h
    rw [edgeStep, if_pos h]
    split
    · exact ⟨rfl, rfl⟩
    · exact ⟨rfl, rfl⟩
  · intro h
    rw [edgeStep, if_neg (by simp [h])]
    split
    · rfl
    · split
      · rfl
      · split
        · rfl
        · rfl

end Step

/-- A run over lines of which none closes the block comes to what these lines say. -/
theorem takeLines_of_staysOpen {body : Lines} (h : StaysOpen body) :
    takeLines edgeStep .start body = (.after body, none) := by
  induction body using List.reverseRecOn with
  | nil => rfl
  | append_singleton body l ih =>
    obtain ⟨hb, hl⟩ := (staysOpen_concat body l).1 h
    have hstep : ¬(l = closing ∧ propertiesOpen body = false) := by
      rintro ⟨hc, ho⟩
      rw [hl hc] at ho
      cases ho
    rw [takeLines_append, ih hb]
    simp [takeLines, edgeStep_after, hstep]

/-! ## Where the block ends -/

/-- A line of a body, with the place of the line of the text that follows it. -/
structure Placed where
  line : List Char
  behind : Int
  deriving DecidableEq

/-- The lines that count of those that stand in a text from a place on. -/
def placed (place : Int) : Lines → List Placed
  | [] => []
  | l :: rest => if counts (trim l) then ⟨trim l, place + 1⟩ :: placed (place + 1) rest else placed (place + 1) rest

/-- The lines of the body that the line `header` at `place` opens: those behind its brace, and those of `rest` that count. -/
def body (place : Int) (header : List Char) (rest : Lines) : List Placed :=
  (inlineLines (behindBrace header)).map (⟨·, place + 1⟩) ++ placed (place + 1) rest

/-- How far a block goes: the lines of its body that are read before it ends, and the place of the line behind it. It ends
at the first closing brace that does not close the properties, or where the text ends if there is none. -/
inductive Extent (body : List Placed) (textEnd : Int) : Lines → Int → Prop
  | closed {before after : List Placed} {l : Placed} (split : body = before ++ l :: after)
      (stays : StaysOpen (before.map (·.line))) (closes : l.line = closing)
      (ends : propertiesOpen (before.map (·.line)) = false) : Extent body textEnd (before.map (·.line)) l.behind
  | unclosed (stays : StaysOpen (body.map (·.line))) : Extent body textEnd (body.map (·.line)) textEnd

/-- A block ends somewhere. -/
theorem exists_extent (body : List Placed) (textEnd : Int) : ∃ before next, Extent body textEnd before next := by
  suffices h : StaysOpen (body.map (·.line)) ∨ ∃ before l after, body = before ++ l :: after ∧
      StaysOpen (before.map (·.line)) ∧ l.line = closing ∧ propertiesOpen (before.map (·.line)) = false by
    rcases h with stays | ⟨before, l, after, split, stays, closes, ends⟩
    · exact ⟨_, _, .unclosed stays⟩
    · exact ⟨_, _, .closed split stays closes ends⟩
  induction body using List.reverseRecOn with
  | nil =>
    left
    intro p hp
    cases hp
  | append_singleton body l ih =>
    rcases ih with stays | ⟨before, l', after, rfl, stays, closes, ends⟩
    · by_cases hl : l.line = closing ∧ propertiesOpen (body.map (·.line)) = false
      · exact .inr ⟨body, l, [], rfl, stays, hl.1, hl.2⟩
      · left
        rw [List.map_append, List.map_singleton, staysOpen_concat]
        refine ⟨stays, fun hc => ?_⟩
        by_contra ho
        exact hl ⟨hc, by simpa using ho⟩
    · exact .inr ⟨before, l', after ++ [l], by simp, stays, closes, ends⟩

section Run

variable {σ : Type} {step : σ → List Char → Outcome σ} {state mid final : σ} {place : Int} {header first : List Char}
  {rest : Lines} {before after : List Placed} {l : Placed}

/-- A line that does not count takes a place, and no line of the body stands there. -/
theorem placed_cons_of_skip (h : counts (trim first) = false) (place : Int) (rest : Lines) :
    placed place (first :: rest) = placed (place + 1) rest := by
  rw [placed, h]
  rfl

/-- A line that counts stands, trimmed, at its place. -/
theorem placed_cons_of_counts (h : counts (trim first) = true) (place : Int) (rest : Lines) :
    placed place (first :: rest) = ⟨trim first, place + 1⟩ :: placed (place + 1) rest := by
  rw [placed, if_pos h]

theorem map_line_inline (place : Int) (lines : Lines) :
    (lines.map (⟨·, place⟩ : List Char → Placed)).map (·.line) = lines := by
  rw [List.map_map]
  exact List.map_id' lines

/-- Lines up to the one that closes the block: what is left starts at the place behind that line. -/
theorem takeTextLines_of_closed (hb : placed place rest = before ++ l :: after)
    (hm : takeLines step state (before.map (·.line)) = (mid, none)) (hl : step mid l.line = ⟨final, true⟩) :
    ∃ left, takeTextLines step state rest = (final, left) ∧ place + rest.length - left.length = l.behind := by
  induction rest generalizing place state before with
  | nil => simp [placed] at hb
  | cons first rest ih =>
    cases hc : counts (trim first) with
    | false =>
      rw [placed_cons_of_skip hc] at hb
      obtain ⟨left, ht, hn⟩ := ih hb hm
      refine ⟨left, by rw [takeTextLines_cons_of_skip step state hc, ht], ?_⟩
      rw [List.length_cons]
      omega
    | true =>
      rw [placed_cons_of_counts hc] at hb
      rw [takeTextLines_cons_of_counts step state hc]
      cases before with
      | nil =>
        -- this line closes the block
        obtain ⟨rfl, -⟩ := List.cons.inj hb
        obtain ⟨rfl, -⟩ := Prod.mk.inj hm
        refine ⟨rest, by simp [hl], ?_⟩
        rw [List.length_cons]
        show place + ((rest.length + 1 : Nat) : Int) - rest.length = place + 1
        omega
      | cons p before =>
        obtain ⟨rfl, hp⟩ := List.cons.inj hb
        rw [List.map_cons, takeLines] at hm
        cases ho : (step state (trim first)).closed with
        | true => simp [ho] at hm
        | false =>
          simp only [ho, Bool.false_eq_true, if_false] at hm ⊢
          obtain ⟨left, ht, hn⟩ := ih hp hm
          refine ⟨left, ht, ?_⟩
          rw [List.length_cons]
          omega

/-- A body that no line closes takes the lines up to the end. -/
theorem takeTextLines_of_unclosed (hm : takeLines step state ((placed place rest).map (·.line)) = (final, none)) :
    takeTextLines step state rest = (final, []) := by
  induction rest generalizing place state with
  | nil =>
    obtain ⟨rfl, -⟩ := Prod.mk.inj hm
    rfl
  | cons first rest ih =>
    cases hc : counts (trim first) with
    | false =>
      rw [placed_cons_of_skip hc] at hm
      rw [takeTextLines_cons_of_skip step state hc]
      exact ih hm
    | true =>
      rw [placed_cons_of_counts hc, List.map_cons, takeLines] at hm
      rw [takeTextLines_cons_of_counts step state hc]
      cases ho : (step state (trim first)).closed with
      | true => simp [ho] at hm
      | false =>
        simp only [ho, Bool.false_eq_true, if_false] at hm ⊢
        exact ih hm

/-- A body that is not closed on the first line goes on with the lines of the text. -/
theorem readBody_of_inline_open {more : Lines}
    (hm : takeLines step state (inlineLines (behindBrace header) ++ more) = (final, none)) (rest : Lines) :
    ∃ first, takeLines step first more = (final, none) ∧
      readBody step state header rest = takeTextLines step first rest := by
  rw [takeLines_append] at hm
  rw [readBody]
  cases ht : takeLines step state (inlineLines (behindBrace header)) with
  | mk first left =>
    rw [ht] at hm
    cases left with
    | some left => cases hm
    | none => exact ⟨first, hm, rfl⟩

/-- A body that is closed on the first line leaves all the lines of the text. -/
theorem readBody_of_inline_closed {lines more : Lines} (hi : inlineLines (behindBrace header) = lines ++ first :: more)
    (hm : takeLines step state lines = (mid, none)) (hl : step mid first = ⟨final, true⟩) :
    readBody step state header rest = (final, rest) := by
  rw [readBody, hi, takeLines_append, hm]
  simp [takeLines, hl]

/-- A body up to the line that closes it, which may stand on the first line of the block or behind it. -/
theorem readBody_of_closed (hb : body place header rest = before ++ l :: after)
    (hm : takeLines step state (before.map (·.line)) = (mid, none)) (hl : step mid l.line = ⟨final, true⟩) :
    ∃ left, readBody step state header rest = (final, left) ∧ place + (1 + rest.length - left.length) = l.behind := by
  rw [body, List.append_eq_append_iff] at hb
  have hcases : (∃ inner, before = (inlineLines (behindBrace header)).map (⟨·, place + 1⟩) ++ inner ∧
      placed (place + 1) rest = inner ++ l :: after) ∨
      ∃ more, (inlineLines (behindBrace header)).map (⟨·, place + 1⟩) = before ++ l :: more := by
    rcases hb with hb | ⟨inner, hi, hp⟩
    · exact .inl hb
    · cases inner with
      | nil => exact .inl ⟨[], by rw [hi, List.append_nil, List.append_nil], hp.symm⟩
      | cons p inner =>
        obtain ⟨rfl, -⟩ := List.cons.inj hp
        exact .inr ⟨inner, hi⟩
  rcases hcases with ⟨inner, rfl, hp⟩ | ⟨more, hi⟩
  · rw [List.map_append, map_line_inline] at hm
    obtain ⟨first, hf, hr⟩ := readBody_of_inline_open hm rest
    obtain ⟨left, ht, hn⟩ := takeTextLines_of_closed hp hf hl
    refine ⟨left, hr.trans ht, ?_⟩
    omega
  · have hlines := congrArg (List.map (·.line)) hi
    rw [map_line_inline, List.map_append, List.map_cons] at hlines
    have hplace : l ∈ (inlineLines (behindBrace header)).map (⟨·, place + 1⟩ : List Char → Placed) := by simp [hi]
    obtain ⟨x, -, rfl⟩ := List.mem_map.1 hplace
    refine ⟨rest, readBody_of_inline_closed hlines hm hl, ?_⟩
    show place + (1 + (rest.length : Int) - rest.length) = place + 1
    omega

theorem readBody_of_unclosed (hm : takeLines step state ((body place header rest).map (·.line)) = (final, none)) :
    readBody step state header rest = (final, []) := by
  rw [body, List.map_append, map_line_inline] at hm
  obtain ⟨first, hf, hr⟩ := readBody_of_inline_open hm rest
  rw [hr, takeTextLines_of_unclosed hf]

end Run

/-! ## The edge -/

/-- What the lines of its block say of an edge: its ends, and its properties, each key at the place where it is first written
and with the value that is last written. -/
structure SaidBy (before : Lines) (e : Edge) : Prop where
  source : e.source = lastEnd "From:" (linesWhere false before)
  target : e.target = lastEnd "To:" (linesWhere false before)
  keys : e.properties.keys = (saidProperties (linesWhere true before)).keys.eraseDups
  value : ∀ k, e.properties.get? k = Entries.get? (saidProperties (linesWhere true before)).reverse k

/-- The state behind some lines is what they say. -/
theorem saidBy_after (name : String) (before : Lines) :
    SaidBy before ⟨name, (EdgeState.after before).source, (EdgeState.after before).target,
      (EdgeState.after before).properties⟩ where
  source := rfl
  target := rfl
  keys := OrdMap.keys_ofEntries _
  value := OrdMap.get?_ofEntries _

section Edge

variable {ls rest before : Lines} {i next : Int} {first header s : List Char}

/-- The lines from a place on end where the text ends, also when the place is counted from the end. -/
theorem place_add_length (h : linesFrom ls i = first :: rest) : i + (1 + rest.length) = ls.length := by
  have hl := congrArg List.length h
  rw [linesFrom] at hl
  split at hl
  · simp only [List.length_drop, List.length_cons] at hl
    omega
  · split at hl
    · simp at hl
    · simp only [List.length_append, List.length_drop, List.length_cons] at hl
      omega

/-- The body of an edge is read up to its end. -/
theorem readBody_of_extent (h : linesFrom ls i = first :: rest) (hx : Extent (body i header rest) ls.length before next) :
    ∃ left, readBody edgeStep .start header rest = (.after before, left) ∧ i + (1 + rest.length - left.length) = next := by
  cases hx with
  | closed split stays closes ends =>
    refine readBody_of_closed split (takeLines_of_staysOpen stays) ?_
    rw [edgeStep_after, if_pos ⟨closes, ends⟩]
  | unclosed stays =>
    refine ⟨[], readBody_of_unclosed (takeLines_of_staysOpen stays), ?_⟩
    rw [← place_add_length h, List.length_nil]
    omega

/-- The block of an edge is what its lines say, `first` being the line at the cursor and `rest` the lines behind it.

1. The block ends somewhere, at the first closing brace that does not close the properties or with the text.
2. However far it goes, that is how far it is read, and the edge is the one that its lines say.
3. A line says a property when it has a colon.
4. Inside the properties no line changes the ends, and outside no line changes the properties. -/
theorem readAt_edge (h : linesFrom ls i = first :: rest) (hs : afterPrefix? edgePrefix (trim first) = some s) :
    (∃ before next, Extent (body i (trim first) rest) ls.length before next) ∧
    (∀ before next, Extent (body i (trim first) rest) ls.length before next →
      ∃ e, readAt readEdge ls i = .ok (e, next) ∧ e.name = blockName s ∧ SaidBy before e) ∧
    (∀ l, (parseProperty? l).isSome = true ↔ ':' ∈ l) ∧
    ∀ state l,
      (state.inProperties = true →
        (edgeStep state l).state.source = state.source ∧ (edgeStep state l).state.target = state.target) ∧
      (state.inProperties = false → (edgeStep state l).state.properties = state.properties) := by
  refine ⟨exists_extent _ _, fun before next hx => ?_, isSome_parseProperty?_iff, edgeStep_keeps⟩
  obtain ⟨left, hb, hn⟩ := readBody_of_extent h hx
  refine ⟨_, ?_, rfl, saidBy_after (blockName s) before⟩
  rw [readAt, h]
  simp only [readEdge, hs, hb]
  rw [← hn]
  rfl

/-- An edge whose properties open on its first line and again behind it, with an end inside them, between two nodes. -/
def knowsLines : Lines :=
  ["N::A \x7b\x7d", " E::Knows \x7b From: A, Properties: \x7b since: Date, From: B", "\x7d // closed", "\x7d", "To: B,", "",
    "Properties: \x7b", "since: I32", "\x7d", " \x7d", "N::B \x7b\x7d"].map String.toList

/-- The key that is written twice has one entry, and the label inside the properties is a property. -/
theorem readAt_edge_knows :
    ∃ e, readAt readEdge knowsLines 1 = .ok (e, 10) ∧ e.name = "Knows" ∧ e.source = "A" ∧ e.target = "B" ∧
      e.properties.keys = ["since", "From"] ∧ e.properties.get? "since" = some "I32" := by
  let lines := body 1 (trim (knowsLines.getD 1 [])) (knowsLines.drop 2)
  have split : lines = lines.take 10 ++ ⟨closing, 10⟩ :: lines.drop 11 := by decide +kernel
  have hx : Extent lines knowsLines.length ((lines.take 10).map (·.line)) 10 :=
    .closed split (by decide +kernel) rfl (by decide +kernel)
  obtain ⟨e, he, hn, hsaid⟩ := (readAt_edge rfl rfl).2.1 _ _ hx
  refine ⟨e, he, hn.trans (by decide +kernel), hsaid.source.trans (by decide +kernel), hsaid.target.trans (by decide +kernel),
    hsaid.keys.trans (by decide +kernel), (hsaid.value "since").trans (by decide +kernel)⟩

end Edge

end Block

end HelixGateway
