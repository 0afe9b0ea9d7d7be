import HelixGateway.Proofs.Schema.Significant
import HelixGateway.Proofs.Schema.Written

/-!
# What the lines of a written block say

`SaysProperty` and `SaysEnd` are what a trimmed body line has to be to add one property to a block, or to name one end of
an edge. The written lines are such lines, on lines of their own and, where no mark occurs in them, as the pieces of a line
with the whole block; runs of them are read by `takeLines_vertex` and `takeLines_edge`.

Main statements: `saysProperty_propertyLine`, `inlineLines_items`, `takeLines_vertex`, `takeLines_edge`.
-/

namespace HelixGateway

/-! ## Maps -/

namespace OrdMap

variable {α : Type}

/-- Writes entries one after the other. -/
def insertList (m : OrdMap α) (es : Entries α) : OrdMap α := es.foldl (fun m e => m.insert e.1 e.2) m

theorem insertList_cons (m : OrdMap α) (k : String) (v : α) (es : Entries α) :
    m.insertList ((k, v) :: es) = (m.insert k v).insertList es := rfl

/-- Written into a map, entries come to stand where writing them into its entries puts them. -/
theorem entries_insertList (m : OrdMap α) (es : Entries α) : (m.insertList es).entries = m.entries.insertAll es := by
  induction es generalizing m with
  | nil => rfl
  | cons e es ih =>
    obtain ⟨k, v⟩ := e
    rw [insertList_cons, ih]
    rfl

/-- Writing the entries of a map one after the other builds the map. -/
theorem insertList_entries (m : OrdMap α) : empty.insertList m.entries = m :=
  ext ((entries_insertList _ _).trans (Entries.collapse_of_nodup m.nodup))

end OrdMap

namespace Schema

open Block
open Text

/-! ## Values -/

/-- A comma behind a value is dropped, and nothing of the value. -/
theorem dropEndWhile_value {s : String} (hs : ValueText s) {c : List Char} (hc : c = [] ∨ c = [',']) :
    dropEndWhile (· == ',') (s.toList ++ c) = s.toList := by
  have h : dropEndWhile (· == ',') s.toList = s.toList := by
    refine dropEndWhile_eq_self_iff.2 fun x hx => ?_
    rw [beq_eq_false_iff_ne]
    rintro rfl
    exact hs.noComma hx
  rcases hc with rfl | rfl
  · rw [List.append_nil, h]
  · rw [dropEndWhile_append_singleton (by rfl), h]

/-- No blank stands around a value with a comma behind it. -/
theorem trim_value {s : String} (hs : ValueText s) {c : List Char} (hc : c = [] ∨ c = [',']) :
    trim (s.toList ++ c) = s.toList ++ c := by
  rcases hc with rfl | rfl
  · rw [List.append_nil, hs.trimmed]
  · rw [trim_eq_self_iff]
    refine ⟨fun x hx => ?_, fun x hx => ?_⟩
    · cases hl : s.toList with
      | nil =>
        rw [hl, List.nil_append, List.head?_cons, Option.mem_def, Option.some.injEq] at hx
        rw [← hx]
        rfl
      | cons d r =>
        rw [hl] at hx
        exact (trim_eq_self_iff.1 hs.trimmed).1 x (hl ▸ hx)
    · rw [List.getLast?_concat, Option.mem_def, Option.some.injEq] at hx
      rw [← hx]
      rfl

/-- A value behind a blank, with a comma behind it or not, is read without both, whether blanks are trimmed before commas
are dropped or afterwards. -/
theorem trim_dropEndWhile_value {s : String} (hs : ValueText s) {c : List Char} (hc : c = [] ∨ c = [',']) :
    trim (dropEndWhile (· == ',') (trimEnd (' ' :: (s.toList ++ c)))) = s.toList ∧
      trim (dropEndWhile (· == ',') (trim (trimEnd (' ' :: (s.toList ++ c))))) = s.toList := by
  have hv := trim_value hs hc
  have hd := dropEndWhile_value hs hc
  generalize s.toList ++ c = v at hv hd ⊢
  cases v with
  | nil =>
    rw [← hd]
    exact ⟨rfl, rfl⟩
  | cons d r =>
    have ht : trimEnd (' ' :: d :: r) = ' ' :: d :: r := by
      refine dropEndWhile_eq_self_iff.2 fun x hx => ?_
      rw [List.getLast?_cons_cons] at hx
      exact (trim_eq_self_iff.1 hv).2 x hx
    have hb : dropEndWhile (· == ',') (' ' :: d :: r) = ' ' :: s.toList := by
      rw [← hd]
      exact dropEndWhile_append_cons (by rfl) [] (d :: r)
    rw [ht, hb, trim_cons_of_blank rfl, hs.trimmed, trim_cons_of_blank rfl, hv, hd]
    exact ⟨rfl, hs.trimmed⟩

/-! ## Lines that say something -/

/-- A trimmed line that adds a property to a block. -/
structure SaysProperty (l : List Char) (p : String × String) : Prop where
  counts : counts l = true
  open' : l ≠ closing
  reads : parseProperty? l = some p

/-- A trimmed line that names an end of an edge. -/
structure SaysEnd (label : String) (l : List Char) (name : String) : Prop where
  counts : counts l = true
  reads : ∃ s, l = label.toList ++ s ∧ endName s = name

/-- A property without the blanks around it still starts with its name and the colon. -/
theorem trim_propertyLine {p : String × String} (hp : WritableProperty p) (c : List Char) :
    trim (propertyText p ++ c) = p.1.toList ++ ':' :: trimEnd (' ' :: (p.2.toList ++ c)) := by
  have hh : (propertyText p ++ c).dropWhile isBlank = propertyText p ++ c := by
    refine dropWhile_eq_self_iff.2 fun x hx => ?_
    cases hl : p.1.toList with
    | nil =>
      rw [propertyText, hl] at hx
      simp only [List.nil_append, List.cons_append, List.head?_cons, Option.mem_def, Option.some.injEq] at hx
      rw [← hx]
      rfl
    | cons d r =>
      rw [propertyText, hl] at hx
      exact (trim_eq_self_iff.1 hp.name.trimmed).1 x (by rw [hl]; exact hx)
  rw [trim, hh, propertyText, List.append_assoc]
  exact dropEndWhile_append_cons (by rfl) _ _

/-- What stands behind a colon makes no comment of a line. -/
theorem isComment_append_colon {n : List Char} (h : isComment n = false) (r : List Char) :
    isComment (n ++ ':' :: r) = false := by
  match n with
  | [] => rfl
  | [a] => simp [isComment, List.isPrefixOf]
  | a :: b :: n => simpa [isComment, List.isPrefixOf] using h

/-- The line of a property says that property. -/
theorem saysProperty_trim {p : String × String} (hp : WritableProperty p) {c : List Char} (hc : c = [] ∨ c = [',']) :
    SaysProperty (trim (propertyText p ++ c)) p := by
  have ht := trim_propertyLine hp c
  refine ⟨?_, ?_, ?_⟩
  · rw [ht, Block.counts, isComment_append_colon hp.noComment]
    simp
  · rw [ht]
    intro h
    have hm : ':' ∈ closing := by
      rw [← h]
      simp
    exact absurd hm (by decide)
  · have hb : between? ['['] [']'] p.2.toList = none := noBrackets_iff.1 hp.noBrackets
    rw [parseProperty?, trim_trim, ht, dropEndWhile_append_cons (by rfl), cut_append_of_not_mem hp.noColon,
      Option.map_some]
    simp only [(trim_dropEndWhile_value hp.type hc).1, displayType, hb, hp.name.trimmed, String.ofList_toList]

/-- A property on a line of its own says just that property. -/
theorem saysProperty_propertyLine {p : String × String} (hp : WritableProperty p) (comma : String → Bool) :
    SaysProperty (trim (propertyLine comma p)) p := by
  refine saysProperty_trim hp ?_
  cases comma p.1 with
  | true => exact Or.inr rfl
  | false => exact Or.inl rfl

theorem saysProperty_propertyText {p : String × String} (hp : WritableProperty p) :
    SaysProperty (trim (propertyText p)) p := by
  rw [← List.append_nil (propertyText p)]
  exact saysProperty_trim hp (Or.inl rfl)

/-- An end of an edge without the blanks around it still starts with its label. -/
theorem trim_endText {label : String} (hl : label = "From:" ∨ label = "To:") (name : String) (c : List Char) :
    trim (endText label name ++ c) = label.toList ++ trimEnd (' ' :: (name.toList ++ c)) := by
  rcases hl with rfl | rfl
  · exact dropEndWhile_append_cons (c := ':') (by rfl) "From".toList _
  · exact dropEndWhile_append_cons (c := ':') (by rfl) "To".toList _

/-- The line of an end says that end. -/
theorem saysEnd_trim {label : String} (hl : label = "From:" ∨ label = "To:") {name : String} (hs : ValueText name)
    {c : List Char} (hc : c = [] ∨ c = [',']) : SaysEnd label (trim (endText label name ++ c)) name := by
  rw [trim_endText hl]
  refine ⟨?_, _, rfl, ?_⟩
  · rcases hl with rfl | rfl <;> rfl
  · rw [endName, (trim_dropEndWhile_value hs hc).2, String.ofList_toList]

/-- A written end names that end. -/
theorem saysEnd_endText {label : String} (hl : label = "From:" ∨ label = "To:") {name : String} (hs : ValueText name) :
    SaysEnd label (trim (endText label name)) name := by
  rw [← List.append_nil (endText label name)]
  exact saysEnd_trim hl hs (Or.inl rfl)

/-! ## The pieces of a line with a whole block -/

/-- Characters without marks go to the piece that is being cut. -/
theorem cutInline_append {a : List Char} (ha : ∀ c ∈ a, isMark c = false) (current s : List Char) :
    cutInline current (a ++ s) = cutInline (a.reverse ++ current) s := by
  induction a generalizing current with
  | nil => rfl
  | cons c a ih =>
    have hc := ha c (by simp)
    simp only [isMark, Bool.or_eq_false_iff, decide_eq_false_iff_not] at hc
    rw [List.cons_append, cutInline, if_neg hc.1.1, if_neg hc.1.2, if_neg hc.2, ih fun d hd => ha d (by simp [hd])]
    simp

theorem cutInline_blank {a : List Char} (ha : ∀ c ∈ a, isMark c = false) (s : List Char) :
    cutInline [] (' ' :: (a ++ s)) = cutInline (a.reverse ++ [' ']) s :=
  cutInline_append ha [' '] s

theorem trim_reverse_blank (a : List Char) : trim (a.reverse ++ [' ']).reverse = trim a := by
  rw [List.reverse_append, List.reverse_reverse]
  exact trim_cons_of_blank rfl a

/-- An item of a line with a whole block: no mark is part of it, and it says something. -/
structure IsItem (a : List Char) : Prop where
  noMark : ∀ c ∈ a, isMark c = false
  counts : counts (trim a) = true

theorem inlineLines_nil : inlineLines [] = [] := rfl

/-- A comma ends an item. -/
theorem inlineLines_comma {a : List Char} (ha : IsItem a) (s : List Char) :
    inlineLines (' ' :: (a ++ ',' :: s)) = trim a :: inlineLines s := by
  have h : cutInline [] (' ' :: (a ++ ',' :: s)) = trim a :: cutInline [] s := by
    rw [cutInline_blank ha.noMark]
    show trim (a.reverse ++ [' ']).reverse :: cutInline [] s = _
    rw [trim_reverse_blank]
  rw [inlineLines, h]
  exact List.filter_cons_of_pos ha.counts

/-- A closing brace ends an item, and it is a line of its own. -/
theorem inlineLines_close {a : List Char} (ha : IsItem a) (s : List Char) :
    inlineLines (' ' :: (a ++ ' ' :: '\x7d' :: s)) = trim a :: closing :: inlineLines s := by
  have hb : ∀ c ∈ a ++ [' '], isMark c = false := by
    intro c hc
    rcases List.mem_append.1 hc with hc | hc
    · exact ha.noMark c hc
    · rw [List.mem_singleton.1 hc]
      rfl
  have h : cutInline [] (' ' :: (a ++ ' ' :: '\x7d' :: s)) = trim a :: closing :: cutInline [] s := by
    rw [show a ++ ' ' :: '\x7d' :: s = (a ++ [' ']) ++ '\x7d' :: s by simp, cutInline_blank hb]
    show trim ((a ++ [' ']).reverse ++ [' ']).reverse :: closing :: cutInline [] s = _
    rw [trim_reverse_blank, trim_append_blank rfl]
  rw [inlineLines, h]
  exact List.filter_cons_of_pos ha.counts

/-- An opening brace ends a piece and stays part of it. -/
theorem cutInline_open {a : List Char} (ha : ∀ c ∈ a, isMark c = false) (s : List Char) :
    cutInline [] (' ' :: ((a ++ ['\x7b']) ++ s)) = trim (trim a ++ [' ', '\x7b']) :: cutInline [] s := by
  rw [List.append_assoc, cutInline_blank ha]
  show trim (trim (a.reverse ++ [' ']).reverse ++ [' ', '\x7b']) :: cutInline [] s = _
  rw [trim_reverse_blank]

/-- What opens the properties is a piece of its own, and its brace ends it. -/
theorem inlineLines_open (s : List Char) : inlineLines (' ' :: (propertiesLine ++ s)) = propertiesLine :: inlineLines s := by
  have ht : trim (trim "Properties: ".toList ++ [' ', '\x7b']) = propertiesLine := by decide
  have hm : ∀ c ∈ "Properties: ".toList, isMark c = false := by decide
  have h : cutInline [] (' ' :: (propertiesLine ++ s)) =
      trim (trim "Properties: ".toList ++ [' ', '\x7b']) :: cutInline [] s := cutInline_open hm s
  rw [inlineLines, h, ht]
  exact List.filter_cons_of_pos (by decide)

/-- The pieces of items between braces are the items and the closing brace. -/
theorem inlineLines_items {items : Lines} (hi : ∀ a ∈ items, IsItem a) (s : List Char) :
    inlineLines (braced items ++ s) = items.map trim ++ closing :: inlineLines s := by
  induction items with
  | nil => rfl
  | cons a items ih =>
    cases items with
    | nil =>
      have hb : braced [a] ++ s = ' ' :: (a ++ ' ' :: '\x7d' :: s) := by simp [braced, join]
      rw [hb, inlineLines_close (hi a (by simp))]
      rfl
    | cons b items =>
      have hb : braced (a :: b :: items) ++ s = ' ' :: (a ++ ',' :: (braced (b :: items) ++ s)) := by
        simp [braced, join]
      rw [hb, inlineLines_comma (hi a (by simp)), ih fun x hx => hi x (List.mem_cons_of_mem _ hx)]
      rfl

/-- The pieces of an edge on one line. -/
theorem inlineLines_edge {a b : List Char} {items : Lines} (ha : IsItem a) (hb : IsItem b) (hi : ∀ a ∈ items, IsItem a) :
    inlineLines (braced [a, b, propertiesLine ++ braced items]) =
      trim a :: trim b :: propertiesLine :: (items.map trim ++ [closing, closing]) := by
  have hs : braced [a, b, propertiesLine ++ braced items] =
      ' ' :: (a ++ ',' :: ' ' :: (b ++ ',' :: ' ' :: (propertiesLine ++ (braced items ++ [' ', '\x7d'])))) := by
    simp [braced, join]
  rw [hs, inlineLines_comma ha, inlineLines_comma hb, inlineLines_open, inlineLines_items hi]
  rfl

/-! ## Runs of lines -/

/-- A line that does not end a body leaves its state to the lines behind it. -/
theorem takeLines_cons {σ : Type} {step : σ → List Char → Outcome σ} {state state' : σ} {l : List Char}
    (h : step state l = ⟨state', false⟩) (ls : Lines) : takeLines step state (l :: ls) = takeLines step state' ls := by
  rw [takeLines, h]
  simp

/-- A line that says a property writes it to a vertex. -/
theorem vertexStep_of_saysProperty {l : List Char} {p : String × String} (h : SaysProperty l p) (m : OrdMap String) :
    vertexStep m l = ⟨m.insert p.1 p.2, false⟩ := by
  rw [vertexStep, if_neg h.open', addProperty, h.reads]

/-- Lines that say properties add them one after the other, up to the line that closes the block. -/
theorem takeLines_vertex {line : String × String → List Char} {ps : Entries String} (h : ∀ p ∈ ps, SaysProperty (line p) p)
    (m : OrdMap String) (rest : Lines) :
    takeLines vertexStep m (ps.map line ++ closing :: rest) = (m.insertList ps, some rest) := by
  induction ps generalizing m with
  | nil => rfl
  | cons p ps ih =>
    rw [List.map_cons, List.cons_append, takeLines_cons (vertexStep_of_saysProperty (h p (by simp)) m)]
    exact ih (fun q hq => h q (List.mem_cons_of_mem _ hq)) _

/-- Inside the properties of an edge, such a line writes it to the edge. -/
theorem edgeStep_of_saysProperty {l : List Char} {p : String × String} (h : SaysProperty l p) {state : EdgeState}
    (hs : state.inProperties = true) :
    edgeStep state l = ⟨{ state with properties := state.properties.insert p.1 p.2 }, false⟩ := by
  rw [edgeStep, if_pos hs, if_neg h.open', addProperty, h.reads]

/-- The lines of the properties of an edge write all of them, and a closing brace ends them. -/
theorem takeLines_edgeProperties {line : String × String → List Char} {ps : Entries String}
    (h : ∀ p ∈ ps, SaysProperty (line p) p) (source target : String) (m : OrdMap String) (rest : Lines) :
    takeLines edgeStep ⟨source, target, true, m⟩ (ps.map line ++ closing :: rest) =
      takeLines edgeStep ⟨source, target, false, m.insertList ps⟩ rest := by
  induction ps generalizing m with
  | nil => rfl
  | cons p ps ih =>
    rw [List.map_cons, List.cons_append, takeLines_cons (edgeStep_of_saysProperty (h p (by simp)) rfl)]
    exact ih (fun q hq => h q (List.mem_cons_of_mem _ hq)) _

/-- The lines of an edge, up to the one that closes it: both ends, and the properties between their braces. -/
theorem takeLines_edge {a b : List Char} {source target : String} (ha : SaysEnd "From:" a source)
    (hb : SaysEnd "To:" b target) {line : String × String → List Char} {ps : Entries String}
    (h : ∀ p ∈ ps, SaysProperty (line p) p) (rest : Lines) :
    takeLines edgeStep .start (a :: b :: propertiesLine :: (ps.map line ++ closing :: closing :: rest)) =
      (⟨source, target, false, OrdMap.empty.insertList ps⟩, some rest) := by
  obtain ⟨s, rfl, hs⟩ := ha.reads
  obtain ⟨t, rfl, ht⟩ := hb.reads
  have h1 : edgeStep .start ("From:".toList ++ s) = ⟨⟨source, "", false, .empty⟩, false⟩ := by
    rw [← hs]
    rfl
  have h2 : edgeStep ⟨source, "", false, .empty⟩ ("To:".toList ++ t) = ⟨⟨source, target, false, .empty⟩, false⟩ := by
    rw [← ht]
    rfl
  have h3 : edgeStep ⟨source, target, false, .empty⟩ propertiesLine = ⟨⟨source, target, true, .empty⟩, false⟩ := by
    rfl
  rw [takeLines_cons h1, takeLines_cons h2, takeLines_cons h3]
  exact takeLines_edgeProperties h source target .empty (closing :: rest)

end Schema

end HelixGateway
