import HelixGateway.Proofs.Schema.BodyLines

/-!
# Reading written schemas

A schema that is written down is read back: from any layout of its declarations, with any blank lines and comments between
the lines and any indentation, come the declarations themselves, each kind in its order. A declaration on one line has to
fit on it: a comma or a brace inside an item would end the item (`parse_oneLine_comma`).

Main statement: `parse_written`.
-/

namespace HelixGateway.Schema

open Block
open Text

/-! ## Bodies -/

section Bodies

variable {σ : Type}

/-- Lines of a text that are read as a body up to its end leave what follows them. -/
theorem takeTextLines_of_takeLines {step : σ → List Char → Outcome σ} {state state' : σ} {body : Lines}
    (hb : ∀ l ∈ body, counts (trim l) = true) (h : takeLines step state (body.map trim) = (state', some []))
    (rest : Lines) : takeTextLines step state (body ++ rest) = (state', rest) := by
  induction body generalizing state with
  | nil => cases h
  | cons l body ih =>
    rw [List.cons_append, takeTextLines_cons_of_counts step state (hb l (by simp))]
    rw [List.map_cons, takeLines] at h
    cases hc : (step state (trim l)).closed with
    | true =>
      simp only [hc, if_true, Prod.mk.injEq, Option.some.injEq, List.map_eq_nil_iff] at h
      obtain ⟨rfl, rfl⟩ := h
      rfl
    | false =>
      simp only [hc, Bool.false_eq_true, if_false] at h ⊢
      exact ih (fun m hm => hb m (List.mem_cons_of_mem _ hm)) h

/-- A block whose first line ends with the brace is read from the lines behind it. -/
theorem readBody_of_block {step : σ → List Char → Outcome σ} {state state' : σ} {header : List Char} {body : Lines}
    (hh : behindBrace header = []) (hb : ∀ l ∈ body, counts (trim l) = true)
    (h : takeLines step state (body.map trim) = (state', some [])) (rest : Lines) :
    readBody step state header (body ++ rest) = (state', rest) := by
  rw [readBody, hh, inlineLines_nil, takeLines]
  exact takeTextLines_of_takeLines hb h rest

/-- A block that is closed on its first line leaves all lines behind it. -/
theorem readBody_of_oneLine {step : σ → List Char → Outcome σ} {state state' : σ} {header : List Char} {left : Lines}
    (h : takeLines step state (inlineLines (behindBrace header)) = (state', some left)) (rest : Lines) :
    readBody step state header rest = (state', rest) := by
  rw [readBody, h]

end Bodies

/-! ## First lines -/

namespace Declaration

/-- The schema of one declaration. -/
def schema : Declaration → Schema
  | .vertex v => ofVertex v
  | .edge e => ofEdge e

/-- No blank stands around a first line. -/
theorem trim_header_append (d : Declaration) {t : List Char} (ht : t = [] ∨ ∃ s, t = s ++ ['\x7d']) :
    trim (d.header ++ t) = d.header ++ t := by
  rw [trim_eq_self_iff]
  refine ⟨?_, ?_⟩
  · obtain ⟨c, l, hl, hc⟩ : ∃ c l, d.lead = c :: l ∧ isBlank c = false := by
      cases d with
      | vertex v => cases hk : v.kind <;> exact ⟨_, _, by rw [lead, hk]; rfl, rfl⟩
      | edge e => exact ⟨_, _, rfl, rfl⟩
    intro x hx
    rw [header, hl, List.cons_append, List.cons_append, List.head?_cons, Option.mem_def, Option.some.injEq] at hx
    rw [← hx, hc]
  · intro x hx
    rcases ht with rfl | ⟨s, rfl⟩
    · rw [List.append_nil, header, ← List.append_assoc, List.append_cons, List.getLast?_concat] at hx
      simp only [Option.mem_def, Option.some.injEq] at hx
      rw [← hx]
      rfl
    · rw [← List.append_assoc, List.getLast?_concat] at hx
      simp only [Option.mem_def, Option.some.injEq] at hx
      rw [← hx]
      rfl

/-- What stands behind the first brace of a declaration is its body. -/
theorem behindBrace_header {d : Declaration} (hd : d.Writable) (t : List Char) : behindBrace (d.header ++ t) = t := by
  have hm : '\x7b' ∉ d.lead ++ (d.name.toList ++ [' ']) := by
    have hl : '\x7b' ∉ d.lead := by
      cases d with
      | vertex v => cases hk : v.kind <;> simp [lead, hk, vertexPrefix]
      | edge e => simp [lead, edgePrefix]
    simp [hl, hd.noBrace]
  have hs : d.header ++ t = (d.lead ++ (d.name.toList ++ [' '])) ++ '\x7b' :: t := by simp [header]
  rw [behindBrace, hs, cut_append_of_not_mem hm]

/-- The name of a declaration is read from its first line. -/
theorem blockName_header {d : Declaration} (hd : d.Writable) (t : List Char) :
    blockName (d.name.toList ++ ([' ', '\x7b'] ++ t)) = d.name := by
  have hm : '\x7b' ∉ d.name.toList ++ [' '] := by simp [hd.noBrace]
  have hs : d.name.toList ++ ([' ', '\x7b'] ++ t) = (d.name.toList ++ [' ']) ++ '\x7b' :: t := by simp
  rw [blockName, before, hs, cut_append_of_not_mem hm]
  simp only
  rw [trim_append_blank rfl, hd.name.trimmed, String.ofList_toList]

theorem header_append (d : Declaration) (t : List Char) :
    d.header ++ t = d.lead ++ (d.name.toList ++ ([' ', '\x7b'] ++ t)) := by simp [header]

/-- The start of a node or a vector tells its kind. -/
theorem vertexHeader?_vertexPrefix (kind : VertexKind) (s : List Char) :
    vertexHeader? (vertexPrefix kind ++ s) = some (kind, s) := by
  cases kind with
  | node => rw [vertexHeader?, afterPrefix?_append]
  | vector =>
    have h : afterPrefix? (vertexPrefix .node) (vertexPrefix .vector ++ s) = none := by rfl
    rw [vertexHeader?, h]
    simp [afterPrefix?_append]

/-- The start of an edge is no header of a node or a vector. -/
theorem vertexHeader?_edgePrefix (s : List Char) : vertexHeader? (edgePrefix ++ s) = none := by
  rfl

/-- A first line is read as its declaration if the lines behind it are read as the body. -/
theorem readFirst_vertex {v : Vertex} (hd : (vertex v).Writable) {t : List Char} (ht : t = [] ∨ ∃ s, t = s ++ ['\x7d'])
    {rest left : Lines} (h : readBody vertexStep .empty ((vertex v).header ++ t) rest = (v.properties, left)) :
    readFirst ((vertex v).header ++ t) rest = (ofVertex v, left) := by
  have hh : vertexHeader? ((vertex v).header ++ t) = some (v.kind, (vertex v).name.toList ++ ([' ', '\x7b'] ++ t)) := by
    rw [header_append]
    exact vertexHeader?_vertexPrefix _ _
  have ht := trim_header_append (vertex v) ht
  rw [readFirst_of_vertexHeader (by rw [ht, hh]) (by rw [ht, h]), blockName_header hd]
  rfl

/-- An edge is read if its body is read as its ends and its properties. -/
theorem readFirst_edge {e : Edge} (hd : (edge e).Writable) {t : List Char} (ht : t = [] ∨ ∃ s, t = s ++ ['\x7d'])
    {rest left : Lines}
    (h : readBody edgeStep .start ((edge e).header ++ t) rest = (⟨e.source, e.target, false, e.properties⟩, left)) :
    readFirst ((edge e).header ++ t) rest = (ofEdge e, left) := by
  have hv : vertexHeader? ((edge e).header ++ t) = none := by
    rw [header_append]
    exact vertexHeader?_edgePrefix _
  have hh : afterPrefix? edgePrefix ((edge e).header ++ t) = some ((edge e).name.toList ++ ([' ', '\x7b'] ++ t)) := by
    rw [header_append]
    exact afterPrefix?_append _ _
  have ht := trim_header_append (edge e) ht
  rw [readFirst_of_edgePrefix (by rw [ht, hv]) (by rw [ht, hh]) (by rw [ht, h]), blockName_header hd]
  rfl

/-! ## Declarations -/

theorem counts_closing : counts (trim closing) = true := by decide

/-- Every line of a block counts. -/
theorem counts_block {d : Declaration} (hd : d.Writable) (comma : String → Bool) :
    ∀ l ∈ d.body comma ++ [closing], counts (trim l) = true := by
  have hp : ∀ p ∈ d.properties.entries, counts (trim (propertyLine comma p)) = true :=
    fun p hm => (saysProperty_propertyLine (hd.properties p hm) comma).counts
  intro l hl
  cases d with
  | vertex v =>
    rcases List.mem_append.1 hl with hl | hl
    · obtain ⟨p, hm, rfl⟩ := List.mem_map.1 hl
      exact hp p hm
    · rw [List.mem_singleton.1 hl]
      exact counts_closing
  | edge e =>
    simp only [body, List.cons_append, List.append_assoc, List.mem_cons, List.mem_append, List.mem_map,
      List.not_mem_nil, or_false] at hl
    rcases hl with rfl | rfl | rfl | ⟨p, hm, rfl⟩ | rfl | hl
    · exact (saysEnd_trim (Or.inl rfl) (hd.ends _ (by simp [ends])) (Or.inr rfl)).counts
    · exact (saysEnd_trim (Or.inr rfl) (hd.ends _ (by simp [ends])) (Or.inr rfl)).counts
    · decide
    · exact hp p hm
    · exact counts_closing
    · rw [hl.resolve_left id]
      exact counts_closing

/-- The lines of a block are read as the block. -/
theorem readFirst_block {d : Declaration} (hd : d.Writable) (comma : String → Bool) (rest : Lines) :
    readFirst d.header ((d.body comma ++ [closing]) ++ rest) = (d.schema, rest) := by
  have hp : ∀ p ∈ d.properties.entries, SaysProperty (trim (propertyLine comma p)) p :=
    fun p hp => saysProperty_propertyLine (hd.properties p hp) comma
  have hb : behindBrace d.header = [] := by
    have := behindBrace_header hd []
    rwa [List.append_nil] at this
  have hc := counts_block hd comma
  cases d with
  | vertex v =>
    have ht := takeLines_vertex hp .empty []
    rw [OrdMap.insertList_entries] at ht
    have hr : readFirst ((vertex v).header ++ []) ((vertex v).body comma ++ [closing] ++ rest) = (ofVertex v, rest) := by
      refine readFirst_vertex hd (Or.inl rfl) ?_
      rw [List.append_nil]
      refine readBody_of_block hb hc ?_ rest
      rw [body, List.map_append, List.map_map]
      exact ht
    rwa [List.append_nil] at hr
  | edge e =>
    have hs : SaysEnd "From:" (trim (endText "From:" e.source ++ [','])) e.source :=
      saysEnd_trim (Or.inl rfl) (hd.ends _ (by simp [ends])) (Or.inr rfl)
    have hg : SaysEnd "To:" (trim (endText "To:" e.target ++ [','])) e.target :=
      saysEnd_trim (Or.inr rfl) (hd.ends _ (by simp [ends])) (Or.inr rfl)
    have ht := takeLines_edge hs hg hp []
    rw [OrdMap.insertList_entries] at ht
    have hr : readFirst ((edge e).header ++ []) ((edge e).body comma ++ [closing] ++ rest) = (ofEdge e, rest) := by
      refine readFirst_edge hd (Or.inl rfl) ?_
      rw [List.append_nil]
      refine readBody_of_block hb hc ?_ rest
      rw [body, List.map_append, List.map_cons, List.map_cons, List.map_cons, List.map_append, List.map_map,
        List.cons_append, List.cons_append, List.cons_append, List.append_assoc]
      exact ht
    rwa [List.append_nil] at hr

/-- A property without marks is an item of one line. -/
theorem isItem_propertyText {p : String × String} (hp : WritableProperty p) (hn : ∀ c ∈ p.1.toList, isMark c = false)
    (ht : ∀ c ∈ p.2.toList, isMark c = false) : IsItem (propertyText p) := by
  refine ⟨?_, (saysProperty_propertyText hp).counts⟩
  intro c hc
  simp only [propertyText, List.mem_append, List.mem_cons] at hc
  rcases hc with hc | rfl | rfl | hc
  · exact hn c hc
  · rfl
  · rfl
  · exact ht c hc

theorem isItem_endText {label : String} (hl : label = "From:" ∨ label = "To:") {name : String} (hs : ValueText name)
    (hn : ∀ c ∈ name.toList, isMark c = false) : IsItem (endText label name) := by
  refine ⟨?_, (saysEnd_endText hl hs).counts⟩
  intro c hc
  simp only [endText, List.mem_append, List.mem_cons] at hc
  rcases hc with hc | rfl | hc
  · rcases hl with rfl | rfl
    · revert c
      decide
    · revert c
      decide
  · rfl
  · exact hn c hc

/-- A line with a whole block is read as the block. -/
theorem readFirst_oneLine {d : Declaration} (hd : d.Writable) (hf : d.FitsOneLine) (rest : Lines) :
    readFirst (d.header ++ braced d.items) rest = (d.schema, rest) := by
  have hp : ∀ p ∈ d.properties.entries, SaysProperty (trim (propertyText p)) p :=
    fun p hp => saysProperty_propertyText (hd.properties p hp)
  have hi : ∀ a ∈ d.properties.entries.map propertyText, IsItem a := by
    intro a ha
    obtain ⟨p, hm, rfl⟩ := List.mem_map.1 ha
    exact isItem_propertyText (hd.properties p hm) (hf.properties p hm).1 (hf.properties p hm).2
  have he : ∃ s, braced d.items = s ++ ['\x7d'] := by
    cases d.items with
    | nil => exact ⟨[], rfl⟩
    | cons a items => exact ⟨' ' :: (join [',', ' '] (a :: items) ++ [' ']), by simp [braced]⟩
  cases d with
  | vertex v =>
    have hl := inlineLines_items hi []
    rw [List.append_nil, List.map_map, inlineLines_nil] at hl
    have ht := takeLines_vertex hp .empty []
    rw [OrdMap.insertList_entries] at ht
    have hr : takeLines vertexStep .empty (inlineLines (behindBrace ((vertex v).header ++ braced (vertex v).items))) =
        (v.properties, some []) := by
      rw [behindBrace_header hd]
      exact (congrArg (takeLines vertexStep .empty) hl).trans ht
    exact readFirst_vertex hd (Or.inr he) (readBody_of_oneLine hr rest)
  | edge e =>
    have hs : ValueText e.source := hd.ends _ (by simp [ends])
    have hg : ValueText e.target := hd.ends _ (by simp [ends])
    have hl := inlineLines_edge (isItem_endText (Or.inl rfl) hs (hf.ends _ (by simp [ends])))
      (isItem_endText (Or.inr rfl) hg (hf.ends _ (by simp [ends]))) hi
    rw [List.map_map] at hl
    have ht := takeLines_edge (saysEnd_endText (Or.inl rfl) hs) (saysEnd_endText (Or.inr rfl) hg) hp []
    rw [OrdMap.insertList_entries] at ht
    have hr : takeLines edgeStep .start (inlineLines (behindBrace ((edge e).header ++ braced (edge e).items))) =
        (⟨e.source, e.target, false, e.properties⟩, some []) := by
      rw [behindBrace_header hd]
      exact (congrArg (takeLines edgeStep .start) hl).trans ht
    exact readFirst_edge hd (Or.inr he) (readBody_of_oneLine hr rest)

/-- The lines of a declaration are read as the declaration, and the lines behind them on their own. -/
theorem parseLines_render {d : Declaration} (hd : d.Writable) {layout : Layout} (hf : d.Fits layout) (rest : Lines) :
    parseLines (d.render layout ++ rest) = d.schema ++ parseLines rest := by
  cases layout with
  | block comma =>
    rw [render, List.cons_append, parseLines, readFirst_block hd]
  | oneLine =>
    rw [render, List.singleton_append, parseLines, readFirst_oneLine hd hf]

/-- The first declaration comes first in the schema. -/
theorem ofDeclarations_cons (d : Declaration) (ds : List Declaration) :
    ofDeclarations (d :: ds) = d.schema ++ ofDeclarations ds := by
  cases d with
  | vertex v => cases hk : v.kind <;> simp [ofDeclarations, node?, edge?, vector?, schema, ofVertex, hk] <;> rfl
  | edge e => rfl

/-- The lines of some declarations are read as the declarations. -/
theorem parseLines_flatMap_render {ds : List (Declaration × Layout)} (hd : ∀ d ∈ ds, d.1.Writable)
    (hf : ∀ d ∈ ds, d.1.Fits d.2) :
    parseLines (ds.flatMap fun d => d.1.render d.2) = ofDeclarations (ds.map Prod.fst) := by
  induction ds with
  | nil =>
    rw [List.flatMap_nil, parseLines]
    rfl
  | cons d ds ih =>
    rw [List.flatMap_cons, parseLines_render (hd d (by simp)) (hf d (by simp)), List.map_cons, ofDeclarations_cons,
      ih (fun e he => hd e (List.mem_cons_of_mem _ he)) fun e he => hf e (List.mem_cons_of_mem _ he)]

end Declaration

/-! ## Spacing -/

/-- Spacing keeps the lines that count. -/
theorem significant_spaced {ls ms : Lines} (h : Spaced ls ms) : significant ms = significant ls := by
  induction h with
  | nil => rfl
  | keep before l after hb ha _ ih =>
    have ht := trim_indented hb ha l
    cases hc : counts (trim l) with
    | false => rw [significant_cons_of_skip hc, significant_cons_of_skip (by rw [ht, hc]), ih]
    | true => rw [significant_cons_of_counts hc, significant_cons_of_counts (by rw [ht, hc]), ht, ih]
  | skip m hm _ _ ih =>
    have hc : counts (trim m) = false := by
      rcases hm with hm | hm
      · rw [trim_of_blank hm]
        rfl
      · simp [counts, hm]
    rw [significant_cons_of_skip hc, ih]

/-- Blank lines and comments between lines are lines, too. -/
theorem unbroken_spaced {ls ms : Lines} (h : Spaced ls ms) (hl : ∀ l ∈ ls, Unbroken l) : ∀ m ∈ ms, Unbroken m := by
  induction h with
  | nil => exact hl
  | keep before l after hb ha _ ih =>
    intro m hm
    rcases List.mem_cons.1 hm with rfl | hm
    · exact unbroken_indented hb ha (hl l (by simp))
    · exact ih (fun k hk => hl k (List.mem_cons_of_mem _ hk)) m hm
  | skip m hm hu _ ih =>
    intro k hk
    rcases List.mem_cons.1 hk with rfl | hk
    · exact hu
    · exact ih hl k hk

/-! ## Written schemas -/

/-- Items on one line are on one line with the braces around them. -/
theorem unbroken_braced {items : Lines} (h : ∀ a ∈ items, Unbroken a) : Unbroken (braced items) := by
  have hj : Unbroken (join [',', ' '] items) := unbroken_join (by decide) h
  cases items with
  | nil => decide
  | cons a items =>
    rw [braced, unbroken_cons, unbroken_append]
    · exact ⟨rfl, hj, by decide⟩
    · simp

theorem unbroken_propertyText {p : String × String} (hp : WritableProperty p) : Unbroken (propertyText p) := by
  rw [propertyText, unbroken_append, unbroken_cons, unbroken_cons]
  exact ⟨hp.name.unbroken, rfl, rfl, hp.type.unbroken⟩

theorem unbroken_endText {label : String} (hl : label = "From:" ∨ label = "To:") {name : String} (hs : ValueText name) :
    Unbroken (endText label name) := by
  rw [endText, unbroken_append, unbroken_cons]
  refine ⟨?_, rfl, hs.unbroken⟩
  rcases hl with rfl | rfl <;> decide

namespace Declaration

theorem unbroken_header {d : Declaration} (hd : d.Writable) : Unbroken d.header := by
  rw [header, unbroken_append, unbroken_append]
  refine ⟨?_, hd.name.unbroken, by decide⟩
  cases d with
  | vertex v => cases hk : v.kind <;> rw [lead, hk] <;> decide
  | edge e =>
    rw [lead]
    decide

/-- The lines of a body are lines. -/
theorem unbroken_body {d : Declaration} (hd : d.Writable) (comma : String → Bool) : ∀ l ∈ d.body comma, Unbroken l := by
  have hp : ∀ p ∈ d.properties.entries, Unbroken (propertyLine comma p) := by
    intro p hm
    rw [propertyLine, unbroken_append]
    refine ⟨unbroken_propertyText (hd.properties p hm), ?_⟩
    split <;> decide
  intro l hm
  cases d with
  | vertex v =>
    obtain ⟨p, hv, rfl⟩ := List.mem_map.1 hm
    exact hp p hv
  | edge e =>
    simp only [body, List.mem_cons, List.mem_append, List.mem_map, List.not_mem_nil, or_false] at hm
    rcases hm with rfl | rfl | rfl | ⟨p, he, rfl⟩ | rfl
    · exact unbroken_append.2 ⟨unbroken_endText (Or.inl rfl) (hd.ends _ (by simp [ends])), by decide⟩
    · exact unbroken_append.2 ⟨unbroken_endText (Or.inr rfl) (hd.ends _ (by simp [ends])), by decide⟩
    · decide
    · exact hp p he
    · decide

theorem unbroken_items {d : Declaration} (hd : d.Writable) : ∀ a ∈ d.items, Unbroken a := by
  have hp : ∀ a ∈ d.properties.entries.map propertyText, Unbroken a := by
    intro a ha
    obtain ⟨p, hm, rfl⟩ := List.mem_map.1 ha
    exact unbroken_propertyText (hd.properties p hm)
  intro a ha
  cases d with
  | vertex v => exact hp a ha
  | edge e =>
    simp only [items, List.mem_cons, List.not_mem_nil, or_false] at ha
    rcases ha with rfl | rfl | rfl
    · exact unbroken_endText (Or.inl rfl) (hd.ends _ (by simp [ends]))
    · exact unbroken_endText (Or.inr rfl) (hd.ends _ (by simp [ends]))
    · exact unbroken_append.2 ⟨by decide, unbroken_braced hp⟩

/-- A declaration is written on unbroken lines. -/
theorem unbroken_render {d : Declaration} (hd : d.Writable) (layout : Layout) : ∀ l ∈ d.render layout, Unbroken l := by
  intro l hm
  cases layout with
  | block comma =>
    simp only [render, List.mem_cons, List.mem_append, List.not_mem_nil, or_false] at hm
    rcases hm with rfl | hm | rfl
    · exact unbroken_header hd
    · exact unbroken_body hd comma l hm
    · decide
  | oneLine =>
    rw [render, List.mem_singleton] at hm
    rw [hm]
    exact unbroken_append.2 ⟨unbroken_header hd, unbroken_braced (unbroken_items hd)⟩

end Declaration

/-- **Round trip.** Whatever the layout and the spacing, a written schema is read as the declarations it was written
from. -/
theorem parse_written (ds : List (Declaration × Layout)) (hw : ∀ d ∈ ds, d.1.Writable) (hf : ∀ d ∈ ds, d.1.Fits d.2)
    (ls : Lines) (hs : Spaced (ds.flatMap fun d => d.1.render d.2) ls) :
    parse (join ['\n'] ls) = ofDeclarations (ds.map Prod.fst) := by
  have hu : ∀ l ∈ ds.flatMap fun d => d.1.render d.2, Unbroken l := by
    intro l hl
    obtain ⟨d, hd, hl⟩ := List.mem_flatMap.1 hl
    exact Declaration.unbroken_render (hw d hd) d.2 l hl
  rw [parse_join (unbroken_spaced hs hu), ← parseLines_significant, significant_spaced hs, parseLines_significant]
  exact Declaration.parseLines_flatMap_render hw hf

/-- A node on one line and an edge in a block, with a comment between them. -/
theorem parse_written_two :
    parse (join ['\n'] ["N::User \x7b name: String \x7d".toList, "// likes".toList, "E::Likes \x7b".toList,
      "From: User,".toList, "To: User,".toList, "Properties: \x7b".toList, "since: Date,".toList, closing, closing, []]) =
      ⟨[⟨"User", .node, .ofEntries [("name", "String")]⟩],
        [⟨"Likes", "User", "User", .ofEntries [("since", "Date")]⟩], []⟩ := by
  refine parse_written [(.vertex ⟨"User", .node, .ofEntries [("name", "String")]⟩, .oneLine),
    (.edge ⟨"Likes", "User", "User", .ofEntries [("since", "Date")]⟩, .block fun _ => true)] (by decide) (by decide) _ ?_
  refine .same _ (.skip _ (Or.inr (by decide)) (by decide) ?_)
  refine .same _ (.same _ (.same _ (.same _ (.same _ (.same _ (.same _ ?_))))))
  exact .skip [] (Or.inl (by decide)) (by decide) .nil

/-- A type with a comma in it does not fit on one line: the line is read up to the comma. -/
theorem parse_oneLine_comma :
    Declaration.Writable (.vertex ⟨"N", .node, .ofEntries [("p", "a,b")]⟩) ∧
      parse (join ['\n'] (Declaration.render (.vertex ⟨"N", .node, .ofEntries [("p", "a,b")]⟩) .oneLine)) ≠
        ofDeclarations [.vertex ⟨"N", .node, .ofEntries [("p", "a,b")]⟩] :=
  ⟨by decide, by decide +kernel⟩

end HelixGateway.Schema
