import HelixGateway.Schema
import Mathlib.Data.List.Forall2
import Mathlib.Data.List.Induction

/-!
# Edges at types that are not declared

The ends of edges have places: the number of the edge, and for each edge its source before its target. What a report of
dangling ends has to be can be said by places alone: there is an entry for every place whose name no node and no vector has,
for no other place, and in the order of the places. An entry depends on its own edge and on the declared names, so it goes
away when its target is declared and for no other reason.

Main statements: `reports_danglingEnds`, `dangling_of_declares`, `dangling_exact`.
-/

namespace HelixGateway

/-- The name that an edge has at one of its ends. -/
def Edge.typeAt (e : Edge) : EdgeEnd → String
  | .source => e.source
  | .target => e.target

/-- The place of an end among some edges. -/
structure EndPlace where
  edge : Nat
  side : EdgeEnd
  deriving DecidableEq

/-- Earlier edges come first, and of each edge its source. -/
def EndPlace.Before (p q : EndPlace) : Prop := p.edge < q.edge ∨ p.edge = q.edge ∧ p.side = .source ∧ q.side = .target

/-- The name at a place is not a declared one. -/
def DanglesAt (declared : String → Prop) (es : List Edge) (p : EndPlace) : Prop :=
  ∃ e, es[p.edge]? = some e ∧ ¬declared (e.typeAt p.side)

/-- An entry for a place: the name of the edge, the side, and the name that the edge has there. -/
def EntryAt (es : List Edge) (p : EndPlace) (d : Dangling) : Prop :=
  ∃ e, es[p.edge]? = some e ∧ d = ⟨e.name, p.side, e.typeAt p.side⟩

/-- A report has one entry for each place that dangles, in the order of the places. -/
def Reports (declared : String → Prop) (es : List Edge) (ds : List Dangling) : Prop :=
  ∃ places : List EndPlace,
    places.Pairwise EndPlace.Before ∧ (∀ p, p ∈ places ↔ DanglesAt declared es p) ∧ List.Forall₂ (EntryAt es) places ds

namespace Schema

/-- A node or a vector has the name. -/
def Declares (s : Schema) (name : String) : Prop := (∃ v ∈ s.nodes, v.name = name) ∨ ∃ v ∈ s.vectors, v.name = name

/-! ## One edge -/

section OneEdge

variable {names : List String} {es : List Edge} {e : Edge} {p : EndPlace} {d : Dangling}

/-- The dangling ends of an edge are those of its two ends whose name is not declared, the source first. -/
theorem danglingEnds_eq (names : List String) (e : Edge) :
    danglingEnds names e =
      ([.source, .target].filter fun side => e.typeAt side ∉ names).map fun side => ⟨e.name, side, e.typeAt side⟩ := by
  by_cases hs : e.source ∈ names
  · by_cases ht : e.target ∈ names
    · simp [danglingEnds, Edge.typeAt, hs, ht]
    · simp [danglingEnds, Edge.typeAt, hs, ht]
  · by_cases ht : e.target ∈ names
    · simp [danglingEnds, Edge.typeAt, hs, ht]
    · simp [danglingEnds, Edge.typeAt, hs, ht]

/-- More declared names take away the ends that have them. -/
theorem danglingEnds_of_mem_iff {more added : List String} (h : ∀ name, name ∈ more ↔ name ∈ names ∨ name ∈ added)
    (e : Edge) : danglingEnds more e = (danglingEnds names e).filter fun d => d.target ∉ added := by
  rw [danglingEnds_eq, danglingEnds_eq, List.filter_map, List.filter_filter]
  congr 1
  refine List.filter_congr fun side _ => ?_
  simp [h, not_or, Bool.and_comm]

/-- The places of the edge with the number `n` that dangle. -/
def placesOf (names : List String) (n : Nat) (e : Edge) : List EndPlace :=
  ([.source, .target].filter fun side => e.typeAt side ∉ names).map fun side => ⟨n, side⟩

/-- The places of an edge that dangle are those under its number whose name is not declared. -/
theorem mem_placesOf {n : Nat} : p ∈ placesOf names n e ↔ p.edge = n ∧ e.typeAt p.side ∉ names := by
  obtain ⟨i, side⟩ := p
  rw [placesOf, List.mem_map]
  constructor
  · rintro ⟨side', hm, hp⟩
    cases hp
    exact ⟨rfl, by simpa using (List.mem_filter.1 hm).2⟩
  · rintro ⟨rfl, hn⟩
    refine ⟨side, List.mem_filter.2 ⟨?_, by simpa using hn⟩, rfl⟩
    cases side with
    | source => simp
    | target => simp

theorem pairwise_placesOf (names : List String) (n : Nat) (e : Edge) :
    (placesOf names n e).Pairwise EndPlace.Before := by
  refine List.Pairwise.map (R := fun a b => a = .source ∧ b = .target) _ ?_ (List.Pairwise.filter _ ?_)
  · intro a b h
    exact .inr ⟨rfl, h⟩
  · exact List.pairwise_pair.2 ⟨rfl, rfl⟩

/-- An entry stays one when edges come later. -/
theorem EntryAt.append (h : EntryAt es p d) (more : List Edge) : EntryAt (es ++ more) p d := by
  obtain ⟨e, he, hd⟩ := h
  have hlt : p.edge < es.length := (List.getElem?_eq_some_iff.1 he).1
  exact ⟨e, (List.getElem?_append_left hlt).trans he, hd⟩

/-- Each of them has the entry that is reported for it. -/
theorem forall₂_placesOf (names : List String) (es : List Edge) (e : Edge) :
    List.Forall₂ (EntryAt (es ++ [e])) (placesOf names es.length e) (danglingEnds names e) := by
  rw [placesOf, danglingEnds_eq, List.forall₂_map_left_iff, List.forall₂_map_right_iff, List.forall₂_same]
  intro side _
  exact ⟨e, List.getElem?_concat_length, rfl⟩

/-- One more edge dangles at its own places. -/
theorem danglesAt_concat {declared : String → Prop} :
    DanglesAt declared (es ++ [e]) p ↔
      DanglesAt declared es p ∨ p.edge = es.length ∧ ¬declared (e.typeAt p.side) := by
  rcases Nat.lt_trichotomy p.edge es.length with h | h | h
  · have hne : p.edge ≠ es.length := Nat.ne_of_lt h
    simp [DanglesAt, List.getElem?_append_left h, hne]
  · simp [DanglesAt, h]
  · have hne : p.edge ≠ es.length := Nat.ne_of_gt h
    have hn : (es ++ [e])[p.edge]? = none := List.getElem?_eq_none (by rw [List.length_append]; exact h)
    simp [DanglesAt, hn, hne, Nat.le_of_lt h]

end OneEdge

/-! ## The report -/

section Report

variable {s t : Schema} {added : List String}

/-- Edge by edge, the dangling ends are the report on the edges. -/
theorem reports_danglingEnds (names : List String) (es : List Edge) :
    Reports (· ∈ names) es (es.flatMap (danglingEnds names)) := by
  -- the places of one more edge come behind all the others
  induction es using List.reverseRecOn with
  | nil => exact ⟨[], List.Pairwise.nil, by simp [DanglesAt], List.Forall₂.nil⟩
  | append_singleton es e ih =>
    obtain ⟨places, hp, hm, hf⟩ := ih
    refine ⟨places ++ placesOf names es.length e, ?_, fun p => ?_, ?_⟩
    · refine List.pairwise_append.2 ⟨hp, pairwise_placesOf names es.length e, fun p hin q hq => ?_⟩
      obtain ⟨d, hd, -⟩ := (hm p).1 hin
      exact .inl ((mem_placesOf.1 hq).1 ▸ (List.getElem?_eq_some_iff.1 hd).1)
    · rw [List.mem_append, hm, mem_placesOf, danglesAt_concat]
    · rw [List.flatMap_append, List.flatMap_singleton]
      refine List.rel_append ?_ (forall₂_placesOf names es e)
      exact hf.imp fun _ _ h => EntryAt.append h [e]

/-- The declared names are the names of types. -/
theorem declares_iff {name : String} : s.Declares name ↔ name ∈ s.typeNames := mem_typeNames_iff.symm

/-- Nothing dangles exactly if both ends of every edge are declared. -/
theorem dangling_eq_nil_iff : s.dangling = [] ↔ ∀ e ∈ s.edges, s.Declares e.source ∧ s.Declares e.target := by
  rw [dangling, List.flatMap_eq_nil_iff]
  refine forall₂_congr fun e _ => ?_
  rw [danglingEnds_eq, List.map_eq_nil_iff, List.filter_eq_nil_iff, declares_iff, declares_iff]
  simp only [List.mem_cons, List.not_mem_nil, or_false, forall_eq_or_imp, forall_eq, decide_eq_true_eq, Decidable.not_not]
  rfl

/-- Where more names are declared, the entries with one of them as their target are missing, and no others. -/
theorem dangling_of_declares (he : t.edges = s.edges) (hd : ∀ name, t.Declares name ↔ s.Declares name ∨ name ∈ added) :
    t.dangling = s.dangling.filter fun d => d.target ∉ added := by
  simp only [declares_iff] at hd
  rw [dangling, dangling, he, List.filter_flatMap]
  exact List.flatMap_congr fun e _ => danglingEnds_of_mem_iff hd e

/-- What is declared depends on the names of nodes and vectors together, in any order. -/
theorem declares_of_perm {more : List String} (h : t.typeNames.Perm (s.typeNames ++ more)) (name : String) :
    t.Declares name ↔ s.Declares name ∨ name ∈ more := by
  rw [declares_iff, declares_iff, h.mem_iff, List.mem_append]

/-- The order of the declarations does not count. -/
theorem dangling_of_perm (he : t.edges = s.edges) (h : t.typeNames.Perm s.typeNames) : t.dangling = s.dangling := by
  have hd : ∀ name, t.Declares name ↔ s.Declares name ∨ name ∈ [] := declares_of_perm (by rwa [List.append_nil])
  simpa using dangling_of_declares he hd

/-- Nodes and vectors that are put anywhere among those of a schema add their names. -/
theorem typeNames_perm {nodes vectors : List Vertex} (hn : t.nodes.Perm (s.nodes ++ nodes))
    (hv : t.vectors.Perm (s.vectors ++ vectors)) :
    t.typeNames.Perm (s.typeNames ++ (nodes ++ vectors).map (·.name)) := by
  rw [typeNames, typeNames, ← List.map_append]
  refine List.Perm.map _ ((hn.append hv).trans ?_)
  rw [List.append_assoc, List.append_assoc]
  refine List.Perm.append_left _ ?_
  rw [← List.append_assoc, ← List.append_assoc]
  exact List.Perm.append_right _ List.perm_append_comm

/-- The dangling ends of a schema are reported exactly.

1. The report is empty if and only if both ends of every edge are the name of some node or vector.
2. It has one entry for each end of an edge at a name that is not declared, with the name of the edge and the name at that
   end, in the order of the edges and for each edge its source first.
3. Nodes and vectors that are added, wherever they are put, remove the entries whose targets they declare, and no others.
4. Edges that are added behind the others add the entries of their own behind the others.
5. The order of nodes and vectors does not count, nor which of the two has a name. -/
theorem dangling_exact (s : Schema) :
    (s.dangling = [] ↔ ∀ e ∈ s.edges, s.Declares e.source ∧ s.Declares e.target) ∧
    Reports s.Declares s.edges s.dangling ∧
    (∀ (nodes vectors : List Vertex) (t : Schema), t.edges = s.edges → t.nodes.Perm (s.nodes ++ nodes) →
      t.vectors.Perm (s.vectors ++ vectors) →
      t.dangling = s.dangling.filter fun d => d.target ∉ (nodes ++ vectors).map (·.name)) ∧
    (∀ more, dangling { s with edges := s.edges ++ more } = s.dangling ++ dangling { s with edges := more }) ∧
    ∀ t : Schema, t.edges = s.edges → ((t.nodes ++ t.vectors).map (·.name)).Perm ((s.nodes ++ s.vectors).map (·.name)) →
      t.dangling = s.dangling := by
  refine ⟨dangling_eq_nil_iff, ?_, fun nodes vectors t he hn hv => ?_, dangling_append_edges s, fun t he h => ?_⟩
  · rw [show s.Declares = (· ∈ s.typeNames) from funext fun _ => propext declares_iff]
    exact reports_danglingEnds s.typeNames s.edges
  · exact dangling_of_declares he (declares_of_perm (typeNames_perm hn hv))
  · exact dangling_of_perm he h

/-- Two edges of one name, one of them without a source, and a name that a node and a vector share. -/
def likesSchema : Schema where
  nodes := [⟨"User", .node, .empty⟩, ⟨"Doc", .node, .empty⟩]
  edges := [⟨"Likes", "", "Ghost", .empty⟩, ⟨"Likes", "Ghost", "User", .empty⟩]
  vectors := [⟨"Doc", .vector, .empty⟩]

/-- A node for the missing type, put in front of the others, leaves the end without a name. -/
theorem dangling_exact_likes :
    likesSchema.dangling = [⟨"Likes", .source, ""⟩, ⟨"Likes", .target, "Ghost"⟩, ⟨"Likes", .source, "Ghost"⟩] ∧
      dangling { likesSchema with nodes := ⟨"Ghost", .node, .empty⟩ :: likesSchema.nodes } = [⟨"Likes", .source, ""⟩] := by
  have hr : likesSchema.dangling =
      [⟨"Likes", .source, ""⟩, ⟨"Likes", .target, "Ghost"⟩, ⟨"Likes", .source, "Ghost"⟩] := by decide
  have hv : likesSchema.vectors.Perm (likesSchema.vectors ++ []) := List.Perm.of_eq (List.append_nil _).symm
  have hadd := (dangling_exact likesSchema).2.2.1 [⟨"Ghost", .node, .empty⟩] []
    { likesSchema with nodes := ⟨"Ghost", .node, .empty⟩ :: likesSchema.nodes } rfl (List.perm_append_singleton _ _).symm hv
  refine ⟨hr, hadd.trans ?_⟩
  rw [hr]
  decide

end Report

end Schema

end HelixGateway
