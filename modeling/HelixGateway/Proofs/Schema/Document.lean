import HelixGateway.Proofs.Introspection
import HelixGateway.Proofs.Json.Idempotence
import HelixGateway.Proofs.Service.Run
import Mathlib.Data.List.Perm.Basic

/-!
# Schema documents are read back

A schema is read back from the document that shows it. The ends of edges may go by their other names there, entries may stand
in any order, and further entries may be added to every object. The document that the service answers has its keys in
canonical order, and what is read back from it differs in the order of properties alone.

Main statement: `checkSchema_round_trip`.
-/

namespace HelixGateway

/-! ## Objects with further entries -/

namespace Json

/-- The entries that are known come in some order, and further entries may stand among them. -/
def Extends (known : List String) (es fs : Entries Json) : Prop := (fs.filter fun e => known.contains e.1).Perm es

section Extends

variable {known : List String} {es fs : Entries Json}

/-- The known entries may come in any order. -/
theorem extends_of_perm (h : fs.Perm es) (hk : ∀ k ∈ Entries.keys es, k ∈ known) : Extends known es fs := by
  have hf : ∀ e ∈ fs, known.contains e.1 = true := fun e he =>
    List.contains_iff_mem.2 (hk e.1 (List.mem_map_of_mem (h.mem_iff.1 he)))
  rw [Extends, List.filter_eq_self.2 hf]
  exact h

theorem extends_refl (es : Entries Json) (hk : ∀ k ∈ Entries.keys es, k ∈ known) : Extends known es es := extends_of_perm .rfl hk

/-- What stands under the keys that are known is not changed. -/
theorem Extends.get? (h : Extends known es fs) (hd : (Entries.keys es).Nodup) {k : String} (hk : k ∈ known) :
    Entries.get? fs k = Entries.get? es k := by
  rw [← Entries.get?_of_perm h hd, Entries.get?_filter fs (List.contains_iff_mem.2 hk)]

/-- A known entry is found under its key, whatever is added. -/
theorem Extends.get?_eq_some (h : Extends known es fs) (hd : (Entries.keys es).Nodup) {k : String} {v : Json} (hk : k ∈ known)
    (hm : (k, v) ∈ es) : Entries.get? fs k = some v := by
  rw [h.get? hd hk, Entries.get?_eq_some_iff_mem hd]
  exact hm

/-- A known key without an entry is not there, whatever is added. -/
theorem Extends.get?_eq_none (h : Extends known es fs) (hd : (Entries.keys es).Nodup) {k : String} (hk : k ∈ known)
    (hm : k ∉ Entries.keys es) : Entries.get? fs k = none := by
  rw [h.get? hd hk, Entries.get?_eq_none_iff]
  exact hm

end Extends

/-! ## Lists and maps that pass their checks -/

/-- A list passes its check if each item passes the check for items. -/
theorem checkItems_of_forall₂ {α : Type} {check : Json → Checked α} {xs : List α} {vs : List Json}
    (h : List.Forall₂ (fun x v => check v = .ok x) xs vs) (i : ℕ) : checkItems check i vs = .ok xs := by
  induction h generalizing i with
  | nil => rfl
  | cons hv _ ih =>
    rw [checkItems, hv, ih]
    rfl

/-- A map of texts is read back from the object of its entries. -/
theorem checkTexts_ofTexts (m : OrdMap String) : (ofTexts m.entries).checkTexts = .ok m := by
  have hc : ∀ es : Entries String, checkEntries checkText (es.map fun e => (e.1, .str e.2)) = .ok es := by
    intro es
    induction es with
    | nil => rfl
    | cons e es ih =>
      rw [List.map_cons, checkEntries, ih]
      rfl
  rw [ofTexts, checkTexts, hc]
  exact congrArg Except.ok m.ofEntries_entries

end Json

open Json (Extends Reordered extends_of_perm extends_refl)

/-! ## Documents that show a schema -/

def Vertex.entries (kindKey : String) (v : Vertex) : Entries Json :=
  [("name", .str v.name), (kindKey, .str v.kind.letter), ("properties", .ofTexts v.properties.entries)]

/-- An object shows a node or a vector. -/
inductive Vertex.ShownAs (kindKey : String) (v : Vertex) : Json → Prop where
  | intro {fs : Entries Json} (h : Extends ["name", kindKey, "properties"] (v.entries kindKey) fs) :
    v.ShownAs kindKey (.obj fs)

/-- The key under which an end of an edge is shown, and those that then count. The short key counts only where the long one
is missing, so with the long one anything may stand there. -/
inductive EndKey (long short : String) : String → List String → Prop where
  | long : EndKey long short long [long]
  | short : EndKey long short short [long, short]

def Edge.entries (sourceKey targetKey : String) (e : Edge) : Entries Json :=
  [("name", .str e.name), (sourceKey, .str e.source), (targetKey, .str e.target), ("properties", .ofTexts e.properties.entries)]

/-- An object shows an edge, each end under one of its keys. -/
inductive Edge.ShownAs (e : Edge) : Json → Prop where
  | intro {sourceKey targetKey : String} {sourceKeys targetKeys : List String} {fs : Entries Json}
    (source : EndKey "from_node" "from" sourceKey sourceKeys) (target : EndKey "to_node" "to" targetKey targetKeys)
    (h : Extends ("name" :: "properties" :: (sourceKeys ++ targetKeys)) (e.entries sourceKey targetKey) fs) :
    e.ShownAs (.obj fs)

/-- A document shows a schema. -/
inductive Schema.ShownAs (s : Schema) : Json → Prop where
  | intro {vs es ws : List Json} {fs : Entries Json} (nodes : List.Forall₂ (Vertex.ShownAs "node_type") s.nodes vs)
    (edges : List.Forall₂ Edge.ShownAs s.edges es) (vectors : List.Forall₂ (Vertex.ShownAs "vector_type") s.vectors ws)
    (h : Extends ["nodes", "edges", "vectors"] [("nodes", .arr vs), ("edges", .arr es), ("vectors", .arr ws)] fs) :
    s.ShownAs (.obj fs)

/-! ## What is shown is read back -/

/-- A kind is read back from its letter. -/
theorem Json.checkKind_letter (kind : VertexKind) : checkKind (.str kind.letter) = .ok kind := by
  cases kind <;> rfl

/-- A vertex is read back from an object that shows it. -/
theorem Vertex.ShownAs.checkVertex {kindKey : String} (hd : ["name", kindKey, "properties"].Nodup) (kind : VertexKind)
    {v : Vertex} {j : Json} (h : v.ShownAs kindKey j) : j.checkVertex kindKey kind = .ok v := by
  obtain @⟨fs, h⟩ := h
  have hname : Json.required Json.checkText fs "name" = .ok v.name :=
    Json.required_of_get? (v := .str v.name) (h.get?_eq_some hd (by simp) (by simp [entries])) rfl
  have hkind : Json.optional Json.checkKind fs [kindKey] kind = .ok v.kind :=
    Json.optional_of_first (h.get?_eq_some hd (by simp) (by simp [entries])) (Json.checkKind_letter v.kind)
  have hproperties : Json.optional Json.checkTexts fs ["properties"] .empty = .ok v.properties :=
    Json.optional_of_first (h.get?_eq_some hd (by simp) (by simp [entries]))
      (Json.checkTexts_ofTexts v.properties)
  rw [Json.checkVertex, hname, hkind, hproperties]
  rfl

/-- An end is read under the key that it is shown under. -/
theorem EndKey.optional_checkText {long short key : String} {keys : List String} (hk : EndKey long short key keys)
    {fields : Entries Json} {name : String} (h : fields.get? key = some (.str name))
    (hn : ∀ k ∈ keys, k ≠ key → fields.get? k = none) (hne : long ≠ short) :
    Json.optional Json.checkText fields [long, short] "" = .ok name := by
  cases hk with
  | long => exact Json.optional_of_first h rfl
  | short =>
    refine Json.optional_of_get? [long] short [] ?_ h rfl
    intro k hk
    rw [List.mem_singleton.1 hk]
    exact hn long (by simp) hne

/-- The keys under which an edge is shown do not repeat. -/
theorem Edge.nodup_keys_entries {sourceKey targetKey : String} {sourceKeys targetKeys : List String}
    (source : EndKey "from_node" "from" sourceKey sourceKeys) (target : EndKey "to_node" "to" targetKey targetKeys) (e : Edge) :
    (Entries.keys (e.entries sourceKey targetKey)).Nodup := by
  have hk : (Entries.keys (e.entries sourceKey targetKey)) = ["name", sourceKey, targetKey, "properties"] := rfl
  rw [hk]
  cases source <;> cases target <;> decide

/-- An edge is read back from an object that shows it, whichever keys its ends are under. -/
theorem Edge.ShownAs.checkEdge {e : Edge} {j : Json} (h : e.ShownAs j) : j.checkEdge = .ok e := by
  obtain @⟨sourceKey, targetKey, sourceKeys, targetKeys, fs, source, target, h⟩ := h
  have hd := nodup_keys_entries source target e
  have hname : Json.required Json.checkText fs "name" = .ok e.name :=
    Json.required_of_get? (v := .str e.name) (h.get?_eq_some hd (by simp) (by simp [entries])) rfl
  have hsource : Json.optional Json.checkText fs ["from_node", "from"] "" = .ok e.source := by
    refine source.optional_checkText (h.get?_eq_some hd (by cases source <;> simp) (by simp [entries])) ?_ (by decide)
    intro k hk hne
    refine h.get?_eq_none hd (by simp [hk]) ?_
    cases source <;> cases target <;> simp_all [entries]
  have htarget : Json.optional Json.checkText fs ["to_node", "to"] "" = .ok e.target := by
    refine target.optional_checkText (h.get?_eq_some hd (by cases target <;> simp) (by simp [entries])) ?_ (by decide)
    intro k hk hne
    refine h.get?_eq_none hd (by simp [hk]) ?_
    cases source <;> cases target <;> simp_all [entries]
  have hproperties : Json.optional Json.checkTexts fs ["properties"] .empty = .ok e.properties :=
    Json.optional_of_first (h.get?_eq_some hd (by simp) (by simp [entries]))
      (Json.checkTexts_ofTexts e.properties)
  rw [Json.checkEdge, hname, hsource, htarget, hproperties]
  rfl

/-- A schema is read back from every document that shows it. -/
theorem Schema.ShownAs.checkSchema {s : Schema} {j : Json} (h : s.ShownAs j) : j.checkSchema = .ok s := by
  obtain @⟨vs, es, ws, fs, nodes, edges, vectors, h⟩ := h
  have hd : (Entries.keys [("nodes", Json.arr vs), ("edges", .arr es), ("vectors", .arr ws)]).Nodup :=
    (by decide : ["nodes", "edges", "vectors"].Nodup)
  have hnodes : Json.optional (Json.checkList (Json.checkVertex "node_type" .node)) fs ["nodes"] [] = .ok s.nodes :=
    Json.optional_of_first (v := .arr vs) (h.get?_eq_some hd (by simp) (by simp))
      (Json.checkItems_of_forall₂ (nodes.imp fun _ _ hv => Vertex.ShownAs.checkVertex (by decide) .node hv) 0)
  have hedges : Json.optional (Json.checkList Json.checkEdge) fs ["edges"] [] = .ok s.edges :=
    Json.optional_of_first (v := .arr es) (h.get?_eq_some hd (by simp) (by simp))
      (Json.checkItems_of_forall₂ (edges.imp fun _ _ he => Edge.ShownAs.checkEdge he) 0)
  have hvectors : Json.optional (Json.checkList (Json.checkVertex "vector_type" .vector)) fs ["vectors"] [] = .ok s.vectors :=
    Json.optional_of_first (v := .arr ws) (h.get?_eq_some hd (by simp) (by simp))
      (Json.checkItems_of_forall₂ (vectors.imp fun _ _ hv => Vertex.ShownAs.checkVertex (by decide) .vector hv) 0)
  rw [Json.checkSchema, hnodes, hedges, hvectors]
  rfl

/-- The document that is written for a schema shows it. -/
theorem Schema.shownAs_toJson (s : Schema) : s.ShownAs s.toJson := by
  have hvertex (kindKey : String) (vs : List Vertex) :
      List.Forall₂ (Vertex.ShownAs kindKey) vs (vs.map (Vertex.toJson kindKey)) :=
    List.forall₂_map_right_iff.2 (List.forall₂_same.2 fun v _ =>
      .intro (extends_refl (v.entries kindKey) (by simp [Vertex.entries])))
  have hedges : List.Forall₂ Edge.ShownAs s.edges (s.edges.map Edge.toJson) :=
    List.forall₂_map_right_iff.2 (List.forall₂_same.2 fun e _ =>
      .intro .long .long (extends_refl (e.entries "from_node" "to_node") (by simp [Edge.entries])))
  exact .intro (hvertex "node_type" s.nodes) hedges (hvertex "vector_type" s.vectors) (extends_refl _ (by simp))

/-! ## Alike schemas -/

/-- The same vertex but for the order of its properties. -/
structure Vertex.Alike (v w : Vertex) : Prop where
  name : w.name = v.name
  kind : w.kind = v.kind
  properties : w.properties.entries.Perm v.properties.entries

/-- The same edge but for the order of its properties. -/
structure Edge.Alike (e f : Edge) : Prop where
  name : f.name = e.name
  source : f.source = e.source
  target : f.target = e.target
  properties : f.properties.entries.Perm e.properties.entries

/-- The same nodes, edges and vectors in the same order, but for the order of properties. -/
structure Schema.Alike (s t : Schema) : Prop where
  nodes : List.Forall₂ Vertex.Alike s.nodes t.nodes
  edges : List.Forall₂ Edge.Alike s.edges t.edges
  vectors : List.Forall₂ Vertex.Alike s.vectors t.vectors

/-! ## Documents in another order -/

/-- Texts under keys have no reordering but themselves. -/
theorem Json.FieldsReordered.of_texts {es : Entries String} {fs : Entries Json}
    (h : FieldsReordered (es.map fun e => (e.1, .str e.2)) fs) : fs = es.map fun e => (e.1, .str e.2) := by
  induction es generalizing fs with
  | nil =>
    cases h
    rfl
  | cons e es ih =>
    obtain _ | ⟨_, hw, ht⟩ := h
    rw [hw.of_str, ih ht, List.map_cons]

/-- An object of texts in another order is that of a map in another order. -/
theorem Json.Reordered.of_texts {m : OrdMap String} {j : Json} (h : Reordered (.ofTexts m.entries) j) :
    ∃ n : OrdMap String, n.entries.Perm m.entries ∧ j = .ofTexts n.entries := by
  obtain ⟨fs, gs, hf, hp, rfl⟩ := h.of_obj
  rw [hf.of_texts] at hp
  -- what is a permutation of an image is the image of a permutation
  obtain ⟨es, rfl, hes⟩ : Relation.Comp (· = List.map (fun e : String × String => (e.1, Json.str e.2)) ·) List.Perm gs m.entries := by
    rw [List.eq_map_comp_perm]
    exact hp
  exact ⟨⟨es, (hes.map Prod.fst).nodup_iff.2 m.nodup⟩, hes, rfl⟩

/-- A reordered vertex shows one that differs in the order of its properties alone. -/
theorem Vertex.exists_shownAs_of_reordered {kindKey : String} {v : Vertex} {j : Json} (h : Reordered (v.toJson kindKey) j) :
    ∃ w : Vertex, v.Alike w ∧ w.ShownAs kindKey j := by
  obtain ⟨fs, gs, hf, hp, rfl⟩ := h.of_obj
  obtain _ | ⟨_, hname, _ | ⟨_, hkind, _ | ⟨_, hproperties, _ | _⟩⟩⟩ := hf
  obtain ⟨properties, hm, rfl⟩ := hproperties.of_texts
  rw [hname.of_str, hkind.of_str] at hp
  exact ⟨⟨v.name, v.kind, properties⟩, ⟨rfl, rfl, hm⟩, .intro (extends_of_perm hp (by simp [entries]))⟩

/-- A reordered edge shows one that differs in the order of its properties alone. -/
theorem Edge.exists_shownAs_of_reordered {e : Edge} {j : Json} (h : Reordered e.toJson j) :
    ∃ f : Edge, e.Alike f ∧ f.ShownAs j := by
  obtain ⟨fs, gs, hf, hp, rfl⟩ := h.of_obj
  obtain _ | ⟨_, hname, _ | ⟨_, hsource, _ | ⟨_, htarget, _ | ⟨_, hproperties, _ | _⟩⟩⟩⟩ := hf
  obtain ⟨properties, hm, rfl⟩ := hproperties.of_texts
  rw [hname.of_str, hsource.of_str, htarget.of_str] at hp
  exact ⟨⟨e.name, e.source, e.target, properties⟩, ⟨rfl, rfl, rfl, hm⟩, .intro .long .long (extends_of_perm hp (by simp [entries]))⟩

/-- Items in another order show, one by one, what is alike. -/
theorem Json.ItemsReordered.exists_shown {α : Type} {toJson : α → Json} {Like : α → α → Prop} {Shows : α → Json → Prop}
    (hone : ∀ x j, Reordered (toJson x) j → ∃ y, Like x y ∧ Shows y j) {xs : List α} {js : List Json}
    (h : ItemsReordered (xs.map toJson) js) : ∃ ys, List.Forall₂ Like xs ys ∧ List.Forall₂ Shows ys js := by
  induction xs generalizing js with
  | nil =>
    cases h
    exact ⟨[], .nil, .nil⟩
  | cons x xs ih =>
    cases h with
    | cons hj hjs =>
      obtain ⟨y, hy, hs⟩ := hone x _ hj
      obtain ⟨ys, hys, hss⟩ := ih hjs
      exact ⟨y :: ys, .cons hy hys, .cons hs hss⟩

/-- A document in another order shows an alike schema. -/
theorem Schema.exists_shownAs_of_reordered {s : Schema} {j : Json} (h : Reordered s.toJson j) :
    ∃ t : Schema, s.Alike t ∧ t.ShownAs j := by
  obtain ⟨fs, gs, hf, hp, rfl⟩ := h.of_obj
  obtain _ | ⟨_, hnodes, _ | ⟨_, hedges, _ | ⟨_, hvectors, _ | _⟩⟩⟩ := hf
  obtain ⟨vs, hvs, rfl⟩ := hnodes.of_arr
  obtain ⟨es, hes, rfl⟩ := hedges.of_arr
  obtain ⟨ws, hws, rfl⟩ := hvectors.of_arr
  obtain ⟨nodes, hnodes, hvs⟩ := hvs.exists_shown fun _ _ => Vertex.exists_shownAs_of_reordered
  obtain ⟨edges, hedges, hes⟩ := hes.exists_shown fun _ _ => Edge.exists_shownAs_of_reordered
  obtain ⟨vectors, hvectors, hws⟩ := hws.exists_shown fun _ _ => Vertex.exists_shownAs_of_reordered
  exact ⟨⟨nodes, edges, vectors⟩, ⟨hnodes, hedges, hvectors⟩, .intro hvs hes hws (extends_of_perm hp (by simp))⟩

/-! ## The answer of the service -/

/-- Names of properties that are made of digits can be read as numbers. -/
structure Schema.HasShortNames (s : Schema) : Prop where
  nodes : ∀ v ∈ s.nodes, ∀ k ∈ v.properties.keys, Json.isShortKey k = true
  edges : ∀ e ∈ s.edges, ∀ k ∈ e.properties.keys, Json.isShortKey k = true
  vectors : ∀ v ∈ s.vectors, ∀ k ∈ v.properties.keys, Json.isShortKey k = true

/-- An object with short keys and with values that have short keys has short keys. -/
theorem Json.hasShortKeys_obj {es : Entries Json} (hk : ∀ k ∈ Entries.keys es, isShortKey k = true)
    (hv : ∀ e ∈ es, e.2.hasShortKeys = true) : (obj es).hasShortKeys = true := by
  rw [hasShortKeys, Bool.and_eq_true, List.all_eq_true, fieldsHaveShortKeys_iff]
  exact ⟨hk, hv⟩

/-- An object of texts has short keys if its own are short. -/
theorem Json.hasShortKeys_ofTexts {m : OrdMap String} (h : ∀ k ∈ m.keys, isShortKey k = true) :
    (ofTexts m.entries).hasShortKeys = true := by
  refine hasShortKeys_obj ?_ ?_
  · rw [Entries.keys_mapValues]
    exact h
  · intro e he
    obtain ⟨d, -, rfl⟩ := List.mem_map.1 he
    rfl

/-- A list of objects with short keys has short keys. -/
theorem Json.hasShortKeys_map {α : Type} {toJson : α → Json} {xs : List α} (h : ∀ x ∈ xs, (toJson x).hasShortKeys = true) :
    (arr (xs.map toJson)).hasShortKeys = true := by
  rw [hasShortKeys, itemsHaveShortKeys_iff]
  intro v hv
  obtain ⟨x, hx, rfl⟩ := List.mem_map.1 hv
  exact h x hx

/-- A vertex whose properties have short names is written with short keys. -/
theorem Vertex.hasShortKeys_toJson {kindKey : String} (hk : Json.isShortKey kindKey = true) {v : Vertex}
    (h : ∀ k ∈ v.properties.keys, Json.isShortKey k = true) : (v.toJson kindKey).hasShortKeys = true := by
  refine Json.hasShortKeys_obj ?_ ?_
  · have hn : Json.isShortKey "name" = true := by decide
    have hp : Json.isShortKey "properties" = true := by decide
    simp [hn, hk, hp]
  · have hp := Json.hasShortKeys_ofTexts h
    simp [hp, Json.hasShortKeys]

theorem Edge.hasShortKeys_toJson {e : Edge} (h : ∀ k ∈ e.properties.keys, Json.isShortKey k = true) :
    e.toJson.hasShortKeys = true := by
  refine Json.hasShortKeys_obj ?_ ?_
  · exact (by decide : ∀ k ∈ ["name", "from_node", "to_node", "properties"], Json.isShortKey k = true)
  · have hp := Json.hasShortKeys_ofTexts h
    simp [hp, Json.hasShortKeys]

/-- A schema whose properties have short names is written with short keys. -/
theorem Schema.hasShortKeys_toJson {s : Schema} (h : s.HasShortNames) : s.toJson.hasShortKeys = true := by
  have hnodes : (Json.arr (s.nodes.map (Vertex.toJson "node_type"))).hasShortKeys = true :=
    Json.hasShortKeys_map fun v hv => Vertex.hasShortKeys_toJson (by decide) (h.nodes v hv)
  have hedges : (Json.arr (s.edges.map Edge.toJson)).hasShortKeys = true :=
    Json.hasShortKeys_map fun e he => Edge.hasShortKeys_toJson (h.edges e he)
  have hvectors : (Json.arr (s.vectors.map (Vertex.toJson "vector_type"))).hasShortKeys = true :=
    Json.hasShortKeys_map fun v hv => Vertex.hasShortKeys_toJson (by decide) (h.vectors v hv)
  refine Json.hasShortKeys_obj ?_ ?_
  · exact (by decide : ∀ k ∈ ["nodes", "edges", "vectors"], Json.isShortKey k = true)
  · simp [hnodes, hedges, hvectors]

theorem Json.finiteOrNull_ofTexts (es : Entries String) : (ofTexts es).finiteOrNull = ofTexts es := by
  rw [ofTexts, finiteOrNull, fieldsFiniteOrNull_eq_map, List.map_map]
  rfl

theorem Json.finiteOrNull_map {α : Type} {toJson : α → Json} (h : ∀ x, (toJson x).finiteOrNull = toJson x) (xs : List α) :
    (arr (xs.map toJson)).finiteOrNull = .arr (xs.map toJson) := by
  rw [finiteOrNull, itemsFiniteOrNull_eq_map, List.map_map]
  exact congrArg (fun f => Json.arr (xs.map f)) (funext h)

theorem Vertex.finiteOrNull_toJson (kindKey : String) (v : Vertex) : (v.toJson kindKey).finiteOrNull = v.toJson kindKey := by
  simp [toJson, Json.finiteOrNull, Json.fieldsFiniteOrNull, Json.finiteOrNull_ofTexts]

theorem Edge.finiteOrNull_toJson (e : Edge) : e.toJson.finiteOrNull = e.toJson := by
  simp [toJson, Json.finiteOrNull, Json.fieldsFiniteOrNull, Json.finiteOrNull_ofTexts]

/-- A schema is written without numbers, so there is none to take out. -/
theorem Schema.finiteOrNull_toJson (s : Schema) : s.toJson.finiteOrNull = s.toJson := by
  have hvertex (kindKey : String) := Json.finiteOrNull_map (Vertex.finiteOrNull_toJson kindKey)
  have hedges := Json.finiteOrNull_map Edge.finiteOrNull_toJson
  rw [toJson, Json.finiteOrNull, Json.fieldsFiniteOrNull_eq_map]
  simp [hvertex, hedges]

namespace Service

/-- The schema that the metadata has is answered in canonical order. -/
theorem respond_schema {s : Service} {r : WebRequest} {b : Backend} {t t' : Trace} {d : Schema} {w : Json}
    (hp : r.path = "/api/schema".toList) (hm : r.method = "GET") (hd : s.metadata.schema b t = (.ok d, t'))
    (hw : d.toJson.canonicalize = .ok w) : ∃ headers, s.respond r b t = (.ok ⟨200, headers, .json w⟩, t') := by
  have hfinite : w.finiteOrNull = w := by
    have hf := Json.canonicalize_finiteOrNull hw
    rw [d.finiteOrNull_toJson, hw] at hf
    exact (Except.ok.inj hf).symm
  have hroute : Route.ofPath? r.path = some .schema := by
    rw [hp]
    decide
  have hmethod : r.method ∈ Route.methods .schema := by
    rw [hm]
    decide
  have hdispatch : s.dispatch r b t = (.ok (withStatus 200 w), t') := by
    rw [dispatch_of_route hroute hmethod, answerRoute, answerSchema, Session.run_bind_ok hd, run_answer hw, hfinite]
  exact respond_of_dispatch_ok (by rw [hm]; decide) hdispatch

/-- A schema is read back from its document, and from every other one that shows it: with the other keys for the ends of
edges, with entries in another order, and with entries under keys that are not known. If its names of properties that are
made of digits can be read as numbers, the service answers a document in canonical order, from which the schema is read back
but for the order of properties. -/
theorem checkSchema_round_trip (d : Schema) :
    d.toJson.checkSchema = .ok d ∧ (∀ v, d.ShownAs v → v.checkSchema = .ok d) ∧
      (d.HasShortNames → ∃ w d', d.toJson.canonicalize = .ok w ∧ w.checkSchema = .ok d' ∧ d.Alike d' ∧
        ∀ (s : Service) (r : WebRequest) (b : Backend) (t t' : Trace), r.path = "/api/schema".toList → r.method = "GET" →
          s.metadata.schema b t = (.ok d, t') → ∃ headers, s.respond r b t = (.ok ⟨200, headers, .json w⟩, t')) := by
  refine ⟨d.shownAs_toJson.checkSchema, fun v hv => hv.checkSchema, fun hs => ?_⟩
  obtain ⟨w, hw⟩ := Json.canonicalize_eq_ok_iff.2 (Schema.hasShortKeys_toJson hs)
  obtain ⟨d', ha, hshown⟩ := Schema.exists_shownAs_of_reordered (Json.reordered_of_canonicalize hw)
  exact ⟨w, d', hw, hshown.checkSchema, ha, fun s r b t t' hp hm hd => respond_schema hp hm hd hw⟩

/-! ## One schema -/

def followText : String :=
  "N::User \x7b\n10: String,\n9: I32\n\x7d\nE::Follows \x7b From: User, To: Doc, Properties: \x7b\x7d \x7d\n" ++
    "V::Doc \x7b vec: Array<F64> \x7d"

def followUser : Vertex := ⟨"User", .node, ⟨[("10", "String"), ("9", "I32")], by decide⟩⟩

def followEdge : Edge := ⟨"Follows", "User", "Doc", .empty⟩

def followDoc : Vertex := ⟨"Doc", .vector, ⟨[("vec", "Array<F64>")], by decide⟩⟩

def followSchema : Schema := ⟨[followUser], [followEdge], [followDoc]⟩

/-- A service with the schema in a file. -/
def followService : Service :=
  { fileService "" with disk := ⟨[], [(["schema.hx"], Text.Utf8.encode followText.toList)], []⟩ }

/-- The edge with further entries, one end under the short key. -/
def followEntries : Entries Json :=
  [("name", .str "Follows"), ("from", .str "User"), ("id", .int 7), ("to_node", .str "Doc"), ("to", .null),
    ("properties", .obj [])]

/-- A document with the edges first and with a further entry. -/
def followDocument : Json :=
  .obj [("version", .int 3), ("edges", .arr [.obj followEntries]), ("nodes", .arr [followUser.toJson "node_type"]),
    ("vectors", .arr [followDoc.toJson "vector_type"])]

theorem shownAs_followDocument : followSchema.ShownAs followDocument := by
  have huser : followUser.ShownAs "node_type" (followUser.toJson "node_type") :=
    .intro (extends_refl (followUser.entries "node_type") (by simp [Vertex.entries]))
  have hdoc : followDoc.ShownAs "vector_type" (followDoc.toJson "vector_type") :=
    .intro (extends_refl (followDoc.entries "vector_type") (by simp [Vertex.entries]))
  have hextends : Extends ["name", "properties", "from_node", "from", "to_node"] (followEdge.entries "from" "to_node")
      followEntries := .of_eq rfl
  have hedge : followEdge.ShownAs (.obj followEntries) := .intro .short .long hextends
  exact .intro (.cons huser .nil) (.cons hedge .nil) (.cons hdoc .nil) (.swap _ _ _)

/-- The schema is read back from that document, and one like it from the answer of the service. -/
theorem checkSchema_round_trip_follows :
    (followSchema.ShownAs followDocument ∧ followDocument.checkSchema = .ok followSchema) ∧
      followSchema.HasShortNames ∧ ∀ b, ∃ headers w d',
        (followService.respond (plainRequest "/api/schema" "") b .empty).1 = .ok ⟨200, headers, .json w⟩ ∧
          w.checkSchema = .ok d' ∧ followSchema.Alike d' := by
  have hshort : followSchema.HasShortNames := ⟨by decide, by decide, by decide⟩
  obtain ⟨-, hshown, hanswered⟩ := checkSchema_round_trip followSchema
  obtain ⟨w, d', -, hc, ha, hw⟩ := hanswered hshort
  refine ⟨⟨shownAs_followDocument, hshown _ shownAs_followDocument⟩, hshort, fun b => ?_⟩
  have hl : followService.metadata.disk.loadSchema followService.metadata.schemaPath = .ok (.ok followSchema) := by
    decide +kernel
  obtain ⟨logs, hd⟩ := Metadata.run_schema_local (by decide) hl b .empty
  obtain ⟨headers, hr⟩ := hw followService (plainRequest "/api/schema" "") b .empty _ rfl rfl hd
  exact ⟨headers, w, d', congrArg Prod.fst hr, hc, ha⟩

end Service

end HelixGateway
