import HelixGateway.Introspection
import HelixGateway.Proofs.Json.Distinct
import HelixGateway.Proofs.Parameters.Typing

/-!
# Types of known queries

The types of a known query are read in two ways. The catalogue of an introspection keeps the texts of the types as they are
reported; the queries that are served from it have them normalized. Both type a value alike, but for the parameters whose
type is spelled by an alias: an alias is no type to the catalogue, and the value stays a text.

Main statements: `nodup_of_checkIntrospection`, `coerceQueryValue_served_eq_iff`.
-/

namespace HelixGateway

/-! ## Checked payloads -/

namespace Json

variable {α : Type} {check : Json → Checked α}

/-- Each of the items that pass a check comes from a value that passes it. -/
theorem of_checkItems {i : Nat} {vs : List Json} {xs : List α} (h : checkItems check i vs = .ok xs) :
    ∀ x ∈ xs, ∃ v ∈ vs, check v = .ok x := by
  induction vs generalizing i xs with
  | nil =>
    cases h
    exact nofun
  | cons v vs ih =>
    rw [checkItems] at h
    obtain ⟨⟨x, ys⟩, hb, rfl⟩ := map_eq_ok h
    obtain ⟨hv, hvs⟩ := Checked.both_eq_ok_iff.1 hb
    refine List.forall_mem_cons.2 ⟨⟨v, by simp, mapError_eq_ok hv⟩, fun y hy => ?_⟩
    obtain ⟨w, hw, hc⟩ := ih hvs y hy
    exact ⟨w, List.mem_cons_of_mem _ hw, hc⟩

/-- A list that passes its check is an array of values, and each item comes from one that passes. -/
theorem of_checkList {v : Json} {xs : List α} (h : checkList check v = .ok xs) :
    ∃ vs, v = .arr vs ∧ ∀ x ∈ xs, ∃ w ∈ vs, check w = .ok x := by
  unfold checkList at h
  split at h
  · exact ⟨_, rfl, of_checkItems h⟩
  · cases h

/-- A required field is there and passes its check. -/
theorem of_required {fields : Entries Json} {k : String} {x : α} (h : required check fields k = .ok x) :
    ∃ v, fields.get? k = some v ∧ check v = .ok x := by
  unfold required at h
  split at h
  · rename_i v hv
    exact ⟨v, hv, mapError_eq_ok h⟩
  · cases h

/-- An optional field is absent, or it passes its check under one of its keys. -/
theorem of_optional {fields : Entries Json} {keys : List String} {absent x : α}
    (h : optional check fields keys absent = .ok x) : x = absent ∨ ∃ k v, (k, v) ∈ fields ∧ check v = .ok x := by
  unfold optional at h
  split at h
  · rename_i k _
    obtain ⟨v, hv, hc⟩ := of_required h
    exact .inr ⟨k, v, Entries.mem_of_get?_eq_some hv, hc⟩
  · exact .inl (Except.ok.inj h).symm

section Fields

variable {fields : Entries Json} {v : Json} {x : α}

theorem required_of_get? {k : String} (h : fields.get? k = some v) (hc : check v = .ok x) : required check fields k = .ok x := by
  simp only [required, h, hc]
  rfl

theorem find?_has_eq_none {keys : List String} (h : ∀ k ∈ keys, fields.get? k = none) :
    keys.find? (Entries.has fields) = none := by
  refine List.find?_eq_none.2 fun k hk => ?_
  rw [Entries.has, h k hk]
  exact Bool.false_ne_true

/-- An optional field that is missing passes as absent. -/
theorem optional_of_missing {keys : List String} {absent : α} (h : ∀ k ∈ keys, fields.get? k = none) :
    optional check fields keys absent = .ok absent := by
  rw [optional, find?_has_eq_none h]

/-- A field is checked under the first of its keys that is there. -/
theorem optional_of_get? (before : List String) (k : String) (after : List String) {absent : α}
    (hb : ∀ j ∈ before, fields.get? j = none) (h : fields.get? k = some v) (hc : check v = .ok x) :
    optional check fields (before ++ k :: after) absent = .ok x := by
  have hk : Entries.has fields k = true := by rw [Entries.has, h]; rfl
  rw [optional, List.find?_append, find?_has_eq_none hb, Option.none_or, List.find?_cons_of_pos hk]
  exact required_of_get? h hc

/-- An optional field passes under its first key, if the value there does. -/
theorem optional_of_first {k : String} {after : List String} {absent : α} (h : fields.get? k = some v) (hc : check v = .ok x) :
    optional check fields (k :: after) absent = .ok x :=
  optional_of_get? [] k after (List.forall_mem_nil _) h hc

end Fields

/-- In a value without repeated keys none of its own keys repeats. -/
theorem nodup_entries {v : Json} (h : v.distinct = true) : (Entries.keys v.entries).Nodup := by
  unfold entries
  split
  · exact (distinct_obj_iff.1 h).1
  · exact List.nodup_nil

/-- The parameters of a known query do not repeat if no key repeats in what it is read from. -/
theorem nodup_of_checkKnownQuery {v : Json} {q : KnownQuery} (hv : v.distinct = true) (h : checkKnownQuery v = .ok q) :
    (Entries.keys q.parameters).Nodup := by
  unfold checkKnownQuery at h
  split at h
  · obtain ⟨⟨name, parameters⟩, hb, rfl⟩ := map_eq_ok h
    rcases of_optional (Checked.both_eq_ok_iff.1 hb).2 with rfl | ⟨k, w, hw, hc⟩
    · exact List.nodup_nil
    · rw [← Except.ok.inj hc]
      exact nodup_entries ((distinct_obj_iff.1 hv).2 _ hw)
  · cases h

/-- A known query holds each of its parameters once. -/
theorem nodup_of_checkIntrospection {v : Json} {d : Introspection} (hv : v.distinct = true)
    (h : checkIntrospection v = .ok d) : ∀ q ∈ d.queries, (Entries.keys q.parameters).Nodup := by
  unfold checkIntrospection at h
  split at h
  · obtain ⟨⟨schema, queries⟩, hb, rfl⟩ := map_eq_ok h
    rcases of_optional (Checked.both_eq_ok_iff.1 hb).2 with rfl | ⟨k, w, hw, hc⟩
    · exact nofun
    · obtain ⟨vs, rfl, hvs⟩ := of_checkList hc
      intro q hq
      obtain ⟨u, hu, hcu⟩ := hvs q hq
      have hd : distinct (.arr vs) = true := (distinct_obj_iff.1 hv).2 _ hw
      exact nodup_of_checkKnownQuery (distinct_arr_iff.1 hd u hu) hcu
  · cases h

end Json

/-! ## The two catalogues -/

/-- The text of a type, if the type is a text. -/
def KnownQuery.typeText? : Json → Option String
  | .str s => some s
  | _ => none

namespace Introspection

variable {d : Introspection} {name key : String}

/-- What is reported as the type of a parameter of the first query with a name. -/
def reported? (d : Introspection) (name key : String) : Option Json :=
  (d.queries.find? (·.name = name)).bind fun q => Entries.get? q.parameters key

/-- The type of a parameter is the text that is reported for it, if it is one. -/
theorem get?_types {q : KnownQuery} (h : (Entries.keys q.parameters).Nodup) (key : String) :
    q.types.get? key = (Entries.get? q.parameters key).bind KnownQuery.typeText? := by
  have ht : q.types = .ofEntries (q.parameters.filterMap fun e => (KnownQuery.typeText? e.2).map (e.1, ·)) := by
    rw [KnownQuery.types]
    congr 2
    funext ⟨k, v⟩
    cases v <;> rfl
  rw [ht, OrdMap.get?_ofEntries_filterMap h]

/-- The type that the catalogue has for a parameter is the one reported for it, if it is a text. -/
theorem get?_catalogue (hd : ∀ q ∈ d.queries, (Entries.keys q.parameters).Nodup) :
    (d.catalogue name).get? key = (d.reported? name key).bind KnownQuery.typeText? := by
  rw [catalogue, reported?]
  cases hf : d.queries.find? (·.name = name) with
  | none => rfl
  | some q => exact get?_types (hd q (List.mem_of_find?_eq_some hf)) key

/-- Listed as a query, a known query has some text as the type of each parameter. -/
theorem get?_types_toQuery {q : KnownQuery} (h : (Entries.keys q.parameters).Nodup) (key : String) :
    q.toQuery.types.get? key = (Entries.get? q.parameters key).map KnownQuery.listedType := by
  have hm : q.parameters.map (fun e => (e.1, KnownQuery.listedType e.2)) =
      q.parameters.filterMap fun e => (some (KnownQuery.listedType e.2)).map (e.1, ·) :=
    (congrFun List.filterMap_eq_map q.parameters).symm
  rw [types_toQuery, hm, OrdMap.get?_ofEntries_filterMap h (fun v => some (KnownQuery.listedType v)), Option.map_eq_bind]
  rfl

/-- The served queries have, for each reported parameter, the type that is listed for it. -/
theorem get?_catalogue_served (hd : ∀ q ∈ d.queries, (Entries.keys q.parameters).Nodup) :
    (Query.catalogue d.served name).get? key = (d.reported? name key).map KnownQuery.listedType := by
  have hn : (fun q : Query => decide (q.name = name)) ∘ KnownQuery.toQuery = fun q => decide (q.name = name) := rfl
  rw [Query.catalogue, served, List.find?_map, hn, reported?]
  cases hf : d.queries.find? (·.name = name) with
  | none => rfl
  | some q => exact get?_types_toQuery (hd q (List.mem_of_find?_eq_some hf)) key

/-! ## Values under an alias -/

open Parameters (coerceQueryValue)
open HelixType (aliases)

/-- One reported value as a type: as the catalogue has it and as it is listed. -/
theorem coerceQueryValue_listedType_iff (v : Json) (value : String) :
    coerceQueryValue value (KnownQuery.typeText? v) = coerceQueryValue value (some (KnownQuery.listedType v)) ↔
      ∀ s t, v = .str s → aliases.get? s = some (HelixType.text t) →
        t = .scalar .string ∨ t = .scalar .id ∨ ∃ e, HelixType.coerce value t = .error (.conversion e) := by
  cases v with
  | str s =>
    simp only [KnownQuery.typeText?, KnownQuery.listedType, Json.str.injEq]
    cases ha : aliases.get? s with
    | none =>
      refine iff_of_true (Parameters.coerceQueryValue_congr (HelixType.parse_normalize ha).symm) ?_
      rintro _ t rfl hs
      rw [ha] at hs
      cases hs
    | some u =>
      obtain ⟨t, rfl⟩ := HelixType.eq_text_of_alias ha
      have hraw : coerceQueryValue value (some s) = .ok (.str value) := by
        simp only [coerceQueryValue, HelixType.parse_of_alias ha]
      rw [HelixType.normalize_of_alias ha, hraw, eq_comm, Parameters.coerceQueryValue_eq_text_iff]
      constructor
      · rintro h _ t' rfl ht'
        rw [ha] at ht'
        rwa [← HelixType.text_injective (Option.some.inj ht')]
      · exact fun h => h s t rfl ha
  | null | bool _ | int _ | real _ | arr _ | obj _ =>
    have hs : "String" = HelixType.text (.scalar .string) := by decide
    refine iff_of_true ?_ ?_
    · -- what is no text is listed as the type of texts
      rw [KnownQuery.typeText?, KnownQuery.listedType, hs, Parameters.coerceQueryValue_eq_text_iff.2 (.inl rfl)]
      · rfl
      · intro s h
        cases h
      · intro s h
        cases h
    · intro s t h
      cases h

/-- For every payload that passes the check, and repeats no key (as none that is read does, `Json.distinct_of_readBytes`), a
value is typed alike by the catalogue and by the queries that are served, or ends both requests. The one exception is a
parameter whose type is reported as an alias, and a value that would not stay a text under the type it stands for. -/
theorem coerceQueryValue_served_eq_iff {payload : Json} {d : Introspection} (hp : payload.distinct = true)
    (hd : payload.checkIntrospection = .ok d) (name key value : String) :
    coerceQueryValue value ((d.catalogue name).get? key) =
        coerceQueryValue value ((Query.catalogue d.served name).get? key) ↔
      ∀ s t, d.reported? name key = some (.str s) → aliases.get? s = some (HelixType.text t) →
        t = .scalar .string ∨ t = .scalar .id ∨ ∃ e, HelixType.coerce value t = .error (.conversion e) := by
  have hn := Json.nodup_of_checkIntrospection hp hd
  rw [get?_catalogue hn, get?_catalogue_served hn]
  cases d.reported? name key with
  | none => exact iff_of_true rfl nofun
  | some v =>
    rw [Option.bind_some, Option.map_some, coerceQueryValue_listedType_iff]
    simp only [Option.some.injEq]

/-- The report of a query with one parameter, whose type is spelled in lower case. -/
def agePayload : Json :=
  .obj [("queries", .arr [.obj [("name", .str "getUser"), ("parameters", .obj [("age", .str "i32")])]])]

/-- What is known from that report. -/
def ageKnown : Introspection := ⟨.empty, [⟨"getUser", [("age", .str "i32")]⟩]⟩

theorem checkIntrospection_agePayload : agePayload.checkIntrospection = .ok ageKnown := rfl

/-- A value that is no integer stays a text on both sides, one that is an integer does not. -/
theorem coerceQueryValue_served_age :
    (coerceQueryValue "old" ((ageKnown.catalogue "getUser").get? "age") =
        coerceQueryValue "old" ((Query.catalogue ageKnown.served "getUser").get? "age")) ∧
      coerceQueryValue "5" ((ageKnown.catalogue "getUser").get? "age") ≠
        coerceQueryValue "5" ((Query.catalogue ageKnown.served "getUser").get? "age") := by
  have hd : agePayload.distinct = true := by decide
  have ha : aliases.get? "i32" = some (HelixType.text (.scalar .i32)) := by decide
  have hr : ageKnown.reported? "getUser" "age" = some (.str "i32") := rfl
  constructor
  · refine (coerceQueryValue_served_eq_iff hd checkIntrospection_agePayload "getUser" "age" "old").2 ?_
    intro s t hs ht
    rw [hr] at hs
    cases hs
    rw [ha] at ht
    rw [← HelixType.text_injective (Option.some.inj ht)]
    exact .inr (.inr ⟨_, rfl⟩)
  · intro h
    have := (coerceQueryValue_served_eq_iff hd checkIntrospection_agePayload "getUser" "age" "5").1 h _ _ hr ha
    rcases this with h | h | ⟨e, h⟩
    · cases h
    · cases h
    · cases h

/-- The same value of the same parameter is a text to the catalogue and an integer to the query that is served. -/
theorem coerceQueryValue_i32 :
    agePayload.distinct = true ∧ agePayload.checkIntrospection = .ok ageKnown ∧
      coerceQueryValue "5" ((ageKnown.catalogue "getUser").get? "age") = .ok (.str "5") ∧
        coerceQueryValue "5" ((Query.catalogue ageKnown.served "getUser").get? "age") = .ok (.int 5) := by
  have ha : aliases.get? "i32" = some (HelixType.text (.scalar .i32)) := by decide
  have hc : (ageKnown.catalogue "getUser").get? "age" = some "i32" := by decide
  have hs : (Query.catalogue ageKnown.served "getUser").get? "age" = some (HelixType.normalize "i32") := rfl
  refine ⟨by decide, rfl, ?_, ?_⟩
  · rw [hc]
    simp only [coerceQueryValue, HelixType.parse_of_alias ha]
  · rw [hs, HelixType.normalize_of_alias ha]
    exact Parameters.coerceQueryValue_of_coerce rfl

end Introspection

end HelixGateway
