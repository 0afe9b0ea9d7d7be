import HelixGateway.Proofs.Json.Bytes
import HelixGateway.Proofs.Json.Equality
import HelixGateway.Proofs.Json.Distinct
import HelixGateway.Proofs.Service.Derived

/-!
# Which parameter counts

The parameters of a request come from its body and from its query string, those of a derived path from the segments of the
path as well. The body is the seed of what is posted: what it holds is posted as it is and first. What else is posted are the
parameters of the query string, each of them typed by the catalogue; nothing else in the catalogue matters. On a derived
path a segment counts as a parameter of the query string that replaces one of its name.

Main statements: `Parameters.merge_eq_ok_iff`, `Parameters.merge_congr`, `Parameters.Merged.unique`,
`Service.merge_precedence`.
-/

namespace HelixGateway

/-- Entries are known from their keys, in order, and from the value of each key, where no key repeats. -/
theorem Entries.ext_get? {α : Type} {es fs : Entries α} (hd : es.keys.Nodup) (hk : es.keys = fs.keys)
    (hv : ∀ k ∈ es.keys, es.get? k = fs.get? k) : es = fs := by
  calc es = es.keys.filterMap fun k => (es.get? k).map (k, ·) := (filterMap_get?_keys hd fun _ he => he).symm
    _ = es.keys.filterMap fun k => (fs.get? k).map (k, ·) := List.filterMap_congr fun k hm => by rw [hv k hm]
    _ = fs.keys.filterMap fun k => (fs.get? k).map (k, ·) := by rw [hk]
    _ = fs := filterMap_get?_keys (hk ▸ hd) fun _ he => he

namespace Parameters

variable {body : Option Json} {seed posted : Entries Json} {values query catalogue : OrdMap String}

/-! ## The seed -/

/-- What a body brings: its fields if it is an object, itself under the key `body` if it is another value that is not null,
and nothing if there is no body or if it is null. -/
inductive Seeds : Option Json → Entries Json → Prop
  | absent : Seeds none []
  | null : Seeds (some .null) []
  | object (fields : Entries Json) : Seeds (some (.obj fields)) fields
  | wrapped (v : Json) (hn : v ≠ .null) (ho : ∀ fields, v ≠ .obj fields) : Seeds (some v) [("body", v)]

/-- The seed of a body is what the service makes of it. -/
theorem Seeds.ofBody_eq (h : Seeds body seed) : ofBody body = seed := by
  cases h with
  | absent | null | object => rfl
  | wrapped v hn ho =>
    cases v with
    | null => exact absurd rfl hn
    | obj fields => exact absurd rfl (ho fields)
    | bool | int | real | str | arr => rfl

/-- No key repeats in what a body brings, if none repeats in an object of the body. -/
theorem Seeds.nodup_keys (h : Seeds body seed) (hd : ∀ v, body = some v → v.distinct = true) : seed.keys.Nodup := by
  cases h with
  | absent | null => exact List.nodup_nil
  | object => exact (Json.distinct_obj_iff.1 (hd _ rfl)).1
  | wrapped v => exact List.nodup_singleton _

/-! ## What is posted -/

/-- The key has the value that a text is read as. -/
def Reads (catalogue : OrdMap String) (posted : Entries Json) (k value : String) : Prop :=
  ∃ v, posted.get? k = some v ∧ coerceQueryValue value (catalogue.get? k) = .ok v

/-- What is posted for a seed and a query string: the seed as it is, then the parameters of the query string that it does not
have, each of them typed. -/
structure Merged (seed : Entries Json) (query catalogue : OrdMap String) (posted : Entries Json) : Prop where
  keys : posted.keys = seed.keys ++ query.keys.filter (· ∉ seed.keys)
  once : posted.keys.Nodup
  seeded : ∀ k ∈ seed.keys, posted.get? k = seed.get? k
  typed : ∀ k ∉ seed.keys, ∀ value, query.get? k = some value → Reads catalogue posted k value

/-- A parameter is undecided exactly if the query string has it and the seed does not. -/
theorem mem_undecided_iff {e : String × String} :
    e ∈ undecided seed query ↔ query.get? e.1 = some e.2 ∧ e.1 ∉ seed.keys := by
  rw [undecided, List.mem_filter, OrdMap.get?, Entries.get?_eq_some_iff_mem query.nodup, ← Entries.has_iff]
  simp

/-- The properties of what is posted leave no choice. -/
theorem Merged.unique {other : Entries Json} (h : Merged seed query catalogue posted)
    (ho : Merged seed query catalogue other) : posted = other := by
  refine Entries.ext_get? h.once (h.keys.trans ho.keys.symm) fun k hk => ?_
  by_cases hs : k ∈ seed.keys
  · rw [h.seeded k hs, ho.seeded k hs]
  · have hq : k ∈ query.keys := by
      rw [h.keys, List.mem_append] at hk
      exact List.mem_of_mem_filter (hk.resolve_left hs)
    obtain ⟨value, hvalue⟩ := Option.isSome_iff_exists.1 (Entries.has_iff.2 hq)
    obtain ⟨v, hv, hc⟩ := h.typed k hs value hvalue
    obtain ⟨w, hw, hcw⟩ := ho.typed k hs value hvalue
    rw [hc, Except.ok.injEq] at hcw
    rw [hv, hw, hcw]

/-- Merged parameters are the seed, and the typed parameters behind it. -/
theorem merged_of_merge (hs : Seeds body seed) (hd : seed.keys.Nodup) (h : merge query body catalogue = .ok posted) :
    Merged seed query catalogue posted := by
  obtain rfl := hs.ofBody_eq
  have hkeys : posted.keys = (ofBody body).keys ++ query.keys.filter (· ∉ (ofBody body).keys) := by
    rw [keys_merge h]
    congr 1
    refine List.filter_congr fun k _ => ?_
    simp [← Entries.has_iff]
  refine ⟨hkeys, ?_, ?_, ?_⟩
  · rw [hkeys, List.nodup_append']
    refine ⟨hd, query.nodup.filter _, fun k hk hm => ?_⟩
    exact of_decide_eq_true (List.mem_filter.1 hm).2 hk
  · intro k hk
    obtain ⟨vs, -, rfl⟩ := map_eq_ok h
    obtain ⟨v, hv⟩ := Option.isSome_iff_exists.1 (Entries.has_iff.2 hk)
    rw [Entries.get?_append, hv]
    rfl
  · intro k hk value hvalue
    exact get?_merge h (k, value) (mem_undecided_iff.2 ⟨hvalue, hk⟩)

/-- A query string is read if each of its values is. -/
theorem exists_typed {es : Entries String} (h : ∀ e ∈ es, ∃ v, coerceQueryValue e.2 (catalogue.get? e.1) = .ok v) :
    ∃ vs, typed catalogue es = .ok vs := by
  induction es with
  | nil => exact ⟨[], rfl⟩
  | cons e es ih =>
    obtain ⟨k, value⟩ := e
    obtain ⟨⟨v, hv⟩, h⟩ := List.forall_mem_cons.1 h
    obtain ⟨vs, hvs⟩ := ih h
    exact ⟨(k, v) :: vs, by simp only [typed, hv, hvs, Except.map]⟩

/-- The parameters of a request are what its seed and its query string determine, and are there if each value of the query
string that counts is read. -/
theorem merge_eq_ok_iff (hs : Seeds body seed) (hd : seed.keys.Nodup) :
    merge query body catalogue = .ok posted ↔ Merged seed query catalogue posted := by
  refine ⟨merged_of_merge hs hd, fun h => ?_⟩
  have hread : ∀ e ∈ undecided (ofBody body) query, ∃ v, coerceQueryValue e.2 (catalogue.get? e.1) = .ok v := by
    intro e he
    rw [hs.ofBody_eq, mem_undecided_iff] at he
    obtain ⟨v, -, hc⟩ := h.typed e.1 he.2 e.2 he.1
    exact ⟨v, hc⟩
  obtain ⟨vs, hvs⟩ := exists_typed hread
  have hm : merge query body catalogue = .ok (ofBody body ++ vs) := by
    rw [merge, hvs]
    rfl
  rw [hm, (merged_of_merge hs hd hm).unique h]

/-! ## The catalogue -/

/-- Only the types of the parameters that are there count. -/
theorem typed_congr {c c' : OrdMap String} {es : Entries String} (h : ∀ e ∈ es, c.get? e.1 = c'.get? e.1) :
    typed c es = typed c' es := by
  induction es with
  | nil => rfl
  | cons e es ih =>
    obtain ⟨k, value⟩ := e
    obtain ⟨hk, h⟩ := List.forall_mem_cons.1 h
    simp only [typed, hk, ih h]

/-- Of a catalogue only the types of the parameters that are read from the query string count. -/
theorem merge_congr {c c' : OrdMap String} (hs : Seeds body seed)
    (h : ∀ k ∈ query.keys, k ∉ seed.keys → c.get? k = c'.get? k) : merge query body c = merge query body c' := by
  have hc : ∀ e ∈ undecided (ofBody body) query, c.get? e.1 = c'.get? e.1 := by
    intro e he
    rw [hs.ofBody_eq, mem_undecided_iff] at he
    exact h e.1 (List.mem_map_of_mem (Entries.mem_of_get?_eq_some he.1)) he.2
  rw [merge, merge, typed_congr hc]

/-! ## Segments of a path -/

/-- What is posted for a seed, the values of a path and a query string: nothing but their parameters, and of the sources that
have a parameter the seed counts first, the path next, and the query string last. -/
structure Layered (seed : Entries Json) (values query catalogue : OrdMap String) (posted : Entries Json) : Prop where
  mem_keys : ∀ k, k ∈ posted.keys ↔ k ∈ seed.keys ∨ k ∈ values.keys ∨ k ∈ query.keys
  seeded : ∀ k ∈ seed.keys, posted.get? k = seed.get? k
  path : ∀ k ∉ seed.keys, ∀ value, values.get? k = some value → Reads catalogue posted k value
  query : ∀ k ∉ seed.keys, k ∉ values.keys → ∀ value, query.get? k = some value → Reads catalogue posted k value

/-- Parameters that are merged with the values of the path are layered. -/
theorem Merged.layered (h : Merged seed (query.insertAll values) catalogue posted) :
    Layered seed values query catalogue posted where
  mem_keys k := by
    have hk : k ∈ (query.insertAll values).keys ↔ k ∈ query.keys ∨ k ∈ values.keys := Entries.mem_keys_insertAll
    rw [h.keys, List.mem_append, List.mem_filter, hk, decide_eq_true_eq, or_comm (a := k ∈ values.keys)]
    by_cases hs : k ∈ seed.keys <;> simp [hs]
  seeded := h.seeded
  path k hk value hvalue := h.typed k hk value (by rw [OrdMap.get?_insertAll, hvalue]; rfl)
  query k hk hn value hvalue := by
    have hv : values.get? k = none := Entries.get?_eq_none_iff.2 hn
    exact h.typed k hk value (by rw [OrdMap.get?_insertAll, hv, hvalue]; rfl)

end Parameters

namespace Service

open Parameters (Layered Merged Seeds merge)

/-- No key repeats in what the body of a request brings. -/
theorem nodup_keys_of_seeds_bodyOf {r : WebRequest} {body : Option Json} (hb : bodyOf r = .ok body) {seed : Entries Json}
    (h : Seeds body seed) : seed.keys.Nodup := by
  refine h.nodup_keys fun v hv => ?_
  subst hv
  unfold bodyOf at hb
  split at hb
  · cases hb
  · split at hb
    · rename_i w hr
      obtain ⟨x, hx, hxv⟩ := map_eq_ok hb
      cases hxv
      rw [Client.sendable_eq_ok_iff.1 hx] at hr
      exact Json.distinct_of_readBytes hr
    · cases hb

/-- For every body, and the seed that it brings, in which no key repeats:

1. What is posted with a query string is what `Merged` says of it, and nothing else is.
2. A catalogue counts only by the types of those parameters of the query string that the seed does not have.
3. On a derived path the seed counts before the values of the path, and these before the query string, and this is what the
   service posts. -/
theorem merge_precedence {body : Option Json} {seed : Entries Json} (hs : Seeds body seed) (hd : seed.keys.Nodup) :
    (∀ query catalogue posted, merge query body catalogue = .ok posted ↔ Merged seed query catalogue posted) ∧
    (∀ query catalogue other : OrdMap String,
      (∀ k ∈ query.keys, k ∉ seed.keys → catalogue.get? k = other.get? k) →
        merge query body catalogue = merge query body other) ∧
    ∀ (s : Service) (r : WebRequest) (slug rest : List Char) (b : Backend) (t t' : Trace) (queries : List Query) (q : Query)
        (values : OrdMap String) (posted : Entries Json),
      bodyOf r = .ok body → s.metadata.queries b t = (.ok queries, t') →
      Query.resolve queries (String.ofList slug) (segments rest) = some (q, values) →
      merge (r.parameters.insertAll values) body (Query.catalogue queries q.name) = .ok posted →
        Layered seed values r.parameters (Query.catalogue queries q.name) posted ∧
        ∃ logs, s.answerDerived r slug rest b t = s.runQuery q.name posted b ⟨t'.sent, logs⟩ := by
  refine ⟨fun _ _ _ => Parameters.merge_eq_ok_iff hs hd, fun _ _ _ => Parameters.merge_congr hs, ?_⟩
  intro s r slug rest b t t' queries q values posted hbody hqs hr hm
  exact ⟨(Parameters.merged_of_merge hs hd hm).layered, run_answerDerived hqs hr hbody hm⟩

/-- A request for the page of a post, with an identifier in its query string and a page in its body besides. -/
def layeredRequest : WebRequest :=
  ⟨"POST", "localhost:8000", "/api/query/get-post/ann/7".toList, "id=bob&q=2".toList, [],
    Text.Utf8.encode "\x7b\"page_id\": 9\x7d".toList⟩

/-- The parameter that the body holds. -/
def pageBody : Option Json := some (.obj [("page_id", .int 9)])

theorem bodyOf_layeredRequest : bodyOf layeredRequest = .ok pageBody := by
  have hread : Json.readBytes layeredRequest.body = .ok ⟨.obj [("page_id", .int 9)], true⟩ :=
    (Json.readBytes_encode (by decide +kernel)).trans (by decide +kernel)
  rw [bodyOf, if_neg (by decide), hread]
  rfl

theorem parameters_layeredRequest : layeredRequest.parameters = .ofEntries [("id", "bob"), ("q", "2")] := by
  decide +kernel

/-- The body decides the page, the path the identity, and the query string what is left. -/
theorem merge_layeredRequest :
    merge (layeredRequest.parameters.insertAll pagedValues) pageBody
      (Query.catalogue [pagedPost] pagedPost.name) =
        .ok [("page_id", .int 9), ("id", .str "ann"), ("q", .str "2")] := by
  have hu : Parameters.undecided [("page_id", .int 9)] (layeredRequest.parameters.insertAll pagedValues) =
      [("id", "ann"), ("q", "2")] := by
    rw [parameters_layeredRequest]
    rfl
  have hid : (Query.catalogue [pagedPost] pagedPost.name).get? "id" = some "ID" := by decide
  have hq : (Query.catalogue [pagedPost] pagedPost.name).get? "q" = none := by decide
  rw [merge, pageBody, Parameters.ofBody, hu]
  simp only [Parameters.typed, hid, hq, coerceQueryValue_id]
  rfl

/-- The page is that of the body and not of the path, the identifier that of the path and not of the query string. -/
theorem merge_precedence_layeredRequest :
    Merged [("page_id", .int 9)] (layeredRequest.parameters.insertAll pagedValues)
      (Query.catalogue [pagedPost] pagedPost.name) [("page_id", .int 9), ("id", .str "ann"), ("q", .str "2")] ∧
    ∀ b,
      Layered [("page_id", .int 9)] pagedValues layeredRequest.parameters (Query.catalogue [pagedPost] pagedPost.name)
        [("page_id", .int 9), ("id", .str "ann"), ("q", .str "2")] ∧
      ∃ logs, pagedService.answerDerived layeredRequest "get-post".toList "ann/7".toList b .empty =
        pagedService.runQuery "getPost" [("page_id", .int 9), ("id", .str "ann"), ("q", .str "2")] b ⟨[], logs⟩ := by
  have hs : Seeds pageBody [("page_id", .int 9)] := .object _
  have hr : Query.resolve [pagedPost] (String.ofList "get-post".toList) (segments "ann/7".toList) =
      some (pagedPost, pagedValues) := by
    decide
  obtain ⟨hmerged, -, hderived⟩ := merge_precedence hs (nodup_keys_of_seeds_bodyOf bodyOf_layeredRequest hs)
  refine ⟨(hmerged _ _ _).1 merge_layeredRequest, fun b => ?_⟩
  obtain ⟨logs, hqs⟩ := Metadata.run_queries_local rfl loadQueries_pagedService b .empty
  exact hderived pagedService layeredRequest _ _ b .empty _ _ _ _ _ bodyOf_layeredRequest hqs hr
    merge_layeredRequest

/-- A body that counts as false is posted all the same, and before a parameter of the query string that has its key. -/
example :
    merge (.ofEntries [("body", "x"), ("c", "7")]) (some (.int 0)) .empty = .ok [("body", .int 0), ("c", .str "7")] := by
  rfl

end Service

end HelixGateway
