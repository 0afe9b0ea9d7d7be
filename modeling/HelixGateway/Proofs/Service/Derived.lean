import HelixGateway.Proofs.Parameters.Typing
import HelixGateway.Proofs.Service.Run
import Mathlib.Data.List.Nodup

/-!
# Types on derived paths

A derived path is resolved to a query by its slug and the number of its segments. What is posted to that query is typed by
the catalogue of its name, and so by the first query of that name. Where no name repeats this is the query itself; where one
does, a value may be typed by another query than the one that its path stands for (`answerDerived_shadowed`).

Main statement: `typedBy_resolved_iff`.
-/

namespace HelixGateway

/-! ## Declared types -/

namespace Query

variable {queries : List Query} {q f : Query}

/-- The type that a query declares for a parameter, the last one if the parameter repeats. -/
def declared? (q : Query) (k : String) : Option String := (q.parameters.reverse.find? (·.name = k)).map (·.type)

/-- The type of a parameter is the declared one. -/
theorem get?_types (q : Query) (k : String) : q.types.get? k = q.declared? k := by
  rw [types, OrdMap.get?_ofEntries, ← List.map_reverse, Entries.get?_eq_find?, List.find?_map, Option.map_map]
  rfl

/-- The types of a name are those of the first query that has it. -/
theorem get?_catalogue {name : String} (hf : queries.find? (·.name = name) = some f) (k : String) :
    (catalogue queries name).get? k = f.declared? k := by
  rw [catalogue, hf]
  exact get?_types f k

/-- There is a first query with the name of any query. -/
theorem exists_first_of_mem (hq : q ∈ queries) : ∃ f, queries.find? (·.name = q.name) = some f := by
  rw [← Option.isSome_iff_exists, List.find?_isSome]
  exact ⟨q, hq, decide_eq_true rfl⟩

/-- The first query of a name is the only one, if no name repeats. -/
theorem first_eq_of_nodup (hd : (queries.map (·.name)).Nodup) (hq : q ∈ queries)
    (hf : queries.find? (·.name = q.name) = some f) : f = q :=
  List.inj_on_of_nodup_map hd (List.mem_of_find?_eq_some hf) hq (by simpa using List.find?_some hf)

end Query

/-! ## Posted values -/

namespace Parameters

variable {catalogue raw : OrdMap String} {body : Option Json} {posted : Entries Json}

/-- Each entry is typed on its own. -/
theorem get?_typed {es : Entries String} (hd : es.keys.Nodup) {vs : Entries Json} (h : typed catalogue es = .ok vs) :
    ∀ e ∈ es, ∃ v, vs.get? e.1 = some v ∧ coerceQueryValue e.2 (catalogue.get? e.1) = .ok v := by
  induction es generalizing vs with
  | nil => exact nofun
  | cons e es ih =>
    obtain ⟨k, value⟩ := e
    rw [Entries.keys_cons, List.nodup_cons] at hd
    rw [typed] at h
    split at h
    · cases h
    · rename_i v hv
      obtain ⟨ws, hws, rfl⟩ := map_eq_ok h
      refine List.forall_mem_cons.2 ⟨⟨v, by simp [Entries.get?], hv⟩, fun e he => ?_⟩
      obtain ⟨w, hw, hc⟩ := ih hd.2 hws e he
      have hk : k ≠ e.1 := by
        rintro rfl
        exact hd.1 (List.mem_map_of_mem he)
      exact ⟨w, by rw [Entries.get?, if_neg hk, hw], hc⟩

/-- What is undecided has no value in the seed. -/
theorem has_of_mem_undecided {seed : Entries Json} {e : String × String} (he : e ∈ undecided seed raw) :
    seed.get? e.1 = none := by
  have := (List.mem_filter.1 he).2
  simpa [Entries.has] using this

/-- What is undecided does not repeat. -/
theorem nodup_undecided (seed : Entries Json) (raw : OrdMap String) : (Entries.keys (undecided seed raw)).Nodup :=
  raw.nodup.sublist (List.filter_sublist.map Prod.fst)

/-- Each value that the body does not decide is posted as its type in the catalogue says. -/
theorem get?_merge (h : merge raw body catalogue = .ok posted) :
    ∀ e ∈ undecided (ofBody body) raw,
      ∃ v, posted.get? e.1 = some v ∧ coerceQueryValue e.2 (catalogue.get? e.1) = .ok v := by
  obtain ⟨vs, hvs, rfl⟩ := map_eq_ok h
  intro e he
  obtain ⟨v, hv, hc⟩ := get?_typed (nodup_undecided _ raw) hvs e he
  exact ⟨v, by rw [Entries.get?_append, has_of_mem_undecided he, hv]; rfl, hc⟩

/-- The values that the body does not decide are posted as the declarations of a query say. -/
def TypedBy (q : Query) (raw : OrdMap String) (body : Option Json) (posted : Entries Json) : Prop :=
  ∀ e ∈ undecided (ofBody body) raw, ∃ v, posted.get? e.1 = some v ∧ coerceQueryValue e.2 (q.declared? e.1) = .ok v

/-- What is typed by one query is typed by another one if both type each of the values alike. -/
theorem typedBy_iff {f q : Query} (hf : TypedBy f raw body posted) :
    TypedBy q raw body posted ↔
      ∀ e ∈ undecided (ofBody body) raw,
        coerceQueryValue e.2 (q.declared? e.1) = coerceQueryValue e.2 (f.declared? e.1) := by
  constructor
  · intro hq e he
    obtain ⟨v, hv, hc⟩ := hf e he
    obtain ⟨w, hw, hcw⟩ := hq e he
    rw [hv, Option.some.injEq] at hw
    rw [hc, hcw, hw]
  · intro h e he
    rw [h e he]
    exact hf e he

end Parameters

namespace Service

open Parameters (TypedBy coerceQueryValue merge ofBody undecided)

/-- For all queries, every path that is resolved to one of them, `q`, and the first query of its name, `f`:

1. What a request posts is typed by `f`, and `f` is `q` if no name repeats.
2. It is typed by `q` just if `q` types each of the values as `f` does.
3. It is what a service with these queries posts when it answers the request. -/
theorem typedBy_resolved_iff {queries : List Query} {slug : String} {path : List String} {q : Query}
    {values : OrdMap String} (hr : Query.resolve queries slug path = some (q, values)) (query : OrdMap String)
    (body : Option Json) :
    ∃ f, queries.find? (·.name = q.name) = some f ∧ ((queries.map (·.name)).Nodup → f = q) ∧
      ∀ posted, merge (query.insertAll values) body (Query.catalogue queries q.name) = .ok posted →
        TypedBy f (query.insertAll values) body posted ∧
        (TypedBy q (query.insertAll values) body posted ↔
          ∀ e ∈ undecided (ofBody body) (query.insertAll values),
            coerceQueryValue e.2 (q.declared? e.1) = coerceQueryValue e.2 (f.declared? e.1)) ∧
        ∀ (s : Service) (r : WebRequest) (rest : List Char) (b : Backend) (t t' : Trace),
          s.metadata.queries b t = (.ok queries, t') → segments rest = path → r.parameters = query →
            bodyOf r = .ok body →
            ∃ logs, s.answerDerived r slug.toList rest b t = s.runQuery q.name posted b ⟨t'.sent, logs⟩ := by
  have hq := Query.mem_of_resolve hr
  obtain ⟨f, hf⟩ := Query.exists_first_of_mem hq
  refine ⟨f, hf, fun hd => Query.first_eq_of_nodup hd hq hf, fun posted hm => ?_⟩
  have htyped : TypedBy f (query.insertAll values) body posted := by
    intro e he
    rw [← Query.get?_catalogue hf]
    exact Parameters.get?_merge hm e he
  refine ⟨htyped, Parameters.typedBy_iff htyped, ?_⟩
  rintro s r rest b t t' hqs rfl rfl hbody
  exact run_answerDerived hqs (by rwa [String.ofList_toList]) hbody hm

def plainPost : Query := .derived "getPost" [⟨"id", "ID"⟩]

def pagedPost : Query := .derived "getPost" [⟨"id", "ID"⟩, ⟨"page_id", "I32"⟩]

def pagedValues : OrdMap String := .ofEntries [("id", "ann"), ("page_id", "7")]

/-- A value of the type of identities stays a text. -/
theorem coerceQueryValue_id (value : String) : coerceQueryValue value (some "ID") = .ok (.str value) := by
  have ht : "ID" = HelixType.text (.scalar .id) := by decide
  rw [ht]
  exact Parameters.coerceQueryValue_eq_text_iff.2 (.inr (.inl rfl))

theorem coerceQueryValue_seven : coerceQueryValue "7" (some "I32") = .ok (.int 7) := by
  have ht : "I32" = HelixType.text (.scalar .i32) := by decide
  rw [ht]
  exact Parameters.coerceQueryValue_of_coerce rfl

/-- On that path the identity is posted as a text, and the page as the catalogue types it. -/
theorem merge_pagedValues {catalogue : OrdMap String} (hid : catalogue.get? "id" = some "ID") {page : Json}
    (hpage : coerceQueryValue "7" (catalogue.get? "page_id") = .ok page) :
    merge (OrdMap.empty.insertAll pagedValues) none catalogue = .ok [("id", .str "ann"), ("page_id", page)] := by
  have hu : undecided (ofBody none) (OrdMap.empty.insertAll pagedValues) = [("id", "ann"), ("page_id", "7")] := rfl
  rw [merge, hu]
  simp only [Parameters.typed, hid, coerceQueryValue_id, hpage]
  rfl

/-- A request for the page of a post. -/
def pageRequest : WebRequest := plainRequest "/api/query/get-post/ann/7" ""

theorem parameters_pageRequest : pageRequest.parameters = .empty := WebRequest.parameters_of_query_nil rfl

theorem bodyOf_pageRequest : bodyOf pageRequest = .ok none := bodyOf_of_nil rfl

def pagedService : Service := fileService "QUERY getPost (id: ID, page_id: I32) => Post\n"

theorem loadQueries_pagedService :
    pagedService.metadata.disk.loadQueries pagedService.metadata.queriesPath = .ok (.ok [pagedPost]) := by
  decide +kernel

/-- A service with two queries of one name. -/
def shadowedService : Service :=
  fileService "QUERY getPost (id: ID) => Post\nQUERY getPost (id: ID, page_id: I32) => Post\n"

theorem loadQueries_shadowedService :
    shadowedService.metadata.disk.loadQueries shadowedService.metadata.queriesPath = .ok (.ok [plainPost, pagedPost]) := by
  decide +kernel

/-- A query with a name of its own types both of its path parameters. -/
theorem typedBy_resolved_pagedPost :
    TypedBy pagedPost (OrdMap.empty.insertAll pagedValues) none [("id", .str "ann"), ("page_id", .int 7)] ∧
      ∀ b, ∃ logs, pagedService.answerDerived pageRequest "get-post".toList "ann/7".toList b .empty =
        pagedService.runQuery "getPost" [("id", .str "ann"), ("page_id", .int 7)] b ⟨[], logs⟩ := by
  have hr : Query.resolve [pagedPost] "get-post" ["ann", "7"] = some (pagedPost, pagedValues) := by decide
  have hpage : (Query.catalogue [pagedPost] pagedPost.name).get? "page_id" = some "I32" := by decide
  have hm := merge_pagedValues (show (Query.catalogue [pagedPost] pagedPost.name).get? "id" = some "ID" by decide)
    (hpage.symm ▸ coerceQueryValue_seven)
  obtain ⟨f, -, hf, h⟩ := typedBy_resolved_iff hr .empty none
  obtain rfl := hf (by decide)
  obtain ⟨ht, -, hrun⟩ := h _ hm
  refine ⟨ht, fun b => ?_⟩
  obtain ⟨logs, hqs⟩ := Metadata.run_queries_local rfl loadQueries_pagedService b .empty
  exact hrun _ pageRequest _ b .empty _ hqs (by decide) parameters_pageRequest bodyOf_pageRequest

/-- A path is resolved to the second query of a name and posted to it, but the first one does not declare its last parameter:
an integer is posted as a text. -/
theorem answerDerived_shadowed :
    Query.resolve [plainPost, pagedPost] "get-post" ["ann", "7"] = some (pagedPost, pagedValues) ∧
      coerceQueryValue "7" (pagedPost.declared? "page_id") = .ok (.int 7) ∧
      ∀ b, ∃ logs, shadowedService.answerDerived pageRequest "get-post".toList "ann/7".toList b .empty =
        shadowedService.runQuery "getPost" [("id", .str "ann"), ("page_id", .str "7")] b ⟨[], logs⟩ := by
  refine ⟨by decide, coerceQueryValue_seven, fun b => ?_⟩
  have hr : Query.resolve [plainPost, pagedPost] (String.ofList "get-post".toList) (segments "ann/7".toList) =
      some (pagedPost, pagedValues) := by
    decide
  have hpage : (Query.catalogue [plainPost, pagedPost] pagedPost.name).get? "page_id" = none := by decide
  have hm : merge (pageRequest.parameters.insertAll pagedValues) none
      (Query.catalogue [plainPost, pagedPost] pagedPost.name) = .ok [("id", .str "ann"), ("page_id", .str "7")] := by
    rw [parameters_pageRequest]
    exact merge_pagedValues (by decide) (hpage.symm ▸ rfl)
  obtain ⟨logs, hqs⟩ := Metadata.run_queries_local rfl loadQueries_shadowedService b .empty
  exact run_answerDerived hqs hr bodyOf_pageRequest hm

end Service

end HelixGateway
