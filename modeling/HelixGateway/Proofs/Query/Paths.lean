import HelixGateway.Proofs.Query.Slug
import HelixGateway.Proofs.Text.Separator
import HelixGateway.Service

/-!
# Paths of queries

A declared query is listed with a path that has a placeholder for each path parameter. With segments in the place of the
placeholders the path has a route, and the route gives back the slug and the segments.

Main statements: `path_of_mem_parse`, `ofPath?_pathWith_flat`, `ofPath?_pathWith_derived`.
-/

namespace HelixGateway

/-! ## Routes below the root of queries -/

namespace Route

/-- A final line feed is never that of the root. -/
theorem dropFinalNewline_queryRoot (s : List Char) : ∃ t, Text.dropFinalNewline (queryRoot ++ s) = queryRoot ++ t := by
  cases h : Text.beforeSuffix? ['\n'] (queryRoot ++ s) with
  | none => exact ⟨s, by rw [Text.dropFinalNewline, h, Option.getD_none]⟩
  | some r =>
    have hr := Text.beforeSuffix?_eq_some_iff.1 h
    have hs : s ≠ [] := by
      rintro rfl
      have hl := congrArg List.getLast? hr
      rw [List.append_nil, List.getLast?_concat] at hl
      exact absurd hl (by decide)
    refine ⟨s.dropLast, ?_⟩
    rw [Text.dropFinalNewline, h, Option.getD_some]
    have hd := congrArg List.dropLast hr
    rw [List.dropLast_concat, List.dropLast_append_of_ne_nil hs] at hd
    exact hd.symm

/-- No other route lies below the root of queries. -/
theorem ofPath?_queryRoot (s : List Char) : ofPath? (queryRoot ++ s) = ofQueryPath? s := by
  obtain ⟨t, ht⟩ := dropFinalNewline_queryRoot s
  have hf : fixed.find? (fun r => r.1.toList = Text.dropFinalNewline (queryRoot ++ s)) = none := by
    rw [List.find?_eq_none]
    intro r hr
    have hn : ∀ r ∈ fixed, Text.afterPrefix? queryRoot r.1.toList = none := by decide
    rw [ht, decide_eq_true_eq]
    intro he
    have := hn r hr
    rw [he, Text.afterPrefix?_append] at this
    cases this
  simp only [ofPath?, hf, Text.afterPrefix?_append, Option.bind_some]

end Route

/-! ## Paths -/

namespace Query

open Route (queryRoot)
open Text (join)

/-- The path of a query with a segment in the place of each path parameter. -/
def pathWith (q : Query) (segment : String → String) : String :=
  pathRoot ++ "/" ++ slug q.name ++ String.join (q.pathParameters.map fun p => "/" ++ segment p.name)

/-- The segments of a path, in order. -/
def segmentsOf (q : Query) (segment : String → String) : List String := q.pathParameters.map fun p => segment p.name

/-- The listed path of a query has its parameters' names in braces as segments. -/
theorem pathFor_eq (name : String) (parameters : List Parameter) :
    pathFor name parameters = (derived name parameters).pathWith fun n => "\x7b" ++ n ++ "\x7d" := by
  have hb : ∀ n : String, "/\x7b" ++ n ++ "\x7d" = "/" ++ ("\x7b" ++ n ++ "\x7d") := by
    intro n
    rw [← String.append_assoc, ← String.append_assoc]
    rfl
  simp only [pathFor, pathWith, hb]
  rfl

/-- A declared query is listed with its placeholders. -/
theorem path_of_mem_parse {s : List Char} {q : Query} (h : q ∈ parse s) :
    q.path = q.pathWith fun name => "\x7b" ++ name ++ "\x7d" := by
  obtain ⟨line, -, hl⟩ := List.mem_filterMap.1 h
  simp only [parseTrimmed?] at hl
  split at hl
  · obtain ⟨⟨head, rest⟩, -, rfl⟩ := Option.map_eq_some_iff.1 hl
    exact pathFor_eq _ _
  · cases hl

/-- A path is the root, the slug and the segments, each behind a slash. -/
theorem toList_pathWith (q : Query) (segment : String → String) :
    (q.pathWith segment).toList =
      queryRoot ++ ((slug q.name).toList ++ (q.segmentsOf segment).flatMap fun s => '/' :: s.toList) := by
  have hs : ∀ s : String, ("/" ++ s).toList = '/' :: s.toList := fun s => String.toList_append
  rw [pathWith, String.toList_append, String.toList_append, String.toList_join, segmentsOf, List.append_assoc, queryRoot,
    List.flatMap_map, List.flatMap_map]
  simp only [hs]

/-- There is no slash in the slug of a plain name. -/
theorem slash_not_mem_slug {name : String} (h : PlainName name) : '/' ∉ (slug name).toList := by
  intro hm
  rcases (of_mem_slug h hm).1 with h | h
  · exact absurd h (by decide)
  · exact absurd h (by decide)

variable {q : Query} {segment : String → String}

/-- Without path parameters the path names the slug alone. -/
theorem ofPath?_pathWith_flat (h : PlainName q.name) (hp : q.pathParameters = []) :
    Route.ofPath? (q.pathWith segment).toList = some (.query (slug q.name).toList) := by
  rw [toList_pathWith, segmentsOf, hp, List.map_nil, List.flatMap_nil, List.append_nil, Route.ofPath?_queryRoot]
  exact Route.ofQueryPath?_name (slug_toList_ne_nil h) (slash_not_mem_slug h)

/-- Segments behind slashes are segments joined by slashes, behind one. -/
theorem flatMap_slash_cons (s : String) (ss : List String) :
    (s :: ss).flatMap (fun s => '/' :: s.toList) = '/' :: join ['/'] ((s :: ss).map String.toList) := by
  induction ss generalizing s with
  | nil => simp [join]
  | cons t ss ih =>
    rw [List.flatMap_cons, ih t]
    rfl

/-- Segments that can stand between slashes. -/
def Separable (ss : List String) : Prop := ∀ s ∈ ss, s.toList ≠ [] ∧ '/' ∉ s.toList ∧ '\n' ∉ s.toList

/-- Segments that can be told apart are read back from what joins them. -/
theorem segments_join {ss : List String} (hne : ss ≠ []) (h : Separable ss) :
    Service.segments (join ['/'] (ss.map String.toList)) = ss := by
  have hp : Text.pieces (· == '/') (join ['/'] (ss.map String.toList)) = ss.map String.toList := by
    refine Text.pieces_join (by simp [hne]) fun s hs => ?_
    obtain ⟨t, ht, rfl⟩ := List.mem_map.1 hs
    exact (h t ht).2.1
  have hf : (ss.map String.toList).filter (!·.isEmpty) = ss.map String.toList := by
    refine List.filter_eq_self.2 fun s hs => ?_
    obtain ⟨t, ht, rfl⟩ := List.mem_map.1 hs
    simpa using (h t ht).1
  rw [Service.segments, hp, hf, List.map_map]
  simp

/-- There is no line feed in such segments. -/
theorem break_not_mem_join {ss : List String} (h : Separable ss) : '\n' ∉ join ['/'] (ss.map String.toList) := by
  induction ss with
  | nil => exact List.not_mem_nil
  | cons s ss ih =>
    have hs := (h s (by simp)).2.2
    cases ss with
    | nil => exact hs
    | cons t ss =>
      have hj : join ['/'] ((s :: t :: ss).map String.toList) =
          s.toList ++ '/' :: join ['/'] ((t :: ss).map String.toList) := rfl
      rw [hj, List.mem_append, List.mem_cons]
      rintro (hm | hm | hm)
      · exact hs hm
      · cases hm
      · exact ih (fun u hu => h u (List.mem_cons_of_mem _ hu)) hm

/-- With path parameters the path names the slug and the segments behind it. -/
theorem ofPath?_pathWith_derived (h : PlainName q.name) (hp : q.pathParameters ≠ []) (hs : Separable (q.segmentsOf segment)) :
    ∃ rest, Route.ofPath? (q.pathWith segment).toList = some (.derived (slug q.name).toList rest) ∧
      Service.segments rest = q.segmentsOf segment := by
  have hne : q.segmentsOf segment ≠ [] := by simp [segmentsOf, hp]
  have hj := segments_join hne hs
  have hb := break_not_mem_join hs
  rw [toList_pathWith, Route.ofPath?_queryRoot]
  cases hl : q.segmentsOf segment with
  | nil => exact absurd hl hne
  | cons s ss =>
    rw [hl] at hj hb
    rw [flatMap_slash_cons]
    exact ⟨_, Route.ofQueryPath?_derived (slug_toList_ne_nil h) (slash_not_mem_slug h) hb, hj⟩

/-! ## Values of path parameters -/

/-- The bound keys are the path parameters, if there are as many segments. -/
theorem mem_keys_bind {segments : List String} (hl : q.pathParameters.length = segments.length) {k : String} :
    k ∈ (q.bind segments).keys ↔ k ∈ q.pathParameters.map (·.name) := by
  have hz : Entries.keys ((q.pathParameters.map (·.name)).zip segments) = q.pathParameters.map (·.name) :=
    List.map_fst_zip (by simp [hl])
  rw [← hz]
  exact Entries.mem_keys_insertAll.trans (or_iff_right List.not_mem_nil)

/-- What is bound is a segment. -/
theorem of_mem_bind {segments : List String} {e : String × String} (h : e ∈ (q.bind segments).entries) : e.2 ∈ segments := by
  rcases Entries.of_mem_insertAll h with h | h
  · cases h
  · exact (List.of_mem_zip h).2

end Query

end HelixGateway
