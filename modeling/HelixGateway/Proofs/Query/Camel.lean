import HelixGateway.Proofs.Query.Slug

/-!
# Slugs of names in camel case

A name in camel case is ASCII, has no hyphen, and no capital at its beginning. Its slug says where each of its capitals
stood: `camel` writes the letter behind a hyphen as a capital, and has the name back. So names in camel case have slugs of
their own, and among queries with such names each path is resolved to the query that it comes from. A name may be the slug of
another one only if that has no capitals, and then it is the same name.

Main statements: `camel_kebab`, `resolve_slug_of_camelName`.
-/

namespace HelixGateway

namespace Text

/-- Writes each hyphen and the letter behind it as a capital. -/
def camel : List Char → List Char
  | [] => []
  | '-' :: c :: s => c.toUpper :: camel s
  | c :: s => c :: camel s

/-- A character behind a hyphen is put in upper case, and the hyphen is dropped. -/
theorem camel_hyphen (c : Char) (s : List Char) : camel ('-' :: c :: s) = c.toUpper :: camel s := by
  rw [camel]

theorem camel_cons_of_ne {c : Char} (hc : c ≠ '-') (s : List Char) : camel (c :: s) = c :: camel s := by
  rw [camel]
  rintro _ _ rfl
  exact absurd rfl hc

/-- An ASCII capital is put back by upper case. -/
theorem toUpper_toLower_of_isUpper {c : Char} (h : isAscii c = true) (hu : isUpper c = true) : c.toLower.toUpper = c :=
  forall_isAscii (p := fun c => isUpper c = true → c.toLower.toUpper = c) (by decide) h hu

/-- What is written for a character is read back as it, and what follows is read on its own. -/
theorem camel_kebabChar_append {c : Char} (h : isAscii c = true) (hc : c ≠ '-') (s : List Char) :
    camel (kebabChar c ++ s) = c :: camel s := by
  rw [kebabChar_of_isAscii h]
  cases hu : isUpper c with
  | true =>
    rw [if_pos rfl, List.cons_append, List.singleton_append, camel_hyphen, toUpper_toLower_of_isUpper h hu]
  | false =>
    rw [if_neg (by decide), toLower_of_not_isUpper h hu, List.singleton_append, camel_cons_of_ne hc]

/-- A name is read back from its kebab case. -/
theorem camel_kebab {s : List Char} (hs : ∀ c ∈ s, isAscii c = true) (hh : '-' ∉ s)
    (hu : ∀ c ∈ s.head?, isUpper c = false) : camel (kebab s) = s := by
  rw [kebab_eq_flatMap hu]
  clear hu
  induction s with
  | nil => rfl
  | cons c s ih =>
    rw [List.mem_cons, not_or] at hh
    rw [List.flatMap_cons, camel_kebabChar_append (hs c (by simp)) (Ne.symm hh.1),
      ih (fun d hd => hs d (List.mem_cons_of_mem _ hd)) hh.2]

end Text

namespace Query

open Text

/-- A name in camel case. It may be empty. -/
structure CamelName (name : String) : Prop where
  ascii : ∀ c ∈ name.toList, isAscii c = true
  noHyphen : '-' ∉ name.toList
  start : ∀ c ∈ name.toList.head?, isUpper c = false

/-- Whether a name is in camel case can be decided. -/
theorem camelName_iff {name : String} :
    CamelName name ↔
      name.toList.all isAscii = true ∧ '-' ∉ name.toList ∧ name.toList.head?.all (fun c => !isUpper c) = true := by
  rw [List.all_eq_true, Option.all_eq_true]
  simp only [Bool.not_eq_true']
  exact ⟨fun h => ⟨h.ascii, h.noHyphen, h.start⟩, fun ⟨ha, hh, hu⟩ => ⟨ha, hh, hu⟩⟩

instance (name : String) : Decidable (CamelName name) := decidable_of_iff _ camelName_iff.symm

section CamelName

variable {a b : String}

/-- A name in camel case is got back from its slug. -/
theorem camel_slug (h : CamelName a) : String.ofList (camel (slug a).toList) = a := by
  rw [toList_slug, camel_kebab h.ascii h.noHyphen h.start, String.ofList_toList]

/-- Names in camel case with one slug are the same. -/
theorem eq_of_slug_eq (ha : CamelName a) (hb : CamelName b) (h : slug a = slug b) : a = b := by
  rw [← camel_slug ha, h, camel_slug hb]

/-- A slug without hyphens is the name that it comes from. -/
theorem slug_eq_self_of_hyphen_not_mem (h : CamelName a) (hh : '-' ∉ (slug a).toList) : slug a = a := by
  have hu : ∀ c ∈ a.toList, isUpper c = false := by
    rw [toList_slug] at hh
    have hstart := h.start
    have hascii := h.ascii
    have hyphen := h.noHyphen
    cases hl : a.toList with
    | nil => exact nofun
    | cons c s =>
      rw [hl] at hh hstart hascii hyphen
      rw [hyphen_mem_kebab_iff hascii hyphen] at hh
      intro d hd
      rcases List.mem_cons.1 hd with rfl | hd
      · exact hstart d rfl
      · exact Bool.eq_false_iff.2 fun hd' => hh ⟨d, hd, hd'⟩
  rw [slug, kebab_of_not_isUpper h.ascii hu, String.ofList_toList]

/-- No name is the slug of another one. -/
theorem eq_of_eq_slug (ha : CamelName a) (hb : CamelName b) (h : b = slug a) : b = a := by
  rw [h]
  exact slug_eq_self_of_hyphen_not_mem ha (h ▸ hb.noHyphen)

end CamelName

/-- Among queries whose names are in camel case and distinct, the slug of each of them is resolved to it, with its path
parameters bound to the segments in order. Two names in camel case that have the same slug are the same. -/
theorem resolve_slug_of_camelName :
    (∀ qs : List Query, (∀ q ∈ qs, CamelName q.name) → (qs.map (·.name)).Nodup → ∀ q ∈ qs, ∀ segments : List String,
      segments.length = q.pathParameters.length →
        ∃ values, resolve qs (slug q.name) segments = some (q, values) ∧
          ((q.pathParameters.map (·.name)).Nodup →
            values.entries = (q.pathParameters.map (·.name)).zip segments)) ∧
      ∀ a b : String, CamelName a → CamelName b → slug a = slug b → a = b := by
  refine ⟨?_, fun a b => eq_of_slug_eq⟩
  intro qs hn hd q hq segments hl
  refine ⟨q.bind segments, resolve_of_unique hq hl.symm fun r hr h => ?_, fun hp => entries_bind hp hl.symm⟩
  have hname : r.name = q.name := by
    rcases h with h | h
    · exact eq_of_slug_eq (hn r hr) (hn q hq) h
    · exact eq_of_eq_slug (hn q hq) (hn r hr) h
  exact List.inj_on_of_nodup_map hd hr hq hname

def getPost : Query := derived "getPost" [⟨"user_id", "ID"⟩, ⟨"page", "I32"⟩, ⟨"post_id", "ID"⟩]

/-- A path with two segments, among queries of which two have names that differ in one capital only. -/
theorem resolve_slug_getPost :
    (∃ values, resolve [derived "getUser" [⟨"id", "ID"⟩], derived "getpost" [], getPost] (slug getPost.name) ["ann", "7"] =
        some (getPost, values) ∧ values.entries = [("user_id", "ann"), ("post_id", "7")]) ∧
      slug "getPost" ≠ slug "getpost" := by
  have hn : ∀ q ∈ [derived "getUser" [⟨"id", "ID"⟩], derived "getpost" [], getPost], CamelName q.name := by decide
  obtain ⟨values, hr, he⟩ :=
    resolve_slug_of_camelName.1 _ hn (by decide) getPost (by simp) ["ann", "7"] (by decide)
  exact ⟨⟨values, hr, he (by decide)⟩,
    fun h => absurd (resolve_slug_of_camelName.2 "getPost" "getpost" (by decide) (by decide) h) (by decide)⟩

end Query

end HelixGateway
