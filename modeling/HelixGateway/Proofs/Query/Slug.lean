import HelixGateway.Proofs.Text.NameChar
import HelixGateway.Query.Parser
import Mathlib.Data.List.Nodup

/-!
# Slugs of plain names

A plain name is made of ASCII letters, digits and low lines. Its slug has none but small letters, and a hyphen for each
capital behind the first letter. So the slug of a name whose one capital is its first letter is a plain name itself, and not
the name that it comes from.

Main statements: `hyphen_mem_kebab_iff`, `slug_eq_self_iff`, `resolve_slug`.
-/

namespace HelixGateway

namespace Text

/-- In lower case a character of names is one still. -/
theorem isNameChar_toLower {c : Char} (h : isNameChar c = true) : isNameChar c.toLower = true :=
  forall_isNameChar (p := fun c => isNameChar c.toLower = true) (by decide) h

section Character

variable {c : Char} (h : isAscii c = true)
include h

theorem isUpper_toLower : isUpper c.toLower = false :=
  forall_isAscii (p := fun c => isUpper c.toLower = false) (by decide) h

theorem toLower_of_not_isUpper (hu : isUpper c = false) : c.toLower = c :=
  forall_isAscii (p := fun c => isUpper c = false → c.toLower = c) (by decide) h hu

/-- Only a hyphen is written as one. -/
theorem toLower_eq_hyphen (hh : c.toLower = '-') : c = '-' :=
  forall_isAscii (p := fun c => c.toLower = '-' → c = '-') (by decide) h hh

/-- An ASCII capital becomes a hyphen and its lower case, and any other character its lower case. -/
theorem kebabChar_of_isAscii : kebabChar c = if isUpper c then ['-', c.toLower] else [c.toLower] := by
  rw [kebabChar, lower_of_ascii h]

end Character

section Kebab

variable {s : List Char}

/-- Without a capital at its beginning all of a name is written by one rule. -/
theorem kebab_eq_flatMap (hu : ∀ c ∈ s.head?, isUpper c = false) : kebab s = s.flatMap kebabChar := by
  cases s with
  | nil => rfl
  | cons c s =>
    have hc : isUpper c = false := hu c rfl
    rw [kebab, List.flatMap_cons, kebabChar, hc]
    rfl

/-- The characters of a name in kebab case: small letters, digits, low lines and hyphens. -/
theorem of_mem_kebab (hs : ∀ c ∈ s, isNameChar c = true) {d : Char} (hd : d ∈ kebab s) :
    (isNameChar d = true ∨ d = '-') ∧ isUpper d = false := by
  have hl : ∀ c, isNameChar c = true → (isNameChar c.toLower = true ∨ c.toLower = '-') ∧ isUpper c.toLower = false :=
    fun c hc => ⟨Or.inl (isNameChar_toLower hc), isUpper_toLower (isAscii_of_isNameChar hc)⟩
  cases s with
  | nil => cases hd
  | cons c s =>
    have hc := hs c (by simp)
    rw [kebab, lower_of_ascii (isAscii_of_isNameChar hc), List.singleton_append, List.mem_cons, List.mem_flatMap] at hd
    rcases hd with rfl | ⟨e, he, hd⟩
    · exact hl c hc
    · have hec := hs e (List.mem_cons_of_mem _ he)
      rw [kebabChar_of_isAscii (isAscii_of_isNameChar hec)] at hd
      split at hd
      · rcases List.mem_cons.1 hd with rfl | hd
        · exact ⟨Or.inr rfl, by decide⟩
        · rw [List.mem_singleton.1 hd]
          exact hl e hec
      · rw [List.mem_singleton.1 hd]
        exact hl e hec

/-- Every capital behind the first letter has its hyphen. -/
theorem hyphen_mem_kebab_iff {c : Char} (hs : ∀ d ∈ c :: s, isAscii d = true) (hh : '-' ∉ c :: s) :
    '-' ∈ kebab (c :: s) ↔ ∃ d ∈ s, isUpper d = true := by
  have hne : ∀ d ∈ c :: s, '-' ≠ d.toLower := fun d hd he => hh (toLower_eq_hyphen (hs d hd) he.symm ▸ hd)
  rw [kebab, lower_of_ascii (hs c (by simp)), List.singleton_append, List.mem_cons, List.mem_flatMap]
  constructor
  · rintro (h | ⟨d, hd, h⟩)
    · exact absurd h (hne c (by simp))
    · have hdc := List.mem_cons_of_mem c hd
      rw [kebabChar_of_isAscii (hs d hdc)] at h
      split at h
      · rename_i hu
        exact ⟨d, hd, hu⟩
      · exact absurd (List.mem_singleton.1 h) (hne d hdc)
  · rintro ⟨d, hd, hu⟩
    refine Or.inr ⟨d, hd, ?_⟩
    rw [kebabChar_of_isAscii (hs d (List.mem_cons_of_mem _ hd)), if_pos hu]
    exact List.mem_cons_self

/-- A text without capitals is kept. -/
theorem kebab_of_not_isUpper (hs : ∀ c ∈ s, isAscii c = true) (hu : ∀ c ∈ s, isUpper c = false) : kebab s = s := by
  rw [kebab_eq_flatMap fun c hc => hu c (List.mem_of_head? hc)]
  induction s with
  | nil => rfl
  | cons c s ih =>
    have hc := hs c (by simp)
    have hcu := hu c (by simp)
    rw [List.flatMap_cons, kebabChar_of_isAscii hc, hcu, toLower_of_not_isUpper hc hcu,
      ih (fun d hd => hs d (List.mem_cons_of_mem _ hd)) fun d hd => hu d (List.mem_cons_of_mem _ hd)]
    rfl

end Kebab

end Text

namespace Query

open Text

/-- A name of ASCII letters, digits and low lines. -/
structure PlainName (name : String) : Prop where
  nonempty : name.toList ≠ []
  chars : ∀ c ∈ name.toList, isNameChar c = true

theorem PlainName.ascii {name : String} (h : PlainName name) : ∀ c ∈ name.toList, isAscii c = true :=
  fun c hc => isAscii_of_isNameChar (h.chars c hc)

/-- Whether the first letter of a name is a capital, and its only one. -/
def isCapitalized (name : String) : Bool :=
  match name.toList with
  | [] => false
  | c :: s => isUpper c && !s.any isUpper

section Slugs

variable {name : String}

theorem toList_slug (name : String) : (slug name).toList = kebab name.toList := String.toList_ofList

/-- The slug of a plain name has characters of names and hyphens, and no capitals. -/
theorem of_mem_slug (h : PlainName name) {c : Char} (hc : c ∈ (slug name).toList) :
    (isNameChar c = true ∨ c = '-') ∧ isUpper c = false := by
  rw [toList_slug] at hc
  exact of_mem_kebab h.chars hc

/-- A plain name is its own slug exactly if it has no capitals. -/
theorem slug_eq_self_iff (h : PlainName name) : slug name = name ↔ ∀ c ∈ name.toList, isUpper c = false := by
  constructor
  · intro hs c hc
    rw [← hs] at hc
    exact (of_mem_slug h hc).2
  · intro hu
    rw [slug, kebab_of_not_isUpper h.ascii hu, String.ofList_toList]

/-- The slugs without a hyphen that are not the names they come from. -/
theorem isCapitalized_iff (h : PlainName name) :
    isCapitalized name = true ↔ '-' ∉ (slug name).toList ∧ slug name ≠ name := by
  have hs := slug_eq_self_iff h
  have hn := h.nonempty
  have hc := h.chars
  rw [ne_eq, hs, toList_slug]
  unfold isCapitalized
  cases hl : name.toList with
  | nil => exact absurd hl hn
  | cons c s =>
    rw [hl] at hc
    rw [hyphen_mem_kebab_iff (fun d hd => isAscii_of_isNameChar (hc d hd)) fun hm => absurd (hc '-' hm) (by decide)]
    simp only [Bool.and_eq_true, Bool.not_eq_true', List.any_eq_false, List.forall_mem_cons, not_exists, not_and,
      Bool.not_eq_true]
    constructor
    · rintro ⟨hu, ht⟩
      exact ⟨ht, fun hf => absurd (hu.symm.trans hf) (by decide)⟩
    · rintro ⟨ht, hf⟩
      refine ⟨?_, ht⟩
      cases hu : isUpper c with
      | true => rfl
      | false => exact absurd ht (hf hu)

/-- The slug of a plain name is not empty. -/
theorem slug_toList_ne_nil (h : PlainName name) : (slug name).toList ≠ [] := by
  rw [toList_slug]
  cases hl : name.toList with
  | nil => exact absurd hl h.nonempty
  | cons c s =>
    rw [kebab, lower_of_ascii (h.ascii c (by rw [hl]; exact List.mem_cons_self))]
    exact List.cons_ne_nil _ _

end Slugs

/-! ## Queries with distinct slugs -/

/-- Queries with plain names and slugs of their own. -/
structure Distinct (qs : List Query) : Prop where
  names : ∀ q ∈ qs, PlainName q.name
  slugs : (qs.map fun q => slug q.name).Nodup

/-- An element is found if it is the only one that fits. -/
theorem find?_eq_some_of_unique {α : Type} {l : List α} {p : α → Bool} {x : α} (hm : x ∈ l) (hp : p x = true)
    (hu : ∀ y ∈ l, p y = true → y = x) : l.find? p = some x := by
  cases hf : l.find? p with
  | none => exact absurd hp (List.find?_eq_none.1 hf x hm)
  | some y => rw [hu y (List.mem_of_find?_eq_some hf) (List.find?_some hf)]

section Distinct

variable {qs : List Query} {q : Query}

/-- A path is resolved to a query that it fits, if no other one has its slug, or the slug for its name. -/
theorem resolve_of_unique (hq : q ∈ qs) {segments : List String} (hl : q.pathParameters.length = segments.length)
    (hu : ∀ r ∈ qs, slug r.name = slug q.name ∨ r.name = slug q.name → r = q) :
    resolve qs (slug q.name) segments = some (q, q.bind segments) := by
  refine resolve_eq_some_iff.2 ⟨?_, rfl⟩
  have hself : q.fits (slug q.name) segments.length = true := fits_iff.2 ⟨.inl rfl, hl⟩
  exact find?_eq_some_of_unique hq hself fun r hr hfit => hu r hr (fits_iff.1 hfit).1

/-- Among distinct queries the slug tells which one it is. -/
theorem Distinct.eq_of_slug (hd : Distinct qs) (hq : q ∈ qs) {r : Query} (hr : r ∈ qs) (h : slug r.name = slug q.name) :
    r = q :=
  List.inj_on_of_nodup_map hd.slugs hr hq h

/-- A slug is resolved to the query that it comes from. -/
theorem resolve_slug (hd : Distinct qs) (hq : q ∈ qs) {segments : List String}
    (hl : q.pathParameters.length = segments.length) : resolve qs (slug q.name) segments = some (q, q.bind segments) := by
  refine resolve_of_unique hq hl fun r hr h => ?_
  rcases h with h | h
  · exact hd.eq_of_slug hq hr h
  · -- a name that is the slug of another one is its own slug
    refine hd.eq_of_slug hq hr ?_
    rw [← h, slug_eq_self_iff (hd.names r hr)]
    intro c hc
    rw [h] at hc
    exact (of_mem_slug (hd.names q hq) hc).2

end Distinct

end Query

end HelixGateway
