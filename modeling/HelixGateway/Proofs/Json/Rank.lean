import HelixGateway.Proofs.Json.Reordering
import Mathlib.Data.List.Sort
import Mathlib.Data.Prod.Lex

/-!
# Ranks of keys

A key has a rank: its place, and within the place of digits the number it stands for. Canonical order sorts the entries of an
object by rank and keeps those of one rank as they came. What is sorted so is determined by the entries of each rank.

Main statements: `arrange_eq_sortByRank`, `sortByRank_eq_iff`.
-/

namespace HelixGateway.Json

open Decimal (TooManyDigits digitsValue maxDigits ofDigits)

/-! ## Lists sorted by a key -/

section Sorted

variable {α κ : Type} [LinearOrder κ] {f : α → κ} {l m : List α}

/-- Lists that agree on the elements of every key have the same elements. -/
theorem mem_of_filter_key_eq (h : ∀ c, l.filter (f · = f c) = m.filter (f · = f c)) {a : α} (ha : a ∈ l) : a ∈ m := by
  have hf : a ∈ l.filter (f · = f a) := by simpa using ha
  rw [h] at hf
  exact List.mem_of_mem_filter hf

/-- A list is determined by its elements of each key, if the keys do not descend. -/
theorem eq_of_filter_key_eq (hl : l.Pairwise fun a b => f a ≤ f b) (hm : m.Pairwise fun a b => f a ≤ f b)
    (h : ∀ c, l.filter (f · = f c) = m.filter (f · = f c)) : l = m := by
  induction l generalizing m with
  | nil =>
    cases m with
    | nil => rfl
    | cons b m => exact absurd (mem_of_filter_key_eq (fun c => (h c).symm) List.mem_cons_self) List.not_mem_nil
  | cons a l ih =>
    cases m with
    | nil => exact absurd (mem_of_filter_key_eq h List.mem_cons_self) List.not_mem_nil
    | cons b m =>
      obtain ⟨ha, htl⟩ := List.pairwise_cons.1 hl
      obtain ⟨hb, htm⟩ := List.pairwise_cons.1 hm
      -- both heads have the least key, so they are the first elements of that key
      have hab : f a ≤ f b := by
        rcases List.mem_cons.1 (mem_of_filter_key_eq (fun c => (h c).symm) List.mem_cons_self) with rfl | hbl
        · exact le_refl _
        · exact ha b hbl
      have hba : f b ≤ f a := by
        rcases List.mem_cons.1 (mem_of_filter_key_eq h List.mem_cons_self) with rfl | ham
        · exact le_refl _
        · exact hb a ham
      have hkey : f b = f a := le_antisymm hba hab
      have hheads := h a
      rw [List.filter_cons_of_pos (by simp), List.filter_cons_of_pos (by simpa using hkey)] at hheads
      have htails : ∀ c, l.filter (f · = f c) = m.filter (f · = f c) := by
        intro c
        have hc := h c
        rw [List.filter_cons, List.filter_cons, hkey] at hc
        split at hc
        · exact (List.cons.inj hc).2
        · exact hc
      rw [(List.cons.inj hheads).1, ih htl htm htails]

/-! Elements compare as their keys do, of which any two compare. -/

instance (f : α → κ) : Std.Total fun a b => f a ≤ f b := ⟨fun a b => le_total (f a) (f b)⟩

instance (f : α → κ) : IsTrans α fun a b => f a ≤ f b := ⟨fun _ _ _ => le_trans⟩

/-- Sorting keeps the elements of one key as they are. -/
theorem filter_insertionSort_key (l : List α) (r : κ) :
    (l.insertionSort (f · ≤ f ·)).filter (f · = r) = l.filter (f · = r) := by
  have hone : (l.filter (f · = r)).Pairwise fun a b => f a ≤ f b := by
    refine List.pairwise_of_forall_mem_list fun a ha b hb => ?_
    rw [List.mem_filter, decide_eq_true_eq] at ha hb
    rw [ha.2, hb.2]
  have hsub : (l.filter (f · = r)).Sublist (l.insertionSort (f · ≤ f ·)) :=
    List.sublist_insertionSort hone List.filter_sublist
  have hfiltered := hsub.filter (f · = r)
  rw [List.filter_filter] at hfiltered
  simp only [Bool.and_self] at hfiltered
  have hperm := (List.perm_insertionSort (f · ≤ f ·) l).filter (f · = r)
  exact (hfiltered.eq_of_length hperm.length_eq.symm).symm

/-- Two lists are sorted to the same list if and only if they have the same elements of each key, in order. -/
theorem insertionSort_key_eq_iff :
    l.insertionSort (f · ≤ f ·) = m.insertionSort (f · ≤ f ·) ↔ ∀ c, l.filter (f · = f c) = m.filter (f · = f c) := by
  constructor
  · intro h c
    rw [← filter_insertionSort_key l, h, filter_insertionSort_key]
  · intro h
    refine eq_of_filter_key_eq (List.pairwise_insertionSort _ l) (List.pairwise_insertionSort _ m) fun c => ?_
    rw [filter_insertionSort_key, filter_insertionSort_key, h]

/-- An element is inserted behind those of lower keys and before the others. -/
theorem orderedInsert_append_key {a : α} (hl : ∀ b ∈ l, ¬f a ≤ f b) (hm : ∀ b ∈ m, f a ≤ f b) :
    (l ++ m).orderedInsert (f · ≤ f ·) a = l ++ a :: m := by
  induction l with
  | nil =>
    cases m with
    | nil => rfl
    | cons b m => exact List.orderedInsert_cons_of_le _ _ (hm b List.mem_cons_self)
  | cons b l ih =>
    obtain ⟨hb, hl⟩ := List.forall_mem_cons.1 hl
    rw [List.cons_append, List.orderedInsert_cons, if_neg hb, ih hl, List.cons_append]

/-- Sorting is stable, so the elements may as well be inserted one by one. -/
theorem mergeSort_key_eq_insertionSort (l : List α) : l.mergeSort (f · ≤ f ·) = l.insertionSort (f · ≤ f ·) := by
  induction l with
  | nil => rw [List.mergeSort_nil, List.insertionSort_nil]
  | cons a l ih =>
    have htrans : ∀ a b c, decide (f a ≤ f b) = true → decide (f b ≤ f c) = true → decide (f a ≤ f c) = true := by
      simpa using fun a b c => @le_trans _ _ (f a) (f b) (f c)
    have htotal : ∀ a b, (decide (f a ≤ f b) || decide (f b ≤ f a)) = true := by simpa using fun a b => le_total (f a) (f b)
    obtain ⟨lower, others, hs, hl, hlower⟩ := List.mergeSort_cons htrans htotal a l
    have hothers : ∀ b ∈ others, f a ≤ f b := by
      have hp := List.pairwise_mergeSort' (fun a b => f a ≤ f b) (a :: l)
      rw [hs] at hp
      exact (List.pairwise_cons.1 (List.pairwise_append.1 hp).2.1).1
    rw [hs, List.insertionSort_cons, ← ih, hl, orderedInsert_append_key (by simpa using hlower) hothers]

end Sorted

/-! ## Ranks -/

/-- The places in order. -/
def KeyPlace.index : KeyPlace → ℕ
  | .numeric => 0
  | .identity => 1
  | .other => 2

/-- The places differ in where they come. -/
theorem KeyPlace.index_injective : Function.Injective KeyPlace.index := by
  intro p q h
  cases p <;> cases q <;> simp_all [index]

/-- The number that a key of digits stands for. -/
def keyNumber (k : String) : ℕ := if isNumericKey k then digitsValue k.toList else 0

/-- The rank of a key: its place, and there its number. -/
def rank (k : String) : ℕ ×ₗ ℕ := toLex ((keyPlace k).index, keyNumber k)

/-- The entries of an object by rank. -/
def sortByRank (es : Entries Json) : Entries Json := es.insertionSort fun d e => rank d.1 ≤ rank e.1

/-- The first place is that of the keys of digits. -/
theorem keyPlace_eq_numeric_iff {k : String} : keyPlace k = .numeric ↔ isNumericKey k = true := by
  rw [keyPlace]
  split
  · simp [*]
  · split <;> simpa using ‹¬isNumericKey k = true›

/-- Keys of one rank have one place. -/
theorem keyPlace_eq_of_rank_eq {j k : String} (h : rank j = rank k) : keyPlace j = keyPlace k :=
  KeyPlace.index_injective (Prod.mk.inj (toLex_inj.1 h)).1

/-- A key of an earlier place has the lower rank. -/
theorem rank_le_of_index_lt {j k : String} (h : (keyPlace j).index < (keyPlace k).index) : rank j ≤ rank k :=
  Prod.Lex.toLex_le_toLex.2 (.inl h)

/-- Keys of one place have one rank, but for keys of digits. -/
theorem rank_eq_of_place {j k : String} (h : keyPlace j = keyPlace k) (hn : keyPlace j ≠ .numeric) : rank j = rank k := by
  have hj : ¬isNumericKey j = true := fun hj => hn (keyPlace_eq_numeric_iff.2 hj)
  have hk : ¬isNumericKey k = true := fun hk => hn (h.trans (keyPlace_eq_numeric_iff.2 hk))
  simp [rank, keyNumber, h, hj, hk]

/-! ## Canonical order -/

variable {es fs : Entries Json}

/-- Numbering puts the number of its key beside each entry. -/
theorem numbered_eq_ok {ns : List (ℕ × (String × Json))} (h : numbered es = .ok ns) :
    ns = es.map fun e => (digitsValue e.1.toList, e) := by
  induction es generalizing ns with
  | nil =>
    cases h
    rfl
  | cons e es ih =>
    rw [numbered] at h
    split at h
    · cases h
    · rename_i n hn
      obtain ⟨ms, hm, rfl⟩ := map_eq_ok h
      rw [List.map_cons, ← ih hm, (Decimal.ofDigits_eq_ok_iff.1 hn).2]

/-- Among keys of digits the order by number is the order by rank. -/
theorem byNumber_eq_sortByRank {ns : List (ℕ × (String × Json))} (h : numbered (inPlace .numeric es) = .ok ns) :
    byNumber ns = sortByRank (inPlace .numeric es) := by
  have hkey : ∀ a ∈ ns, rank a.2.1 = toLex (0, a.1) := by
    intro a ha
    rw [numbered_eq_ok h] at ha
    obtain ⟨e, he, rfl⟩ := List.mem_map.1 ha
    have hplace : keyPlace e.1 = .numeric := by simpa using (List.mem_filter.1 he).2
    rw [rank, keyNumber, hplace, if_pos (keyPlace_eq_numeric_iff.1 hplace)]
    rfl
  have hrank : ∀ a ∈ ns, ∀ b ∈ ns, decide (a.1 ≤ b.1) = decide (rank a.2.1 ≤ rank b.2.1) := by
    intro a ha b hb
    have hle : a.1 ≤ b.1 ↔ rank a.2.1 ≤ rank b.2.1 := by
      rw [hkey a ha, hkey b hb, Prod.Lex.toLex_le_toLex]
      simp
    exact decide_eq_decide.2 hle
  have hmap := @List.map_mergeSort _ _ (fun a b => decide (a.1 ≤ b.1)) (fun d e => decide (rank d.1 ≤ rank e.1)) Prod.snd ns hrank
  rw [snd_numbered h, @mergeSort_key_eq_insertionSort _ _ _ fun e : String × Json => rank e.1] at hmap
  exact hmap

/-- The entries of a rank are in one place. -/
theorem filter_rank_inPlace (p : KeyPlace) (k : String) :
    (inPlace p es).filter (rank ·.1 = rank k) = if p = keyPlace k then es.filter (rank ·.1 = rank k) else [] := by
  rw [inPlace, List.filter_filter]
  split
  · rename_i hp
    refine List.filter_congr fun e _ => ?_
    by_cases hr : rank e.1 = rank k
    · simp [hr, keyPlace_eq_of_rank_eq hr, hp]
    · simp [hr]
  · rename_i hp
    refine List.filter_eq_nil_iff.2 fun e _ h => hp ?_
    simp only [Bool.and_eq_true, decide_eq_true_eq] at h
    rw [← h.2, keyPlace_eq_of_rank_eq h.1]

/-- Sorting keeps the order of the entries of one rank. -/
theorem filter_sortByRank (es : Entries Json) (k : String) :
    (sortByRank es).filter (rank ·.1 = rank k) = es.filter (rank ·.1 = rank k) :=
  filter_insertionSort_key es (rank k)

/-- Sorted entries do not descend in rank. -/
theorem pairwise_sortByRank (es : Entries Json) : (sortByRank es).Pairwise fun d e => rank d.1 ≤ rank e.1 :=
  List.pairwise_insertionSort _ es

/-- Sorting neither drops nor adds an entry. -/
theorem sortByRank_perm (es : Entries Json) : (sortByRank es).Perm es := List.perm_insertionSort _ es

/-- Canonical order is the order by rank, and entries of one rank stay as they came. -/
theorem eq_sortByRank_of_arrange {gs : Entries Json} (h : arrange es = .ok gs) : gs = sortByRank es := by
  rw [arrange] at h
  obtain ⟨ns, hn, rfl⟩ := map_eq_ok h
  rw [byNumber_eq_sortByRank hn]
  refine @eq_of_filter_key_eq _ _ _ (fun e : String × Json => rank e.1) _ _ ?sorted (pairwise_sortByRank es) ?ranks
  case sorted =>
    have hplace {p : KeyPlace} {e : String × Json} (he : e ∈ inPlace p es) : keyPlace e.1 = p := by
      simpa using (List.mem_filter.1 he).2
    have hone {p : KeyPlace} (hp : p ≠ .numeric) : (inPlace p es).Pairwise fun d e => rank d.1 ≤ rank e.1 := by
      refine List.pairwise_of_forall_mem_list fun d hd e he => le_of_eq ?_
      exact rank_eq_of_place ((hplace hd).trans (hplace he).symm) (hplace hd ▸ hp)
    have hnumeric {e : String × Json} (he : e ∈ sortByRank (inPlace .numeric es)) : keyPlace e.1 = .numeric :=
      hplace ((sortByRank_perm _).mem_iff.1 he)
    refine List.pairwise_append.2 ⟨pairwise_sortByRank _, List.pairwise_append.2 ⟨hone (by decide), hone (by decide), ?_⟩, ?_⟩
    · intro d hd e he
      exact rank_le_of_index_lt (by rw [hplace hd, hplace he]; decide)
    · intro d hd e he
      refine rank_le_of_index_lt ?_
      rcases List.mem_append.1 he with he | he
      · rw [hnumeric hd, hplace he]
        decide
      · rw [hnumeric hd, hplace he]
        decide
  case ranks =>
    rintro ⟨k, v⟩
    simp only [List.filter_append, filter_sortByRank, filter_rank_inPlace]
    cases keyPlace k <;> simp

/-- To arrange entries with short keys is to sort them by rank. -/
theorem arrange_eq_sortByRank (h : ∀ k ∈ Entries.keys es, isShortKey k = true) : arrange es = .ok (sortByRank es) := by
  have hok : (arrange es).isOk = true := by
    rw [isOk_arrange, List.all_eq_true]
    exact h
  cases ha : arrange es with
  | error e =>
    rw [ha] at hok
    cases hok
  | ok gs => rw [eq_sortByRank_of_arrange ha]

/-- Two objects are put in the same order if and only if they have the same entries of each rank, in order. -/
theorem sortByRank_eq_iff :
    sortByRank es = sortByRank fs ↔ ∀ k, es.filter (rank ·.1 = rank k) = fs.filter (rank ·.1 = rank k) := by
  rw [sortByRank, sortByRank, @insertionSort_key_eq_iff _ _ _ fun e : String × Json => rank e.1]
  constructor
  · intro h k
    exact h (k, .null)
  · intro h c
    exact h c.1

/-! ## Canonical forms -/

mutual

/-- The value with the entries of all its objects by rank. -/
def canonical : Json → Json
  | .arr items => .arr (canonicalItems items)
  | .obj fields => .obj (sortByRank (canonicalFields fields))
  | v => v

def canonicalItems : List Json → List Json
  | [] => []
  | v :: vs => v.canonical :: canonicalItems vs

def canonicalFields : List (String × Json) → List (String × Json)
  | [] => []
  | (k, v) :: es => (k, v.canonical) :: canonicalFields es

end

theorem canonicalItems_eq_map (vs : List Json) : canonicalItems vs = vs.map canonical := by
  induction vs with
  | nil => rfl
  | cons v vs ih => rw [canonicalItems, ih, List.map_cons]

theorem canonicalFields_eq_map (es : Entries Json) : canonicalFields es = es.map fun e => (e.1, e.2.canonical) := by
  induction es with
  | nil => rfl
  | cons e es ih => rw [canonicalFields, ih, List.map_cons]

mutual

/-- A value with short keys can be put in canonical order, which is the order by rank in all its objects. -/
theorem canonicalize_eq_canonical : ∀ {v : Json}, v.hasShortKeys = true → v.canonicalize = .ok v.canonical
  | .arr vs, h => by
    rw [canonicalize, canonicalizeItems_eq_canonicalItems h]
    rfl
  | .obj es, h => by
    rw [hasShortKeys, Bool.and_eq_true, List.all_eq_true] at h
    have hkeys : Entries.keys (canonicalFields es) = Entries.keys es := by
      rw [canonicalFields_eq_map, Entries.keys_mapValues]
    rw [canonicalize, canonicalizeFields_eq_canonicalFields h.2]
    simp only [arrange_eq_sortByRank (hkeys.symm ▸ h.1)]
    rfl
  | .null, _ => rfl
  | .bool _, _ => rfl
  | .int _, _ => rfl
  | .real _, _ => rfl
  | .str _, _ => rfl

theorem canonicalizeItems_eq_canonicalItems : ∀ {vs : List Json}, itemsHaveShortKeys vs = true →
    canonicalizeItems vs = .ok (canonicalItems vs)
  | [], _ => rfl
  | v :: vs, h => by
    rw [itemsHaveShortKeys, Bool.and_eq_true] at h
    rw [canonicalizeItems, canonicalize_eq_canonical h.1]
    simp only [canonicalizeItems_eq_canonicalItems h.2]
    rfl

theorem canonicalizeFields_eq_canonicalFields : ∀ {es : List (String × Json)}, fieldsHaveShortKeys es = true →
    canonicalizeFields es = .ok (canonicalFields es)
  | [], _ => rfl
  | (k, v) :: es, h => by
    rw [fieldsHaveShortKeys, Bool.and_eq_true] at h
    rw [canonicalizeFields, canonicalize_eq_canonical h.1]
    simp only [canonicalizeFields_eq_canonicalFields h.2]
    rfl

end

end HelixGateway.Json
