import HelixGateway.Proofs.Json.Distinct
import HelixGateway.Proofs.Json.Rank

/-!
# Values with the same canonical order

Canonical order forgets how entries of different rank stand to each other and keeps all else. So two values have the same
canonical form exactly if they are alike: the same scalars, arrays of alike items, and objects with the same keys and alike
values under them, in which the named keys come in the same order, and so do the keys of digits that stand for one number.

Main statement: `canonicalize_eq_iff_alike`.
-/

namespace HelixGateway.Json

open Decimal (digitsValue)

/-! ## Likeness -/

/-- A key that is neither of digits nor `id`. -/
def isNamed (k : String) : Bool := !isNumericKey k && k ≠ "id"

/-- Whether a key is made of digits that stand for a number. -/
def standsFor (n : ℕ) (k : String) : Bool := isNumericKey k && digitsValue k.toList = n

/-- Two values that differ in how entries of different rank stand to each other, and in nothing else. -/
inductive Alike : Json → Json → Prop where
  | single {v : Json} (h : v.isSingle = true) : Alike v v
  | arr {vs ws : List Json} (length : vs.length = ws.length)
      (items : ∀ (i : ℕ) (v w : Json), vs[i]? = some v → ws[i]? = some w → Alike v w) : Alike (.arr vs) (.arr ws)
  | obj {es fs : Entries Json} (keys : ∀ k, k ∈ Entries.keys es ↔ k ∈ Entries.keys fs)
      (values : ∀ k v w, Entries.get? es k = some v → Entries.get? fs k = some w → Alike v w)
      (named : (Entries.keys es).filter isNamed = (Entries.keys fs).filter isNamed)
      (numbers : ∀ n, (Entries.keys es).filter (standsFor n) = (Entries.keys fs).filter (standsFor n)) :
      Alike (.obj es) (.obj fs)

/-! ## Ranks of the keys of an object -/

variable {es fs : Entries Json}

/-- Keys have one rank exactly if they have one place, and there one number. -/
theorem rank_eq_iff {j k : String} : rank j = rank k ↔ keyPlace j = keyPlace k ∧ keyNumber j = keyNumber k := by
  rw [rank, rank, toLex_inj, Prod.mk.injEq, KeyPlace.index_injective.eq_iff]

theorem isNumericKey_id : isNumericKey "id" = false := by decide

/-- The last place is that of the named keys. -/
theorem keyPlace_eq_other_iff {k : String} : keyPlace k = .other ↔ isNamed k = true := by
  rw [keyPlace, isNamed]
  split
  · simp [*]
  · split
    · simp [*]
    · simp [*]

theorem keyPlace_eq_identity_iff {k : String} : keyPlace k = .identity ↔ k = "id" := by
  rw [keyPlace]
  split
  · rename_i hn
    simp only [reduceCtorEq, false_iff]
    rintro rfl
    exact absurd hn (by simp [isNumericKey_id])
  · split
    · simp [*]
    · simp [*]

/-- A key has the rank of a key of digits exactly if its own digits stand for the same number. -/
theorem rank_eq_iff_standsFor {j k : String} (hk : isNumericKey k = true) :
    rank j = rank k ↔ standsFor (digitsValue k.toList) j = true := by
  rw [rank_eq_iff, keyPlace_eq_numeric_iff.2 hk, keyPlace_eq_numeric_iff, standsFor, Bool.and_eq_true, decide_eq_true_eq]
  refine and_congr_right fun hj => ?_
  rw [keyNumber, keyNumber, if_pos hj, if_pos hk]

/-- Outside the place of digits, the place of a key is its rank. -/
theorem rank_eq_iff_place {j k : String} (hk : keyPlace k ≠ .numeric) : rank j = rank k ↔ keyPlace j = keyPlace k :=
  ⟨keyPlace_eq_of_rank_eq, fun h => rank_eq_of_place h (h ▸ hk)⟩

/-- Among the same keys, those of each rank come in the same order if and only if the named keys do, and the keys that stand
for one number: `id` is alone in its rank. -/
theorem filter_rank_eq_iff {ks ls : List String} (hks : ks.Nodup) (hls : ls.Nodup) (hm : ∀ k, k ∈ ks ↔ k ∈ ls) :
    (∀ k, ks.filter (rank · = rank k) = ls.filter (rank · = rank k)) ↔
      ks.filter isNamed = ls.filter isNamed ∧ ∀ n, ks.filter (standsFor n) = ls.filter (standsFor n) := by
  have hnumber {k : String} (hk : isNumericKey k = true) :
      (fun j => decide (rank j = rank k)) = standsFor (digitsValue k.toList) := by
    funext j
    rw [Bool.eq_iff_iff, decide_eq_true_eq, rank_eq_iff_standsFor hk]
  have hnamed {k : String} (hk : keyPlace k = .other) : (fun j => decide (rank j = rank k)) = isNamed := by
    funext j
    rw [Bool.eq_iff_iff, decide_eq_true_eq, rank_eq_iff_place (by simp [hk]), hk, keyPlace_eq_other_iff]
  constructor
  · intro h
    refine ⟨?_, fun n => ?_⟩
    · have hother : keyPlace "" = .other := by decide
      rw [← hnamed hother]
      exact h ""
    · by_cases hn : ∃ k ∈ ks, standsFor n k = true
      · obtain ⟨k, -, hk⟩ := hn
        simp only [standsFor, Bool.and_eq_true, decide_eq_true_eq] at hk
        rw [← hk.2, ← hnumber hk.1]
        exact h k
      · rw [List.filter_eq_nil_iff.2 fun k hk hs => hn ⟨k, hk, hs⟩,
          List.filter_eq_nil_iff.2 fun k hk hs => hn ⟨k, (hm k).2 hk, hs⟩]
  · rintro ⟨hother, hnumbers⟩ k
    cases hk : keyPlace k with
    | numeric =>
      rw [hnumber (keyPlace_eq_numeric_iff.1 hk)]
      exact hnumbers _
    | other =>
      rw [hnamed hk]
      exact hother
    | identity =>
      have hid : (fun j => decide (rank j = rank k)) = fun j => j == "id" := by
        funext j
        rw [Bool.eq_iff_iff, decide_eq_true_eq, rank_eq_iff_place (by simp [hk]), hk, keyPlace_eq_identity_iff, beq_iff_eq]
      rw [hid, List.filter_beq, List.filter_beq, hks.count, hls.count]
      simp only [hm]

/-- The entries of each rank are the same if and only if the values under each key are, and the keys of each rank come in the
same order. -/
theorem filter_entries_eq_iff (he : (Entries.keys es).Nodup) (hf : (Entries.keys fs).Nodup) :
    (∀ k, es.filter (rank ·.1 = rank k) = fs.filter (rank ·.1 = rank k)) ↔
      (∀ k, Entries.get? es k = Entries.get? fs k) ∧
        ∀ k, (Entries.keys es).filter (rank · = rank k) = (Entries.keys fs).filter (rank · = rank k) := by
  constructor
  · intro h
    refine ⟨fun k => ?_, fun k => ?_⟩
    · have hmem : ∀ e, e ∈ es ↔ e ∈ fs := fun e =>
        ⟨@mem_of_filter_key_eq _ _ _ (fun e : String × Json => rank e.1) _ _ (fun c => h c.1) _,
          @mem_of_filter_key_eq _ _ _ (fun e : String × Json => rank e.1) _ _ (fun c => (h c.1).symm) _⟩
      refine Option.ext fun v => ?_
      rw [Entries.get?_eq_some_iff_mem he, Entries.get?_eq_some_iff_mem hf, hmem]
    · have hk := congrArg Entries.keys (h k)
      rwa [Entries.keys_filter es fun j => decide (rank j = rank k), Entries.keys_filter fs fun j => decide (rank j = rank k)]
        at hk
  · rintro ⟨hg, hr⟩ k
    have hkeys : Entries.keys (es.filter (rank ·.1 = rank k)) = Entries.keys (fs.filter (rank ·.1 = rank k)) := by
      rw [Entries.keys_filter es fun j => decide (rank j = rank k), Entries.keys_filter fs fun j => decide (rank j = rank k)]
      exact hr k
    have hes := Entries.filterMap_get?_keys he fun e (hm : e ∈ es.filter (rank ·.1 = rank k)) => List.mem_of_mem_filter hm
    have hfs := Entries.filterMap_get?_keys hf fun e (hm : e ∈ fs.filter (rank ·.1 = rank k)) => List.mem_of_mem_filter hm
    rw [← hes, ← hfs, hkeys]
    simp only [hg]

/-! ## Canonical forms -/

theorem canonical_of_isSingle {v : Json} (h : v.isSingle = true) : v.canonical = v := by
  cases v with
  | arr vs => cases h
  | obj es => cases h
  | null => rfl
  | bool b => rfl
  | int n => rfl
  | real x => rfl
  | str s => rfl

/-- The canonical form of an array has the canonical forms of its items. -/
theorem canonical_arr (vs : List Json) : canonical (.arr vs) = .arr (vs.map canonical) := by
  rw [canonical, canonicalItems_eq_map]

/-- The canonical form of an object has the canonical forms of its values, sorted by the ranks of their keys. -/
theorem canonical_obj (es : Entries Json) :
    canonical (.obj es) = .obj (sortByRank (es.map fun e => (e.1, e.2.canonical))) := by
  rw [canonical, canonicalFields_eq_map]

/-- What holds of scalars, and of arrays and objects if it holds of what is in them, holds of every value. -/
theorem induction {motive : Json → Prop} (single : ∀ v : Json, v.isSingle = true → motive v)
    (arr : ∀ vs, (∀ v ∈ vs, motive v) → motive (.arr vs))
    (obj : ∀ es : Entries Json, (∀ e ∈ es, motive e.2) → motive (.obj es)) (v : Json) : motive v := by
  refine @Json.rec motive (fun vs => ∀ v ∈ vs, motive v) (fun es => ∀ e ∈ es, motive e.2) (fun e => motive e.2)
    (single _ rfl) (fun _ => single _ rfl) (fun _ => single _ rfl) (fun _ => single _ rfl) (fun _ => single _ rfl) arr obj
    ?_ ?_ ?_ ?_ (fun _ _ h => h) v
  · exact fun _ h => absurd h List.not_mem_nil
  · exact fun _ _ hv ht => List.forall_mem_cons.2 ⟨hv, ht⟩
  · exact fun _ h => absurd h List.not_mem_nil
  · exact fun _ _ he ht => List.forall_mem_cons.2 ⟨he, ht⟩

/-! ## Canonical forms of alike values -/

/-- Objects have one canonical form exactly if they are alike, if this holds of the values under each key. -/
theorem canonical_obj_eq_iff (he : (Entries.keys es).Nodup) (hf : (Entries.keys fs).Nodup)
    (ih : ∀ k v w, Entries.get? es k = some v → Entries.get? fs k = some w → (v.canonical = w.canonical ↔ Alike v w)) :
    canonical (.obj es) = canonical (.obj fs) ↔ Alike (.obj es) (.obj fs) := by
  have hkeys (es : Entries Json) := Entries.keys_mapValues es canonical
  have hget (es : Entries Json) := Entries.get?_mapValues es canonical
  rw [canonical_obj, canonical_obj, Json.obj.injEq, sortByRank_eq_iff,
    filter_entries_eq_iff (by rwa [hkeys]) (by rwa [hkeys])]
  simp only [hkeys, hget]
  constructor
  · rintro ⟨hg, hr⟩
    have hm : ∀ k, k ∈ Entries.keys es ↔ k ∈ Entries.keys fs := by
      intro k
      rw [← Entries.has_iff, ← Entries.has_iff, Entries.has, Entries.has, ← Option.isSome_map, hg, Option.isSome_map]
    obtain ⟨hnamed, hnumbers⟩ := (filter_rank_eq_iff he hf hm).1 hr
    refine .obj hm (fun k v w hv hw => (ih k v w hv hw).1 ?_) hnamed hnumbers
    have hk := hg k
    rw [hv, hw] at hk
    exact Option.some.inj hk
  · intro h
    cases h with
    | single h => cases h
    | obj hm hvalues hnamed hnumbers =>
      refine ⟨fun k => ?_, (filter_rank_eq_iff he hf hm).2 ⟨hnamed, hnumbers⟩⟩
      have hk : Entries.get? es k = none ↔ Entries.get? fs k = none := by
        rw [Entries.get?_eq_none_iff, Entries.get?_eq_none_iff, hm]
      cases hv : Entries.get? es k with
      | none => rw [hk.1 hv]
      | some v =>
        cases hw : Entries.get? fs k with
        | none =>
          rw [hk.2 hw] at hv
          cases hv
        | some w => exact congrArg some ((ih k v w hv hw).2 (hvalues k v w hv hw))

/-- Arrays have one canonical form exactly if they are alike, if this holds of their items. -/
theorem canonical_arr_eq_iff {vs ws : List Json}
    (ih : ∀ v ∈ vs, ∀ w ∈ ws, v.canonical = w.canonical ↔ Alike v w) :
    canonical (.arr vs) = canonical (.arr ws) ↔ Alike (.arr vs) (.arr ws) := by
  rw [canonical_arr, canonical_arr, Json.arr.injEq]
  constructor
  · intro h
    have hlength : vs.length = ws.length := by
      have hl := congrArg List.length h
      rwa [List.length_map, List.length_map] at hl
    refine .arr hlength fun i v w hv hw => ?_
    have hi := congrArg (fun us : List Json => us[i]?) h
    simp only [List.getElem?_map, hv, hw, Option.map_some, Option.some.injEq] at hi
    exact (ih v (List.mem_of_getElem? hv) w (List.mem_of_getElem? hw)).1 hi
  · intro h
    cases h with
    | single h => cases h
    | arr hlength hitems =>
      refine List.ext_getElem (by rw [List.length_map, List.length_map, hlength]) fun i hi hj => ?_
      rw [List.length_map] at hi hj
      rw [List.getElem_map, List.getElem_map]
      exact (ih _ (List.getElem_mem hi) _ (List.getElem_mem hj)).2
        (hitems i _ _ (List.getElem?_eq_getElem hi) (List.getElem?_eq_getElem hj))

/-- Canonical order keeps the kind of a value. -/
theorem isSingle_canonical (v : Json) : v.canonical.isSingle = v.isSingle := by
  cases v <;> rfl

/-- Values without repeated keys have one canonical form exactly if they are alike. -/
theorem canonical_eq_iff_alike {v : Json} (dv : v.distinct = true) {w : Json} (dw : w.distinct = true) :
    v.canonical = w.canonical ↔ Alike v w := by
  induction v using induction generalizing w with
  | single v h =>
    rw [canonical_of_isSingle h]
    constructor
    · intro he
      have hw : w.isSingle = true := by rw [← isSingle_canonical, ← he, h]
      rw [he, canonical_of_isSingle hw]
      exact .single hw
    · intro ha
      cases ha with
      | single h => exact (canonical_of_isSingle h).symm
      | arr => cases h
      | obj => cases h
  | arr vs ih =>
    cases w with
    | arr ws =>
      exact canonical_arr_eq_iff fun v hm w hn => ih v hm (distinct_arr_iff.1 dv v hm) (distinct_arr_iff.1 dw w hn)
    | obj fs =>
      rw [canonical_arr, canonical_obj]
      exact ⟨nofun, nofun⟩
    | _ =>
      rw [canonical_arr]
      exact ⟨nofun, nofun⟩
  | obj es ih =>
    cases w with
    | arr ws =>
      rw [canonical_obj, canonical_arr]
      exact ⟨nofun, nofun⟩
    | obj fs =>
      obtain ⟨he, dv⟩ := distinct_obj_iff.1 dv
      obtain ⟨hf, dw⟩ := distinct_obj_iff.1 dw
      refine canonical_obj_eq_iff he hf fun k v w hm hn => ?_
      have hm := Entries.mem_of_get?_eq_some hm
      exact ih (k, v) hm (dv _ hm) (dw _ (Entries.mem_of_get?_eq_some hn))
    | _ =>
      rw [canonical_obj]
      exact ⟨nofun, nofun⟩

/-- **Canonical order is a complete invariant.** Two values, whose objects repeat no key and whose keys of digits can be read
as numbers, both have a canonical form, and it is the same if and only if they are alike. -/
theorem canonicalize_eq_iff_alike {v w : Json} (dv : v.distinct = true) (sv : v.hasShortKeys = true)
    (dw : w.distinct = true) (sw : w.hasShortKeys = true) :
    ∃ v' w', v.canonicalize = .ok v' ∧ w.canonicalize = .ok w' ∧ (v' = w' ↔ Alike v w) :=
  ⟨v.canonical, w.canonical, canonicalize_eq_canonical sv, canonicalize_eq_canonical sw, canonical_eq_iff_alike dv dw⟩

/-- Entries may move past each other, inside too, but `01` and `1` may not. -/
theorem canonicalize_eq_iff_alike_ones :
    let v := obj [("name", .obj [("id", .null), ("2", .null)]), ("01", .null), ("id", .int 7), ("1", .bool true)]
    let moved := obj [("01", .null), ("id", .int 7), ("name", .obj [("2", .null), ("id", .null)]), ("1", .bool true)]
    let swapped := obj [("name", .obj [("id", .null), ("2", .null)]), ("1", .bool true), ("id", .int 7), ("01", .null)]
    Alike v moved ∧ ¬Alike v swapped := by
  intro v moved swapped
  have hv : v.canonicalize =
      .ok (.obj [("01", .null), ("1", .bool true), ("id", .int 7), ("name", .obj [("2", .null), ("id", .null)])]) :=
    (canonicalize_eq_canonical (by decide)).trans rfl
  have hm : moved.canonicalize =
      .ok (.obj [("01", .null), ("1", .bool true), ("id", .int 7), ("name", .obj [("2", .null), ("id", .null)])]) :=
    (canonicalize_eq_canonical (by decide)).trans rfl
  have hs : swapped.canonicalize =
      .ok (.obj [("1", .bool true), ("01", .null), ("id", .int 7), ("name", .obj [("2", .null), ("id", .null)])]) :=
    (canonicalize_eq_canonical (by decide)).trans rfl
  constructor
  · obtain ⟨_, _, hv', hm', h⟩ := @canonicalize_eq_iff_alike v moved (by decide) (by decide) (by decide) (by decide)
    rw [hv] at hv'
    rw [hm] at hm'
    cases hv'
    cases hm'
    exact h.1 rfl
  · obtain ⟨_, _, hv', hs', h⟩ := @canonicalize_eq_iff_alike v swapped (by decide) (by decide) (by decide) (by decide)
    rw [hv] at hv'
    rw [hs] at hs'
    cases hv'
    cases hs'
    intro ha
    have he := h.2 ha
    simp at he

end HelixGateway.Json
