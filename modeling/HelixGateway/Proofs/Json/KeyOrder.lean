import HelixGateway.Proofs.Json.Alike
import HelixGateway.Proofs.Json.Paths

/-!
# The order of keys in a value

In each object of a value in canonical order, the keys of digits come first and do not descend, then comes `id`, and then all
other keys. Keys that share a place in this order, and keys of digits that share their number as well, come as they came
before. Putting such a value in order once more changes nothing.

Main statements: `inOrder_of_arrange`, `canonicalize_ordered`.
-/

namespace HelixGateway.Json

open Decimal (digitsValue)

/-- Keys as canonical order has them: the second list holds the keys of the first one by their places, and by their numbers
where they are made of digits; all others stay in order. -/
structure InOrder (ks ls : List String) : Prop where
  grouped : ls = ls.filter isNumericKey ++ (ls.filter (· = "id") ++ ls.filter isNamed)
  ascending : (ls.filter isNumericKey).Pairwise fun j k => digitsValue j.toList ≤ digitsValue k.toList
  numbers : ∀ n, ls.filter (standsFor n) = ks.filter (standsFor n)
  identity : ls.filter (· = "id") = ks.filter (· = "id")
  named : ls.filter isNamed = ks.filter isNamed

variable {v w : Json} {es fs : Entries Json} {ls : List String}

/-! ## Keys sorted by rank -/

/-- Keys in the order of their ranks are in the order of their places. -/
theorem index_le_of_rank_le {j k : String} (h : rank j ≤ rank k) : (keyPlace j).index ≤ (keyPlace k).index := by
  rcases Prod.Lex.toLex_le_toLex.1 h with h | ⟨h, -⟩
  · exact h.le
  · exact h.le

/-- Keys of digits in the order of their ranks are in the order of their numbers. -/
theorem digitsValue_le_of_rank_le {j k : String} (hj : isNumericKey j = true) (hk : isNumericKey k = true)
    (h : rank j ≤ rank k) : digitsValue j.toList ≤ digitsValue k.toList := by
  rw [rank, rank, keyPlace_eq_numeric_iff.2 hj, keyPlace_eq_numeric_iff.2 hk, keyNumber, keyNumber, if_pos hj, if_pos hk,
    Prod.Lex.toLex_le_toLex] at h
  simpa using h

/-- Keys of digits are those in the first place. -/
theorem isNumericKey_eq_place : isNumericKey = fun k => decide (keyPlace k = .numeric) := by
  funext k
  rw [Bool.eq_iff_iff, decide_eq_true_eq, keyPlace_eq_numeric_iff]

theorem eq_id_eq_place : (fun k : String => decide (k = "id")) = fun k => decide (keyPlace k = .identity) := by
  funext k
  rw [Bool.eq_iff_iff, decide_eq_true_eq, decide_eq_true_eq, keyPlace_eq_identity_iff]

theorem isNamed_eq_place : isNamed = fun k => decide (keyPlace k = .other) := by
  funext k
  rw [Bool.eq_iff_iff, decide_eq_true_eq, keyPlace_eq_other_iff]

/-- Keys of digits that stand for one number have one rank. -/
theorem rank_eq_of_standsFor {n : ℕ} {j k : String} (hj : standsFor n j = true) (hk : standsFor n k = true) :
    rank j = rank k := by
  rw [standsFor, Bool.and_eq_true, decide_eq_true_eq] at hk
  rwa [rank_eq_iff_standsFor hk.1, hk.2]

theorem rank_eq_of_isNamed {j k : String} (hj : isNamed j = true) (hk : isNamed k = true) : rank j = rank k := by
  rw [← keyPlace_eq_other_iff] at hj hk
  exact rank_eq_of_place (hj.trans hk.symm) (by simp [hj])

/-- Among keys of later places there is none of this one. -/
theorem filter_place_eq_nil {p : KeyPlace} (h : ∀ k ∈ ls, p.index < (keyPlace k).index) :
    ls.filter (keyPlace · = p) = [] := by
  refine List.filter_eq_nil_iff.2 fun k hk hp => ?_
  have hlt := h k hk
  rw [of_decide_eq_true hp] at hlt
  exact absurd hlt (lt_irrefl _)

/-- Keys that do not descend in rank fall into the three places, one after the other. -/
theorem grouped_of_pairwise (h : ls.Pairwise fun j k => rank j ≤ rank k) :
    ls = ls.filter (keyPlace · = .numeric) ++ (ls.filter (keyPlace · = .identity) ++ ls.filter (keyPlace · = .other)) := by
  induction ls with
  | nil => rfl
  | cons k ls ih =>
    obtain ⟨hk, ht⟩ := List.pairwise_cons.1 h
    have hindex : ∀ j ∈ ls, (keyPlace k).index ≤ (keyPlace j).index := fun j hj => index_le_of_rank_le (hk j hj)
    have ih := ih ht
    cases hp : keyPlace k with
    | numeric => simpa [hp] using ih
    | identity =>
      have hnumeric : ls.filter (keyPlace · = .numeric) = [] :=
        filter_place_eq_nil fun j hj => lt_of_lt_of_le (by rw [hp]; decide) (hindex j hj)
      rw [hnumeric] at ih
      simpa [hp, hnumeric] using ih
    | other =>
      have hnumeric : ls.filter (keyPlace · = .numeric) = [] :=
        filter_place_eq_nil fun j hj => lt_of_lt_of_le (by rw [hp]; decide) (hindex j hj)
      have hidentity : ls.filter (keyPlace · = .identity) = [] :=
        filter_place_eq_nil fun j hj => lt_of_lt_of_le (by rw [hp]; decide) (hindex j hj)
      rw [hnumeric, hidentity] at ih
      simpa [hp, hnumeric, hidentity] using ih

/-- In keys that are sorted by rank, those of digits are sorted by their numbers. -/
theorem ascending_of_pairwise (h : ls.Pairwise fun j k => rank j ≤ rank k) :
    (ls.filter isNumericKey).Pairwise fun j k => digitsValue j.toList ≤ digitsValue k.toList := by
  refine (h.filter isNumericKey).imp_of_mem fun hj hk hle => ?_
  exact digitsValue_le_of_rank_le (List.mem_filter.1 hj).2 (List.mem_filter.1 hk).2 hle

/-! ## One object -/

/-- Keys of one rank stay in order. -/
theorem filter_keys_arrange {p : String → Bool} (hp : ∀ j k, p j = true → p k = true → rank j = rank k)
    (h : arrange es = .ok fs) : (Entries.keys fs).filter p = (Entries.keys es).filter p := by
  by_cases hk : ∃ k, p k = true
  · obtain ⟨k, hk⟩ := hk
    have hrank : (fun j => p j && decide (rank j = rank k)) = p := by
      funext j
      cases hj : p j with
      | false => rfl
      | true => simp [hp j k hj hk]
    have hkeys := congrArg Entries.keys (filter_sortByRank es k)
    rw [← eq_sortByRank_of_arrange h, Entries.keys_filter fs fun j => decide (rank j = rank k),
      Entries.keys_filter es fun j => decide (rank j = rank k)] at hkeys
    rw [← hrank, ← List.filter_filter, ← List.filter_filter, hkeys]
  · have hn : ∀ ks : List String, ks.filter p = [] := fun ks => List.filter_eq_nil_iff.2 fun k _ hpk => hk ⟨k, hpk⟩
    rw [hn, hn]

/-- The entries of an object are put in the order of keys. -/
theorem inOrder_of_arrange (h : arrange es = .ok fs) : InOrder (Entries.keys es) (Entries.keys fs) := by
  have hpairwise : (Entries.keys fs).Pairwise fun j k => rank j ≤ rank k := by
    rw [eq_sortByRank_of_arrange h, Entries.keys, List.pairwise_map]
    exact pairwise_sortByRank es
  exact {
    grouped := by
      rw [isNumericKey_eq_place, isNamed_eq_place, eq_id_eq_place]
      exact grouped_of_pairwise hpairwise
    ascending := ascending_of_pairwise hpairwise
    numbers := fun n => filter_keys_arrange (fun j k hj hk => rank_eq_of_standsFor hj hk) h
    identity := filter_keys_arrange (fun j k hj hk => by rw [of_decide_eq_true hj, of_decide_eq_true hk]) h
    named := filter_keys_arrange (fun j k hj hk => rank_eq_of_isNamed hj hk) h }

/-- **Canonical order.** In a value that was put in order, each object has its keys in order, as against the object at its place
before, and the value stays as it is when it is put in order again. -/
theorem canonicalize_ordered (h : v.canonicalize = .ok w) :
    (∀ path fs, w.at? path = some (.obj fs) →
        ∃ es, v.at? path = some (.obj es) ∧ InOrder (Entries.keys es) (Entries.keys fs)) ∧
      w.canonicalize = .ok w := by
  refine ⟨fun path fs hp => ?_, canonicalize_idempotent h⟩
  have hat := rel_at?_of_canonicalize h path
  rw [hp] at hat
  generalize v.at? path = x at hat
  cases hat with
  | @some x _ hx =>
    cases x with
    | obj es =>
      obtain ⟨gs, hs, hc, ha, he⟩ := canonicalize_obj_ok hx
      cases he
      exact ⟨es, rfl, (fieldsReordered_of_canonicalize hc).keys_eq ▸ inOrder_of_arrange ha⟩
    | arr vs =>
      obtain ⟨ws, -, he⟩ := canonicalize_arr_ok hx
      cases he
    | null | bool | int | real | str => cases hx

/-- Inside an array, `01` stays before `1` and `9` comes before `10`; the key without any character and the one with a digit
that is not ASCII are among the last. -/
theorem canonicalize_ordered_nested :
    let v := arr [obj [("", null), ("10", null), ("01", null), ("id", null), ("٣", null), ("1", null), ("9", null)]]
    let w := arr [obj [("01", null), ("1", null), ("9", null), ("10", null), ("id", null), ("", null), ("٣", null)]]
    v.canonicalize = .ok w ∧ w.canonicalize = .ok w ∧
      InOrder ["", "10", "01", "id", "٣", "1", "9"] ["01", "1", "9", "10", "id", "", "٣"] := by
  intro v w
  have hc : v.canonicalize = .ok w := (canonicalize_eq_canonical (by decide)).trans rfl
  obtain ⟨ho, hw⟩ := canonicalize_ordered hc
  refine ⟨hc, hw, ?_⟩
  obtain ⟨es, hes, hin⟩ := ho [.index 0] _ rfl
  cases hes
  exact hin

end HelixGateway.Json
