import HelixGateway.Proofs.Json.Distinct
import HelixGateway.Proofs.Json.Idempotence
import HelixGateway.Validation

/-!
# Places in a value

A path of names and indexes leads from a value to one inside it. Canonical order leaves every place as it is: what a path leads
to afterwards is what it led to before, put in order, and so the same scalar, an array of the same length or an object with the
same keys. A value is refused only for a key of too many digits in one of its objects, however deep, and every such key
refuses it.

Main statements: `rel_step?_of_canonicalize`, `rel_at?_of_canonicalize`, `canonicalize_refused_or_kept`.
-/

namespace HelixGateway.Json

open Decimal (TooManyDigits maxDigits)

/-! ## Paths -/

/-- What a step into a value leads to, if it leads anywhere. -/
def step? : Json → Key → Option Json
  | .arr vs, .index i => vs[i]?
  | .obj es, .name k => Entries.get? es k
  | _, _ => none

/-- What a path into a value leads to, if it leads anywhere. -/
def at? (v : Json) : List Key → Option Json
  | [] => some v
  | s :: path => (v.step? s).bind (·.at? path)

/-- Two values that are alike on the outside: the same scalar, arrays of one length, or objects with the same keys. -/
inductive SameShape : Json → Json → Prop where
  | single {v : Json} (h : v.isSingle = true) : SameShape v v
  | arr {vs ws : List Json} (length : vs.length = ws.length) : SameShape (.arr vs) (.arr ws)
  | obj {es fs : Entries Json} (keys : (Entries.keys fs).Perm (Entries.keys es)) : SameShape (.obj es) (.obj fs)

/-- Some object in a value has this key, and it is made of more digits than are read. -/
def HasLongKey (v : Json) (k : String) : Prop :=
  ∃ path es, v.at? path = some (.obj es) ∧ k ∈ Entries.keys es ∧ isNumericKey k = true ∧ maxDigits < k.toList.length

variable {v w : Json} {vs ws : List Json} {es fs : Entries Json} {k : String}

/-- A long key inside a part of a value is inside the value. -/
theorem HasLongKey.of_step? {s : Key} (hs : v.step? s = some w) (h : w.HasLongKey k) : v.HasLongKey k := by
  obtain ⟨path, es, hp, hk⟩ := h
  exact ⟨s :: path, es, by rw [at?, hs]; exact hp, hk⟩

/-! ## One step -/

/-- Under each key is what was there before its entry was moved. -/
theorem get?_arrange (h : arrange es = .ok fs) (k : String) : Entries.get? fs k = Entries.get? es k := by
  have hk : decide (rank k = rank k) = true := decide_eq_true rfl
  have hfs := Entries.get?_filter fs (p := fun j => decide (rank j = rank k)) hk
  have hes := Entries.get?_filter es (p := fun j => decide (rank j = rank k)) hk
  rw [eq_sortByRank_of_arrange h, filter_sortByRank, hes] at hfs
  rw [eq_sortByRank_of_arrange h, hfs]

/-- At each index is the item that was there, put in order. -/
theorem rel_getElem?_of_canonicalizeItems (h : canonicalizeItems vs = .ok ws) (i : ℕ) :
    Option.Rel (fun x y => x.canonicalize = .ok y) vs[i]? ws[i]? := by
  induction vs generalizing ws i with
  | nil =>
    cases h
    exact .none
  | cons v vs ih =>
    obtain ⟨x, xs, hv, hc, rfl⟩ := canonicalizeItems_cons_ok h
    cases i with
    | zero => exact .some hv
    | succ i => exact ih hc i

/-- Under each key is the value that was there, put in order. -/
theorem rel_get?_of_canonicalizeFields (h : canonicalizeFields es = .ok fs) (k : String) :
    Option.Rel (fun x y => x.canonicalize = .ok y) (Entries.get? es k) (Entries.get? fs k) := by
  induction es generalizing fs with
  | nil =>
    cases h
    exact .none
  | cons e es ih =>
    obtain ⟨j, v⟩ := e
    obtain ⟨x, gs, hv, hc, rfl⟩ := canonicalizeFields_cons_ok h
    rw [Entries.get?, Entries.get?]
    split
    · exact .some hv
    · exact ih hc

/-- A step leads to the same place before and after, and what is there is put in order too. -/
theorem rel_step?_of_canonicalize (h : v.canonicalize = .ok w) (s : Key) :
    Option.Rel (fun x y => x.canonicalize = .ok y) (v.step? s) (w.step? s) := by
  cases v with
  | arr vs =>
    obtain ⟨ws, hc, rfl⟩ := canonicalize_arr_ok h
    cases s with
    | index i => exact rel_getElem?_of_canonicalizeItems hc i
    | name k => exact .none
  | obj es =>
    obtain ⟨fs, gs, hc, ha, rfl⟩ := canonicalize_obj_ok h
    cases s with
    | index i => exact .none
    | name k =>
      rw [step?, step?, get?_arrange ha]
      exact rel_get?_of_canonicalizeFields hc k
  | null | bool | int | real | str =>
    cases h
    exact .none

/-- Items that are put in order are as many as before. -/
theorem length_of_canonicalizeItems (h : canonicalizeItems vs = .ok ws) : vs.length = ws.length := by
  induction vs generalizing ws with
  | nil =>
    cases h
    rfl
  | cons v vs ih =>
    obtain ⟨x, xs, -, hc, rfl⟩ := canonicalizeItems_cons_ok h
    rw [List.length_cons, List.length_cons, ih hc]

/-- Putting a value in order does not change it on the outside. -/
theorem sameShape_of_canonicalize (h : v.canonicalize = .ok w) : SameShape v w := by
  cases v with
  | arr vs =>
    obtain ⟨ws, hc, rfl⟩ := canonicalize_arr_ok h
    exact .arr (length_of_canonicalizeItems hc)
  | obj es =>
    obtain ⟨fs, gs, hc, ha, rfl⟩ := canonicalize_obj_ok h
    exact .obj ((fieldsReordered_of_canonicalize hc).keys_eq ▸ keys_arrange ha)
  | null | bool | int | real | str =>
    cases h
    exact .single rfl

/-! ## Whole paths -/

/-- A path leads to the same place before and after, and what is there is put in order too. -/
theorem rel_at?_of_canonicalize (h : v.canonicalize = .ok w) (path : List Key) :
    Option.Rel (fun x y => x.canonicalize = .ok y) (v.at? path) (w.at? path) := by
  induction path generalizing v w with
  | nil => exact .some h
  | cons s path ih =>
    rw [at?, at?]
    have hs := rel_step?_of_canonicalize h s
    generalize v.step? s = x, w.step? s = y at hs
    cases hs with
    | none => exact .none
    | some hs => exact ih hs

/-! ## Refusals -/

/-- Numbering fails for a key that is too long, and tells its length. -/
theorem exists_of_numbered_error {e : TooManyDigits} (h : numbered es = .error e) :
    ∃ k ∈ Entries.keys es, maxDigits < k.toList.length ∧ e = ⟨k.toList.length⟩ := by
  induction es with
  | nil => cases h
  | cons d es ih =>
    obtain ⟨k, v⟩ := d
    rw [numbered, Decimal.ofDigits] at h
    split at h
    · rename_i hd
      split at hd
      · cases hd
      · rename_i hl
        cases hd
        cases h
        exact ⟨k, List.mem_cons_self, Nat.lt_of_not_le hl, rfl⟩
    · obtain ⟨j, hj, hl⟩ := ih (map_eq_error h)
      exact ⟨j, List.mem_cons_of_mem _ hj, hl⟩

/-- An object cannot be arranged only for a key of too many digits, and then that is told. -/
theorem exists_of_arrange_error {e : TooManyDigits} (h : arrange es = .error e) :
    ∃ k ∈ Entries.keys es, isNumericKey k = true ∧ maxDigits < k.toList.length ∧ e = ⟨k.toList.length⟩ := by
  obtain ⟨k, hk, hl⟩ := exists_of_numbered_error (map_eq_error h)
  rw [inPlace, Entries.keys_filter es fun k => decide (keyPlace k = .numeric), List.mem_filter, decide_eq_true_eq] at hk
  exact ⟨k, hk.1, keyPlace_eq_numeric_iff.1 hk.2, hl⟩

mutual

/-- What refuses a value is a key of too many digits somewhere in it. -/
theorem exists_longKey_of_error :
    ∀ {v : Json} {e : TooManyDigits}, v.distinct = true → v.canonicalize = .error e →
      ∃ k, v.HasLongKey k ∧ e = ⟨k.toList.length⟩
  | .arr vs, e, hd, h => by
    rw [canonicalize] at h
    obtain ⟨i, w, k, hw, hk, he⟩ := exists_longKey_of_items_error (distinct_arr_iff.1 hd) (map_eq_error h)
    exact ⟨k, hk.of_step? (s := .index i) hw, he⟩
  | .obj es, e, hd, h => by
    obtain ⟨hn, hd⟩ := distinct_obj_iff.1 hd
    rw [canonicalize] at h
    split at h
    · rename_i hc
      cases h
      obtain ⟨d, k, hm, hk, he⟩ := exists_longKey_of_fields_error hd hc
      exact ⟨k, hk.of_step? (s := .name d.1) ((Entries.get?_eq_some_iff_mem hn).2 hm), he⟩
    · rename_i fs hc
      obtain ⟨k, hk, hnum, hl, he⟩ := exists_of_arrange_error (map_eq_error h)
      rw [(fieldsReordered_of_canonicalize hc).keys_eq] at hk
      exact ⟨k, ⟨[], es, rfl, hk, hnum, hl⟩, he⟩
  | .null, _, _, h | .bool _, _, _, h | .int _, _, _, h | .real _, _, _, h | .str _, _, _, h => by cases h

/-- Items that cannot be put in order have a long key inside one of them. -/
theorem exists_longKey_of_items_error :
    ∀ {vs : List Json} {e : TooManyDigits}, (∀ v ∈ vs, v.distinct = true) → canonicalizeItems vs = .error e →
      ∃ (i : ℕ) (w : Json) (k : String), vs[i]? = some w ∧ w.HasLongKey k ∧ e = ⟨k.toList.length⟩
  | [], _, _, h => by cases h
  | v :: vs, e, hd, h => by
    obtain ⟨hv, hvs⟩ := List.forall_mem_cons.1 hd
    rw [canonicalizeItems] at h
    split at h
    · rename_i hc
      cases h
      obtain ⟨k, hk, he⟩ := exists_longKey_of_error hv hc
      exact ⟨0, v, k, rfl, hk, he⟩
    · obtain ⟨i, w, k, hw, hk, he⟩ := exists_longKey_of_items_error hvs (map_eq_error h)
      exact ⟨i + 1, w, k, hw, hk, he⟩

theorem exists_longKey_of_fields_error :
    ∀ {es : Entries Json} {e : TooManyDigits}, (∀ d ∈ es, d.2.distinct = true) → canonicalizeFields es = .error e →
      ∃ (d : String × Json) (k : String), d ∈ es ∧ d.2.HasLongKey k ∧ e = ⟨k.toList.length⟩
  | [], _, _, h => by cases h
  | (j, v) :: es, e, hd, h => by
    obtain ⟨hv, hes⟩ := List.forall_mem_cons.1 hd
    rw [canonicalizeFields] at h
    split at h
    · rename_i hc
      cases h
      obtain ⟨k, hk, he⟩ := exists_longKey_of_error hv hc
      exact ⟨(j, v), k, List.mem_cons_self, hk, he⟩
    · obtain ⟨d, k, hm, hk, he⟩ := exists_longKey_of_fields_error hes (map_eq_error h)
      exact ⟨d, k, List.mem_cons_of_mem _ hm, hk, he⟩

end

/-- A key of too many digits refuses the value, however deep it stands. -/
theorem HasLongKey.refuses (h : v.HasLongKey k) : ∃ e, v.canonicalize = .error e := by
  obtain ⟨path, es, hp, hk, hn, hl⟩ := h
  cases hc : v.canonicalize with
  | error e => exact ⟨e, rfl⟩
  | ok w =>
    -- otherwise the object at the path would be in order, with every one of its keys short
    have hat := rel_at?_of_canonicalize hc path
    rw [hp] at hat
    generalize w.at? path = y at hat
    cases hat with
    | some ho =>
      obtain ⟨fs, gs, hf, ha, -⟩ := canonicalize_obj_ok ho
      have hshort := List.all_eq_true.1 (all_isShortKey_of_arrange ha) k ((fieldsReordered_of_canonicalize hf).keys_eq ▸ hk)
      rw [isShortKey, hn, Bool.not_true, Bool.false_or, decide_eq_true_eq] at hshort
      omega

/-- For a value whose objects repeat no key:

1. It is refused if and only if some object in it has a key of too many digits.
2. The refusal is one for the digits of such a key.
3. Otherwise each path leads to the same place before and after. -/
theorem canonicalize_refused_or_kept (hd : v.distinct = true) :
    ((∃ e, v.canonicalize = .error e) ↔ ∃ k, v.HasLongKey k) ∧
      (∀ e, v.canonicalize = .error e → ∃ k, v.HasLongKey k ∧ e = ⟨k.toList.length⟩) ∧
      ∀ w, v.canonicalize = .ok w → ∀ path, Option.Rel SameShape (v.at? path) (w.at? path) := by
  refine ⟨⟨?_, ?_⟩, fun e h => exists_longKey_of_error hd h, fun w h path => ?_⟩
  · rintro ⟨e, h⟩
    obtain ⟨k, hk, -⟩ := exists_longKey_of_error hd h
    exact ⟨k, hk⟩
  · rintro ⟨k, hk⟩
    exact hk.refuses
  · have hat := rel_at?_of_canonicalize h path
    generalize v.at? path = x, w.at? path = y at hat
    cases hat with
    | none => exact .none
    | some hxy => exact .some (sameShape_of_canonicalize hxy)

/-- A key of one digit more than are read. -/
def longKey : String := String.ofList (List.replicate 4301 '1')

theorem hasLongKey_longKey : (obj [(longKey, null)]).HasLongKey longKey := by
  have hl : longKey.toList = List.replicate 4301 '1' := String.toList_ofList
  refine ⟨[], _, rfl, List.mem_singleton.2 rfl, ?_, ?_⟩
  · rw [isNumericKey, hl, List.all_replicate]
    decide
  · rw [hl, List.length_replicate]
    decide

/-- A key of too many digits refuses the value from inside, and where there is none a value is found where it was. -/
theorem canonicalize_refused_or_kept_nested :
    (∃ e, (arr [null, obj [("a", obj [(longKey, null)])]]).canonicalize = .error e) ∧
      ∃ w, (obj [("b", arr [int 1, obj [("10", null), ("9", str "x")]]), ("2", null)]).canonicalize = .ok w ∧
        w.at? [.name "b", .index 1, .name "9"] = some (.str "x") := by
  constructor
  · refine (canonicalize_refused_or_kept (by decide)).1.2 ⟨longKey, ?_⟩
    have ha : (obj [("a", obj [(longKey, null)])]).HasLongKey longKey := hasLongKey_longKey.of_step? (s := .name "a") rfl
    exact ha.of_step? (s := .index 1) rfl
  · have hc : (obj [("b", arr [int 1, obj [("10", null), ("9", str "x")]]), ("2", null)]).canonicalize =
        .ok (obj [("2", null), ("b", arr [int 1, obj [("9", str "x"), ("10", null)]])]) :=
      (canonicalize_eq_canonical (by decide)).trans rfl
    refine ⟨_, hc, ?_⟩
    have hp := (canonicalize_refused_or_kept (by decide)).2.2 _ hc [.name "b", .index 1, .name "9"]
    generalize at? (obj [("2", null), _]) _ = y at hp ⊢
    cases hp with
    | some hs =>
      cases hs
      rfl

end HelixGateway.Json
