import HelixGateway.Json.Value

/-!
# Equality of values

Whether two JSON values are the same can be computed along them: scalars are compared as they are, arrays item by item and
objects entry by entry, in order.

Main statement: `isSame_iff`.
-/

namespace HelixGateway.Json

mutual

/-- Whether two values are the same. -/
def isSame : Json → Json → Bool
  | .null, .null => true
  | .bool a, .bool b => a = b
  | .int m, .int n => m = n
  | .real x, .real y => x = y
  | .str s, .str t => s = t
  | .arr vs, .arr ws => itemsAreSame vs ws
  | .obj es, .obj fs => fieldsAreSame es fs
  | _, _ => false

def itemsAreSame : List Json → List Json → Bool
  | [], [] => true
  | v :: vs, w :: ws => v.isSame w && itemsAreSame vs ws
  | _, _ => false

def fieldsAreSame : List (String × Json) → List (String × Json) → Bool
  | [], [] => true
  | (j, v) :: es, (k, w) :: fs => j = k && (v.isSame w && fieldsAreSame es fs)
  | _, _ => false

end

mutual

/-- The comparison tells whether two values are equal. -/
theorem isSame_iff : ∀ {v w : Json}, v.isSame w = true ↔ v = w
  | .null, w => by cases w <;> simp [isSame]
  | .bool a, w => by cases w <;> simp [isSame]
  | .int m, w => by cases w <;> simp [isSame]
  | .real x, w => by cases w <;> simp [isSame]
  | .str s, w => by cases w <;> simp [isSame]
  | .arr vs, w => by cases w <;> simp [isSame, itemsAreSame_iff]
  | .obj es, w => by cases w <;> simp [isSame, fieldsAreSame_iff]

theorem itemsAreSame_iff : ∀ {vs ws : List Json}, itemsAreSame vs ws = true ↔ vs = ws
  | [], ws => by cases ws <;> simp [itemsAreSame]
  | v :: vs, [] => by simp [itemsAreSame]
  | v :: vs, w :: ws => by rw [itemsAreSame, Bool.and_eq_true, isSame_iff, itemsAreSame_iff, List.cons.injEq]

theorem fieldsAreSame_iff : ∀ {es fs : List (String × Json)}, fieldsAreSame es fs = true ↔ es = fs
  | [], fs => by cases fs <;> simp [fieldsAreSame]
  | (j, v) :: es, [] => by simp [fieldsAreSame]
  | (j, v) :: es, (k, w) :: fs => by
    rw [fieldsAreSame, Bool.and_eq_true, Bool.and_eq_true, decide_eq_true_iff, isSame_iff, fieldsAreSame_iff, List.cons.injEq,
      Prod.mk.injEq, and_assoc]

end

instance : DecidableEq Json := fun _ _ => decidable_of_iff _ isSame_iff

end HelixGateway.Json
