import HelixGateway.Decimal.Written
import HelixGateway.Proofs.Json.IntegerText

/-!
# Printed integers are read

The reader of integers that are written by hand knows many scripts, and low lines between digits. Of a printed integer it takes
each digit for what it is, so the text is the integer again, unless it has too many digits.

Main statement: `written?_toString`.
-/

namespace HelixGateway.Decimal

open Text (isDigit digitValue)

/-- A digit has the value of a digit of its script. -/
theorem scriptDigit?_of_isDigit {c : Char} (h : isDigit c = true) : scriptDigit? c = some (digitValue c) := by
  exact Text.forall_isNameChar (p := fun c => isDigit c = true → scriptDigit? c = some (digitValue c)) (by decide)
    (Text.isNameChar_of_isDigit h) h

/-- A run of digits is read as their values. -/
theorem digitRun?_digits {ds : List Char} (h : ∀ c ∈ ds, isDigit c = true) : digitRun? true ds = some (ds.map digitValue) := by
  induction ds with
  | nil => rfl
  | cons c ds ih =>
    obtain ⟨hc, hds⟩ := List.forall_mem_cons.1 h
    have hlow : c ≠ '_' := by
      rintro rfl
      exact absurd hc (by decide)
    rw [digitRun?, if_neg hlow, scriptDigit?_of_isDigit hc]
    simp only [ih hds, Option.map_some, List.map_cons]

/-- The first digit needs none in front of it. -/
theorem digitRun?_of_isDigits {ds : List Char} (h : IsDigits ds) : digitRun? false ds = some (ds.map digitValue) := by
  rw [← digitRun?_digits h.isDigit]
  cases ds with
  | nil => exact absurd rfl h.nonempty
  | cons c ds =>
    have hlow : c ≠ '_' := h.ne (by decide) c List.mem_cons_self
    rw [digitRun?, digitRun?, if_neg hlow, if_neg hlow]

/-- No space stands around an integer that is written out. -/
theorem trimSpace_toString (n : ℤ) : trimSpace (toString n).toList = (toString n).toList := by
  obtain ⟨sign, negative, hs, ht⟩ : ∃ sign negative, Json.IsSign sign negative ∧
      (toString n).toList = sign ++ (Nat.toDigits 10 n.natAbs ++ []) := by
    rw [toList_toString, List.append_nil]
    split
    · exact ⟨_, _, .minus, rfl⟩
    · exact ⟨_, _, .none, rfl⟩
  have hd := isDigits_toDigits n.natAbs
  have hne : sign ++ (Nat.toDigits 10 n.natAbs ++ []) ≠ [] := by simp [hd.nonempty]
  have htrim := Json.trimSpace_append (List.forall_mem_nil _) (List.forall_mem_nil _) (Json.not_isSpace hs hd .none) hne
  rw [ht]
  simpa only [List.nil_append, List.append_nil] using htrim

/-- An integer is read back from its text, unless it has too many digits. -/
theorem written?_toString (n : ℤ) :
    written? (toString n).toList =
      some (if (Nat.toDigits 10 n.natAbs).length ≤ maxDigits then .ok n else .error ⟨(Nat.toDigits 10 n.natAbs).length⟩) := by
  have hv : ((Nat.toDigits 10 n.natAbs).map digitValue).foldl (fun n d => n * 10 + d) 0 = n.natAbs := by
    rw [List.foldl_map]
    exact (digitsValue_eq_placeValue _).trans (placeValue_toDigits _)
  rw [written?, trimSpace_toString, readSign_toString]
  simp only [digitRun?_of_isDigits (isDigits_toDigits n.natAbs), Option.map_some, List.length_map, hv, signed_natAbs]

end HelixGateway.Decimal
