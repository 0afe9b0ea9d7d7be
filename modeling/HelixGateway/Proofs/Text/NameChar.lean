import HelixGateway.Text.Blank
import HelixGateway.Text.Case

/-!
# Characters of names

The names of queries are ASCII, most of them letters, digits and low lines. There are few such characters, so that a property
of them can be checked one by one.

Main statements: `forall_isAscii`, `forall_isNameChar`.
-/

namespace HelixGateway.Text

/-- The characters of plain names. -/
def isNameChar (c : Char) : Bool := c.isAlphanum || c == '_'

/-- A character of names has seven bits. -/
theorem toNat_lt_of_isNameChar {c : Char} (h : isNameChar c = true) : c.toNat < 0x80 := by
  rw [isNameChar, Bool.or_eq_true, beq_iff_eq] at h
  rcases h with h | rfl
  · unfold Char.isAlphanum Char.isAlpha Char.isUpper Char.isLower Char.isDigit at h
    simp only [Bool.or_eq_true, Bool.and_eq_true, decide_eq_true_eq, ge_iff_le, UInt32.le_iff_toNat_le] at h
    have hc : c.toNat = c.val.toNat := rfl
    have hz : 'z'.val.toNat = 122 := rfl
    have hZ : 'Z'.val.toNat = 90 := rfl
    have h9 : '9'.val.toNat = 57 := rfl
    omega
  · decide

theorem isAscii_of_isNameChar {c : Char} (h : isNameChar c = true) : isAscii c = true :=
  decide_eq_true (toNat_lt_of_isNameChar h)

/-- What holds of the first 128 characters holds of ASCII. -/
theorem forall_isAscii {p : Char → Prop} (h : ∀ n < 0x80, p (Char.ofNat n)) {c : Char} (hc : isAscii c = true) : p c := by
  have := h c.toNat (of_decide_eq_true hc)
  rwa [Char.ofNat_toNat] at this

/-- What holds of the name characters among the first 128 characters holds of the characters of names. -/
theorem forall_isNameChar {p : Char → Prop} (h : ∀ n < 0x80, isNameChar (Char.ofNat n) = true → p (Char.ofNat n)) {c : Char}
    (hc : isNameChar c = true) : p c :=
  forall_isAscii (p := fun c => isNameChar c = true → p c) h (isAscii_of_isNameChar hc) hc

theorem isNameChar_of_isDigit {c : Char} (h : isDigit c = true) : isNameChar c = true := by
  rw [isNameChar, Char.isAlphanum, show c.isDigit = true from h, Bool.or_true, Bool.true_or]

theorem not_isBlank_of_isDigit {c : Char} (h : isDigit c = true) : isBlank c = false :=
  forall_isNameChar (p := fun c => isBlank c = false) (by decide) (isNameChar_of_isDigit h)

end HelixGateway.Text
