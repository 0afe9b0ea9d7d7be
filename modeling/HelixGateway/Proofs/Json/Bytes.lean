import HelixGateway.Json.Reader
import HelixGateway.Proofs.Text.Utf8

/-!
# JSON texts in their bytes

No character has the bytes of a surrogate. So a text in UTF-8 that can be read strictly has its characters for code points,
and a JSON text is read from its bytes as it is from its characters.

Main statements: `Text.Utf8.codes_of_decode`, `readBytes_encode`.
-/

namespace HelixGateway

/-! ## Code points -/

namespace Text

namespace Utf8

/-- Where a character starts, no surrogate does. -/
theorem surrogate?_of_scan {b : UInt8} {bs : Bytes} {c : Char} {more : Nat} (h : scan b bs = .char c more) :
    surrogate? (b :: bs) = none := by
  match bs with
  | [] => rfl
  | [_] => rfl
  | x :: y :: bs =>
    rw [surrogate?, if_neg]
    rintro ⟨rfl, hx, -⟩
    -- the second byte of a surrogate is beyond those that may follow its first one
    have hn : ¬ (0x80 ≤ x ∧ x ≤ 0x9F) := by
      rintro ⟨-, hx'⟩
      exact absurd (UInt8.le_trans hx hx') (by decide)
    have hs : scan 0xED (x :: y :: bs) = .fault .invalidContinuation 0 := by
      simp [scan, scanTail, hn]
    rw [hs] at h
    cases h

/-- The code points of bytes that are read strictly are those of the characters. The induction is on the bytes, with any
number of them read already. -/
theorem codesFrom_of_decodeFrom {bs : Bytes} {skip pos : Nat} {s : List Char} (h : decodeFrom skip pos bs = .ok s) :
    codesFrom skip pos bs = .ok (s.map Char.toNat) := by
  induction bs generalizing skip pos s with
  | nil =>
    cases h
    rfl
  | cons b bs ih =>
    cases skip with
    | succ k => exact ih h
    | zero =>
      unfold decodeFrom at h
      cases hs : scan b bs with
      | fault reason more =>
        simp only [hs] at h
        cases h
      | char c more =>
        simp only [hs] at h
        obtain ⟨s', hs', rfl⟩ := map_eq_ok h
        unfold codesFrom
        simp only [surrogate?_of_scan hs, hs, ih hs']
        rfl

/-- A text in UTF-8 has its characters for code points. -/
theorem codes_of_decode {bs : Bytes} {s : List Char} (h : decode bs = .ok s) : codes bs = .ok (s.map Char.toNat) :=
  codesFrom_of_decodeFrom h

end Utf8

/-- Bytes that show no other encoding are read as those of the text. -/
theorem decodeDetected_encode {s : List Char} (h : Encoding.detect (Utf8.encode s) = .utf8 0) :
    decodeDetected (Utf8.encode s) = .ok (s.map Char.toNat) := by
  rw [decodeDetected, h]
  exact Utf8.codes_of_decode (Utf8.decode_eq_ok_iff.2 rfl)

end Text

/-! ## Values -/

/-- A JSON text is read from its bytes as it is from its characters. -/
theorem Json.readBytes_encode {s : List Char} (h : Text.Encoding.detect (Text.Utf8.encode s) = .utf8 0) :
    readBytes (Text.Utf8.encode s) = readDecoded ⟨s, []⟩ := by
  rw [readBytes_eq_of_decodeDetected (Text.decodeDetected_encode h), Text.Shown.ofCodes_toNat]

end HelixGateway
