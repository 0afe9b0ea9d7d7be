import HelixGateway.Text.Utf8
import HelixGateway.Proofs.Results
import Mathlib.Data.List.Basic

/-!
# Texts and their bytes

A sequence is read as a character exactly if it is the encoding of that character: the bounds on its second byte leave out
every sequence that is too long for its number, and every number that is no character. So bytes are the encoding of a text
exactly if the strict reader accepts them, and what either reader makes of the encoding of a text is that text.

Main statements: `encodeChar_of_scan`, `scan_of_encodeChar`, `decode_eq_ok_iff`, `repair_encode`.
-/

namespace HelixGateway.Text.Utf8

/-! ## Further bytes -/

/-- A further byte of a sequence. -/
def IsFurther (b : UInt8) : Prop := 0x80 ≤ b ∧ b ≤ 0xBF

/-- The further bytes of a sequence, whose first one lies between two bounds. -/
def IsTail (lo hi : UInt8) : Bytes → Prop
  | [] => True
  | b :: bs => (lo ≤ b ∧ b ≤ hi) ∧ ∀ x ∈ bs, IsFurther x

/-- The further bytes of a sequence are those from 0x80 to 0xBF. -/
theorem isFurther_iff {b : UInt8} : IsFurther b ↔ 0x80 ≤ b.toNat ∧ b.toNat ≤ 0xBF := by
  rw [IsFurther, UInt8.le_iff_toNat_le, UInt8.le_iff_toNat_le]
  exact Iff.rfl

/-- Within the widest bounds, the first further byte is like the others. -/
theorem isTail_further {bs : Bytes} : IsTail 0x80 0xBF bs ↔ ∀ x ∈ bs, IsFurther x := by
  cases bs with
  | nil => simp [IsTail]
  | cons b bs => rw [IsTail, List.forall_mem_cons, IsFurther]

/-- A tail is read as far as it is one. -/
theorem scanTail_eq_char_iff {n acc taken more : Nat} {lo hi : UInt8} {bs : Bytes} {c : Char} :
    scanTail n lo hi acc taken bs = .char c more ↔
      ∃ tail rest, bs = tail ++ rest ∧ tail.length = n ∧ IsTail lo hi tail ∧
        c = Char.ofNat (tail.foldl (fun n b => n * 64 + (b.toNat - 0x80)) acc) ∧ more = taken + n := by
  induction n generalizing lo hi acc taken bs with
  | zero =>
    rw [scanTail, Scan.char.injEq]
    constructor
    · rintro ⟨rfl, rfl⟩
      exact ⟨[], bs, rfl, rfl, trivial, rfl, rfl⟩
    · rintro ⟨tail, rest, -, hl, -, rfl, rfl⟩
      rw [List.eq_nil_of_length_eq_zero hl]
      exact ⟨rfl, rfl⟩
  | succ n ih =>
    cases bs with
    | nil =>
      rw [scanTail]
      refine iff_of_false nofun ?_
      rintro ⟨tail, rest, hb, hl, -⟩
      rw [(List.append_eq_nil_iff.1 hb.symm).1] at hl
      cases hl
    | cons b bs =>
      rw [scanTail]
      split
      · rename_i hb
        rw [ih]
        constructor
        · rintro ⟨tail, rest, rfl, rfl, ht, rfl, rfl⟩
          exact ⟨b :: tail, rest, rfl, rfl, ⟨hb, isTail_further.1 ht⟩, by rw [List.foldl_cons], by omega⟩
        · rintro ⟨tail, rest, hs, hl, ht, rfl, rfl⟩
          cases tail with
          | nil => cases hl
          | cons x tail =>
            obtain ⟨rfl, rfl⟩ := List.cons.inj hs
            exact ⟨tail, rest, rfl, Nat.succ.inj hl, isTail_further.2 ht.2, by rw [List.foldl_cons], by omega⟩
      · rename_i hb
        refine iff_of_false nofun ?_
        rintro ⟨tail, rest, hs, hl, ht, -⟩
        cases tail with
        | nil => cases hl
        | cons x tail =>
          obtain ⟨rfl, -⟩ := List.cons.inj hs
          exact hb ht.1

/-! ## Sequences of each length -/

section Sequences

variable {b : UInt8} {bs : Bytes} {c : Char} {more : Nat}

/-- A byte of the seven-bit range is a sequence of its own. -/
theorem scan_one_iff (h : b.toNat < 0x80) : scan b bs = .char c more ↔ c = Char.ofNat b.toNat ∧ more = 0 := by
  rw [scan_ascii (UInt8.lt_iff_toNat_lt.2 h), Scan.char.injEq, eq_comm, @eq_comm _ 0]

/-- Two bytes: the first ones that would say too little are left out. -/
theorem scan_two_iff (h : 0xC2 ≤ b.toNat ∧ b.toNat < 0xE0) :
    scan b bs = .char c more ↔ ∃ x rest, bs = [x] ++ rest ∧ IsFurther x ∧
      c = Char.ofNat ((b.toNat - 0xC0) * 64 + (x.toNat - 0x80)) ∧ more = 1 := by
  have hs : scan b bs = scanTail 1 0x80 0xBF (b.toNat - 0xC0) 0 bs := by
    rw [scan, if_neg, if_neg, if_pos]
    all_goals
      simp only [UInt8.lt_iff_toNat_lt, UInt8.reduceToNat]
      omega
  rw [hs, scanTail_eq_char_iff]
  constructor
  · rintro ⟨tail, rest, rfl, hl, ht, hc, rfl⟩
    obtain ⟨x, rfl⟩ := List.length_eq_one_iff.1 hl
    exact ⟨x, rest, rfl, ht.1, by simpa only [List.foldl_cons, List.foldl_nil] using hc, rfl⟩
  · rintro ⟨x, rest, rfl, hx, hc, rfl⟩
    exact ⟨[x], rest, rfl, rfl, ⟨hx, List.forall_mem_nil _⟩, by simpa only [List.foldl_cons, List.foldl_nil] using hc, rfl⟩

/-- A bound that depends on the byte before. -/
theorem toNat_ite (b k x y : UInt8) :
    (if b = k then x else y).toNat = if b.toNat = k.toNat then x.toNat else y.toNat := by
  by_cases h : b = k
  · simp [h]
  · simp [h, UInt8.toNat_inj]

/-- Three bytes: the second one may not say too little, and not start a surrogate. -/
theorem scan_three_iff (h : 0xE0 ≤ b.toNat ∧ b.toNat < 0xF0) :
    scan b bs = .char c more ↔ ∃ x y rest, bs = [x, y] ++ rest ∧ IsFurther x ∧ IsFurther y ∧
      (b.toNat = 0xE0 → 0xA0 ≤ x.toNat) ∧ (b.toNat = 0xED → x.toNat ≤ 0x9F) ∧
      c = Char.ofNat (((b.toNat - 0xE0) * 64 + (x.toNat - 0x80)) * 64 + (y.toNat - 0x80)) ∧ more = 2 := by
  have hs : scan b bs = scanTail 2 (if b = 0xE0 then 0xA0 else 0x80) (if b = 0xED then 0x9F else 0xBF)
      (b.toNat - 0xE0) 0 bs := by
    rw [scan, if_neg, if_neg, if_neg, if_pos]
    all_goals
      simp only [UInt8.lt_iff_toNat_lt, UInt8.reduceToNat]
      omega
  have hb : ∀ x y, IsTail (if b = 0xE0 then 0xA0 else 0x80) (if b = 0xED then 0x9F else 0xBF) [x, y] ↔
      IsFurther x ∧ IsFurther y ∧ (b.toNat = 0xE0 → 0xA0 ≤ x.toNat) ∧ (b.toNat = 0xED → x.toNat ≤ 0x9F) := by
    intro x y
    simp only [IsTail, List.forall_mem_singleton, isFurther_iff, UInt8.le_iff_toNat_le, toNat_ite, UInt8.reduceToNat]
    split <;> split <;> omega
  rw [hs, scanTail_eq_char_iff]
  constructor
  · rintro ⟨tail, rest, rfl, hl, ht, hc, rfl⟩
    obtain ⟨x, y, rfl⟩ := List.length_eq_two.1 hl
    obtain ⟨hx, hy, hlo, hhi⟩ := (hb x y).1 ht
    exact ⟨x, y, rest, rfl, hx, hy, hlo, hhi, by simpa only [List.foldl_cons, List.foldl_nil] using hc, rfl⟩
  · rintro ⟨x, y, rest, rfl, hx, hy, hlo, hhi, hc, rfl⟩
    exact ⟨[x, y], rest, rfl, rfl, (hb x y).2 ⟨hx, hy, hlo, hhi⟩,
      by simpa only [List.foldl_cons, List.foldl_nil] using hc, rfl⟩

/-- Four bytes: the second one may not say too little, and not lead beyond U+10FFFF. -/
theorem scan_four_iff (h : 0xF0 ≤ b.toNat ∧ b.toNat < 0xF5) :
    scan b bs = .char c more ↔ ∃ x y z rest, bs = [x, y, z] ++ rest ∧ IsFurther x ∧ IsFurther y ∧ IsFurther z ∧
      (b.toNat = 0xF0 → 0x90 ≤ x.toNat) ∧ (b.toNat = 0xF4 → x.toNat ≤ 0x8F) ∧
      c = Char.ofNat ((((b.toNat - 0xF0) * 64 + (x.toNat - 0x80)) * 64 + (y.toNat - 0x80)) * 64 + (z.toNat - 0x80)) ∧
      more = 3 := by
  have hs : scan b bs = scanTail 3 (if b = 0xF0 then 0x90 else 0x80) (if b = 0xF4 then 0x8F else 0xBF)
      (b.toNat - 0xF0) 0 bs := by
    rw [scan, if_neg, if_neg, if_neg, if_neg, if_pos]
    all_goals
      simp only [UInt8.lt_iff_toNat_lt, UInt8.reduceToNat]
      omega
  have hb : ∀ x y z, IsTail (if b = 0xF0 then 0x90 else 0x80) (if b = 0xF4 then 0x8F else 0xBF) [x, y, z] ↔
      IsFurther x ∧ IsFurther y ∧ IsFurther z ∧ (b.toNat = 0xF0 → 0x90 ≤ x.toNat) ∧
        (b.toNat = 0xF4 → x.toNat ≤ 0x8F) := by
    intro x y z
    simp only [IsTail, List.mem_cons, List.not_mem_nil, or_false, forall_eq_or_imp, forall_eq, isFurther_iff,
      UInt8.le_iff_toNat_le, toNat_ite, UInt8.reduceToNat]
    split <;> split <;> omega
  rw [hs, scanTail_eq_char_iff]
  constructor
  · rintro ⟨tail, rest, rfl, hl, ht, hc, rfl⟩
    obtain ⟨x, y, z, rfl⟩ := List.length_eq_three.1 hl
    obtain ⟨hx, hy, hz, hlo, hhi⟩ := (hb x y z).1 ht
    exact ⟨x, y, z, rest, rfl, hx, hy, hz, hlo, hhi, by simpa only [List.foldl_cons, List.foldl_nil] using hc, rfl⟩
  · rintro ⟨x, y, z, rest, rfl, hx, hy, hz, hlo, hhi, hc, rfl⟩
    exact ⟨[x, y, z], rest, rfl, rfl, (hb x y z).2 ⟨hx, hy, hz, hlo, hhi⟩,
      by simpa only [List.foldl_cons, List.foldl_nil] using hc, rfl⟩

/-- No other byte starts a sequence. -/
theorem scan_ne_char (h : 0x80 ≤ b.toNat ∧ b.toNat < 0xC2 ∨ 0xF5 ≤ b.toNat) : scan b bs ≠ .char c more := by
  intro hs
  simp only [scan, UInt8.lt_iff_toNat_lt, UInt8.reduceToNat] at hs
  rcases h with h | h
  · rw [if_neg (by omega), if_pos (by omega)] at hs
    cases hs
  · rw [if_neg (by omega), if_neg (by omega), if_neg (by omega), if_neg (by omega), if_neg (by omega)] at hs
    cases hs

end Sequences

/-! ## Encoded characters -/

/-- The number of a character is the one that it is made from. -/
theorem toNat_ofNat {n : Nat} (h : n.isValidChar) : (Char.ofNat n).val.toNat = n := by
  rw [Char.ofNat, dif_pos h]
  rfl

section Encoded

variable {c : Char}

/-- A character of up to seven bits is one byte. -/
theorem encodeChar_one (h : c.val.toNat ≤ 0x7F) : String.utf8EncodeChar c = [UInt8.ofNat c.val.toNat] := by
  simp only [String.utf8EncodeChar, if_pos h]

/-- A character of up to eleven bits is two bytes. -/
theorem encodeChar_two (h : 0x7F < c.val.toNat ∧ c.val.toNat ≤ 0x7FF) :
    String.utf8EncodeChar c = [UInt8.ofNat (c.val.toNat / 64 + 0xC0), UInt8.ofNat (c.val.toNat % 64 + 0x80)] := by
  simp only [String.utf8EncodeChar]
  rw [if_neg (by omega), if_pos h.2, Nat.mod_eq_of_lt (a := c.val.toNat / 64) (by omega)]

/-- A character of up to sixteen bits is three bytes. -/
theorem encodeChar_three (h : 0x7FF < c.val.toNat ∧ c.val.toNat ≤ 0xFFFF) :
    String.utf8EncodeChar c = [UInt8.ofNat (c.val.toNat / 4096 + 0xE0), UInt8.ofNat (c.val.toNat / 64 % 64 + 0x80),
      UInt8.ofNat (c.val.toNat % 64 + 0x80)] := by
  simp only [String.utf8EncodeChar]
  rw [if_neg (by omega), if_neg (by omega), if_pos h.2, Nat.mod_eq_of_lt (a := c.val.toNat / 4096) (by omega)]

/-- Any other character is four bytes. -/
theorem encodeChar_four (h : 0xFFFF < c.val.toNat) :
    String.utf8EncodeChar c = [UInt8.ofNat (c.val.toNat / 262144 + 0xF0), UInt8.ofNat (c.val.toNat / 4096 % 64 + 0x80),
      UInt8.ofNat (c.val.toNat / 64 % 64 + 0x80), UInt8.ofNat (c.val.toNat % 64 + 0x80)] := by
  have hc : c.val.toNat < 0xD800 ∨ 0xDFFF < c.val.toNat ∧ c.val.toNat < 0x110000 := c.valid
  simp only [String.utf8EncodeChar]
  rw [if_neg (by omega), if_neg (by omega), if_neg (by omega), Nat.mod_eq_of_lt (a := c.val.toNat / 262144) (by omega)]

end Encoded

/-! ## Sequences and characters -/

theorem ofNat_eq {n : Nat} {b : UInt8} (h : n = b.toNat) : UInt8.ofNat n = b := by
  rw [h, UInt8.ofNat_toNat]

/-- What is read as a character is the encoding of that character. -/
theorem encodeChar_of_scan {b : UInt8} {bs : Bytes} {c : Char} {more : Nat} (h : scan b bs = .char c more) :
    ∃ tail rest, bs = tail ++ rest ∧ tail.length = more ∧ String.utf8EncodeChar c = b :: tail := by
  by_cases h1 : b.toNat < 0x80
  · obtain ⟨hc, rfl⟩ := (scan_one_iff h1).1 h
    have hn : c.val.toNat = b.toNat := hc ▸ toNat_ofNat (by omega)
    refine ⟨[], bs, rfl, rfl, ?_⟩
    rw [encodeChar_one (by omega), ofNat_eq hn]
  by_cases h2 : 0xC2 ≤ b.toNat ∧ b.toNat < 0xE0
  · obtain ⟨x, rest, rfl, hx, hc, rfl⟩ := (scan_two_iff h2).1 h
    rw [isFurther_iff] at hx
    have hn := hc ▸ toNat_ofNat (n := (b.toNat - 0xC0) * 64 + (x.toNat - 0x80)) (by omega)
    refine ⟨[x], rest, rfl, rfl, ?_⟩
    rw [encodeChar_two (by omega), ofNat_eq (b := b) (by omega), ofNat_eq (b := x) (by omega)]
  by_cases h3 : 0xE0 ≤ b.toNat ∧ b.toNat < 0xF0
  · obtain ⟨x, y, rest, rfl, hx, hy, hlo, hhi, hc, rfl⟩ := (scan_three_iff h3).1 h
    rw [isFurther_iff] at hx hy
    have hn := hc ▸ toNat_ofNat (n := ((b.toNat - 0xE0) * 64 + (x.toNat - 0x80)) * 64 + (y.toNat - 0x80)) (by omega)
    refine ⟨[x, y], rest, rfl, rfl, ?_⟩
    rw [encodeChar_three (by omega), ofNat_eq (b := b) (by omega), ofNat_eq (b := x) (by omega),
      ofNat_eq (b := y) (by omega)]
  by_cases h4 : 0xF0 ≤ b.toNat ∧ b.toNat < 0xF5
  · obtain ⟨x, y, z, rest, rfl, hx, hy, hz, hlo, hhi, hc, rfl⟩ := (scan_four_iff h4).1 h
    rw [isFurther_iff] at hx hy hz
    have hn := hc ▸ toNat_ofNat
      (n := (((b.toNat - 0xF0) * 64 + (x.toNat - 0x80)) * 64 + (y.toNat - 0x80)) * 64 + (z.toNat - 0x80)) (by omega)
    refine ⟨[x, y, z], rest, rfl, rfl, ?_⟩
    rw [encodeChar_four (by omega), ofNat_eq (b := b) (by omega), ofNat_eq (b := x) (by omega),
      ofNat_eq (b := y) (by omega), ofNat_eq (b := z) (by omega)]
  · exact absurd h (scan_ne_char (by omega))

/-- The encoding of a character is read as that character, whatever follows it. -/
theorem scan_of_encodeChar {b : UInt8} {tail : Bytes} {c : Char} (h : String.utf8EncodeChar c = b :: tail) (rest : Bytes) :
    scan b (tail ++ rest) = .char c tail.length := by
  have hc : c.val.toNat < 0xD800 ∨ 0xDFFF < c.val.toNat ∧ c.val.toNat < 0x110000 := c.valid
  have hn : ∀ n, n = c.val.toNat → c = Char.ofNat n := fun n h => by rw [h]; exact (Char.ofNat_toNat c).symm
  have hb : ∀ m < 256, (UInt8.ofNat m).toNat = m := fun m h => UInt8.toNat_ofNat_of_lt' h
  by_cases h1 : c.val.toNat ≤ 0x7F
  · rw [encodeChar_one h1] at h
    obtain ⟨rfl, rfl⟩ := List.cons.inj h
    have hv := hb c.val.toNat (by omega)
    exact (scan_one_iff (by omega)).2 ⟨hn _ hv, rfl⟩
  by_cases h2 : c.val.toNat ≤ 0x7FF
  · rw [encodeChar_two ⟨by omega, h2⟩] at h
    obtain ⟨rfl, rfl⟩ := List.cons.inj h
    have hv := hb (c.val.toNat / 64 + 0xC0) (by omega)
    have hx := hb (c.val.toNat % 64 + 0x80) (by omega)
    exact (scan_two_iff (by omega)).2 ⟨_, rest, rfl, isFurther_iff.2 (by omega), hn _ (by omega), rfl⟩
  by_cases h3 : c.val.toNat ≤ 0xFFFF
  · rw [encodeChar_three ⟨by omega, h3⟩] at h
    obtain ⟨rfl, rfl⟩ := List.cons.inj h
    have hv := hb (c.val.toNat / 4096 + 0xE0) (by omega)
    have hx := hb (c.val.toNat / 64 % 64 + 0x80) (by omega)
    have hy := hb (c.val.toNat % 64 + 0x80) (by omega)
    exact (scan_three_iff (by omega)).2 ⟨_, _, rest, rfl, isFurther_iff.2 (by omega), isFurther_iff.2 (by omega),
      by omega, by omega, hn _ (by omega), rfl⟩
  · rw [encodeChar_four (by omega)] at h
    obtain ⟨rfl, rfl⟩ := List.cons.inj h
    have hv := hb (c.val.toNat / 262144 + 0xF0) (by omega)
    have hx := hb (c.val.toNat / 4096 % 64 + 0x80) (by omega)
    have hy := hb (c.val.toNat / 64 % 64 + 0x80) (by omega)
    have hz := hb (c.val.toNat % 64 + 0x80) (by omega)
    exact (scan_four_iff (by omega)).2 ⟨_, _, _, rest, rfl, isFurther_iff.2 (by omega), isFurther_iff.2 (by omega),
      isFurther_iff.2 (by omega), by omega, by omega, hn _ (by omega), rfl⟩

/-! ## Texts -/

/-- A character takes at least one byte. -/
theorem exists_encodeChar (c : Char) : ∃ b tail, String.utf8EncodeChar c = b :: tail := by
  cases h : String.utf8EncodeChar c with
  | nil =>
    have hl := String.length_utf8EncodeChar c
    rw [h, List.length_nil] at hl
    have hp := c.utf8Size_pos
    omega
  | cons b tail => exact ⟨b, tail, rfl⟩

theorem encode_cons (c : Char) (s : List Char) : encode (c :: s) = String.utf8EncodeChar c ++ encode s := List.flatMap_cons

/-- Bytes that are read already are passed over. -/
theorem decodeFrom_skip (tail rest : Bytes) (pos : Nat) :
    decodeFrom tail.length pos (tail ++ rest) = decodeFrom 0 (pos + tail.length) rest := by
  induction tail generalizing pos with
  | nil => rfl
  | cons b tail ih =>
    rw [List.cons_append, List.length_cons, decodeFrom, ih]
    congr 1
    omega

theorem repairFrom_skip (tail rest : Bytes) : repairFrom tail.length (tail ++ rest) = repairFrom 0 rest := by
  induction tail with
  | nil => rfl
  | cons b tail ih => rw [List.cons_append, List.length_cons, repairFrom, ih]

/-- The strict reader takes the sequence of a character off. -/
theorem decodeFrom_append (c : Char) (rest : Bytes) (pos : Nat) :
    ∃ pos', decodeFrom 0 pos (String.utf8EncodeChar c ++ rest) = (decodeFrom 0 pos' rest).map (c :: ·) := by
  obtain ⟨b, tail, hc⟩ := exists_encodeChar c
  refine ⟨pos + 1 + tail.length, ?_⟩
  rw [hc, List.cons_append, decodeFrom]
  simp only [scan_of_encodeChar hc, decodeFrom_skip]

/-- An encoded text is read back, from whichever position it is counted. -/
theorem decodeFrom_encode (s : List Char) (pos : Nat) : decodeFrom 0 pos (encode s) = .ok s := by
  induction s generalizing pos with
  | nil => rfl
  | cons c s ih =>
    obtain ⟨pos', hc⟩ := decodeFrom_append c (encode s) pos
    rw [encode_cons, hc, ih]
    rfl

/-- What the strict reader accepts is the encoding of what it reads. -/
theorem eq_encode_of_decodeFrom {bs : Bytes} {pos : Nat} {s : List Char} (h : decodeFrom 0 pos bs = .ok s) :
    bs = encode s := by
  induction hn : bs.length using Nat.strongRecOn generalizing bs pos s with
  | ind n ih =>
    cases bs with
    | nil =>
      cases h
      rfl
    | cons b bs =>
      rw [decodeFrom] at h
      split at h
      · rename_i c more hs
        obtain ⟨tail, rest, rfl, rfl, hc⟩ := encodeChar_of_scan hs
        obtain ⟨s', hr, rfl⟩ := map_eq_ok h
        rw [decodeFrom_skip] at hr
        have hlen : rest.length < n := by
          rw [← hn, List.length_cons, List.length_append]
          omega
        rw [encode_cons, hc, ← ih rest.length hlen hr rfl, List.cons_append]
      · cases h

/-- The strict reader accepts exactly the encodings of texts. -/
theorem decode_eq_ok_iff {bs : Bytes} {s : List Char} : decode bs = .ok s ↔ bs = encode s :=
  ⟨eq_encode_of_decodeFrom, fun h => h ▸ decodeFrom_encode s 0⟩

/-- The lenient reader has nothing to replace in the encoding of a text. -/
theorem repair_encode (s : List Char) : repair (encode s) = s := by
  rw [repair]
  induction s with
  | nil => rfl
  | cons c s ih =>
    obtain ⟨b, tail, hc⟩ := exists_encodeChar c
    rw [encode_cons, hc, List.cons_append, repairFrom]
    simp only [scan_of_encodeChar hc, repairFrom_skip, ih]

end HelixGateway.Text.Utf8
