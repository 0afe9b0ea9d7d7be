import HelixGateway.Text.Percent
import HelixGateway.Proofs.Text.NameChar
import HelixGateway.Proofs.Text.Separator
import HelixGateway.Proofs.Text.Utf8

/-!
# Form data

What is percent-encoded is read back as it was, whatever characters are safe, if those are ASCII and no percent sign: the
bytes of the characters that are not safe join those of the safe ones around them, so that all of the text is decoded at
once. A name or a value of form data holds neither an ampersand nor an equals sign, and so form data is read back as the
pairs it was made of.

Main statements: `decode_encodeWith`, `decodeForm_encodeForm`, `decodePairs_encodePairs`, `isFormChar_of_mem_encodePairs`.
-/

namespace HelixGateway.Text.Percent

/-! ## Encoded bytes -/

/-- A digit to the base sixteen is read back. -/
theorem hexValue?_upperHexDigit : ∀ n < 16, hexValue? (upperHexDigit n) = some n := by decide

theorem isUnreserved_upperHexDigit : ∀ n < 16, isUnreserved (upperHexDigit n) = true := by decide

/-- The two digits of a byte are read back as the byte. -/
theorem hexPair?_upperHexDigit (b : UInt8) :
    hexPair? (upperHexDigit (b.toNat / 16)) (upperHexDigit (b.toNat % 16)) = some b := by
  have hb : b.toNat < 256 := b.toNat_lt
  have hn : b.toNat / 16 * 16 + b.toNat % 16 = b.toNat := by omega
  rw [hexPair?, hexValue?_upperHexDigit _ (by omega), hexValue?_upperHexDigit _ (by omega)]
  simp only [hn, UInt8.ofNat_toNat]

/-- A byte that is written as two digits joins the bytes that wait to be read. -/
theorem decodeFrom_encodeByte (pending : Bytes) (b : UInt8) (s : List Char) :
    decodeFrom pending (encodeByte b ++ s) = decodeFrom (b :: pending) s := by
  show decodeFrom pending ('%' :: upperHexDigit (b.toNat / 16) :: upperHexDigit (b.toNat % 16) :: s) = _
  rw [decodeFrom, hexPair?_upperHexDigit]

/-- Bytes that are written as pairs of digits all join those that wait to be read. -/
theorem decodeFrom_encodeBytes (pending bs : Bytes) (s : List Char) :
    decodeFrom pending (bs.flatMap encodeByte ++ s) = decodeFrom (bs.reverse ++ pending) s := by
  induction bs generalizing pending with
  | nil => rfl
  | cons b bs ih =>
    rw [List.flatMap_cons, List.append_assoc, decodeFrom_encodeByte, ih, List.reverse_cons, List.append_assoc,
      List.singleton_append]

/-! ## Encoded texts -/

/-- An ASCII character other than the percent sign is the byte of its encoding. -/
theorem decodeFrom_cons {c : Char} (ha : isAscii c = true) (hp : c ≠ '%') (pending : Bytes) (s : List Char) :
    decodeFrom pending (c :: s) = decodeFrom ((String.utf8EncodeChar c).reverse ++ pending) s := by
  have hc : c.val.toNat ≤ 0x7F := Nat.le_of_lt_succ (of_decide_eq_true ha)
  rw [Utf8.encodeChar_one hc, decodeFrom, if_pos ha]
  · rfl
  · intro a b t h
    exact absurd h hp

variable {safe : Char → Bool}

/-- What is encoded is read as the bytes of the text, whichever ASCII characters stand for themselves. -/
theorem decodeFrom_encodeWith (h : ∀ c, safe c = true → isAscii c = true ∧ c ≠ '%') (pending : Bytes) (s : List Char) :
    decodeFrom pending (encodeWith safe s) = Utf8.repair (pending.reverse ++ Utf8.encode s) := by
  induction s generalizing pending with
  | nil =>
    rw [encodeWith, List.flatMap_nil, decodeFrom, Utf8.encode, List.flatMap_nil, List.append_nil]
  | cons c s ih =>
    -- the bytes of the character join those held back, whether it is encoded or not
    have hc : decodeFrom pending (encodeWith safe (c :: s)) =
        decodeFrom ((String.utf8EncodeChar c).reverse ++ pending) (encodeWith safe s) := by
      rw [encodeWith, List.flatMap_cons]
      split
      · rename_i hs
        exact decodeFrom_cons (h c hs).1 (h c hs).2 pending _
      · exact decodeFrom_encodeBytes pending _ _
    rw [hc, ih, List.reverse_append, List.reverse_reverse, Utf8.encode_cons, List.append_assoc]

/-- What is percent-encoded is read back. -/
theorem decode_encodeWith (h : ∀ c, safe c = true → isAscii c = true ∧ c ≠ '%') (s : List Char) :
    decode (encodeWith safe s) = s := by
  rw [decode, decodeFrom_encodeWith h, List.reverse_nil, List.nil_append, Utf8.repair_encode]

/-! ## Characters of form data -/

/-- The characters that stand for themselves are those of names and three marks. -/
theorem isUnreserved_iff {c : Char} : isUnreserved c = true ↔ isNameChar c = true ∨ c ∈ ['-', '.', '~'] := by
  simp only [isUnreserved, isNameChar, Bool.or_eq_true, beq_iff_eq, List.mem_cons, List.not_mem_nil, or_false]
  tauto

/-- What holds of the characters of names and of three marks holds of all that need no encoding. -/
theorem forall_isUnreserved {p : Char → Prop} (hn : ∀ c, isNameChar c = true → p c) (hm : ∀ c ∈ ['-', '.', '~'], p c)
    {c : Char} (h : isUnreserved c = true) : p c :=
  (isUnreserved_iff.1 h).elim (hn c) (hm c)

theorem isAscii_of_isUnreserved {c : Char} (h : isUnreserved c = true) : isAscii c = true :=
  forall_isUnreserved (p := fun c => isAscii c = true) (fun _ => isAscii_of_isNameChar) (by decide) h

theorem ne_of_isUnreserved {c d : Char} (hd : isUnreserved d = false) (h : isUnreserved c = true) : c ≠ d := by
  rintro rfl
  rw [hd] at h
  cases h

/-- An encoded byte is made of a percent sign and characters that stand for themselves. -/
theorem mem_encodeByte {b : UInt8} {c : Char} (h : c ∈ encodeByte b) : c = '%' ∨ isUnreserved c = true := by
  have hb : b.toNat < 256 := b.toNat_lt
  simp only [encodeByte, List.mem_cons, List.not_mem_nil, or_false] at h
  rcases h with rfl | rfl | rfl
  · exact Or.inl rfl
  · exact Or.inr (isUnreserved_upperHexDigit _ (by omega))
  · exact Or.inr (isUnreserved_upperHexDigit _ (by omega))

/-- An encoded text is made of plus signs, percent signs and characters that stand for themselves. -/
theorem mem_encodeForm {s : List Char} {c : Char} (h : c ∈ encodeForm s) :
    c = '+' ∨ c = '%' ∨ isUnreserved c = true := by
  obtain ⟨d, -, h⟩ := List.mem_flatMap.1 h
  split at h
  · exact Or.inl (List.mem_singleton.1 h)
  · split at h
    · rename_i hu
      rw [List.mem_singleton.1 h]
      exact Or.inr (Or.inr hu)
    · obtain ⟨b, -, h⟩ := List.mem_flatMap.1 h
      exact Or.inr (mem_encodeByte h)

/-- No other character is in an encoded text, and so neither is any mark that separates pairs. -/
theorem not_mem_encodeForm {c : Char} (hu : isUnreserved c = false) (hc : c ∉ ['+', '%']) (s : List Char) :
    c ∉ encodeForm s := by
  intro h
  rcases mem_encodeForm h with rfl | rfl | h
  · exact hc (by simp)
  · exact hc (by simp)
  · exact ne_of_isUnreserved hu h rfl

/-- The characters of form data, and the question mark before it. -/
def isFormChar (c : Char) : Bool := isNameChar c || ['-', '.', '~', '+', '%', '=', '&', '?'].contains c

theorem isFormChar_of_isUnreserved {c : Char} (h : isUnreserved c = true) : isFormChar c = true := by
  refine forall_isUnreserved (p := fun c => isFormChar c = true) (fun c hn => ?_) (by decide) h
  rw [isFormChar, hn]
  rfl

/-- An encoded text may be in form data. -/
theorem isFormChar_of_mem_encodeForm {s : List Char} {c : Char} (h : c ∈ encodeForm s) : isFormChar c = true := by
  rcases mem_encodeForm h with rfl | rfl | h
  · decide
  · decide
  · exact isFormChar_of_isUnreserved h

theorem mem_join {sep : List Char} {parts : List (List Char)} {c : Char} (h : c ∈ join sep parts) :
    c ∈ sep ∨ ∃ s ∈ parts, c ∈ s := by
  induction parts with
  | nil => cases h
  | cons s parts ih =>
    cases parts with
    | nil => exact Or.inr ⟨s, List.mem_cons_self, h⟩
    | cons t parts =>
      have hj : join sep (s :: t :: parts) = s ++ (sep ++ join sep (t :: parts)) := rfl
      rw [hj, List.mem_append, List.mem_append] at h
      rcases h with h | h | h
      · exact Or.inr ⟨s, List.mem_cons_self, h⟩
      · exact Or.inl h
      · rcases ih h with h | ⟨u, hu, h⟩
        · exact Or.inl h
        · exact Or.inr ⟨u, List.mem_cons_of_mem _ hu, h⟩

/-- Form data holds the characters of form data only. -/
theorem isFormChar_of_mem_encodePairs {ps : List (List Char × List Char)} {c : Char} (h : c ∈ encodePairs ps) :
    isFormChar c = true := by
  rcases mem_join h with h | ⟨s, hs, h⟩
  · rw [List.mem_singleton.1 h]
    decide
  · obtain ⟨p, -, rfl⟩ := List.mem_map.1 hs
    rcases List.mem_append.1 h with h | h
    · exact isFormChar_of_mem_encodeForm h
    · rcases List.mem_cons.1 h with rfl | h
      · decide
      · exact isFormChar_of_mem_encodeForm h

/-! ## Form data is read back -/

/-- With spaces for its plus signs, a name or a value of form data is percent-encoded but for the spaces. -/
theorem map_encodeForm (s : List Char) :
    (encodeForm s).map (fun c => if c = '+' then ' ' else c) = encodeWith (fun c => c == ' ' || isUnreserved c) s := by
  rw [encodeForm, List.map_flatMap, encodeWith]
  congr
  funext c
  by_cases hc : c = ' '
  · subst hc
    rfl
  · have hs : (c == ' ' || isUnreserved c) = isUnreserved c := by rw [beq_false_of_ne hc, Bool.false_or]
    rw [if_neg hc, hs]
    split
    · rename_i hu
      rw [List.map_singleton, if_neg (ne_of_isUnreserved (d := '+') (by decide) hu)]
    · -- no encoded byte holds a plus sign
      refine (List.map_congr_left (g := id) fun d hd => if_neg ?_).trans (List.map_id _)
      obtain ⟨b, -, hd⟩ := List.mem_flatMap.1 hd
      rcases mem_encodeByte hd with rfl | hu
      · decide
      · exact ne_of_isUnreserved (by decide) hu

/-- A text is read back from form data. -/
theorem decodeForm_encodeForm (s : List Char) : decodeForm (encodeForm s) = s := by
  rw [decodeForm, map_encodeForm]
  refine decode_encodeWith (fun c hc => ?_) s
  rw [Bool.or_eq_true, beq_iff_eq] at hc
  rcases hc with rfl | hu
  · decide
  · exact ⟨isAscii_of_isUnreserved hu, ne_of_isUnreserved (by decide) hu⟩

/-- No ampersand is inside an encoded pair. -/
theorem ampersand_not_mem (p : List Char × List Char) : '&' ∉ encodeForm p.1 ++ '=' :: encodeForm p.2 := by
  intro h
  rcases List.mem_append.1 h with h | h
  · exact not_mem_encodeForm (by decide) (by decide) _ h
  · rcases List.mem_cons.1 h with h | h
    · exact absurd h (by decide)
    · exact not_mem_encodeForm (by decide) (by decide) _ h

/-- An encoded pair is cut into its key and its value. -/
theorem cut_pair (p : List Char × List Char) :
    cut ['='] (encodeForm p.1 ++ '=' :: encodeForm p.2) = some (encodeForm p.1, encodeForm p.2) :=
  cut_append_of_not_mem (not_mem_encodeForm (by decide) (by decide) _)

/-- A text of ASCII characters that are neither percent nor plus signs stands for itself. -/
theorem decodeForm_of_plain {s : List Char} (h : ∀ c ∈ s, isAscii c = true ∧ c ≠ '%' ∧ c ≠ '+') : decodeForm s = s := by
  have hmap : s.map (fun c => if c = '+' then ' ' else c) = s :=
    (List.map_congr_left (g := id) fun c hc => if_neg (h c hc).2.2).trans (List.map_id s)
  have hw : encodeWith (fun c => isAscii c && c != '%') s = s := encodeWith_of_all fun c hc => by
    rw [(h c hc).1, bne_iff_ne.2 (h c hc).2.1]
    rfl
  have hd : decode (encodeWith (fun c => isAscii c && c != '%') s) = s :=
    decode_encodeWith (fun c hc => by simpa using hc) s
  rw [hw] at hd
  rw [decodeForm, hmap, hd]

/-- Pairs are read back from form data, whatever their texts. -/
theorem decodePairs_encodePairs (ps : List (List Char × List Char)) : decodePairs (encodePairs ps) = ps := by
  by_cases hps : ps = []
  · subst hps
    rfl
  · have hpieces : pieces (· == '&') (encodePairs ps) = ps.map fun p => encodeForm p.1 ++ '=' :: encodeForm p.2 := by
      refine pieces_join (fun h => hps (List.map_eq_nil_iff.1 h)) fun s hs => ?_
      obtain ⟨p, -, rfl⟩ := List.mem_map.1 hs
      exact ampersand_not_mem p
    have hfilter : (ps.map fun p => encodeForm p.1 ++ '=' :: encodeForm p.2).filter (!·.isEmpty) =
        ps.map fun p => encodeForm p.1 ++ '=' :: encodeForm p.2 := by
      refine List.filter_eq_self.2 fun s hs => ?_
      obtain ⟨p, -, rfl⟩ := List.mem_map.1 hs
      simp
    rw [decodePairs, hpieces, hfilter, List.map_map]
    refine List.map_id'' (fun p => ?_) ps
    simp only [Function.comp_apply, cut_pair, decodeForm_encodeForm]

/-- A single pair is read off a text without ampersands. -/
theorem decodePairs_single {name value : List Char} (hn : '&' ∉ name) (he : '=' ∉ name) (hv : '&' ∉ value) :
    decodePairs (name ++ '=' :: value) = [(decodeForm name, decodeForm value)] := by
  have hpieces : pieces (· == '&') (name ++ '=' :: value) = [name ++ '=' :: value] := by
    refine pieces_of_forall fun c hc => beq_false_of_ne ?_
    rintro rfl
    rcases List.mem_append.1 hc with hc | hc
    · exact hn hc
    · rcases List.mem_cons.1 hc with hc | hc
      · exact absurd hc (by decide)
      · exact hv hc
  have hfull : (name ++ '=' :: value).isEmpty = false := by simp
  rw [decodePairs, hpieces, List.filter_cons_of_pos (by rw [hfull]; rfl), List.filter_nil, List.map_singleton,
    cut_append_of_not_mem he]

/-- Three characters stand for one that needs encoding, or more. -/
theorem length_encodeForm {s : List Char} (h : ∀ c ∈ s, c ≠ ' ' ∧ isUnreserved c = false) :
    3 * s.length ≤ (encodeForm s).length := by
  induction s with
  | nil => exact Nat.zero_le _
  | cons c s ih =>
    obtain ⟨hs, hu⟩ := h c List.mem_cons_self
    obtain ⟨b, tail, hb⟩ := Utf8.exists_encodeChar c
    have hc : 3 ≤ (encodeChar c).length := by
      rw [encodeChar, hb, List.flatMap_cons, List.length_append]
      exact Nat.le_add_right _ _
    have hrest := ih fun x hx => h x (List.mem_cons_of_mem _ hx)
    rw [encodeForm, List.flatMap_cons, if_neg hs, hu, List.length_append, ← encodeForm]
    simp only [Bool.false_eq_true, if_false, List.length_cons]
    omega

end HelixGateway.Text.Percent
