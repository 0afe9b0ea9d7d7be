/-!
# Blank characters, trimming, and lines

Text is read by code point. A blank is a character that trimming removes, and a line break is a character that ends a
line: both classes reach beyond ASCII, and neither contains the other (a space breaks no line). `trim` cuts blanks from
both ends, and `lines` cuts a text at its line breaks, a carriage return with the line feed behind it counting as one.

Main statements: `trim_trim`, `lines_append_break`.
-/

namespace HelixGateway.Text

/-- Whether all characters of a text have a property is decided along the text, not by going through all there are. -/
instance decidableForallMem (p : Char → Prop) [DecidablePred p] (s : List Char) : Decidable (∀ c ∈ s, p c) :=
  List.decidableBAll p s

/-- The white space of the standard, the four information separators among it. The zero-width characters and the
byte-order mark are no blanks. -/
def isBlank (c : Char) : Bool :=
  let n := c.toNat
  (0x09 ≤ n && n ≤ 0x0D) || (0x1C ≤ n && n ≤ 0x20) || n == 0x85 || n == 0xA0 || n == 0x1680 ||
  (0x2000 ≤ n && n ≤ 0x200A) || n == 0x2028 || n == 0x2029 || n == 0x202F || n == 0x205F || n == 0x3000

/-- A character that ends a line. -/
def isLineBreak (c : Char) : Bool :=
  let n := c.toNat
  (0x0A ≤ n && n ≤ 0x0D) || (0x1C ≤ n && n ≤ 0x1E) || n == 0x85 || n == 0x2028 || n == 0x2029

/-- The text without the characters of the class `p` at its end. -/
def dropEndWhile (p : Char → Bool) (s : List Char) : List Char :=
  (s.reverse.dropWhile p).reverse

/-- The text without the blanks at its end. -/
def trimEnd (s : List Char) : List Char := dropEndWhile isBlank s

/-- The text without the blanks at either end. -/
def trim (s : List Char) : List Char := trimEnd (s.dropWhile isBlank)

/-- A text is blank when trimming leaves nothing of it. -/
def isBlankText (s : List Char) : Bool := s.all isBlank

/-- Puts a character in front of the first piece. -/
def consHead (c : Char) : List (List Char) → List (List Char)
  | [] => [[c]]
  | l :: ls => (c :: l) :: ls

/-- The lines of a text, without their breaks. A break at the very end opens no further line, so the empty text has no
lines at all. -/
def lines : List Char → List (List Char)
  | [] => []
  | '\r' :: '\n' :: s => [] :: lines s
  | c :: s => if isLineBreak c then [] :: lines s else consHead c (lines s)

/-- Every way to end a line that a text file knows becomes one line feed: a carriage return, alone or before a line
feed, is replaced. -/
def unifyNewlines : List Char → List Char
  | [] => []
  | '\r' :: '\n' :: s => '\n' :: unifyNewlines s
  | c :: s => (if c = '\r' then '\n' else c) :: unifyNewlines s

/-! ## What trimming leaves -/

/-- What ends a line is blank. -/
theorem isBlank_of_isLineBreak {c : Char} (h : isLineBreak c = true) : isBlank c = true := by
  simp only [isLineBreak, isBlank, Bool.or_eq_true, Bool.and_eq_true, decide_eq_true_eq, beq_iff_eq] at *
  omega

/-- Nothing is dropped in front exactly if the first character is not of the class. -/
theorem dropWhile_eq_self_iff {p : Char → Bool} {s : List Char} :
    s.dropWhile p = s ↔ ∀ c ∈ s.head?, p c = false := by
  cases s with
  | nil => simp
  | cons c s =>
    cases h : p c with
    | false => simp [h]
    | true =>
      simp only [List.dropWhile_cons_of_pos h, List.head?_cons, Option.mem_def, Option.some.injEq, forall_eq', h]
      constructor
      · intro he
        have := (List.dropWhile_sublist p (l := s)).length_le
        rw [he, List.length_cons] at this
        omega
      · intro he
        cases he

/-- Nothing is dropped at the end exactly if the last character is not of the class. -/
theorem dropEndWhile_eq_self_iff {p : Char → Bool} {s : List Char} :
    dropEndWhile p s = s ↔ ∀ c ∈ s.getLast?, p c = false := by
  rw [dropEndWhile, List.reverse_eq_iff, dropWhile_eq_self_iff, List.head?_reverse]

/-- A text is trimmed exactly when neither its first nor its last character is blank. -/
theorem trim_eq_self_iff {s : List Char} :
    trim s = s ↔ (∀ c ∈ s.head?, isBlank c = false) ∧ ∀ c ∈ s.getLast?, isBlank c = false := by
  constructor
  · intro h
    have hl : s.dropWhile isBlank = s := by
      have h1 : (s.dropWhile isBlank).length ≤ s.length := (List.dropWhile_sublist isBlank).length_le
      have h2 : (trim s).length ≤ (s.dropWhile isBlank).length := by
        simpa [trim, trimEnd, dropEndWhile] using
          (List.dropWhile_sublist isBlank (l := (s.dropWhile isBlank).reverse)).length_le
      rw [h] at h2
      exact (List.dropWhile_sublist isBlank).eq_of_length (by omega)
    refine ⟨dropWhile_eq_self_iff.1 hl, dropEndWhile_eq_self_iff.1 ?_⟩
    rw [trim, hl] at h
    exact h
  · rintro ⟨h1, h2⟩
    rw [trim, dropWhile_eq_self_iff.2 h1]
    exact dropEndWhile_eq_self_iff.2 h2

theorem trim_of_not_blank {s : List Char} (h : ∀ c ∈ s, isBlank c = false) : trim s = s :=
  trim_eq_self_iff.2 ⟨fun c hc => h c (List.mem_of_head? hc), fun c hc => h c (List.mem_of_getLast? hc)⟩

/-- No character of the class is left at the end. -/
theorem getLast?_dropEndWhile (p : Char → Bool) (s : List Char) :
    ∀ c ∈ (dropEndWhile p s).getLast?, p c = false := by
  intro c hc
  rw [dropEndWhile, List.getLast?_reverse] at hc
  have := List.head?_dropWhile_not p s.reverse
  rw [Option.mem_def] at hc
  rw [hc] at this
  simpa using this

/-- What is left of a text is its beginning. -/
theorem dropEndWhile_prefix (p : Char → Bool) (s : List Char) : dropEndWhile p s <+: s := by
  rw [← List.reverse_suffix, dropEndWhile, List.reverse_reverse]
  exact List.dropWhile_suffix p

/-- Trimming once is enough. -/
theorem trim_trim (s : List Char) : trim (trim s) = trim s := by
  rw [trim_eq_self_iff]
  refine ⟨?_, getLast?_dropEndWhile _ _⟩
  intro c hc
  have hp : trim s <+: s.dropWhile isBlank := dropEndWhile_prefix _ _
  obtain ⟨t, ht⟩ := hp
  cases hs : trim s with
  | nil => simp [hs] at hc
  | cons d r =>
    rw [hs, List.head?_cons, Option.mem_def, Option.some.injEq] at hc
    have hd : (s.dropWhile isBlank).head? = some c := by rw [← ht, hs, hc]; rfl
    have := List.head?_dropWhile_not isBlank s
    rw [hd] at this
    simpa using this

/-- Dropping in front stops at a character that is not of the class. -/
theorem dropWhile_append_cons {p : Char → Bool} {s : List Char} {c : Char} (h : p c = false) (r : List Char) :
    (s ++ c :: r).dropWhile p = s.dropWhile p ++ c :: r := by
  induction s with
  | nil => simp [h]
  | cons d s ih => cases hd : p d <;> simp [hd, ih]

/-- What is dropped at the end of a text lies behind its last character outside the class. -/
theorem dropEndWhile_append_cons {p : Char → Bool} {c : Char} (h : p c = false) (s r : List Char) :
    dropEndWhile p (s ++ c :: r) = s ++ c :: dropEndWhile p r := by
  simp [dropEndWhile, dropWhile_append_cons h]

/-- Only characters of the class are dropped at the end. -/
theorem mem_dropEndWhile_iff {p : Char → Bool} {c : Char} (h : p c = false) {s : List Char} :
    c ∈ dropEndWhile p s ↔ c ∈ s := by
  constructor
  · intro hc
    have hp := dropEndWhile_prefix p s
    exact hp.subset hc
  · intro hc
    obtain ⟨a, b, rfl⟩ := List.append_of_mem hc
    rw [dropEndWhile_append_cons h]
    simp

/-- Trimming drops blanks only. -/
theorem mem_trim_iff {c : Char} (h : isBlank c = false) {s : List Char} : c ∈ trim s ↔ c ∈ s := by
  rw [trim, trimEnd, mem_dropEndWhile_iff h]
  constructor
  · intro hc
    exact (List.dropWhile_sublist isBlank).subset hc
  · intro hc
    obtain ⟨a, b, rfl⟩ := List.append_of_mem hc
    rw [dropWhile_append_cons h]
    simp

theorem trim_cons_of_blank {c : Char} (h : isBlank c = true) (s : List Char) : trim (c :: s) = trim s := by
  simp [trim, h]

theorem dropEndWhile_append_singleton {p : Char → Bool} {c : Char} (h : p c = true) (s : List Char) :
    dropEndWhile p (s ++ [c]) = dropEndWhile p s := by
  simp [dropEndWhile, h]

theorem trim_append_blank {c : Char} (h : isBlank c = true) (s : List Char) : trim (s ++ [c]) = trim s := by
  induction s with
  | nil => simp [trim, h]
  | cons d s ih =>
    cases hd : isBlank d with
    | true => rw [List.cons_append, trim_cons_of_blank hd, trim_cons_of_blank hd, ih]
    | false =>
      simp only [trim, List.cons_append, List.dropWhile_cons, hd, Bool.false_eq_true, if_false]
      exact dropEndWhile_append_singleton h (d :: s)

/-- Any number of blanks at the end are trimmed away. -/
theorem trim_append_of_blank {after : List Char} (ha : ∀ c ∈ after, isBlank c = true) (l : List Char) :
    trim (l ++ after) = trim l := by
  induction after generalizing l with
  | nil => rw [List.append_nil]
  | cons c after ih =>
    rw [List.append_cons, ih (fun d hd => ha d (by simp [hd])), trim_append_blank (ha c (by simp))]

/-- Blanks around a text are nothing to trimming. -/
theorem trim_surrounded {before after : List Char} (hb : ∀ c ∈ before, isBlank c = true)
    (ha : ∀ c ∈ after, isBlank c = true) (l : List Char) : trim (before ++ (l ++ after)) = trim l := by
  induction before with
  | nil => rw [List.nil_append, trim_append_of_blank ha]
  | cons c before ih =>
    rw [List.cons_append, trim_cons_of_blank (hb c (by simp)), ih fun d hd => hb d (by simp [hd])]

/-- Of blanks alone nothing is left. -/
theorem trim_of_blank {l : List Char} (h : ∀ c ∈ l, isBlank c = true) : trim l = [] := by
  have hs := @trim_surrounded l [] h nofun []
  rwa [List.nil_append, List.append_nil] at hs

/-! ## Lines -/

/-- A character that ends no line belongs to the first line. -/
theorem lines_cons_of_not_break {c : Char} (h : isLineBreak c = false) (s : List Char) :
    lines (c :: s) = consHead c (lines s) := by
  have hc : c ≠ '\r' := by
    rintro rfl
    exact absurd h (by decide)
  rw [lines]
  · simp [h]
  · intro t hcr
    exact absurd hcr hc

/-- A text before a line feed is one line when it holds no break itself, and what follows is cut on its own. -/
theorem lines_append_break {l : List Char} (h : ∀ c ∈ l, isLineBreak c = false) (s : List Char) :
    lines (l ++ '\n' :: s) = l :: lines s := by
  induction l with
  | nil =>
    rw [List.nil_append, lines]
    · simp [isLineBreak]
    · intro t hcr
      exact absurd hcr (by decide)
  | cons c l ih =>
    rw [List.cons_append, lines_cons_of_not_break (h c (by simp)), ih (fun d hd => h d (by simp [hd]))]
    rfl

end HelixGateway.Text
