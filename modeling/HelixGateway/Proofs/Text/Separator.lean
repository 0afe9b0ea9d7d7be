import HelixGateway.Text.Split
import Mathlib.Data.List.Chain

/-!
# Separators of several characters

A separator is found at its first occurrence. Where its first two characters never follow each other it does not occur, and
the search passes over the text. Parts that do not hold its first character are what the text is split into that the separator
joins them to.

Main statements: `before_append_of_apart`, `infix_append_of_apart`, `split_join`, `pieces_join`.
-/

namespace HelixGateway.Text

variable {x y : Char} {sep s : List Char}

/-! ## Passing over a text -/

/-- Nowhere in a text does the second character stand right behind the first. -/
def Apart (x y : Char) (s : List Char) : Prop := s.IsChain fun a b => a = x → b ≠ y

/-- Two texts without the pair have none between them either, if the one does not end with its first character or the other
does not start with its second. -/
theorem Apart.append {s t : List Char} (hs : Apart x y s) (ht : Apart x y t) (h : x ∉ s.getLast? ∨ y ∉ t.head?) :
    Apart x y (s ++ t) := by
  refine List.IsChain.append hs ht ?_
  intro a ha b hb hx
  rintro rfl
  rcases h with h | h
  · exact h (hx ▸ ha)
  · exact h hb

theorem Apart.of_not_mem_left (h : x ∉ s) : Apart x y s := by
  refine List.isChain_iff_forall_rel_of_append_cons_cons.2 ?_
  rintro a b l₁ l₂ rfl rfl
  exact absurd (by simp) h

theorem Apart.of_not_mem_right (h : y ∉ s) : Apart x y s := by
  refine List.isChain_iff_forall_rel_of_append_cons_cons.2 ?_
  rintro a b l₁ l₂ rfl - rfl
  exact absurd (by simp) h

/-- A separator that starts with the pair does not stand at the beginning of a text whose first character does not start
one. -/
theorem afterPrefix?_of_apart (hsep : [x, y] <+: sep) {c : Char} (h : Apart x y (c :: s.take 1)) :
    afterPrefix? sep (c :: s) = none := by
  obtain ⟨rest, rfl⟩ := hsep
  show afterPrefix? (x :: y :: rest) (c :: s) = none
  rw [afterPrefix?]
  split
  · rename_i hx
    cases s with
    | nil => rfl
    | cons d s =>
      have hd : d ≠ y := (List.isChain_cons_cons.1 h).1 hx.symm
      rw [afterPrefix?, if_neg (Ne.symm hd)]
  · rfl

/-- Whether they stand apart at the beginning depends on the next character only. -/
theorem Apart.first {c : Char} {pre : List Char} (h : Apart x y (c :: pre ++ s.take 1)) :
    Apart x y (c :: (pre ++ s).take 1) := by
  cases pre with
  | nil => exact h
  | cons d pre => exact List.isChain_pair.2 (List.isChain_cons_cons.1 h).1

/-- The search for a separator that starts with the pair passes over a text without it, the first character of what follows
counted in. -/
theorem cut_append_of_apart (hsep : [x, y] <+: sep) {pre : List Char} (h : Apart x y (pre ++ s.take 1)) :
    cut sep (pre ++ s) = (cut sep s).map fun r => (pre ++ r.1, r.2) := by
  induction pre with
  | nil => simp
  | cons c pre ih =>
    rw [List.cons_append, cut, afterPrefix?_of_apart hsep h.first]
    simp only [ih (List.IsChain.tail h), Option.map_map]
    rfl

/-- A text in which the first two characters of the separator stand apart is before it as a whole. -/
theorem before_append_of_apart (hsep : [x, y] <+: sep) {pre : List Char} (h : Apart x y (pre ++ s.take 1)) :
    before sep (pre ++ s) = pre ++ before sep s := by
  rw [before, before, cut_append_of_apart hsep h]
  cases cut sep s with
  | none => rfl
  | some r => rfl

/-- A text that starts with the separator is cut at once. -/
theorem cut_separator (hs : sep ≠ []) (b : List Char) : cut sep (sep ++ b) = some ([], b) := by
  cases sep with
  | nil => exact absurd rfl hs
  | cons c sep => rw [List.cons_append, cut, ← List.cons_append, afterPrefix?_append]

theorem before_separator (hs : sep ≠ []) (b : List Char) : before sep (sep ++ b) = [] := by
  rw [before, cut_separator hs]

/-! ## Occurrences -/

/-- A text that starts with the pair does not occur before the first place of the pair. -/
theorem infix_append_of_apart (hsep : [x, y] <+: sep) {pre : List Char} (h : Apart x y (pre ++ s.take 1)) :
    sep <:+: pre ++ s ↔ sep <:+: s := by
  induction pre with
  | nil => exact Iff.rfl
  | cons c pre ih =>
    rw [List.cons_append, List.infix_cons_iff, ih (List.IsChain.tail h)]
    refine or_iff_right ?_
    rintro ⟨r, hr⟩
    have hnone := afterPrefix?_of_apart hsep h.first
    rw [← hr, afterPrefix?_append] at hnone
    cases hnone

/-- A separator does not occur where its first two characters stand apart. -/
theorem Apart.not_occurring (hsep : [x, y] <+: sep) (h : Apart x y s) : ¬ sep <:+: s := by
  rw [← List.append_nil s, infix_append_of_apart hsep (by rwa [List.take_nil, List.append_nil]), List.infix_nil]
  rintro rfl
  exact absurd (List.prefix_nil.1 hsep) (List.cons_ne_nil _ _)

/-- A text without a character does not reach across it. -/
theorem infix_append_cons_iff {c : Char} (hc : c ∉ sep) {t : List Char} :
    sep <:+: s ++ c :: t ↔ sep <:+: s ∨ sep <:+: t := by
  constructor
  · rintro ⟨a, b, h⟩
    rcases List.append_eq_append_iff.1 h with ⟨r, hs, -⟩ | ⟨r, ha, ht⟩
    · exact Or.inl ⟨a, r, hs.symm⟩
    · cases r with
      | nil => exact Or.inl ⟨a, [], by rw [List.append_nil, ha, List.append_nil]⟩
      | cons d r =>
        obtain ⟨rfl, rfl⟩ := List.cons.inj ht
        rcases List.append_eq_append_iff.1 ha with ⟨q, -, hq⟩ | ⟨q, -, hq⟩
        · exact absurd (hq ▸ List.mem_append_right q List.mem_cons_self) hc
        · cases q with
          | nil => exact absurd ((show c :: r = sep from hq) ▸ List.mem_cons_self) hc
          | cons e q =>
            obtain ⟨-, rfl⟩ := List.cons.inj hq
            exact Or.inr ⟨q, b, rfl⟩
  · rintro (⟨a, b, rfl⟩ | ⟨a, b, rfl⟩)
    · exact ⟨a, b ++ c :: t, by simp⟩
    · exact ⟨s ++ c :: a, b, by simp⟩

/-! ## Joined parts -/

/-- Joined texts start as the first one does, unless that is empty. -/
theorem head?_join {t : List Char} (ht : t ≠ []) (parts : List (List Char)) : (join sep (t :: parts)).head? = t.head? := by
  cases parts with
  | nil => rfl
  | cons u parts => exact List.head?_append_of_ne_nil t ht

/-- Parts without the pair are joined to a text without it, if it is not made at either end of a separator. -/
theorem apart_join {parts : List (List Char)} (hparts : ∀ t ∈ parts, t ≠ [] ∧ Apart x y t) (hsep : Apart x y sep)
    (hbefore : ∀ t ∈ parts, x ∉ t.getLast? ∨ y ∉ sep.head?) (hbehind : ∀ t ∈ parts, x ∉ sep.getLast? ∨ y ∉ t.head?)
    (hne : sep ≠ []) : Apart x y (join sep parts) := by
  induction parts with
  | nil => exact .nil
  | cons t parts ih =>
    have ht := hparts t List.mem_cons_self
    cases parts with
    | nil => exact ht.2
    | cons u parts =>
      have hu : u ∈ t :: u :: parts := by simp
      have hrest : Apart x y (join sep (u :: parts)) :=
        ih (fun v hv => hparts v (List.mem_cons_of_mem t hv)) (fun v hv => hbefore v (List.mem_cons_of_mem t hv))
          fun v hv => hbehind v (List.mem_cons_of_mem t hv)
      refine ht.2.append (hsep.append hrest ?_) ?_
      · rw [head?_join (hparts u hu).1]
        exact hbehind u hu
      · rw [List.head?_append_of_ne_nil sep hne]
        exact hbefore t List.mem_cons_self

/-- Parts without the first character of a separator are what a text is split into that joins them by it. -/
theorem split_join {c : Char} {parts : List (List Char)} (hne : parts ≠ []) (h : ∀ s ∈ parts, c ∉ s) :
    split (c :: sep) (join (c :: sep) parts) = parts := by
  induction parts with
  | nil => exact absurd rfl hne
  | cons s parts ih =>
    have hs : c ∉ s := h s List.mem_cons_self
    cases parts with
    | nil => exact split_of_cut_eq_none (cut_eq_none_of_not_mem hs)
    | cons t parts =>
      have hcut : cut (c :: sep) (join (c :: sep) (s :: t :: parts)) = some (s, join (c :: sep) (t :: parts)) :=
        cut_append_separator hs sep _
      rw [split_of_cut_eq_some (List.cons_ne_nil c sep) hcut,
        ih (List.cons_ne_nil t parts) fun u hu => h u (List.mem_cons_of_mem s hu)]

/-- Nothing is taken out of a text that follows the separator once and does not hold its last character. -/
theorem without_append {c : Char} (hc : c ∈ sep) (h : c ∉ s) : without sep (sep ++ s) = s := by
  have hne : sep ≠ [] := List.ne_nil_of_mem hc
  have hnone : cut sep s = none := by
    cases hs : cut sep s with
    | none => rfl
    | some r =>
      obtain ⟨a, b⟩ := r
      rw [cut_eq_some hs] at h
      exact absurd (List.mem_append_right a (List.mem_append_left b hc)) h
  rw [without, split_of_cut_eq_some hne (cut_separator hne s), split_of_cut_eq_none hnone]
  simp

/-! ## Pieces of joined texts -/

section Pieces

variable {p : Char → Bool}

theorem pieces_of_forall {s : List Char} (h : ∀ c ∈ s, p c = false) : pieces p s = [s] := by
  induction s with
  | nil => rfl
  | cons c s ih =>
    rw [pieces, h c (by simp), ih fun d hd => h d (List.mem_cons_of_mem _ hd)]
    rfl

/-- What stands before the first separating character is the first piece. -/
theorem pieces_append {s : List Char} (h : ∀ c ∈ s, p c = false) {c : Char} (hc : p c = true) (t : List Char) :
    pieces p (s ++ c :: t) = s :: pieces p t := by
  induction s with
  | nil =>
    rw [List.nil_append, pieces, hc]
    rfl
  | cons d s ih =>
    rw [List.cons_append, pieces, h d (by simp), ih fun e he => h e (List.mem_cons_of_mem _ he)]
    rfl

/-- Texts without the separator are the pieces of what they are joined to. -/
theorem pieces_join {sep : Char} {parts : List (List Char)} (hne : parts ≠ []) (h : ∀ s ∈ parts, sep ∉ s) :
    pieces (· == sep) (join [sep] parts) = parts := by
  have hp : ∀ s ∈ parts, ∀ c ∈ s, (c == sep) = false := by
    intro s hs c hc
    rw [beq_eq_false_iff_ne]
    rintro rfl
    exact h s hs hc
  clear h
  induction parts with
  | nil => exact absurd rfl hne
  | cons s parts ih =>
    cases parts with
    | nil => exact pieces_of_forall (hp s (by simp))
    | cons t parts =>
      have hj : join [sep] (s :: t :: parts) = s ++ sep :: join [sep] (t :: parts) := rfl
      rw [hj, pieces_append (hp s (by simp)) (beq_self_eq_true sep),
        ih (List.cons_ne_nil _ _) fun u hu => hp u (List.mem_cons_of_mem _ hu)]

/-- What a separator has behind its first character can be had in front of the parts instead. -/
theorem join_cons (c : Char) (sep s : List Char) (parts : List (List Char)) :
    join (c :: sep) (s :: parts) = join [c] (s :: parts.map (sep ++ ·)) := by
  induction parts generalizing s with
  | nil => rfl
  | cons t parts ih =>
    have ht := ih (sep ++ t)
    have hs : join (c :: sep) ((sep ++ t) :: parts) = sep ++ join (c :: sep) (t :: parts) := by
      cases parts with
      | nil => rfl
      | cons u parts => exact List.append_assoc _ _ _
    rw [List.map_cons]
    show s ++ (c :: (sep ++ join (c :: sep) (t :: parts))) = s ++ (c :: join [c] ((sep ++ t) :: parts.map (sep ++ ·)))
    rw [← ht, hs]

end Pieces

end HelixGateway.Text
