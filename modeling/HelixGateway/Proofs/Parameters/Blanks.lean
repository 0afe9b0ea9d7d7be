import HelixGateway.Proofs.HelixType.Numbers
import HelixGateway.Proofs.Service.Derived

/-!
# Blanks in numbers

No number has a blank in it. A text with a blank is none, then, and stays a text when it comes in a query string. One text with
a blank is read all the same, that of a number with a line feed behind it: the line feed is not looked at, and what is read is
the number before it.

Main statement: `coerce_of_blank`.
-/

namespace HelixGateway

open Text (dropFinalNewline dropFinalNewline_append dropFinalNewline_cases dropFinalNewline_of_not_mem isBlank)

namespace HelixType

variable {t : ScalarType}

/-- A number with a line feed behind it. -/
def EndsLine (value : String) (t : ScalarType) (v : Json) : Prop :=
  ∃ number : String, value = number ++ "\n" ∧ (∀ c ∈ number.toList, isBlank c = false) ∧
    coerce number (.scalar t) = .ok v

/-- A value with a blank in it is read exactly if it is the text of one and a final line feed. -/
theorem coerce_eq_ok_iff_endsLine (hs : t ≠ .string) (hi : t ≠ .id) {value : String}
    (hb : ∃ c ∈ value.toList, isBlank c = true) {v : Json} : coerce value (.scalar t) = .ok v ↔ EndsLine value t v := by
  rw [coerce_scalar_ok, coerceScalar_eq_ok_iff hs hi]
  constructor
  · intro h
    rcases dropFinalNewline_cases value.toList with he | he
    · have hnl : '\n' ∉ dropFinalNewline value.toList := fun hm => absurd (h.not_isBlank _ hm) (by decide)
      refine ⟨String.ofList (dropFinalNewline value.toList), ?_, ?_, ?_⟩
      · rw [← String.toList_inj, String.toList_append, String.toList_ofList]
        exact he
      · rw [String.toList_ofList]
        exact h.not_isBlank
      · rwa [coerce_scalar_ok, coerceScalar_eq_ok_iff hs hi, String.toList_ofList, dropFinalNewline_of_not_mem hnl]
    · rw [he] at h
      obtain ⟨c, hc, hb⟩ := hb
      rw [h.not_isBlank c hc] at hb
      cases hb
  · rintro ⟨number, rfl, hn, h⟩
    have hnl : '\n' ∉ number.toList := fun hm => absurd (hn _ hm) (by decide)
    rw [coerce_scalar_ok, coerceScalar_eq_ok_iff hs hi, dropFinalNewline_of_not_mem hnl] at h
    have hv : (number ++ "\n").toList = number.toList ++ ['\n'] := String.toList_append
    rwa [hv, dropFinalNewline_append]

end HelixType

namespace Parameters

open HelixType (EndsLine Refused)

/-- A text with a blank is no number, and is posted as a text, unless it is a number with a line feed behind it. -/
theorem coerce_of_blank {t : ScalarType} (hs : t ≠ .string) (hi : t ≠ .id) {value : String}
    (hb : ∃ c ∈ value.toList, isBlank c = true) :
    (∀ v, HelixType.coerce value (.scalar t) = .ok v ↔ EndsLine value t v) ∧
    ((∀ v, ¬ EndsLine value t v) → Refused value t ∧
      ∀ (query : OrdMap String) (body : Option Json) (catalogue : OrdMap String) (k : String),
        (k, value) ∈ undecided (ofBody body) query → catalogue.get? k = some (HelixType.scalar t).text →
        (∀ e ∈ undecided (ofBody body) query, ¬ Overflows e.2 (catalogue.get? e.1)) →
        ∃ posted, merge query body catalogue = .ok posted ∧ posted.get? k = some (.str value)) := by
  have hiff := @HelixType.coerce_eq_ok_iff_endsLine t hs hi value hb
  refine ⟨fun v => hiff, fun h => ?_⟩
  have hr : Refused value t := HelixType.refused_of_forall_ne fun v hv => h v (hiff.1 hv)
  refine ⟨hr, fun query body catalogue k hk ht ho => ?_⟩
  have hm := (merge_eq_intended_iff query body catalogue).1.2 ho
  obtain ⟨v, hv, hc⟩ := get?_merge hm _ hk
  obtain ⟨cause, hcause⟩ := hr
  rw [ht, coerceQueryValue_eq_text_iff.2 (.inr (.inr ⟨_, hcause⟩))] at hc
  cases hc
  exact ⟨_, hm, hv⟩

/-- A blank in front is enough for a text to be posted as it is. -/
theorem merge_leadingBlank :
    Refused " 5" .i32 ∧ ∃ posted, merge (.ofEntries [("n", " 5")]) none (.ofEntries [("n", "I32")]) = .ok posted ∧
      posted.get? "n" = some (.str " 5") := by
  have hn : ∀ v, ¬ EndsLine " 5" .i32 v := by
    rintro v ⟨number, he, -⟩
    have hl := congrArg (fun s => s.toList.getLast?) he
    rw [String.toList_append, show "\n".toList = ['\n'] from rfl, List.getLast?_append_cons] at hl
    exact absurd hl (by decide)
  have ht : some "I32" = some (HelixType.scalar .i32).text := by decide
  have hb : ∃ c ∈ " 5".toList, isBlank c = true := ⟨' ', by decide, by decide⟩
  obtain ⟨hr, hm⟩ := (coerce_of_blank (t := .i32) nofun nofun hb).2 hn
  refine ⟨hr, hm _ none _ "n" (List.mem_singleton_self _) ht fun e he ho => ?_⟩
  obtain rfl : e = ("n", " 5") := List.mem_singleton.1 he
  have hp := ho.1
  rw [show OrdMap.get? (.ofEntries [("n", "I32")]) "n" = some "I32" from rfl, ht, Option.map_some, HelixType.parse_text] at hp
  cases hp

/-- A line feed at the end of a number is a blank, and yet the number is read. -/
theorem coerce_finalLineFeed :
    (∃ c ∈ "5\n".toList, isBlank c = true) ∧ HelixType.coerce "5\n" (.scalar .i32) = .ok (.int 5) :=
  ⟨⟨'\n', by decide, by decide⟩, rfl⟩

end Parameters

end HelixGateway
