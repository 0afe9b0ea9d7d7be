import HelixGateway.Passthrough
import HelixGateway.Proofs.Client
import HelixGateway.Proofs.Text.FormData

/-!
# Addresses of inspections

Form data is made of letters, digits and a few marks, whatever texts it holds. So the address of an inspection holds no
control character, and it is an address below that of the database. What stands behind its question mark is read back as the
parameters that have a value. Only a limit with too many digits has no address (`url_of_longLimit`).

Main statements: `pairs_eq_of_toUrl_eq`, `url_of_texts`, `reaches_toUrl`, `query_of_reaches_toUrl`.
-/

namespace HelixGateway

/-! ## Parameters are read back -/

namespace Passthrough

variable {p p' : Passthrough} {base : String}

/-- Parameters with a value stand as form data behind the base and a question mark. -/
theorem toUrl_of_pairs_ne_nil (h : p.pairs ≠ []) :
    p.toUrl base = base ++ "?" ++ String.ofList (Text.Percent.encodePairs p.pairs) := by
  rw [toUrl, if_neg fun he => h (List.isEmpty_iff.1 he)]

/-- The address is the base alone exactly if no parameter has a value. -/
theorem toUrl_eq_base_iff : p.toUrl base = base ↔ p.pairs = [] := by
  refine ⟨fun h => ?_, fun h => toUrl_of_pairs_eq_nil h base⟩
  by_contra hn
  rw [toUrl_of_pairs_ne_nil hn] at h
  have hl := congrArg (fun s => s.toList.length) h
  simp only [String.toList_append, List.length_append] at hl
  have hmark : "?".toList.length = 1 := rfl
  omega

/-- Parameters that are passed on by one address have the same texts. -/
theorem pairs_eq_of_toUrl_eq (h : p.toUrl base = p'.toUrl base) : p.pairs = p'.pairs := by
  by_cases hp : p.pairs = []
  · rw [toUrl_eq_base_iff.2 hp] at h
    rw [hp, toUrl_eq_base_iff.1 h.symm]
  · have hp' : p'.pairs ≠ [] := fun h' => hp (toUrl_eq_base_iff.1 (h.trans (toUrl_eq_base_iff.2 h')))
    rw [toUrl_of_pairs_ne_nil hp, toUrl_of_pairs_ne_nil hp'] at h
    have hq : Text.Percent.encodePairs p.pairs = Text.Percent.encodePairs p'.pairs :=
      String.ofList_injective (String.append_right_inj _ |>.1 h)
    rw [← Text.Percent.decodePairs_encodePairs p.pairs, hq, Text.Percent.decodePairs_encodePairs]

/-- Parameters whose further values are texts, or missing. -/
structure Texts where
  limit : Option Int
  search : Option String
  extra : Entries (Option String)

namespace Texts

/-- The parameters as they are passed on. -/
def passthrough (t : Texts) : Passthrough :=
  ⟨t.limit, t.search, t.extra.map fun e => (e.1, (e.2.map Json.str).getD .null)⟩

/-- What the parameters ask for: those with a value, the limit and the search text first. -/
def asked (t : Texts) : Entries String :=
  (t.limit.map fun n => ("limit", toString n)).toList ++
    ((t.search.map fun q => ("q", q)).toList ++ t.extra.filterMap fun e => e.2.map fun v => (e.1, v))

/-- What is passed on is what is asked for. -/
theorem pairs_passthrough (t : Texts) : t.passthrough.pairs = t.asked.map fun e => (e.1.toList, e.2.toList) := by
  rw [pairs, passthrough, asked, List.map_append, List.map_append, List.filterMap_map, List.map_filterMap]
  refine congrArg₂ _ ?_ (congrArg₂ _ ?_ (congrArg₂ _ (funext fun e => ?_) rfl))
  · cases t.limit with
    | none => rfl
    | some n => rfl
  · cases t.search with
    | none => rfl
    | some q => rfl
  · obtain ⟨k, v⟩ := e
    cases v with
    | none => rfl
    | some v => rfl

theorem asked_eq_nil_iff {t : Texts} : t.asked = [] ↔ t.passthrough.pairs = [] := by
  rw [pairs_passthrough, List.map_eq_nil_iff]

end Texts

/-- The pairs of form data as texts. -/
def readTexts (query : List Char) : Entries String :=
  (Text.Percent.decodePairs query).map fun e => (String.ofList e.1, String.ofList e.2)

/-- Entries are read back from form data. -/
theorem readTexts_encodePairs (es : Entries String) :
    readTexts (Text.Percent.encodePairs (es.map fun e => (e.1.toList, e.2.toList))) = es := by
  rw [readTexts, Text.Percent.decodePairs_encodePairs, List.map_map]
  refine List.map_id'' (fun e => ?_) es
  simp

/-- Texts have no number in them. -/
theorem fieldsWritable_texts (extra : Entries (Option String)) :
    Json.fieldsWritable (extra.map fun e => (e.1, (e.2.map Json.str).getD .null)) = true := by
  induction extra with
  | nil => rfl
  | cons e extra ih =>
    rw [List.map_cons, Json.fieldsWritable, ih, Bool.and_true]
    cases e.2 with
    | none => rfl
    | some text => rfl

/-- Beside texts, only the limit may have too many digits. -/
theorem Texts.isWritable_passthrough (t : Texts) : t.passthrough.isWritable = t.limit.all Decimal.isWritable := by
  rw [isWritable, passthrough, fieldsWritable_texts, Bool.and_true]

/-- The limit can be written exactly if it has few enough digits. -/
theorem Texts.isWritable_iff {t : Texts} :
    t.passthrough.isWritable = true ↔ ∀ n ∈ t.limit, n.natAbs < 10 ^ Decimal.maxDigits := by
  rw [t.isWritable_passthrough, Option.all_eq_true]
  exact forall₂_congr fun n _ => decide_eq_true_iff

/-- What is passed on by an address is what is asked for, if the limit has few enough digits to be written.

1. The address is the base alone exactly if nothing is asked for.
2. Otherwise what stands behind the base and a question mark is read back as what is asked for.
3. Behind one base, the same address asks for the same. -/
theorem url_of_texts (t : Texts) (base : String) (h : ∀ n ∈ t.limit, n.natAbs < 10 ^ Decimal.maxDigits) :
    ∃ address, t.passthrough.url base = .ok address ∧
      (address = base ↔ t.asked = []) ∧
      (t.asked ≠ [] → ∃ query, address = base ++ "?" ++ String.ofList query ∧ readTexts query = t.asked) ∧
      ∀ t' : Texts, t'.passthrough.url base = .ok address → t.asked = t'.asked := by
  refine ⟨_, url_of_isWritable (Texts.isWritable_iff.2 h) base, ?_, fun hne => ?_, fun t' h' => ?_⟩
  · exact toUrl_eq_base_iff.trans Texts.asked_eq_nil_iff.symm
  · have hp : t.passthrough.pairs ≠ [] := fun h => hne (Texts.asked_eq_nil_iff.2 h)
    refine ⟨_, toUrl_of_pairs_ne_nil hp, ?_⟩
    rw [t.pairs_passthrough, readTexts_encodePairs]
  · have hp := pairs_eq_of_toUrl_eq (url_eq_ok_iff.1 h').2.symm
    rw [t.pairs_passthrough, t'.pairs_passthrough] at hp
    rw [← readTexts_encodePairs t.asked, hp, readTexts_encodePairs]

/-- A limit, a search text with marks in it, and a parameter without a value. -/
def markedTexts : Texts := ⟨some 7, some "a&b =", [("label", none), ("é", some "+")]⟩

/-- Marks in a text are read back as they are, and a parameter without a value is left out. -/
theorem url_of_texts_marked :
    ∃ address query, markedTexts.passthrough.url "nodes" = .ok address ∧
      address = "nodes" ++ "?" ++ String.ofList query ∧
        readTexts query = [("limit", "7"), ("q", "a&b ="), ("é", "+")] := by
  have hlimit : ∀ n ∈ markedTexts.limit, n.natAbs < 10 ^ Decimal.maxDigits := by
    rintro n ⟨⟩
    exact Nat.lt_of_lt_of_le (by decide : 7 < 10 ^ 1) (Nat.pow_le_pow_right (by decide) (by decide))
  obtain ⟨address, hurl, -, hquery, -⟩ := url_of_texts markedTexts "nodes" hlimit
  obtain ⟨query, ha, hq⟩ := hquery (by decide)
  exact ⟨address, query, hurl, ha, hq⟩

/-- The smallest limit that has too many digits: it is asked for, and there is no address. -/
theorem url_of_longLimit :
    let t : Texts := ⟨some (10 ^ Decimal.maxDigits), none, []⟩
    t.asked ≠ [] ∧ t.passthrough.url "nodes-edges" = .error (.tooManyDigits ⟨none⟩) := by
  intro t
  refine ⟨List.cons_ne_nil _ _, url_of_not_isWritable ?_ _⟩
  rw [← Bool.not_eq_true, Texts.isWritable_iff]
  intro h
  have hl := h (10 ^ Decimal.maxDigits) rfl
  have hten : (10 : ℤ).natAbs = 10 := rfl
  rw [Int.natAbs_pow, hten] at hl
  exact lt_irrefl _ hl

end Passthrough

/-! ## Endpoints with form data behind them -/

namespace Text.Percent

/-- Form data has no control characters. -/
theorem not_isControl_of_isFormChar {c : Char} (h : isFormChar c = true) : Url.isControl c = false := by
  rw [isFormChar, Bool.or_eq_true] at h
  rcases h with h | h
  · exact forall_isNameChar (p := fun c => Url.isControl c = false) (by decide) h
  · have hm : ∀ c ∈ ['-', '.', '~', '+', '%', '=', '&', '?'], Url.isControl c = false := by decide
    exact hm c (List.contains_iff_mem.1 h)

/-- Form data may be a query as it is. -/
theorem isQueryChar_of_isFormChar {c : Char} (h : isFormChar c = true) : Url.isQueryChar c = true := by
  rw [isFormChar, Bool.or_eq_true] at h
  rcases h with h | h
  · exact forall_isNameChar (p := fun c => Url.isQueryChar c = true) (by decide) h
  · have hm : ∀ c ∈ ['-', '.', '~', '+', '%', '=', '&', '?'], Url.isQueryChar c = true := by decide
    exact hm c (List.contains_iff_mem.1 h)

theorem slash_ne_of_isFormChar {c : Char} (h : isFormChar c = true) : c ≠ '/' := by
  rintro rfl
  exact absurd h (by decide)

theorem hash_ne_of_isFormChar {c : Char} (h : isFormChar c = true) : c ≠ '#' := by
  rintro rfl
  exact absurd h (by decide)

end Text.Percent

open Text.Percent

/-- The address of an inspection is made of form characters if its endpoint is. -/
theorem Passthrough.isFormChar_of_mem_toUrl {p : Passthrough} {endpoint : String}
    (he : ∀ c ∈ endpoint.toList, isFormChar c = true) {c : Char} (h : c ∈ (p.toUrl endpoint).toList) : isFormChar c = true := by
  rw [toUrl] at h
  split at h
  · exact he c h
  · rw [String.toList_append, String.toList_append, List.mem_append, List.mem_append] at h
    rcases h with (h | h) | h
    · exact he c h
    · rw [List.mem_singleton.1 h]
      decide
    · rw [String.toList_ofList] at h
      exact isFormChar_of_mem_encodePairs h

/-- The address of an inspection is its endpoint, and behind it the parameters that have a value, if any. -/
theorem Passthrough.toList_toUrl (p : Passthrough) (endpoint : String) :
    (p.toUrl endpoint).toList = endpoint.toList ++
      ((if p.pairs = [] then none else some (encodePairs p.pairs)).map ('?' :: ·)).getD [] := by
  by_cases hp : p.pairs = []
  · rw [toUrl_of_pairs_eq_nil hp, if_pos hp]
    exact (List.append_nil _).symm
  · have hq : (String.ofList (encodePairs p.pairs)).toList = encodePairs p.pairs := String.toList_ofList
    rw [toUrl_of_pairs_ne_nil hp, if_neg hp, String.toList_append, String.toList_append, hq, List.append_assoc]
    rfl

/-- The parameters are no longer than the address. -/
theorem Passthrough.length_encodePairs_le (p : Passthrough) (endpoint : String) :
    (encodePairs p.pairs).length ≤ (p.toUrl endpoint).length := by
  rw [← String.length_toList, p.toList_toUrl, List.length_append]
  by_cases hp : p.pairs = []
  · rw [hp]
    exact Nat.zero_le _
  · rw [if_neg hp]
    show _ ≤ _ + ('?' :: encodePairs p.pairs).length
    rw [List.length_cons]
    omega

namespace Client

/-- With an address for the database, an inspection is reached unless its own address is too long. -/
theorem reaches_toUrl {c : Client} {base : Url} (hb : c.Reaches "" base) {endpoint : String}
    (he : ∀ x ∈ endpoint.toList, isFormChar x = true) {p : Passthrough}
    (hl : (c.resolve (p.toUrl endpoint)).length ≤ Url.maxLength) : ∃ url, c.Reaches (p.toUrl endpoint) url := by
  refine reaches_of_base hb (isFullUrl_of_not_mem fun hm => ?_) (fun x hx => ?_) hl
  · exact slash_ne_of_isFormChar (p.isFormChar_of_mem_toUrl he hm) rfl
  · exact not_isControl_of_isFormChar (p.isFormChar_of_mem_toUrl he hx)

/-- If the address of the database has neither query nor fragment, the query of an inspection is its parameters. -/
theorem query_of_reaches_toUrl {c : Client} {base url : Url} (hb : c.Reaches "" base) (hq : base.query = none)
    (hf : base.fragment = none) {endpoint : String} (he : ∀ x ∈ endpoint.toList, isFormChar x = true ∧ x ≠ '?')
    {p : Passthrough} (hr : c.Reaches (p.toUrl endpoint) url) : url.query.getD [] = encodePairs p.pairs := by
  have hchars : ∀ {x}, x ∈ (p.toUrl endpoint).toList → isFormChar x = true :=
    fun hx => p.isFormChar_of_mem_toUrl (fun x hx => (he x hx).1) hx
  have hbase := hb.parsed
  have hurl := hr.parsed
  rw [resolve_of_not_mem (by decide), String.toList_append, String.toList_append, List.append_assoc] at hbase
  rw [resolve_of_not_mem fun hm => slash_ne_of_isFormChar (hchars hm) rfl, String.toList_append, String.toList_append,
    List.append_assoc, p.toList_toUrl] at hurl
  have hpath : ∀ x ∈ endpoint.toList, x ≠ '?' ∧ x ≠ '#' := fun x hx => ⟨(he x hx).2, hash_ne_of_isFormChar (he x hx).1⟩
  have hquery := Url.query_of_parse_below hbase hq hf hpath (fun q hm hh => ?_) hurl
  · rw [hquery]
    by_cases hp : p.pairs = []
    · rw [if_pos hp, hp]
      rfl
    · rw [if_neg hp]
      exact encodeWith_of_all fun x hx => isQueryChar_of_isFormChar (isFormChar_of_mem_encodePairs hx)
  · split at hm
    · cases hm
    · cases hm
      exact hash_ne_of_isFormChar (isFormChar_of_mem_encodePairs hh) rfl

end Client

end HelixGateway
