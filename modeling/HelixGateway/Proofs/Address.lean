import HelixGateway.Url

/-!
# Addresses below a base

Where a request goes is settled by what stands before the path: an address that is absolute stays one, with the same scheme,
host and port, whatever other path, query and fragment follow the slash behind it. Behind an address without query and
fragment, what follows a question mark is the query.

Main statements: `parse_eq_ok_iff`, `parse_below`, `query_of_parse_below`.
-/

namespace HelixGateway.Url

open Text

/-- Two texts that are one, or that have paths behind the same base and a slash. No further slash stands beside the first
one. -/
inductive Below : List Char → List Char → Prop where
  | same (s : List Char) : Below s s
  | path {base path : List Char} (hb : '/' ∉ base.getLast?) (hp : '/' ∉ path.head?) (path' : List Char) :
      Below (base ++ '/' :: path) (base ++ '/' :: path')

/-! ## Cutting below a base -/

/-- What is taken from the front of a text, up to a slash at most, does not depend on what stands behind the slash. -/
theorem takeWhile_slash {p : Char → Bool} (hp : p '/' = false) (base path : List Char) :
    (base ++ '/' :: path).takeWhile p = base.takeWhile p := by
  induction base with
  | nil => simp [hp]
  | cons c base ih =>
    rw [List.cons_append, List.takeWhile_cons, List.takeWhile_cons, ih]

/-- What is dropped from the front, up to a slash at most, does not depend on it either. -/
theorem dropWhile_slash {p : Char → Bool} (hp : p '/' = false) (base path : List Char) :
    (base ++ '/' :: path).dropWhile p = base.dropWhile p ++ '/' :: path := by
  induction base with
  | nil => simp [hp]
  | cons c base ih =>
    rw [List.cons_append, List.dropWhile_cons, List.dropWhile_cons, ih]
    split <;> rfl

/-- The scheme ends before the slash. -/
theorem splitScheme_slash (base : List Char) :
    ∃ scheme rest, rest <:+ base ∧ ∀ path, splitScheme (base ++ '/' :: path) = (scheme, rest ++ '/' :: path) := by
  have hs : isSchemeChar '/' = false := by decide
  cases base with
  | nil => exact ⟨[], [], List.suffix_rfl, fun path => rfl⟩
  | cons c base =>
    have hd := dropWhile_slash hs (c :: base)
    have ht := takeWhile_slash hs (c :: base)
    cases hw : (c :: base).dropWhile isSchemeChar with
    | nil =>
      refine ⟨[], c :: base, List.suffix_rfl, fun path => ?_⟩
      rw [splitScheme, hd, hw]
      rfl
    | cons d rest =>
      by_cases hc : d = ':'
      · by_cases ha : (c.isAlpha || c == ':') = true
        · have hr : rest <:+ c :: base := (List.suffix_cons d rest).trans (hw ▸ List.dropWhile_suffix isSchemeChar)
          refine ⟨(c :: base).takeWhile isSchemeChar, rest, hr, fun path => ?_⟩
          rw [splitScheme, hd, hw, hc, ht]
          simp only [List.cons_append, ha, if_true]
        · refine ⟨[], c :: base, List.suffix_rfl, fun path => ?_⟩
          rw [splitScheme, hd, hw, hc]
          simp only [List.cons_append, ha]
          rfl
      · refine ⟨[], c :: base, List.suffix_rfl, fun path => ?_⟩
        rw [splitScheme, hd, hw]
        simp only [List.cons_append]
        split
        · rename_i h
          exact absurd (List.cons.inj h).1 hc
        · rfl

/-- Behind a text without a mark the mark is looked for in what follows. -/
theorem splitAt_append {mark : Char} {pre : List Char} (h : mark ∉ pre) (s : List Char) :
    (splitAt mark (pre ++ s)).1 = pre ++ (splitAt mark s).1 := by
  by_cases hm : mark ∈ s
  · obtain ⟨a, b, rfl, ha⟩ := List.eq_append_cons_of_mem hm
    have hn : mark ∉ pre ++ a := by simp [h, ha]
    rw [splitAt, ← List.append_assoc, cut_append_of_not_mem hn, splitAt, cut_append_of_not_mem ha]
  · have hn : mark ∉ pre ++ s := by simp [h, hm]
    rw [splitAt, cut_eq_none_of_not_mem hn, splitAt, cut_eq_none_of_not_mem hm]

/-- What stands before a mark is the beginning of the text. -/
theorem splitAt_prefix (mark : Char) (s : List Char) : (splitAt mark s).1 <+: s := by
  rw [splitAt]
  cases hc : cut [mark] s with
  | none => exact List.prefix_rfl
  | some r => exact ⟨_, (cut_eq_some hc).symm⟩

/-- A mark takes away what stands behind it, the base or the path. -/
theorem splitAt_below {mark : Char} (hm : mark ≠ '/') {s t : List Char} (h : Below s t) :
    Below (splitAt mark s).1 (splitAt mark t).1 := by
  cases h with
  | same s => exact .same _
  | @path base path hb hp path' =>
    by_cases hmb : mark ∈ base
    · obtain ⟨a, b, rfl, ha⟩ := List.eq_append_cons_of_mem hmb
      have hc : ∀ path, splitAt mark ((a ++ mark :: b) ++ '/' :: path) = (a, some (b ++ '/' :: path)) := by
        intro path
        rw [splitAt, List.append_assoc, List.cons_append, cut_append_of_not_mem ha]
      rw [hc, hc]
      exact .same _
    · have hn : mark ∉ base ++ ['/'] := by simp [hmb, hm]
      have hs : ∀ path, (splitAt mark (base ++ '/' :: path)).1 = base ++ '/' :: (splitAt mark path).1 := by
        intro path
        rw [List.append_cons, splitAt_append hn, List.append_assoc, List.singleton_append]
      rw [hs, hs]
      refine .path hb (fun hh => hp ?_) _
      obtain ⟨t, ht⟩ := splitAt_prefix mark path
      rw [← ht]
      cases hq : (splitAt mark path).1 with
      | nil =>
        rw [hq] at hh
        cases hh
      | cons c q =>
        rw [hq] at hh
        exact hh

/-- The text between the slashes and the path does not depend on the path. -/
theorem authority_below {s t r : List Char} (h : Below s t) (hr : afterPrefix? "//".toList s = some r) :
    ∃ r', afterPrefix? "//".toList t = some r' ∧ r'.takeWhile (· != '/') = r.takeWhile (· != '/') := by
  have hl : "//".toList = ['/', '/'] := rfl
  rw [hl] at hr ⊢
  have hs := eq_append_of_afterPrefix? hr
  cases h with
  | same s => exact ⟨r, hr, rfl⟩
  | @path base path hb hp path' =>
    match base, hs with
    | [], hs =>
      refine absurd ?_ hp
      rw [(List.cons.inj hs).2]
      rfl
    | [c], hs =>
      refine absurd ?_ hb
      rw [(List.cons.inj hs).1]
      rfl
    | c :: d :: base, hs =>
      simp only [List.cons_append, List.nil_append, List.cons.injEq] at hs
      obtain ⟨hc, hd, hs⟩ := hs
      refine ⟨base ++ '/' :: path', ?_, ?_⟩
      · rw [hc, hd]
        exact afterPrefix?_append ['/', '/'] _
      · rw [← hs, takeWhile_slash (by rfl), takeWhile_slash (by rfl)]

/-! ## Reading below a base -/

/-- Scheme, host and port are the same. -/
structure SameServer (u v : Url) : Prop where
  scheme : v.scheme = u.scheme
  host : v.host = u.host
  port : v.port = u.port

/-- What an address is made of, once scheme, host and port are read. -/
theorem normalize_eq_ok {scheme authority path : List Char} {query fragment : Option (List Char)} {u : Url}
    (h : normalize scheme authority path query fragment = .ok u) :
    u.scheme = scheme.map Char.toLower ∧ normalizeHost (splitAuthority authority).2.1 = .ok u.host ∧
      normalizePort (splitAuthority authority).2.2 scheme = .ok u.port := by
  simp only [normalize] at h
  split at h
  · cases h
  · rename_i host hh
    split at h
    · cases h
    · rename_i port hp
      split at h
      · cases h
      · split at h
        · cases h
        · cases h
          exact ⟨rfl, hh, hp⟩

/-- An absolute address has a text that names its host. -/
theorem authority_ne_nil {scheme authority path : List Char} {query fragment : Option (List Char)} {u : Url}
    (h : normalize scheme authority path query fragment = .ok u) (ha : u.isAbsolute = true) : authority ≠ [] := by
  rintro rfl
  have hh : (.ok [] : Except UrlError (List Char)) = .ok u.host := (normalize_eq_ok h).2.1
  rw [isAbsolute, ← Except.ok.inj hh] at ha
  simp at ha

/-- The path of an absolute address may be any other. -/
theorem normalize_of_absolute {scheme authority path : List Char} {query fragment : Option (List Char)} {u : Url}
    (h : normalize scheme authority path query fragment = .ok u) (ha : u.isAbsolute = true) (path' : List Char)
    (query' fragment' : Option (List Char)) :
    ∃ v, normalize scheme authority path' query' fragment' = .ok v ∧ SameServer u v := by
  obtain ⟨hs, hh, hp⟩ := normalize_eq_ok h
  have he : scheme.isEmpty = false := by
    cases scheme with
    | cons c scheme => rfl
    | nil =>
      rw [isAbsolute, hs] at ha
      cases ha
  simp only [normalize, hh, hp, he, Bool.false_and, Bool.false_eq_true, if_false]
  exact ⟨_, rfl, hs.symm, rfl, rfl⟩

/-! ## Control characters -/

def isControl (c : Char) : Bool := c.toNat < 0x20 || c.toNat = 0x7F

/-- No control character is found exactly if there is none. -/
theorem findControl?_eq_none_iff {n : Nat} {s : List Char} : findControl? n s = none ↔ ∀ c ∈ s, isControl c = false := by
  induction s generalizing n with
  | nil => simp [findControl?]
  | cons c s ih =>
    rw [findControl?, List.forall_mem_cons]
    by_cases hc : c.toNat < 0x20 ∨ c.toNat = 0x7F
    · rw [if_pos hc]
      have : isControl c = true := by simpa [isControl] using hc
      simp [this]
    · rw [if_neg hc, ih]
      have : isControl c = false := by simpa [isControl] using hc
      simp [this]

/-! ## Whole addresses -/

/-- What is read of a text without control characters that is not too long. -/
def parsePlain (s : List Char) : Except UrlError Url :=
  let (scheme, s) := splitScheme s
  let (s, fragment) := splitAt '#' s
  let (s, query) := splitAt '?' s
  match afterPrefix? "//".toList s with
  | some r => normalize scheme (r.takeWhile (· != '/')) (r.dropWhile (· != '/')) query fragment
  | none => normalize scheme [] s query fragment

/-- An address is read exactly if it is short enough, has no control characters and is read as plain text. -/
theorem parse_eq_ok_iff {s : List Char} {u : Url} :
    parse s = .ok u ↔ s.length ≤ maxLength ∧ (∀ c ∈ s, isControl c = false) ∧ parsePlain s = .ok u := by
  by_cases hl : maxLength < s.length
  · rw [parse, if_pos hl]
    exact ⟨nofun, fun h => absurd h.1 (Nat.not_le.2 hl)⟩
  · rw [parse, if_neg hl]
    cases hc : findControl? 0 s with
    | none => exact ⟨fun h => ⟨Nat.not_lt.1 hl, findControl?_eq_none_iff.1 hc, h⟩, fun h => h.2.2⟩
    | some found =>
      refine ⟨nofun, fun h => ?_⟩
      rw [findControl?_eq_none_iff.2 h.2.1] at hc
      cases hc

section Below

variable {base path : List Char} {u : Url} (hb : '/' ∉ base.getLast?) (hp : '/' ∉ path.head?)
include hb hp

/-- With another path below it, an address is read as one on the same server. -/
theorem parsePlain_below (h : parsePlain (base ++ '/' :: path) = .ok u) (ha : u.isAbsolute = true) (path' : List Char) :
    ∃ v, parsePlain (base ++ '/' :: path') = .ok v ∧ SameServer u v := by
  obtain ⟨scheme, rest, hr, hs⟩ := splitScheme_slash base
  have hlast : '/' ∉ rest.getLast? := by
    obtain ⟨pre, rfl⟩ := hr
    intro hm
    refine hb ?_
    rw [List.getLast?_append, Option.mem_def.1 hm]
    rfl
  have hbelow := splitAt_below (show '?' ≠ '/' by decide) (splitAt_below (show '#' ≠ '/' by decide) (.path hlast hp path'))
  simp only [parsePlain, hs] at h ⊢
  split at h
  · rename_i r hr
    obtain ⟨r', hr', ht⟩ := authority_below hbelow hr
    rw [hr']
    simp only [ht]
    exact normalize_of_absolute h ha _ _ _
  · exact absurd rfl (authority_ne_nil h ha)

/-- If one path below a base is that of an absolute address, then any other one without control characters is an address at
the same server. -/
theorem parse_below (h : parse (base ++ '/' :: path) = .ok u) (ha : u.isAbsolute = true) {path' : List Char}
    (hc : ∀ c ∈ path', isControl c = false) (hl : (base ++ '/' :: path').length ≤ maxLength) :
    ∃ v, parse (base ++ '/' :: path') = .ok v ∧ SameServer u v := by
  obtain ⟨-, hplain, hu⟩ := parse_eq_ok_iff.1 h
  obtain ⟨v, hv, hs⟩ := parsePlain_below hb hp hu ha path'
  refine ⟨v, parse_eq_ok_iff.2 ⟨hl, ?_, hv⟩, hs⟩
  intro c hm
  rcases List.mem_append.1 hm with hm | hm
  · exact hplain c (List.mem_append_left _ hm)
  · rcases List.mem_cons.1 hm with rfl | hm
    · rfl
    · exact hc c hm

end Below

theorem parse_of_length_lt {s : List Char} (h : maxLength < s.length) : parse s = .error .tooLong := by
  rw [parse, if_pos h]

theorem SameServer.isAbsolute {u v : Url} (h : SameServer u v) : v.isAbsolute = u.isAbsolute := by
  rw [Url.isAbsolute, Url.isAbsolute, h.scheme, h.host]

theorem SameServer.location {u v : Url} (h : SameServer u v) : v.location = u.location := by
  rw [Url.location, Url.location, h.host, h.port]

/-! ## Queries below a base -/

/-- A text without the mark is not split. -/
theorem splitAt_of_not_mem {mark : Char} {s : List Char} (h : mark ∉ s) : splitAt mark s = (s, none) := by
  rw [splitAt, cut_eq_none_of_not_mem h]

/-- A text is split at its first mark. -/
theorem splitAt_append_cons {mark : Char} {a : List Char} (h : mark ∉ a) (b : List Char) :
    splitAt mark (a ++ mark :: b) = (a, some b) := by
  rw [splitAt, cut_append_of_not_mem h]

/-- A text that is not split does not hold the mark. -/
theorem not_mem_of_splitAt {mark : Char} {s : List Char} (h : (splitAt mark s).2 = none) : mark ∉ s := by
  intro hm
  obtain ⟨a, b, rfl, ha⟩ := List.eq_append_cons_of_mem hm
  rw [splitAt_append_cons ha] at h
  cases h

/-- Query and fragment of an address are those that are written, encoded. -/
theorem marks_of_normalize {scheme authority path : List Char} {query fragment : Option (List Char)} {u : Url}
    (h : normalize scheme authority path query fragment = .ok u) :
    u.query = query.map (Percent.encodeWith isQueryChar) ∧ u.fragment = fragment.map (Percent.encodeWith isFragmentChar) := by
  simp only [normalize] at h
  split at h
  · cases h
  · split at h
    · cases h
    · split at h
      · cases h
      · split at h
        · cases h
        · cases h
          exact ⟨rfl, rfl⟩

/-- Query and fragment are what stands behind the first marks after the scheme. -/
theorem marks_of_parse {s : List Char} {u : Url} (h : parse s = .ok u) :
    u.query = (splitAt '?' (splitAt '#' (splitScheme s).2).1).2.map (Percent.encodeWith isQueryChar) ∧
      u.fragment = (splitAt '#' (splitScheme s).2).2.map (Percent.encodeWith isFragmentChar) := by
  obtain ⟨-, -, h⟩ := parse_eq_ok_iff.1 h
  simp only [parsePlain] at h
  split at h
  · exact marks_of_normalize h
  · exact marks_of_normalize h

/-- Below an address without query and fragment, the query of an address is what follows the question mark. -/
theorem query_of_parse_below {base path : List Char} {u : Url} (h : parse (base ++ '/' :: path) = .ok u) (hq : u.query = none)
    (hf : u.fragment = none) {path' : List Char} (hp : ∀ c ∈ path', c ≠ '?' ∧ c ≠ '#') {query : Option (List Char)}
    (hn : ∀ q ∈ query, '#' ∉ q) {v : Url} (hv : parse (base ++ '/' :: (path' ++ (query.map ('?' :: ·)).getD [])) = .ok v) :
    v.query = query.map (Percent.encodeWith isQueryChar) := by
  obtain ⟨scheme, rest, -, hs⟩ := splitScheme_slash base
  have hu := marks_of_parse h
  rw [hs] at hu
  have hhash : '#' ∉ rest ++ '/' :: path := not_mem_of_splitAt (Option.map_eq_none_iff.1 (hu.2.symm.trans hf))
  rw [splitAt_of_not_mem hhash] at hu
  have hmark : '?' ∉ rest ++ '/' :: path := not_mem_of_splitAt (Option.map_eq_none_iff.1 (hu.1.symm.trans hq))
  -- the marks behind the path are the first ones, as there are none in the base
  have hbefore : ∀ c, c = '?' ∨ c = '#' → c ∉ rest ++ '/' :: path' := by
    intro c hc hm
    rcases List.mem_append.1 hm with hm | hm
    · rcases hc with rfl | rfl
      · exact hmark (List.mem_append_left _ hm)
      · exact hhash (List.mem_append_left _ hm)
    · rcases List.mem_cons.1 hm with rfl | hm
      · exact absurd hc (by decide)
      · exact hc.elim (hp c hm).1 (hp c hm).2
  have hw := (marks_of_parse hv).1
  rw [hs] at hw
  cases query with
  | none =>
    rw [Option.map_none, Option.getD_none, List.append_nil, splitAt_of_not_mem (hbefore _ (Or.inr rfl)),
      splitAt_of_not_mem (hbefore _ (Or.inl rfl))] at hw
    exact hw
  | some q =>
    have hall : '#' ∉ rest ++ '/' :: (path' ++ '?' :: q) := by
      rw [← List.cons_append, ← List.append_assoc]
      intro hm
      rcases List.mem_append.1 hm with hm | hm
      · exact hbefore _ (Or.inr rfl) hm
      · rcases List.mem_cons.1 hm with hm | hm
        · exact absurd hm (by decide)
        · exact hn q rfl hm
    have hsplit : splitAt '?' (rest ++ '/' :: (path' ++ '?' :: q)) = (rest ++ '/' :: path', some q) := by
      rw [← List.cons_append, ← List.append_assoc]
      exact splitAt_append_cons (hbefore _ (Or.inl rfl)) q
    rw [Option.map_some, Option.getD_some, splitAt_of_not_mem hall, hsplit] at hw
    exact hw

end HelixGateway.Url
