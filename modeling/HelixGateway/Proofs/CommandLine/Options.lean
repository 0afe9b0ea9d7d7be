import HelixGateway.CommandLine
import HelixGateway.Proofs.Decimal.Written
import HelixGateway.Proofs.Results

/-!
# The options of a server

Options and words of a line come in any order. What a line gives for an option can be said without reading the line from its
start: each occurrence of the option has a value, attached to it or in the next word, and the last one counts. The reading keeps
to this from argument to argument: words leave the options alone, and an option leaves the others alone.

Main statements: `setsPort_readArguments`, `port?_of_parse`, `askedPort?_of_written`.
-/

namespace HelixGateway.CommandLine

/-- The word at the start of some arguments. -/
def word? : List Argument → Option String
  | .word w :: _ => some w
  | _ => none

/-- The values that arguments give for an option, in order. -/
def valuesOf (flag : Flag) : List Argument → List String
  | [] => []
  | .option f attached :: rest =>
    if f = flag then (attached.text?.or (word? rest)).toList ++ valuesOf flag rest else valuesOf flag rest
  | _ :: rest => valuesOf flag rest

/-- The port that is set by an option, for those that set one. -/
def ServeRequest.port? (r : ServeRequest) : Flag → Option Int
  | .databasePort => r.databasePort
  | .listenPort => r.listenPort
  | _ => none

/-- The options that set a port. -/
def portFlags : List Flag := [.databasePort, .listenPort]

section Values

variable {flag f : Flag} {attached : Attached} {a : Argument} {rest behind : List Argument} {value : String}

/-- A word in front gives no value for an option. -/
theorem valuesOf_cons_of_isWordOrSeparator (h : isWordOrSeparator a = true) (rest : List Argument) :
    valuesOf flag (a :: rest) = valuesOf flag rest := by
  cases a with
  | word w => rfl
  | separator => rfl
  | option f attached => cases h
  | unknown => cases h
  | ambiguous => cases h

/-- Words say nothing of options. -/
theorem valuesOf_dropWhile (flag : Flag) (rest : List Argument) :
    valuesOf flag (rest.dropWhile isWordOrSeparator) = valuesOf flag rest := by
  induction rest with
  | nil => rfl
  | cons a rest ih =>
    cases h : isWordOrSeparator a with
    | true => rw [List.dropWhile_cons_of_pos h, ih, valuesOf_cons_of_isWordOrSeparator h]
    | false => rw [List.dropWhile_cons_of_neg (by simp [h])]

/-- The value that is taken for an option is the one of this occurrence, and no other occurrence is passed over. -/
theorem valuesOf_of_takeValue (h : takeValue attached rest = some (value, behind)) :
    valuesOf flag (.option f attached :: rest) = (if f = flag then [value] else []) ++ valuesOf flag behind := by
  have hvalue : attached.text?.or (word? rest) = some value ∧ valuesOf flag rest = valuesOf flag behind := by
    unfold takeValue at h
    split at h
    · rename_i ht
      cases h
      exact ⟨by rw [ht]; rfl, rfl⟩
    · rename_i ht
      cases h
      exact ⟨by rw [ht]; rfl, rfl⟩
    · cases h
  rw [valuesOf, hvalue.1, hvalue.2]
  split
  · rfl
  · rfl

end Values

/-! ## Reading -/

section Read

variable {flag f : Flag} {r r' : ServeRequest} {value : String}

/-- An option that is set is the one that sets a port, with an integer, or one that leaves that port as it is. -/
theorem port?_set? (hf : flag ∈ portFlags) (h : set? r f value = some r') :
    (f = flag ∧ ∃ n, integer? value = some n ∧ r'.port? flag = some n) ∨ (f ≠ flag ∧ r'.port? flag = r.port? flag) := by
  have hflags : flag = .databasePort ∨ flag = .listenPort := by simpa [portFlags] using hf
  cases f with
  | help => cases h
  | version => cases h
  | databasePort =>
    obtain ⟨n, hn, rfl⟩ := Option.map_eq_some_iff.1 h
    rcases hflags with rfl | rfl
    · exact .inl ⟨rfl, n, hn, rfl⟩
    · exact .inr ⟨nofun, rfl⟩
  | listenPort =>
    obtain ⟨n, hn, rfl⟩ := Option.map_eq_some_iff.1 h
    rcases hflags with rfl | rfl
    · exact .inr ⟨nofun, rfl⟩
    · exact .inl ⟨rfl, n, hn, rfl⟩
  | host =>
    cases h
    exact .inr ⟨fun he => absurd (he ▸ hf) (by decide), by cases flag <;> rfl⟩
  | logLevel =>
    obtain ⟨v, hv, rfl⟩ := Option.map_eq_some_iff.1 h
    exact .inr ⟨fun he => absurd (he ▸ hf) (by decide), by cases flag <;> rfl⟩

/-- Words set no port. -/
theorem port?_takeRun {c : Command} {r r' : Reading} {run : List Argument} (h : takeRun c r run = .ok r') (flag : Flag) :
    r'.options.port? flag = r.options.port? flag := by
  have hplace (source : DataSource) (second : Option String) :
      ServeRequest.port? { r.options with source, cloudUrl := second } flag = r.options.port? flag := by
    cases flag <;> rfl
  unfold takeRun at h
  split at h
  · cases h
    rfl
  · simp only at h
    split at h
    · -- the places of a server
      split at h
      · cases h
        exact hplace _ _
      · split at h
        · cases h
          exact hplace _ _
        · cases h
    · -- the place of a file
      split at h
      · cases h
        rfl
      · cases h
        rfl

/-- Values that are given for a port one after the other: all are integers, and the last one is set. -/
structure SetsPort (flag : Flag) (values : List String) (before after : ServeRequest) : Prop where
  integers : ∀ v ∈ values, (integer? v).isSome = true
  last : after.port? flag = (values.getLast?.bind integer?).or (before.port? flag)

/-- What is read in two parts sets a port by the values of both. -/
theorem SetsPort.append {r₁ r₂ r₃ : ServeRequest} {vs ws : List String} (h₁ : SetsPort flag vs r₁ r₂)
    (h₂ : SetsPort flag ws r₂ r₃) : SetsPort flag (vs ++ ws) r₁ r₃ := by
  refine ⟨List.forall_mem_append.2 ⟨h₁.integers, h₂.integers⟩, ?_⟩
  rw [h₂.last, h₁.last, List.getLast?_append]
  cases hl : ws.getLast? with
  | none => rfl
  | some v =>
    obtain ⟨n, hn⟩ := Option.isSome_iff_exists.1 (h₂.integers v (List.mem_of_getLast? hl))
    simp [hn]

/-- What leaves a port as it is has no value for it. -/
theorem SetsPort.of_eq (h : r'.port? flag = r.port? flag) : SetsPort flag [] r r' :=
  ⟨List.forall_mem_nil _, h⟩

/-- An option sets its own port, and no other one. -/
theorem setsPort_set? (hf : flag ∈ portFlags) (h : set? r f value = some r') :
    SetsPort flag (if f = flag then [value] else []) r r' := by
  rcases port?_set? hf h with ⟨rfl, n, hn, hp⟩ | ⟨hne, hp⟩
  · rw [if_pos rfl]
    exact ⟨List.forall_mem_singleton.2 (by rw [hn]; rfl), by simp [hn, hp]⟩
  · rw [if_neg hne]
    exact .of_eq hp

/-- The reading sets what the arguments give. -/
theorem setsPort_readArguments {c : Command} {r r' : Reading} {args : List Argument} (hf : flag ∈ portFlags)
    (h : readArguments c r args = .ok r') : SetsPort flag (valuesOf flag args) r.options r'.options := by
  -- the values of what is read now come in front of those of the rest, which set the port last
  fun_induction readArguments c r args with
  | case1 r =>
    cases h
    exact .of_eq rfl
  | case2 | case4 | case5 | case7 | case8 => cases h
  | case3 r rest ih => exact ih h
  | case6 r f attached rest _ value behind ht options hs ih =>
    rw [valuesOf_of_takeValue ht]
    exact (setsPort_set? hf hs).append (ih h)
  | case9 r a rest hna hnu hnh hno r₁ hr ih =>
    have ha : isWordOrSeparator a = true := by
      cases a with
      | word w => rfl
      | separator => rfl
      | option f attached => exact absurd rfl (hno f attached)
      | unknown => exact absurd rfl hnu
      | ambiguous => exact absurd rfl hna
    rw [valuesOf_cons_of_isWordOrSeparator ha, ← valuesOf_dropWhile]
    exact (SetsPort.of_eq (port?_takeRun hr flag)).append (ih h)

end Read

/-! ## Lines -/

/-- The arguments of the server on a line: those behind its name, or all of them if it is not named. -/
def serverArguments : List String → List String
  | [] => []
  | s :: rest => if Command.ofText? s = some .serve then rest else s :: rest

/-- The values that a line gives for an option of the server, in order. -/
def valuesGiven (flag : Flag) (argv : List String) : List String :=
  valuesOf flag (classify (some .serve) (serverArguments argv))

/-- The port that a line asks for by an option: the last one that is given. -/
def askedPort? (flag : Flag) (argv : List String) : Option Int := (valuesGiven flag argv).getLast?.bind integer?

section Line

variable {argv : List String} {r : ServeRequest} {flag : Flag}

/-- A request to serve is what was read for that command. -/
theorem eq_serve_of_finish {c : Command} {reading : Reading} (h : finish c reading = .ok (.serve r)) :
    c = .serve ∧ reading.options = r := by
  unfold finish at h
  split at h
  · cases h
  · split at h
    · cases h
      exact ⟨rfl, rfl⟩
    · cases h
    · cases h
    · cases h

/-- A request to serve is what reading the arguments of that command comes to. -/
theorem readArguments_of_parseCommand {c : Command} {args : List String} (h : parseCommand c args = .ok (.serve r)) :
    c = .serve ∧ ∃ reading, readArguments c {} (classify (some c) args) = .ok reading ∧ reading.options = r := by
  unfold parseCommand at h
  simp only at h
  split at h
  · cases h
  · cases hr : readArguments c {} (classify (some c) args) with
    | error e =>
      rw [hr] at h
      cases h
    | ok reading =>
      rw [hr] at h
      obtain ⟨hc, ho⟩ := eq_serve_of_finish h
      exact ⟨hc, reading, rfl, ho⟩

/-- A line of a server is read from the arguments of the server. -/
theorem readArguments_of_parse (h : parse argv = .ok (.serve r)) :
    ∃ reading, readArguments .serve {} (classify (some .serve) (serverArguments argv)) = .ok reading ∧
      reading.options = r := by
  unfold parse at h
  split at h
  · cases h
  · split at h
    · exact (readArguments_of_parseCommand h).2
    · split at h
      · cases h
      · split at h
        · cases h
        · split at h
          · rename_i c hc
            obtain ⟨rfl, hr⟩ := readArguments_of_parseCommand h
            rw [serverArguments, if_pos hc]
            exact hr
          · rename_i hc
            rw [serverArguments, if_neg (by simp [hc])]
            exact (readArguments_of_parseCommand h).2

/-- All that a line of a server gives for a port is an integer, and the server is asked for the last one. -/
theorem setsPort_of_parse (hf : flag ∈ portFlags) (h : parse argv = .ok (.serve r)) :
    SetsPort flag (valuesGiven flag argv) {} r := by
  obtain ⟨reading, hr, rfl⟩ := readArguments_of_parse h
  exact setsPort_readArguments hf hr

/-- The port of a request to serve is the one asked for, the last of its values. -/
theorem port?_of_parse (hf : flag ∈ portFlags) (h : parse argv = .ok (.serve r)) : r.port? flag = askedPort? flag argv := by
  have hlast := (setsPort_of_parse hf h).last
  have hnone : ServeRequest.port? {} flag = none := by cases flag <;> rfl
  rwa [hnone, Option.or_none] at hlast

end Line

/-! ## Ports as they are written out -/

section Written

open Decimal (IsDigits isDigits_toDigits)

variable {flag : Flag} {name : String} {a b : List String}

/-- No option is spelled with a digit behind the dash. -/
theorem not_isDigit_of_mem_spellings {scope : Scope} {o : String × Flag} (h : o ∈ spellings scope) {d : Char}
    {ds : List Char} (hd : Text.isDigit d = true) : o.1.toList ≠ '-' :: d :: ds := by
  have hall : ∀ o ∈ spellings scope, (o.1.toList[1]?).all (fun c => !Text.isDigit c) = true := by
    rcases scope with _ | _ | _ | _ <;> decide
  intro hs
  have ho := hall o h
  rw [hs] at ho
  simp [hd] at ho

/-- A dash and digits are a negative number, and so no option. -/
theorem isNegativeNumber_digits {ds : List Char} (h : IsDigits ds) : isNegativeNumber ('-' :: ds) = true := by
  have hline : ¬ds.getLast? = some '\n' := by
    intro hl
    exact absurd (h.isDigit _ (List.mem_of_getLast? hl)) (by decide)
  have hall : ds.all (fun c => (Decimal.scriptDigit? c).isSome) = true := by
    refine List.all_eq_true.2 fun c hc => ?_
    rw [Decimal.scriptDigit?_of_isDigit (h.isDigit c hc)]
    rfl
  have hne : ds.isEmpty = false := List.isEmpty_eq_false_iff.2 h.nonempty
  simp [isNegativeNumber, hline, hall, hne]

/-- A minus sign in front of digits does not make an option. -/
theorem ofText_negative (scope : Scope) {s : String} {ds : List Char} (h : IsDigits ds) (hs : s.toList = '-' :: ds) :
    Argument.ofText scope s = .word s := by
  cases ds with
  | nil => exact absurd rfl h.nonempty
  | cons d ds =>
    have hd : Text.isDigit d = true := h.isDigit d List.mem_cons_self
    have hfind : (spellings scope).find? (fun o => o.1.toList = '-' :: d :: ds) = none := by
      refine List.find?_eq_none.2 fun o ho => ?_
      rw [decide_eq_true_eq]
      exact not_isDigit_of_mem_spellings ho hd
    have hletter : (spellings scope).filter (fun o => o.1.toList = ['-', d]) = [] := by
      refine List.filter_eq_nil_iff.2 fun o ho => ?_
      rw [decide_eq_true_eq]
      exact not_isDigit_of_mem_spellings ho hd
    have hvalue : splitValue ('-' :: d :: ds) = ('-' :: d :: ds, .nothing) := by
      have hmem : '=' ∉ '-' :: d :: ds := by
        rw [List.mem_cons, not_or]
        exact ⟨by decide, fun hm => h.ne (by decide) '=' hm rfl⟩
      rw [splitValue, Text.cut_eq_none_of_not_mem hmem]
    have hdash : d ≠ '-' := h.ne (by decide) d List.mem_cons_self
    have hcandidates : candidates scope ('-' :: d :: ds) = [] := by
      unfold candidates
      split
      · rename_i he
        exact absurd (List.cons.inj (List.cons.inj he).2).1 hdash
      · rename_i c value _ he
        obtain ⟨rfl, rfl⟩ := List.cons.inj (List.cons.inj he).2
        rw [hletter]
        rfl
      · rfl
    simp [Argument.ofText, hs, hfind, hvalue, hcandidates, isNegativeNumber_digits h]

/-- The text of an integer is a word. -/
theorem ofText_toString (scope : Scope) (n : ℤ) : Argument.ofText scope (toString n) = .word (toString n) := by
  have hd := isDigits_toDigits n.natAbs
  have ht := Decimal.toList_toString n
  by_cases hn : n < 0
  · rw [if_pos hn] at ht
    exact ofText_negative scope hd ht
  · rw [if_neg hn] at ht
    refine Argument.ofText_word scope fun hh => ?_
    rw [ht, List.nil_append] at hh
    exact hd.ne (by decide) '-' (List.mem_of_head? hh) rfl

/-- The name of an option of the server is read as that option, without a value of its own. -/
theorem ofText_name (h : (name, flag) ∈ spellings (some .serve)) :
    Argument.ofText (some .serve) name = .option flag .nothing := by
  have hall : ∀ o ∈ spellings (some .serve), Argument.ofText (some .serve) o.1 = .option o.2 .nothing := by decide
  exact hall (name, flag) h

/-- What an option gives does not depend on the arguments before it. -/
theorem valuesOf_append_option (flag f : Flag) (attached : Attached) (xs ys : List Argument) :
    valuesOf flag (xs ++ .option f attached :: ys) = valuesOf flag xs ++ valuesOf flag (.option f attached :: ys) := by
  -- the arguments behind start with an option, so none of them is the value of one in front
  induction xs with
  | nil => rfl
  | cons x xs ih =>
    have hword : word? (xs ++ .option f attached :: ys) = word? xs := by
      cases xs with
      | nil => rfl
      | cons x xs => cases x <;> rfl
    cases x with
    | option f' attached' =>
      rw [List.cons_append, valuesOf, valuesOf, hword, ih]
      split
      · rw [List.append_assoc]
      · rfl
    | word w => exact ih
    | separator => exact ih
    | unknown => exact ih
    | ambiguous => exact ih

/-- An option with an integer behind it gives the text of the integer. -/
theorem valuesOf_classify (h : (name, flag) ∈ spellings (some .serve)) (ha : "--" ∉ a) (n : ℤ) :
    valuesOf flag (classify (some .serve) (a ++ name :: toString n :: b)) =
      valuesOf flag (classify (some .serve) a) ++ toString n :: valuesOf flag (classify (some .serve) b) := by
  have hname : name ≠ "--" := by
    have hall : ∀ o ∈ spellings (some .serve), o.1 ≠ "--" := by decide
    exact hall (name, flag) h
  have hn : toString n ≠ "--" := by
    intro he
    have ho := ofText_toString (some .serve) n
    rw [he] at ho
    exact absurd ho (by decide)
  rw [classify_append (some .serve) _ ha, classify, if_neg hname, classify, if_neg hn, ofText_name h, ofText_toString,
    valuesOf_append_option, valuesOf, if_pos rfl]
  rfl

/-- An integer that can be read is read back from its text. -/
theorem integer?_toString {n : ℤ} (h : (integer? (toString n)).isSome = true) : integer? (toString n) = some n := by
  unfold integer? at h ⊢
  rw [Decimal.written?_toString] at h ⊢
  by_cases hl : (Nat.toDigits 10 n.natAbs).length ≤ Decimal.maxDigits
  · simp only [if_pos hl]
  · simp only [if_neg hl] at h
    cases h

/-- A port that is written out behind its option, and given no more behind that, is the one that a line asks for. -/
theorem askedPort?_of_written {argv : List String} {r : ServeRequest} (hp : parse argv = .ok (.serve r))
    (hf : flag ∈ portFlags) (hname : (name, flag) ∈ spellings (some .serve)) {n : ℤ}
    (hargs : serverArguments argv = a ++ name :: toString n :: b) (ha : "--" ∉ a)
    (hb : valuesOf flag (classify (some .serve) b) = []) : askedPort? flag argv = some n := by
  have hv : valuesGiven flag argv = valuesOf flag (classify (some .serve) a) ++ [toString n] := by
    rw [valuesGiven, hargs, valuesOf_classify hname ha, hb]
  have hi := (setsPort_of_parse hf hp).integers (toString n) (by rw [hv]; simp)
  rw [askedPort?, hv, List.getLast?_append, List.getLast?_singleton, Option.some_or, Option.bind_some, integer?_toString hi]

end Written

end HelixGateway.CommandLine
