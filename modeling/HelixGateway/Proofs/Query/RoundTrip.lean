import HelixGateway.Proofs.Schema.Written
import HelixGateway.Proofs.Text.Lines
import HelixGateway.Proofs.Text.Separator
import HelixGateway.Query.Parser

/-!
# Reading written queries

A query that is written down on a line, `QUERY name (p: T, q: U) => Result`, is read back, whatever blanks stand around it,
and whatever lines stand between the declarations that do not start as one. Names hold no opening parenthesis, and names,
parameters and types no blank; so each separator is found where it was written. A type may hold parentheses but not start
with one, since the parameters end at the next opening with a blank before it.

Main statement: `parse_declarations`.
-/

namespace HelixGateway.Query

open Schema (Unbroken isIndent trim_indented unbroken_append unbroken_cons unbroken_indented unbroken_join)
open Text

/-! ## Declarations -/

/-- A declaration: the name of a query, its parameters with their types as they are written, and what it returns. -/
structure Declaration where
  name : String
  parameters : List (String × String)
  result : String
  deriving DecidableEq

/-- A parameter, `name: Type`. -/
def parameterText (p : String × String) : List Char := p.1.toList ++ (": ".toList ++ p.2.toList)

namespace Declaration

/-- The parameters with commas between them. -/
def parameterList (d : Declaration) : List Char := join ", ".toList (d.parameters.map parameterText)

/-- What follows the name. -/
def behindName (d : Declaration) : List Char := " (".toList ++ (d.parameterList ++ ") =>".toList)

/-- The declaration on its line. -/
def line (d : Declaration) : List Char := keyword ++ (d.name.toList ++ (d.behindName ++ ' ' :: d.result.toList))

/-- The query that is declared. -/
def query (d : Declaration) : Query :=
  let parameters := d.parameters.map fun p => ⟨p.1, HelixType.normalize p.2⟩
  ⟨d.name, parameters, methodFor d.name, pathFor d.name parameters⟩

end Declaration

/-- A parameter that can be written. -/
structure WritableParameter (p : String × String) : Prop where
  name : p.1 ≠ ""
  nameChars : ∀ c ∈ p.1.toList, isBlank c = false ∧ c ∉ [':', ',', '(', ')']
  type : p.2 ≠ ""
  typeChars : ∀ c ∈ p.2.toList, isBlank c = false ∧ c ≠ ','
  typeStart : '(' ∉ p.2.toList.head?

/-- A declaration that can be written. -/
structure Declaration.Writable (d : Declaration) : Prop where
  name : d.name ≠ ""
  nameChars : ∀ c ∈ d.name.toList, isBlank c = false ∧ c ≠ '('
  parameters : ∀ p ∈ d.parameters, WritableParameter p
  result : Unbroken d.result.toList

instance (p : String × String) : Decidable (WritableParameter p) :=
  decidable_of_iff
    (p.1 ≠ "" ∧ (∀ c ∈ p.1.toList, isBlank c = false ∧ c ∉ [':', ',', '(', ')']) ∧ p.2 ≠ "" ∧
      (∀ c ∈ p.2.toList, isBlank c = false ∧ c ≠ ',') ∧ '(' ∉ p.2.toList.head?)
    ⟨fun h => ⟨h.1, h.2.1, h.2.2.1, h.2.2.2.1, h.2.2.2.2⟩,
      fun h => ⟨h.name, h.nameChars, h.type, h.typeChars, h.typeStart⟩⟩

instance (d : Declaration) : Decidable d.Writable :=
  decidable_of_iff
    (d.name ≠ "" ∧ (∀ c ∈ d.name.toList, isBlank c = false ∧ c ≠ '(') ∧ (∀ p ∈ d.parameters, WritableParameter p) ∧
      Unbroken d.result.toList)
    ⟨fun h => ⟨h.1, h.2.1, h.2.2.1, h.2.2.2⟩, fun h => ⟨h.name, h.nameChars, h.parameters, h.result⟩⟩

/-- `Interspersed ds ls` says that `ls` are the lines of the declarations `ds` with any blanks around each, and between them
any lines that do not start as a declaration. -/
inductive Interspersed : List Declaration → List (List Char) → Prop where
  | nil : Interspersed [] []
  | declared {ds : List Declaration} {ls : List (List Char)} (before : List Char) (d : Declaration) (after : List Char)
      (hb : ∀ c ∈ before, isIndent c = true) (ha : ∀ c ∈ after, isIndent c = true) :
      Interspersed ds ls → Interspersed (d :: ds) ((before ++ (d.line ++ after)) :: ls)
  | other {ds : List Declaration} {ls : List (List Char)} (l : List Char) (hl : keyword.isPrefixOf (trim l) = false)
      (hu : Unbroken l) : Interspersed ds ls → Interspersed ds (l :: ls)

/-! ## Parameters -/

section Parameter

variable {p : String × String} (hp : WritableParameter p)
include hp

/-- A parameter that can be written has a name and a type. -/
theorem toList_ne_nil_of_writable : p.1.toList ≠ [] ∧ p.2.toList ≠ [] := by
  constructor
  · intro h
    exact hp.name (String.toList_eq_nil_iff.1 h)
  · intro h
    exact hp.type (String.toList_eq_nil_iff.1 h)

/-- The type of a parameter has no space in it. -/
theorem space_not_mem_type : ' ' ∉ p.2.toList := by
  intro hm
  exact absurd (hp.typeChars ' ' hm).1 (by decide)

theorem head?_parameterText : (parameterText p).head? = p.1.toList.head? :=
  List.head?_append_of_ne_nil _ (toList_ne_nil_of_writable hp).1

theorem getLast?_parameterText : (parameterText p).getLast? = p.2.toList.getLast? := by
  have ht := (toList_ne_nil_of_writable hp).2
  rw [parameterText, List.getLast?_append_of_ne_nil _ (by simp), List.getLast?_append_of_ne_nil _ ht]

/-- A parameter does not start or end with a blank. -/
theorem trim_parameterText : trim (parameterText p) = parameterText p := by
  rw [trim_eq_self_iff, head?_parameterText hp, getLast?_parameterText hp]
  constructor
  · intro c hc
    exact (hp.nameChars c (List.mem_of_head? hc)).1
  · intro c hc
    exact (hp.typeChars c (List.mem_of_getLast? hc)).1

/-- A written parameter has no comma in it. -/
theorem comma_not_mem_parameterText : ',' ∉ parameterText p := by
  rw [parameterText, List.mem_append, List.mem_append]
  rintro (hm | hm | hm)
  · exact (hp.nameChars ',' hm).2 (by decide)
  · exact absurd hm (by decide)
  · exact (hp.typeChars ',' hm).2 rfl

/-- The first colon with a blank behind it is the one between the name and the type. -/
theorem parseParameter?_parameterText : parseParameter? (parameterText p) = some ⟨p.1, HelixType.normalize p.2⟩ := by
  have hcolon : ':' ∉ p.1.toList := by
    intro hm
    exact (hp.nameChars ':' hm).2 (by decide)
  have hcut : cut ": ".toList (parameterText p) = some (p.1.toList, p.2.toList) :=
    cut_append_separator hcolon [' '] p.2.toList
  have hname : trim p.1.toList = p.1.toList := trim_of_not_blank fun c hc => (hp.nameChars c hc).1
  have htype : trim p.2.toList = p.2.toList := trim_of_not_blank fun c hc => (hp.typeChars c hc).1
  rw [parseParameter?, trim_parameterText hp, hcut, Option.map_some]
  simp only [hname, htype, String.ofList_toList]

/-- No opening parenthesis follows a blank: behind the colon there is a type. -/
theorem apart_open_parameterText : Apart ' ' '(' (parameterText p) := by
  have hname : Apart ' ' '(' p.1.toList := by
    refine .of_not_mem_right fun hm => ?_
    exact (hp.nameChars '(' hm).2 (by decide)
  have hrest : Apart ' ' '(' (": ".toList ++ p.2.toList) := by
    have hcolon : Apart ' ' '(' ": ".toList := .of_not_mem_right (by decide)
    exact hcolon.append (.of_not_mem_left (space_not_mem_type hp)) (.inr hp.typeStart)
  refine hname.append hrest (.inr ?_)
  show '(' ∉ some ':'
  decide

/-- No blank follows a closing parenthesis, which only a type may hold. -/
theorem apart_close_parameterText : Apart ')' ' ' (parameterText p) := by
  have hname : Apart ')' ' ' p.1.toList := by
    refine .of_not_mem_left fun hm => ?_
    exact (hp.nameChars ')' hm).2 (by decide)
  have hrest : Apart ')' ' ' (": ".toList ++ p.2.toList) := by
    have hcolon : Apart ')' ' ' ": ".toList := .of_not_mem_left (by decide)
    exact hcolon.append (.of_not_mem_right (space_not_mem_type hp)) (.inl (by decide))
  refine hname.append hrest (.inr ?_)
  show ' ' ∉ some ':'
  decide

end Parameter

/-! ## Declarations on their lines -/

/-- Trimming a declaration cuts the blanks at the end of its result, or all behind the arrow. -/
theorem trim_line (d : Declaration) :
    trim d.line = keyword ++ (d.name.toList ++ (d.behindName ++ trimEnd (' ' :: d.result.toList))) := by
  have hline (tail : List Char) : keyword ++ (d.name.toList ++ (d.behindName ++ tail)) =
      (keyword ++ (d.name.toList ++ (" (".toList ++ (d.parameterList ++ ") =".toList)))) ++ '>' :: tail := by
    simp [Declaration.behindName]
  have hstart : d.line.dropWhile isBlank = d.line := by
    refine dropWhile_eq_self_iff.2 fun c hc => ?_
    obtain rfl : 'Q' = c := Option.some.inj hc
    rfl
  rw [trim, hstart, Declaration.line, hline, hline, trimEnd]
  exact dropEndWhile_append_cons (by decide) _ _

section Declaration

variable {d : Declaration} (hd : d.Writable)
include hd

/-- No parenthesis opens behind a space in a list of parameters. -/
theorem apart_open_parameterList : Apart ' ' '(' d.parameterList := by
  refine apart_join ?_ (.of_not_mem_right (by decide)) ?_ ?_ (by decide)
  · intro t ht
    obtain ⟨p, hp, rfl⟩ := List.mem_map.1 ht
    exact ⟨by simp [parameterText], apart_open_parameterText (hd.parameters p hp)⟩
  · intro t _
    exact .inr (by decide)
  · intro t ht
    obtain ⟨p, hp, rfl⟩ := List.mem_map.1 ht
    refine .inr fun hm => ?_
    rw [head?_parameterText (hd.parameters p hp)] at hm
    exact ((hd.parameters p hp).nameChars '(' (List.mem_of_head? hm)).2 (by decide)

/-- No parenthesis closes before a space in a list of parameters. -/
theorem apart_close_parameterList : Apart ')' ' ' d.parameterList := by
  refine apart_join ?_ (.of_not_mem_left (by decide)) ?_ ?_ (by decide)
  · intro t ht
    obtain ⟨p, hp, rfl⟩ := List.mem_map.1 ht
    exact ⟨by simp [parameterText], apart_close_parameterText (hd.parameters p hp)⟩
  · intro t _
    exact .inr (by decide)
  · intro t _
    exact .inl (by decide)

/-- A list of parameters is read back with its types normalized. -/
theorem parseParameters_parameterList :
    parseParameters d.parameterList = d.parameters.map fun p => ⟨p.1, HelixType.normalize p.2⟩ := by
  have hp := hd.parameters
  rw [Declaration.parameterList]
  cases hps : d.parameters with
  | nil => rfl
  | cons p ps =>
    rw [hps] at hp
    have hblank : isBlankText (join ", ".toList ((p :: ps).map parameterText)) = false := by
      have hfirst := hp p List.mem_cons_self
      have hne : parameterText p ≠ [] := by simp [parameterText]
      obtain ⟨c, name, hc⟩ := List.exists_cons_of_ne_nil (toList_ne_nil_of_writable hfirst).1
      have hhead : c ∈ (join ", ".toList ((p :: ps).map parameterText)).head? := by
        rw [List.map_cons, head?_join hne, head?_parameterText hfirst, hc]
        rfl
      rw [isBlankText, List.all_eq_false]
      exact ⟨c, List.mem_of_head? hhead, by simp [(hfirst.nameChars c (hc ▸ List.mem_cons_self)).1]⟩
    have hsplit : split ", ".toList (join ", ".toList ((p :: ps).map parameterText)) = (p :: ps).map parameterText := by
      refine split_join (List.cons_ne_nil _ _) fun t ht => ?_
      obtain ⟨q, hq, rfl⟩ := List.mem_map.1 ht
      exact comma_not_mem_parameterText (hp q hq)
    rw [parseParameters, hblank, hsplit, List.filterMap_map, ← List.filterMap_eq_map]
    exact List.filterMap_congr fun q hq => parseParameter?_parameterText (hp q hq)

/-- The parameters end where they were written to end, whatever stands behind the arrow. -/
theorem before_arrow (tail : List Char) :
    before ") =>".toList (before " (".toList (d.parameterList ++ (") =>".toList ++ tail))) = d.parameterList := by
  have htail : Apart ' ' '(' (tail.take 1) := by
    cases tail with
    | nil => exact .nil
    | cons c tail => exact .singleton c
  have harrow : Apart ' ' '(' (") =>".toList ++ tail.take 1) :=
    Apart.append (.of_not_mem_right (by decide)) htail (.inl (by decide))
  have hopen : Apart ' ' '(' ((d.parameterList ++ ") =>".toList) ++ tail.take 1) := by
    rw [List.append_assoc]
    refine (apart_open_parameterList hd).append harrow (.inr ?_)
    show '(' ∉ some ')'
    decide
  have hclose : Apart ')' ' ' (d.parameterList ++ (") =>".toList ++ before " (".toList tail).take 1) := by
    refine (apart_close_parameterList hd).append (.singleton ')') (.inr ?_)
    show ' ' ∉ some ')'
    decide
  calc before ") =>".toList (before " (".toList (d.parameterList ++ (") =>".toList ++ tail)))
      = before ") =>".toList (d.parameterList ++ (") =>".toList ++ before " (".toList tail)) := by
        rw [← List.append_assoc, before_append_of_apart (by decide) hopen, List.append_assoc]
    _ = d.parameterList ++ before ") =>".toList (") =>".toList ++ before " (".toList tail) :=
        before_append_of_apart (by decide) hclose
    _ = d.parameterList := by rw [before_separator (by decide), List.append_nil]

/-- A declaration is read as the query it declares, whatever stands behind the arrow. -/
theorem parseLine?_line (tail : List Char) : parseLine? (keyword ++ (d.name.toList ++ (d.behindName ++ tail))) = some d.query := by
  have hspace : ' ' ∉ d.name.toList := fun hm => absurd (hd.nameChars ' ' hm).1 (by decide)
  have hparen : '(' ∉ (keyword ++ d.name.toList) ++ [' '] := by
    rw [List.mem_append, List.mem_append]
    rintro ((hm | hm) | hm)
    · exact absurd hm (by decide)
    · exact (hd.nameChars '(' hm).2 rfl
    · exact absurd hm (by decide)
  have hcut : cut " (".toList (keyword ++ (d.name.toList ++ (d.behindName ++ tail))) =
      some (keyword ++ d.name.toList, d.parameterList ++ (") =>".toList ++ tail)) := by
    have hline : keyword ++ (d.name.toList ++ (d.behindName ++ tail)) =
        (keyword ++ d.name.toList) ++ (" (".toList ++ (d.parameterList ++ (") =>".toList ++ tail))) := by
      simp [Declaration.behindName]
    have hapart : Apart ' ' '(' ((keyword ++ d.name.toList) ++ (" (".toList ++ (d.parameterList ++ (") =>".toList ++ tail))).take 1) :=
      .of_not_mem_right hparen
    rw [hline, cut_append_of_apart (by decide) hapart, cut_separator (by decide), Option.map_some, List.append_nil]
  have hname : without keyword (keyword ++ d.name.toList) = d.name.toList := without_append (by decide) hspace
  have htrim : trim d.name.toList = d.name.toList := trim_of_not_blank fun c hc => (hd.nameChars c hc).1
  rw [parseLine?, hcut, Option.map_some]
  simp only [hname, htrim, before_arrow hd, parseParameters_parameterList hd, String.ofList_toList]
  rfl

/-- A line with a query is read back as the query, with blanks around it or without. -/
theorem parseTrimmed?_line {before after : List Char} (hb : ∀ c ∈ before, isIndent c = true)
    (ha : ∀ c ∈ after, isIndent c = true) : parseTrimmed? (before ++ (d.line ++ after)) = some d.query := by
  have htrim := trim_indented hb ha d.line
  rw [trim_line] at htrim
  have hkeyword : keyword.isPrefixOf (trim (before ++ (d.line ++ after))) = true := by
    rw [htrim, List.isPrefixOf_iff_prefix]
    exact List.prefix_append keyword _
  rw [parseTrimmed?, if_pos hkeyword, htrim]
  exact parseLine?_line hd _

/-- A declaration is on one line. -/
theorem unbroken_line : Unbroken d.line := by
  have hchars {s : List Char} (h : ∀ c ∈ s, isBlank c = false) : Unbroken s := by
    intro c hc
    cases hb : isLineBreak c with
    | false => rfl
    | true => exact absurd (isBlank_of_isLineBreak hb) (by simp [h c hc])
  have hparameter : ∀ p ∈ d.parameters, Unbroken (parameterText p) := by
    intro p hp
    rw [parameterText, unbroken_append, unbroken_append]
    exact ⟨hchars fun c hc => ((hd.parameters p hp).nameChars c hc).1, by decide,
      hchars fun c hc => ((hd.parameters p hp).typeChars c hc).1⟩
  have hlist : Unbroken d.parameterList := by
    refine unbroken_join (by decide) fun t ht => ?_
    obtain ⟨p, hp, rfl⟩ := List.mem_map.1 ht
    exact hparameter p hp
  simp only [Declaration.line, Declaration.behindName, unbroken_append, unbroken_cons]
  exact ⟨by decide, hchars fun c hc => (hd.nameChars c hc).1, ⟨by decide, hlist, by decide⟩, by decide, hd.result⟩

end Declaration

/-! ## Texts -/

/-- Blank lines and other texts between declarations are lines, too. -/
theorem unbroken_interspersed {ds : List Declaration} {ls : List (List Char)} (hw : ∀ d ∈ ds, d.Writable)
    (h : Interspersed ds ls) : ∀ l ∈ ls, Unbroken l := by
  induction h with
  | nil => exact fun l hl => absurd hl List.not_mem_nil
  | declared before d after hb ha _ ih =>
    refine List.forall_mem_cons.2 ⟨?_, ih fun e he => hw e (List.mem_cons_of_mem d he)⟩
    exact unbroken_indented hb ha (unbroken_line (hw d List.mem_cons_self))
  | other l _ hu _ ih => exact List.forall_mem_cons.2 ⟨hu, ih hw⟩

/-- The lines of declarations are read as the queries they declare, one by one; the lines between them are passed over. -/
theorem filterMap_parseTrimmed? {ds : List Declaration} {ls : List (List Char)} (hw : ∀ d ∈ ds, d.Writable)
    (h : Interspersed ds ls) : ls.filterMap parseTrimmed? = ds.map (·.query) := by
  induction h with
  | nil => rfl
  | declared before d after hb ha _ ih =>
    rw [List.filterMap_cons_some (parseTrimmed?_line (hw d List.mem_cons_self) hb ha), List.map_cons,
      ih fun e he => hw e (List.mem_cons_of_mem d he)]
  | other l hl _ _ ih =>
    have hnone : parseTrimmed? l = none := by simp [parseTrimmed?, hl]
    rw [List.filterMap_cons_none hnone, ih hw]

/-- A blank line at the end of a text declares nothing. -/
theorem parse_join (ls : List (List Char)) (hu : ∀ l ∈ ls, Unbroken l) :
    parse (join ['\n'] ls) = ls.filterMap parseTrimmed? := by
  rw [parse]
  rcases lines_join hu with h | h
  · rw [h]
  · calc (lines (join ['\n'] ls)).filterMap parseTrimmed?
        = (lines (join ['\n'] ls) ++ [[]]).filterMap parseTrimmed? := by
          rw [List.filterMap_append, show [[]].filterMap parseTrimmed? = [] from rfl, List.append_nil]
      _ = ls.filterMap parseTrimmed? := by rw [h]

/-- **Round trip.** Declarations that are written one per line, with any blanks around them and any other lines among them,
are read as the queries they declare, in order: of every text that has these lines, however they end, and so of the lines
joined by line feeds. -/
theorem parse_declarations {ds : List Declaration} {ls : List (List Char)} (hw : ∀ d ∈ ds, d.Writable)
    (h : Interspersed ds ls) :
    parse (join ['\n'] ls) = ds.map (·.query) ∧ ∀ s, lines s = ls → parse s = ds.map (·.query) := by
  constructor
  · rw [parse_join ls (unbroken_interspersed hw h), filterMap_parseTrimmed? hw h]
  · rintro s rfl
    exact filterMap_parseTrimmed? hw h

/-- Two declarations, a comment and a declaration without its keyword; a repeated parameter and a type in parentheses. -/
theorem parse_declarations_two :
    parse (join ['\n'] ["// users".toList, "  QUERY getUser (id: ID, tags: Array(F64), id: i32) => User ) => ".toList,
      "query getAll () => [User]".toList, "QUERY createUser () => ".toList]) =
      [⟨"getUser", [⟨"id", "ID"⟩, ⟨"tags", "[F64]"⟩, ⟨"id", "I32"⟩], .get, "/api/query/get-user/\x7bid\x7d/\x7bid\x7d"⟩,
        ⟨"createUser", [], .post, "/api/query/create-user"⟩] := by
  refine (@parse_declarations [⟨"getUser", [("id", "ID"), ("tags", "Array(F64)"), ("id", "i32")], "User ) => "⟩,
    ⟨"createUser", [], ""⟩] _ (by decide) ?_).1.trans (by decide +kernel)
  refine .other _ (by decide) (by decide) ?_
  refine .declared [' ', ' '] _ [] (by decide) (by decide) ?_
  refine .other _ (by decide) (by decide) ?_
  exact .declared [] _ [] (by decide) (by decide) .nil

end HelixGateway.Query
