import HelixGateway.Decimal.Literal
import HelixGateway.Template.Directive

/-!
# Templates

A template is a text with directives. A directive starts with a percent sign; behind it stand, each only if it is needed,
the name of an argument in parentheses, flags, a width, a precision behind a point and a letter that says nothing, and
last the letter of its conversion. Arguments are taken in turn, also for a width or precision that is an asterisk; by name
they are taken from a single argument with names. Two percent signs are one.
-/

namespace HelixGateway

namespace Template

/-- The arguments in turn, and the one with names. -/
structure Arguments where
  queue : List Json
  named : Option (Entries Json)

/-- The arguments of a template. A single object that is not empty gives its members as arguments with names. -/
def Arguments.of : List Json → Arguments
  | [.obj (e :: es)] => ⟨[.obj (e :: es)], some (e :: es)⟩
  | args => ⟨args, none⟩

/-- A part of a directive that is read, with the text behind it and the arguments that are left. -/
abbrev Step (α : Type) := Except TemplateError (α × List Char × Arguments)

/-- Takes the next argument. -/
def Arguments.next (args : Arguments) : Except TemplateError (Json × Arguments) :=
  match args.queue with
  | v :: vs => .ok (v, { args with queue := vs })
  | [] => .error .tooFewArguments

/-! ## Reading -/

/-- The text up to the parenthesis that closes one already open, `depth` others being open inside it. -/
def untilClosed (depth : Nat) : List Char → Option (List Char × List Char)
  | [] => none
  | c :: s =>
    if c = ')' ∧ depth = 0 then some ([], s)
    else
      let depth := if c = ')' then depth - 1 else if c = '(' then depth + 1 else depth
      (untilClosed depth s).map fun (a, b) => (c :: a, b)

/-- Reads the name of an argument, which becomes the only one in turn. -/
def readKey (s : List Char) (args : Arguments) : Except TemplateError (List Char × Arguments) :=
  match s with
  | '(' :: r =>
    match args.named with
    | none => .error .noMapping
    | some fields =>
      match untilClosed 0 r with
      | none => .error .incompleteKey
      | some (key, r) =>
        match fields.get? (String.ofList key) with
        | none => .error (.missingKey key)
        | some v => .ok (r, { args with queue := [v] })
  | s => .ok (s, args)

def isFlag (c : Char) : Bool := "-+ #0".toList.contains c

/-- The flags in a text. -/
def Flags.ofChars (s : List Char) : Flags :=
  ⟨s.contains '-', s.contains '+', s.contains ' ', s.contains '#', s.contains '0'⟩

/-- Takes an argument that is an amount. -/
def nextAmount (least greatest : Int) (overflow : TemplateError) (args : Arguments) :
    Except TemplateError (Int × Arguments) :=
  match args.next with
  | .error e => .error e
  | .ok (.bool b, args) => .ok (if b then 1 else 0, args)
  | .ok (.int n, args) => if least ≤ n ∧ n ≤ greatest then .ok (n, args) else .error overflow
  | .ok _ => .error .amountNotInteger

/-- Reads an amount below a bound in digits. -/
def readAmount (greatest : Nat) (tooLarge : TemplateError) (s : List Char) : Except TemplateError (Nat × List Char) :=
  let n := Decimal.digitsValue (s.takeWhile Text.isDigit)
  if greatest < n then .error tooLarge else .ok (n, s.dropWhile Text.isDigit)

/-- The greatest width. -/
def maxWidth : Nat := 2 ^ 63 - 1

/-- Reads a width. -/
def readWidth (s : List Char) (args : Arguments) : Step Int :=
  match s with
  | '*' :: r => (nextAmount (-2 ^ 63) maxWidth .widthOverflow args).map fun (n, args) => (n, r, args)
  | s => (readAmount maxWidth .widthTooLarge s).map fun (n, r) => (n, r, args)

/-- The greatest precision. -/
def maxPrecision : Nat := 2 ^ 31 - 1

/-- Reads a precision, if there is a point. -/
def readPrecision (s : List Char) (args : Arguments) : Step (Option Nat) :=
  match s with
  | '.' :: '*' :: r =>
    (nextAmount (-2 ^ 31) maxPrecision .precisionOverflow args).map fun (n, args) => (some n.toNat, r, args)
  | '.' :: r => (readAmount maxPrecision .precisionTooLarge r).map fun (n, r) => (some n, r, args)
  | s => .ok (none, s, args)

/-- The text behind a letter for the size of numbers, which says nothing. -/
def dropSize : List Char → List Char
  | 'h' :: s | 'l' :: s | 'L' :: s => s
  | s => s

/-- Fills the directive that starts behind a percent sign. `length` is that of the whole template. -/
def fillDirective (length : Nat) (s : List Char) (args : Arguments) :
    Except TemplateError (List Char × List Char × Arguments) := do
  let (s, args) ← readKey s args
  let flags := Flags.ofChars (s.takeWhile isFlag)
  let (width, s, args) ← readWidth (s.dropWhile isFlag) args
  let (precision, s, args) ← readPrecision s args
  match dropSize s with
  | [] => throw .incomplete
  | c :: r =>
    let (v, args) ← args.next
    match Conversion.ofChar? c with
    | none => throw (.unknownDirective c (length - r.length - 1))
    | some conversion =>
      let flags := { flags with left := flags.left || width < 0 }
      let text ← Directive.write ⟨flags, width.natAbs, precision, conversion, c⟩ v
      pure (text, r, args)

/-! ## Filling -/

/-- Fills a template. A directive takes at least one character. -/
def fillFrom (length : Nat) (s : List Char) (args : Arguments) : Except TemplateError (List Char) :=
  match s with
  | [] => if args.named.isNone && !args.queue.isEmpty then .error .tooManyArguments else .ok []
  | '%' :: '%' :: r => (fillFrom length r args).map ('%' :: ·)
  | '%' :: r =>
    match fillDirective length r args with
    | .error e => .error e
    | .ok (text, rest, args) => if rest.length ≤ r.length then (fillFrom length rest args).map (text ++ ·) else .ok text
  | c :: r => (fillFrom length r args).map (c :: ·)
termination_by s.length

/-- Fills a template. One without arguments is left as it is. -/
def fill (template : List Char) (args : List Json) : Except TemplateError (List Char) :=
  if args.isEmpty then .ok template else fillFrom template.length template (.of args)

end Template

end HelixGateway
