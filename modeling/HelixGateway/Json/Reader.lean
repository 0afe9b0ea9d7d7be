import HelixGateway.Json.Value
import HelixGateway.Decimal.Literal
import HelixGateway.Text.Encoding
import HelixGateway.Text.Split

/-!
# Reading JSON

The reader takes the grammar of JSON with three more words, `NaN`, `Infinity` and `-Infinity`. A number without a point
and an exponent is an integer, any other the nearest double. A key that repeats keeps its first place and its last value.
A refusal says what is wrong and where; the place is counted in characters.

A text may hold a surrogate without its partner, escaped or in its bytes. Such a text is no sequence of characters: it is
shown with the replacement character in the place of the surrogate, and whoever reads it is told that it is not well formed.

Main statements: `read_of_not_mark`, `readBytes_eq_of_decodeDetected`, `of_readDecoded_eq_ok`.
-/

namespace HelixGateway.Json

open Decimal (Literal TooManyDigits readExponent?)
open Text (Bytes hexValue? isDigit)

/-- What is wrong with a text. -/
inductive Complaint where
  | valueExpected
  | nameExpected
  | colonExpected
  | commaExpected
  | extraData
  | unterminatedText
  | controlCharacter
  | unknownEscape
  | badNumberEscape
  | byteOrderMark
  deriving DecidableEq, Repr

def Complaint.text : Complaint → String
  | .valueExpected => "Expecting value"
  | .nameExpected => "Expecting property name enclosed in double quotes"
  | .colonExpected => "Expecting ':' delimiter"
  | .commaExpected => "Expecting ',' delimiter"
  | .extraData => "Extra data"
  | .unterminatedText => "Unterminated string starting at"
  | .controlCharacter => "Invalid control character at"
  | .unknownEscape => "Invalid \\escape"
  | .badNumberEscape => "Invalid \\uXXXX escape"
  | .byteOrderMark => "Unexpected UTF-8 BOM (decode using utf-8-sig)"

/-- A refusal to read. -/
inductive ReadError where
  | malformed (complaint : Complaint) (offset line column : Nat)
  | tooManyDigits (e : TooManyDigits)
  | undecodable (e : Text.DecodeError)
  deriving DecidableEq, Repr

def ReadError.message : ReadError → String
  | .malformed complaint offset line column =>
    complaint.text ++ ": line " ++ toString line ++ " column " ++ toString column ++ " (char " ++ toString offset ++ ")"
  | .tooManyDigits e => e.message
  | .undecodable e => e.message

/-- Why reading stopped: a complaint, with the text from the place that it is about, or a number out of bounds. -/
inductive Stop where
  | complaint (complaint : Complaint) (at_ : List Char)
  | tooManyDigits (e : TooManyDigits)

/-- A part that is read, and the text behind it. -/
abbrev Step (α : Type) := Except Stop (α × List Char)

/-- The blanks between the parts of a JSON text. -/
def isGap (c : Char) : Bool := c == ' ' || c == '\t' || c == '\n' || c == '\r'

def skipGap (s : List Char) : List Char := s.dropWhile isGap

/-! ## Texts -/

/-- The number that four digits of base sixteen stand for. -/
def hexUnit? (a b c d : Char) : Option Nat :=
  match hexValue? a, hexValue? b, hexValue? c, hexValue? d with
  | some a, some b, some c, some d => some (a * 4096 + b * 256 + c * 16 + d)
  | _, _, _, _ => none

/-- The character of a short escape. -/
def shortEscape? : Char → Option Nat
  | '"' => some 0x22
  | '\\' => some 0x5C
  | '/' => some 0x2F
  | 'b' => some 8
  | 'f' => some 12
  | 'n' => some 10
  | 'r' => some 13
  | 't' => some 9
  | _ => none

/-- Reads a text up to its closing quote, as numbers of characters; the two surrogates of a character beyond U+FFFF that
is escaped are still apart. `opening` is the text from the opening quote on. -/
def readUnits (opening : List Char) : List Char → Step (List Nat)
  | [] => .error (.complaint .unterminatedText opening)
  | '"' :: s => .ok ([], s)
  | ['\\'] => .error (.complaint .unterminatedText opening)
  | '\\' :: 'u' :: a :: b :: c :: d :: e :: s =>
    match hexUnit? a b c d with
    | none => .error (.complaint .badNumberEscape ('u' :: a :: b :: c :: d :: e :: s))
    | some n => (readUnits opening (e :: s)).map fun (ns, r) => (n :: ns, r)
  | '\\' :: c :: s =>
    if c = 'u' then .error (.complaint .badNumberEscape (c :: s))
    else
      match shortEscape? c with
      | none => .error (.complaint .unknownEscape ('\\' :: c :: s))
      | some n => (readUnits opening s).map fun (ns, r) => (n :: ns, r)
  | c :: s =>
    if c.toNat < 0x20 then .error (.complaint .controlCharacter (c :: s))
    else (readUnits opening s).map fun (ns, r) => (c.toNat :: ns, r)

/-- What a part is read as. In a part that is not well formed a surrogate stands alone, and is shown as the replacement
character. -/
structure Shown (α : Type) where
  value : α
  isWellFormed : Bool
  deriving DecidableEq

def Shown.map {α β : Type} (f : α → β) (x : Shown α) : Shown β := ⟨f x.value, x.isWellFormed⟩

/-- Reads a text behind its opening quote. `strays` tells where surrogates stand alone in what is read here, each place by
the number of characters from there to the end. -/
def readText (strays : List Nat) (s : List Char) : Step (Shown String) :=
  (readUnits ('"' :: s) s).map fun (ns, r) =>
    let codes := Text.codesOfUnits ns
    (⟨String.ofList (codes.map Text.charOrReplacement),
      !codes.any Text.isSurrogate && !strays.any fun n => r.length < n && n ≤ s.length⟩, r)

/-! ## Numbers -/

/-- Reads the digits before the point: a zero alone, or digits that start with another one. -/
def readWhole? : List Char → Option (List Char × List Char)
  | [] => none
  | c :: s =>
    if c = '0' then some (['0'], s)
    else if isDigit c then some (c :: s.takeWhile isDigit, s.dropWhile isDigit)
    else none

/-- Reads the point and the digits behind it, if a digit follows the point. -/
def readFraction? : List Char → Option (List Char × List Char)
  | '.' :: s =>
    match s.takeWhile isDigit with
    | [] => none
    | ds => some (ds, s.dropWhile isDigit)
  | _ => none

/-- A number behind its sign. -/
def readUnsigned (negative : Bool) (s : List Char) : Option (Except TooManyDigits Json × List Char) :=
  (readWhole? s).map fun (whole, s) =>
    match readFraction? s with
    | some (fraction, s) =>
      match readExponent? s with
      | some (e, s) => (.ok (.real (Literal.mk negative whole fraction e).toBinary64), s)
      | none => (.ok (.real (Literal.mk negative whole fraction 0).toBinary64), s)
    | none =>
      match readExponent? s with
      | some (e, s) => (.ok (.real (Literal.mk negative whole [] e).toBinary64), s)
      | none => ((Decimal.ofDigits whole).map fun n => .int (Decimal.signed negative n), s)

/-- Reads a number. -/
def readNumber (s : List Char) : Step Json :=
  let read :=
    match s with
    | '-' :: s => readUnsigned true s
    | s => readUnsigned false s
  match read with
  | none => .error (.complaint .valueExpected s)
  | some (.error e, _) => .error (.tooManyDigits e)
  | some (.ok v, rest) => .ok (v, rest)

/-- The words that stand for values. -/
def words : List (List Char × Json) := [
  ("null".toList, .null), ("true".toList, .bool true), ("false".toList, .bool false), ("NaN".toList, .real .undefined),
  ("Infinity".toList, .real (.infinite false)), ("-Infinity".toList, .real (.infinite true))]

/-- Reads a word or a number. -/
def readScalar (s : List Char) : Step Json :=
  match words.findSome? fun (w, v) => (Text.afterPrefix? w s).map fun r => (v, r) with
  | some r => .ok r
  | none => readNumber s

/-! ## Values -/

/-- An array of items. -/
def arrayOf (items : List (Shown Json)) : Shown Json := ⟨.arr (items.map Shown.value), items.all Shown.isWellFormed⟩

/-- An object of members. A value that a later one of its key replaces does not count. -/
def objectOf (members : List (Shown String × Shown Json)) : Shown Json :=
  let fields := Entries.collapse (members.map fun (k, v) => (k.value, v))
  ⟨.obj (fields.map fun (k, v) => (k, v.value)),
    members.all (fun (k, _) => k.isWellFormed) && fields.all fun (_, v) => v.isWellFormed⟩

mutual

/-- Reads a value that starts here. The reader goes no deeper than `fuel`. -/
def readValue (strays : List Nat) (fuel : Nat) (s : List Char) : Step (Shown Json) :=
  match fuel with
  | 0 => .error (.complaint .valueExpected s)
  | fuel + 1 =>
    match s with
    | '"' :: s => (readText strays s).map fun (t, r) => (t.map .str, r)
    | '[' :: s =>
      match skipGap s with
      | ']' :: s => .ok (arrayOf [], s)
      | s => (readItems strays fuel s).map fun (vs, r) => (arrayOf vs, r)
    | '{' :: s =>
      match skipGap s with
      | '}' :: s => .ok (objectOf [], s)
      | s => (readMembers strays fuel s).map fun (es, r) => (objectOf es, r)
    | s => (readScalar s).map fun (v, r) => (⟨v, true⟩, r)

/-- Reads the items of an array, of which one starts here, to the closing bracket. -/
def readItems (strays : List Nat) (fuel : Nat) (s : List Char) : Step (List (Shown Json)) :=
  match fuel with
  | 0 => .error (.complaint .valueExpected s)
  | fuel + 1 =>
    match readValue strays fuel s with
    | .error e => .error e
    | .ok (v, s) =>
      match skipGap s with
      | ']' :: s => .ok ([v], s)
      | ',' :: s => (readItems strays fuel (skipGap s)).map fun (vs, r) => (v :: vs, r)
      | s => .error (.complaint .commaExpected s)

/-- Reads the members of an object, of which one starts here, to the closing brace. -/
def readMembers (strays : List Nat) (fuel : Nat) (s : List Char) : Step (List (Shown String × Shown Json)) :=
  match fuel with
  | 0 => .error (.complaint .valueExpected s)
  | fuel + 1 =>
    match s with
    | '"' :: s =>
      match readText strays s with
      | .error e => .error e
      | .ok (k, s) =>
        match skipGap s with
        | ':' :: s =>
          match readValue strays fuel (skipGap s) with
          | .error e => .error e
          | .ok (v, s) =>
            match skipGap s with
            | '}' :: s => .ok ([(k, v)], s)
            | ',' :: s => (readMembers strays fuel (skipGap s)).map fun (es, r) => ((k, v) :: es, r)
            | s => .error (.complaint .commaExpected s)
        | s => .error (.complaint .colonExpected s)
    | s => .error (.complaint .nameExpected s)

end

/-- A complaint with its place: the offset in the whole text, and the line and the column there, counted from one. -/
def malformedAt (complaint : Complaint) (whole at_ : List Char) : ReadError :=
  let before := whole.take (whole.length - at_.length)
  .malformed complaint before.length (before.count '\n' + 1) ((before.reverse.takeWhile (· != '\n')).length + 1)

def Stop.toReadError (whole : List Char) : Stop → ReadError
  | .complaint c at_ => malformedAt c whole at_
  | .tooManyDigits e => .tooManyDigits e

/-- Reads a text that holds one value. A nesting level takes two rounds of the reader and at least one character. -/
def readDecoded (text : Text.Shown) : Except ReadError (Shown Json) :=
  match readValue text.strays (2 * text.chars.length + 2) (skipGap text.chars) with
  | .error e => .error (e.toReadError text.chars)
  | .ok (v, r) =>
    match skipGap r with
    | [] => .ok v
    | r => .error (malformedAt .extraData text.chars r)

/-- Reads a JSON text as it is shown; a byte-order mark is no part of one. -/
def read (s : List Char) : Except ReadError Json :=
  match s with
  | [] => (readDecoded ⟨[], []⟩).map Shown.value
  | c :: r =>
    if c.toNat = 0xFEFF then .error (malformedAt .byteOrderMark s s)
    else (readDecoded ⟨c :: r, []⟩).map Shown.value

/-- Reads a JSON text from its bytes; a byte-order mark tells their encoding. -/
def readBytes (bs : Bytes) : Except ReadError (Shown Json) :=
  match Text.decodeDetected bs with
  | .error e => .error (.undecodable e)
  | .ok codes => readDecoded (.ofCodes codes)

/-- Without a byte-order mark in front, what is shown is what is read. -/
theorem read_of_not_mark {c : Char} (h : c.toNat ≠ 0xFEFF) (s : List Char) :
    read (c :: s) = (readDecoded ⟨c :: s, []⟩).map Shown.value := by
  rw [read, if_neg h]

/-- What is shown is read, well formed or not. -/
theorem readDecoded_of_read {s : List Char} {v : Json} (h : read s = .ok v) :
    ∃ isWellFormed, readDecoded ⟨s, []⟩ = .ok ⟨v, isWellFormed⟩ := by
  have hmap : (readDecoded ⟨s, []⟩).map Shown.value = .ok v := by
    unfold read at h
    split at h
    · exact h
    · split at h
      · cases h
      · exact h
  cases hr : readDecoded ⟨s, []⟩ with
  | error e =>
    rw [hr] at hmap
    cases hmap
  | ok x =>
    rw [hr] at hmap
    cases hmap
    exact ⟨x.isWellFormed, rfl⟩

/-- What a text is read as stands in it behind a gap. -/
theorem of_readDecoded_eq_ok {text : Text.Shown} {v : Shown Json} (h : readDecoded text = .ok v) :
    ∃ r, readValue text.strays (2 * text.chars.length + 2) (skipGap text.chars) = .ok (v, r) := by
  unfold readDecoded at h
  split at h
  · cases h
  · rename_i w r hw
    split at h
    · cases h
      exact ⟨r, hw⟩
    · cases h

/-- What bytes are read as is what their code points are. -/
theorem readBytes_eq_of_decodeDetected {bs : Bytes} {codes : List Nat} (h : Text.decodeDetected bs = .ok codes) :
    readBytes bs = readDecoded (.ofCodes codes) := by
  rw [readBytes, h]

end HelixGateway.Json
