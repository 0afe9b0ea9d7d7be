import HelixGateway.Query
import HelixGateway.HelixType.Alias

/-!
# Reading query declarations

A query is declared on one line, `QUERY name (p: T, q: U) => Result`. Lines that declare none are skipped, and so are the
parameters without a type; what a query returns is not kept.
-/

namespace HelixGateway.Query

open Text

/-- What a declaration starts with. -/
def keyword : List Char := "QUERY ".toList

/-- Reads `name: Type`. -/
def parseParameter? (s : List Char) : Option Parameter :=
  (cut ": ".toList (trim s)).map fun (name, type) =>
    ⟨String.ofList (trim name), HelixType.normalize (String.ofList (trim type))⟩

/-- Reads the parameters between the parentheses. -/
def parseParameters (s : List Char) : List Parameter :=
  if isBlankText s then [] else (split ", ".toList s).filterMap parseParameter?

/-- Reads a declaration, if the line has an opening parenthesis with a blank before it. The name is what precedes it, and
the parameters end at the closing parenthesis with the arrow behind it, at the next such opening, or with the line. -/
def parseLine? (s : List Char) : Option Query :=
  (cut " (".toList s).map fun (head, rest) =>
    derived (String.ofList (trim (without keyword head)))
      (parseParameters (before ") =>".toList (before " (".toList rest)))

/-- Reads a line of a text, blanks around it being left out. -/
def parseTrimmed? (line : List Char) : Option Query :=
  let line := trim line
  if keyword.isPrefixOf line then parseLine? line else none

/-- Reads all declarations of a text. -/
def parse (s : List Char) : List Query := (lines s).filterMap parseTrimmed?

end HelixGateway.Query
