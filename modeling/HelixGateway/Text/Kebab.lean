import HelixGateway.Text.Case

/-!
# Kebab case

Every upper-case character but the first starts a new word; words are joined by hyphens and written in lower case. Capitals
in a row are words of their own.
-/

namespace HelixGateway.Text

/-- A character behind the first one. -/
def kebabChar (c : Char) : List Char := if isUpper c then '-' :: lower c else lower c

/-- A name in kebab case. -/
def kebab : List Char → List Char
  | [] => []
  | c :: s => lower c ++ s.flatMap kebabChar

end HelixGateway.Text
