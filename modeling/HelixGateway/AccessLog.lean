import HelixGateway.Template
import HelixGateway.Text.Split

/-!
# The access log

Every request leaves a record: a template and the arguments that fill it. Health checks come often and say little, so a
record of one is not written. A record counts as one when the path `/health` stands in its message right behind a double
quote, or between two blanks.

Main statement: `isShown_eq_false_iff`.
-/

namespace HelixGateway.AccessLog

/-- The path whose requests are not written. -/
def hiddenPath : List Char := "/health".toList

/-- Whether a message is written. -/
def isShown (message : List Char) : Bool :=
  !(Text.occurs ('"' :: hiddenPath) message || Text.occurs (' ' :: (hiddenPath ++ [' '])) message)

/-- Whether a record is written. -/
def keeps (template : List Char) (args : List Json) : Except Template.TemplateError Bool :=
  (Template.fill template args).map isShown

/-- A line is hidden exactly if the hidden path stands in it behind a quote, or as a word of its own. -/
theorem isShown_eq_false_iff {message : List Char} :
    isShown message = false ↔ '"' :: hiddenPath <:+: message ∨ ' ' :: (hiddenPath ++ [' ']) <:+: message := by
  rw [isShown, Bool.not_eq_false', Bool.or_eq_true, Text.occurs_iff, Text.occurs_iff]

end HelixGateway.AccessLog
