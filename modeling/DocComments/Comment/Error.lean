set_option autoImplicit false

/-!
# What can be wrong with a comment

## Main definitions

* `Comment.Error` — why a node of a comment is left out or has no effect.
* `Comment.Error.message` — the text shown for it.
-/

namespace DocComments.Comment

/-- Why a node of a comment is left out or has no effect. -/
inductive Error where
  | unknownCommand (word : List Char)
  | unsupportedMarkup (construct : String)
  | missingArgument (command : String)
  deriving Repr, DecidableEq

/-- The text shown for an error. -/
def Error.message : Error → String
  | unknownCommand word => "Unknown command '" ++ String.ofList word ++ "'"
  | unsupportedMarkup construct => "Unsupported markup: " ++ construct
  | missingArgument command => "Command '" ++ command ++ "' requires an argument"

end DocComments.Comment
