import DocComments.Position

set_option autoImplicit false

/-!
# Diagnostics

Problems never stop a run. They are collected, each with the entity whose comment caused it and the
place in that comment.

## Main definitions

* `Severity`, `Diagnostic` — a problem that was found.
* `Diagnostic.display` — the line shown for it.
-/

namespace DocComments

/-- How serious a problem is. -/
inductive Severity where
  | warning
  | error
  deriving Repr, DecidableEq

/-- A problem found while reading or linking. -/
structure Diagnostic where
  severity : Severity
  entity : String
  position : Position
  message : String
  deriving Repr, DecidableEq

namespace Diagnostic

/-- A problem that leaves something out. -/
def warning (entity : String) (position : Position) (message : String) : Diagnostic :=
  { severity := .warning, entity, position, message }

/-- A problem that leaves a whole document out. -/
def error (entity : String) (position : Position) (message : String) : Diagnostic :=
  { severity := .error, entity, position, message }

/-- The line shown for a problem. -/
def display (d : Diagnostic) : String :=
  s!"when processing '{d.entity}' ({d.position.line}:{d.position.column}): {d.message}"

end Diagnostic

end DocComments
