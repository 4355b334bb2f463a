import DocComments.Text.Blank

set_option autoImplicit false

/-!
# Positions in a text

A position is a line and a column, both counted from one; columns count UTF-8 bytes. Inside a text a
place is given by its byte offset, and the offsets where lines start turn the one into the other.

## Main definitions

* `Position` — a line and a column.
* `lineStarts` — the offsets at which the lines of a text start.
* `Position.ofOffset` — the position of an offset, given where the lines start.
-/

namespace DocComments

/-- A line and a column. The default `0:0` is the position of what has none. -/
structure Position where
  line : Nat := 0
  column : Nat := 0
  deriving Repr, DecidableEq, Inhabited

/-- The offsets after each line end of a text that starts at a given offset. -/
def lineStartsFrom (offset : Nat) : List Char → List Nat
  | [] => []
  | c :: rest =>
    let next := offset + c.utf8Size
    if c == '\n' then next :: lineStartsFrom next rest else lineStartsFrom next rest

/-- The offsets at which the lines of a text start. -/
def lineStarts (text : List Char) : List Nat :=
  0 :: lineStartsFrom 0 text

/-- The position of an offset: the last line that starts at or before it. -/
def Position.ofOffset (starts : List Nat) (offset : Nat) : Position :=
  let before := starts.filter (· ≤ offset)
  { line := before.length, column := offset - before.getLast?.getD 0 + 1 }

end DocComments
