import DocComments.Markup.Scan

set_option autoImplicit false

/-!
# The margin of a line

Before the content of a line stand the marks of the containers it continues: quotes are continued by
`>`, list items by indentation. A margin is how far a line has been read, with tabs counted to the
next multiple of four columns; a tab may be used up only in part, and its remaining columns are
spare.

## Main definitions

* `Margin` — how far a line has been read.
* `Margin.spaces` — reads indentation.
* `Margin.quoteMark?`, `Margin.listMark?` — read the mark of a container.
* `Container`, `continueContainers` — the open containers and how many of them a line continues.
* `startsRule` — a line of three or more equal marks.
-/

namespace DocComments.Markup

/-! ## Thematic breaks -/

/-- A run of equal marks and blanks up to the line end: the number of marks and of characters, the
line end included. -/
def ruleMarks? (mark : Char) (marks length : Nat) : List Char → Option (Nat × Nat)
  | [] => some (marks, length)
  | c :: rest =>
    if c == '\n' || c == '\r' then some (marks, length + (eol? (c :: rest)).getD 1)
    else if c == mark then ruleMarks? mark (marks + 1) (length + 1) rest
    else if Text.isBlank c then ruleMarks? mark marks (length + 1) rest
    else none

/-- The length of the thematic break at the head of a text: three or more equal marks with nothing
but blanks between and after them. -/
def rule? : List Char → Option Nat
  | [] => none
  | c :: rest =>
    if c == '*' || c == '-' || c == '_' then
      match ruleMarks? c 1 1 rest with
      | some (marks, length) => if 3 ≤ marks then some length else none
      | none => none
    else
      none

/-! ## Margins -/

/-- How far a line has been read: the place, the number of characters since the line start or the
last tab, and the columns of that tab which are not used up. -/
structure Margin where
  place : Place
  column : Nat := 0
  spare : Nat := 0
  deriving Repr, DecidableEq

namespace Margin

/-- The margin at the start of a line. -/
def ofPlace (place : Place) : Margin :=
  { place }

/-- What is still to be read. -/
def rest (m : Margin) : List Char :=
  m.place.rest

/-- The margin after some characters that are not tabs. -/
def advance (n : Nat) (m : Margin) : Margin :=
  { m with place := m.place.advance n, column := m.column + n }

/-- Nothing is left of the line. -/
def atEol (m : Margin) : Bool :=
  (eol? m.rest).isSome

/-- Reads up to `n` columns of indentation from the text at an offset; returns the columns that were
not found. -/
def spacesFrom (offset column n : Nat) : List Char → Nat × Margin
  | ' ' :: rest =>
    if n = 0 then (0, { place := ⟨offset, ' ' :: rest⟩, column })
    else spacesFrom (offset + 1) (column + 1) (n - 1) rest
  | '\t' :: rest =>
    let width := 4 - column % 4
    if n = 0 then (0, { place := ⟨offset, '\t' :: rest⟩, column })
    else if n < width then (0, { place := ⟨offset + 1, rest⟩, column := 0, spare := width - n })
    else spacesFrom (offset + 1) 0 (n - width) rest
  | text => (n, { place := ⟨offset, text⟩, column })

/-- Reads up to `n` columns of indentation, spare columns first; returns the columns that were not
found. -/
def missing (n : Nat) (m : Margin) : Nat × Margin :=
  if n ≤ m.spare then (0, { m with spare := m.spare - n })
  else spacesFrom m.place.offset m.column (n - m.spare) m.place.rest

/-- Reads up to `n` columns of indentation; returns how many were found. -/
def spaces (n : Nat) (m : Margin) : Nat × Margin :=
  let (left, m) := m.missing n
  (n - left, m)

/-- Reads up to `n` columns of indentation; says whether all of them were found. -/
def indented (n : Nat) (m : Margin) : Bool × Margin :=
  let (left, m) := m.missing n
  (left == 0, m)

/-- Skips all blanks. -/
def skipBlanks (m : Margin) : Margin :=
  { m.advance (countWhile Text.isBlank m.rest) with spare := 0 }

/-- Reads the mark of a quote and one column after it. -/
def quoteMark? (m : Margin) : Option Margin :=
  if m.rest.head? == some '>' then some ((m.advance 1).missing 1).2 else none

/-! ### List marks -/

/-- A list mark: its last character, the number it starts from, and how far the content of the item
is indented. -/
structure ListMark where
  mark : Char
  number : Nat
  indent : Nat
  deriving Repr, DecidableEq

/-- Completes a list mark with the indentation after it. Up to four columns belong to the mark; more
of them, or none, mean that the content starts one column after it. -/
def finishMark (mark : Char) (number indent : Nat) (m : Margin) : ListMark × Margin :=
  if (blankLine? m.rest).isSome then (⟨mark, number, indent⟩, m)
  else
    let (found, next) := m.spaces 4
    if found < 4 then (⟨mark, number, indent + found⟩, next) else (⟨mark, number, indent⟩, m)

/-- A list mark that takes `width` characters, if a column of indentation or the line end follows. -/
def markOf? (mark : Char) (number indent width : Nat) (m : Margin) : Option (ListMark × Margin) :=
  let next := m.advance width
  let (found, after) := next.indented 1
  if found then some (finishMark mark number (indent + width + 1) after)
  else if after.atEol then some (finishMark mark number (indent + width + 1) after)
  else none

/-- Reads the mark of a list item that is itself indented by `indent` columns. -/
def listMark? (indent : Nat) (m : Margin) : Option (ListMark × Margin) :=
  match m.rest with
  | [] => none
  | c :: _ =>
    if c == '-' || c == '+' || c == '*' then
      if (rule? m.rest).isSome then none else markOf? c 0 indent 1 m
    else
      let digits := (m.rest.take 9).takeWhile Text.isAsciiDigit
      match digits, m.rest.drop digits.length with
      | _ :: _, d :: _ =>
        if d == '.' || d == ')' then markOf? d (decimal digits) indent (digits.length + 1) m
        else none
      | _, _ => none

end Margin

/-! ## Containers -/

/-- An open container as far as the margin of a line goes: the content of a list item is indented
by a number of columns. -/
inductive Container where
  | quote
  | list
  | item (indent : Nat)
  deriving Repr, DecidableEq

/-- The margin after the mark that continues a container. Blank lines continue every list item. -/
def Container.continue? (m : Margin) : Container → Option Margin
  | .quote => (m.missing 3).2.quoteMark?
  | .list => some m
  | .item indent =>
    let (found, next) := m.indented indent
    if found || next.atEol then some next else none

/-- How many of the open containers, outermost first, a line continues, and the margin after their
marks. -/
def continueContainers : List Container → Margin → Nat × Margin
  | [], m => (0, m)
  | c :: rest, m =>
    match c.continue? m with
    | none => (0, m)
    | some next =>
      let (n, last) := continueContainers rest next
      (n + 1, last)

end DocComments.Markup
