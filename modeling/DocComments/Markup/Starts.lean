import DocComments.Markup.Html
import DocComments.Markup.Margin

set_option autoImplicit false

/-!
# How blocks start and end

Tests on the text after the margin of a line: headings, fences, underlines, and what can end a
paragraph without a blank line.

## Main definitions

* `headingLevel?` — the level of a heading opened by hash marks.
* `underline?` — the underline that turns the paragraph above it into a heading.
* `fence?`, `closingFence?` — the fences around code.
* `interrupts` — the line starts a block that ends the paragraph above it.
-/

namespace DocComments.Markup

/-- The level of the heading that starts at the head of a text: one to six hash marks, then white
space or the end. -/
def headingLevel? (text : List Char) : Option Nat :=
  let level := repeats '#' text
  if 1 ≤ level && level ≤ 6 && (text.drop level).head?.all isAsciiSpace then some level else none

/-- The length and the heading level of an underline. -/
def underline? : List Char → Option (Nat × Nat)
  | [] => none
  | c :: rest =>
    if c == '=' || c == '-' then
      let n := 1 + repeats c rest
      (blankLine? ((c :: rest).drop n)).map fun k => (n + k, if c == '=' then 1 else 2)
    else
      none

/-- The length and the character of a fence that opens code. After backticks none may follow on the
line. -/
def fence? : List Char → Option (Nat × Char)
  | [] => none
  | c :: rest =>
    if c == '\x60' || c == '~' then
      let n := 1 + repeats c rest
      let tail := (c :: rest).drop n
      if n < 3 then none
      else if c == '\x60' && (tail.take (lineLength tail)).contains c then none
      else some (n, c)
    else
      none

/-- The length of a fence that closes code opened by `size` marks. The end of the text closes every
fence. -/
def closingFence? (mark : Char) (size : Nat) (text : List Char) : Option Nat :=
  if text.isEmpty then some 0
  else
    let marks := repeats mark text
    let length := marks + repeats ' ' (text.drop marks)
    if marks < size then none else (eol? (text.drop length)).map fun _ => length

/-- The mark of a list item at the head of a text, its number and what follows it, provided that a
blank or the line end does. -/
def itemStart? (text : List Char) : Option (Char × Nat × List Char) :=
  match text with
  | [] => none
  | c :: rest =>
    if c == '-' || c == '+' || c == '*' then
      if rest.head?.all fun d => Text.isBlank d || d == '\n' || d == '\r' then some (c, 0, rest)
      else none
    else
      let digits := (text.take 9).takeWhile Text.isAsciiDigit
      match digits, text.drop digits.length with
      | _ :: _, d :: tail =>
        if (d == '.' || d == ')') &&
            (tail.head?.all fun e => Text.isBlank e || e == '\n' || e == '\r') then
          some (d, decimal digits, tail)
        else
          none
      | _, _ => none

/-- Two blank lines stand at the head of a text. -/
def twoBlankLines (text : List Char) : Bool :=
  match blankLine? text with
  | some n => (blankLine? (text.drop n)).isSome
  | none => false

/-- A list item can end a paragraph. Inside the paragraph's own containers it must not be empty, and
if it is numbered it must start from one. -/
def itemInterrupts (inside : Bool) (text : List Char) : Bool :=
  match itemStart? text with
  | none => false
  | some (mark, number, rest) =>
    !inside || (!twoBlankLines rest && (mark == '*' || mark == '-' || mark == '+' || number == 1))

/-- The text after the margin of a line ends the paragraph above it; `inside` says whether the line
continues all containers of the paragraph. -/
def interrupts (inside : Bool) (text : List Char) : Bool :=
  (eol? text).isSome || (rule? text).isSome || (headingLevel? text).isSome || (fence? text).isSome ||
    text.head? == some '>' || itemInterrupts inside text ||
    (text.head? == some '<' &&
      ((Html.blockEnd? (text.drop 1)).isSome || Html.startsNamedBlock (text.drop 1)))

end DocComments.Markup
