import DocComments.Position
import DocComments.Settings

set_option autoImplicit false

/-!
# The lines of a raw comment

A raw comment still has its decoration: blanks, slashes and blanks again at the start of every line.
Reading it strips the decoration and hands on the lines one by one. A line that opens with a known
command word starts a paragraph of its own, so a blank line is put before it, except before the
first line and inside fenced code. Every piece handed on remembers the raw line it comes from and how
many bytes were stripped there, so that a position in what was handed on can be turned back into one
in the raw comment.

## Main definitions

* `stripDecoration` — a line without its decoration.
* `startsCommand` — a line opens with a known command word.
* `Piece` — a line handed on, with its origin.
* `pieces` — the pieces of a raw comment.
* `piecesText` — the pieces put together.
* `toSource` — a position in the pieces as a position in the raw comment.
-/

namespace DocComments.Comment

/-- The character that decorates a comment line. -/
def decoration : Char := '/'

/-- The line without one carriage return at its end. -/
def stripReturn (line : List Char) : List Char :=
  if line.getLast? == some '\r' then line.dropLast else line

/-- The line without its decoration: leading blanks, and if slashes follow, these and the blanks
after them. -/
def stripDecoration (line : List Char) : List Char :=
  let content := (stripReturn line).dropWhile Text.isBlank
  if content.head? == some decoration then
    (content.dropWhile (· == decoration)).dropWhile Text.isBlank
  else
    content

/-- The number of bytes that decoration takes at the start of a line. -/
def decorationLength (line : List Char) : Nat :=
  Text.byteLength (stripReturn line) - Text.byteLength (stripDecoration line)

/-- The line opens with the command character and a known word that starts with a letter. -/
def startsCommand (settings : Settings) : List Char → Bool
  | [] => false
  | c :: rest =>
    let word := Text.firstWord rest
    c == settings.commandCharacter && word.head?.any Text.isAsciiLetter &&
      settings.sectionFor (String.ofList word) != .invalid

/-- The line opens or closes fenced code. -/
def isFence (content : List Char) : Bool :=
  (List.replicate 3 '\x60').isPrefixOf content || (List.replicate 3 '~').isPrefixOf content

/-- A line handed on: its text, the raw line it comes from and the bytes stripped there. -/
structure Piece where
  text : List Char
  line : Nat
  skipped : Nat
  deriving Repr, DecidableEq

/-- A blank line that comes from a given raw line. -/
def Piece.blank (line : Nat) : Piece :=
  { text := ['\n'], line, skipped := 0 }

/-- A blank line goes before a command line, except before the first line, inside fenced code and
where every line is a paragraph anyway. -/
def needsBreak (settings : Settings) (index : Nat) (fenced : Bool) (content : List Char) : Bool :=
  index > 0 && !fenced && !settings.implicitParagraph && startsCommand settings content

/-- The pieces of the raw lines from a given index on. Every line but the last keeps its line
end. -/
def piecesFrom (settings : Settings) (index : Nat) (fenced : Bool) : List (List Char) → List Piece
  | [] => []
  | line :: rest =>
    let content := stripDecoration line
    let opening :=
      if needsBreak settings index fenced content then [Piece.blank (index + 1)] else []
    let piece : Piece :=
      { text := if rest.isEmpty then content else content ++ ['\n'], line := index + 1,
        skipped := decorationLength line }
    let closing :=
      if settings.implicitParagraph && !rest.isEmpty then [Piece.blank (index + 1)] else []
    opening ++ piece :: closing ++
      piecesFrom settings (index + 1) (if isFence content then !fenced else fenced) rest

/-- The pieces of a raw comment. -/
def pieces (settings : Settings) (raw : List Char) : List Piece :=
  piecesFrom settings 0 false (Text.splitAt '\n' raw)

/-- The pieces put together. -/
def piecesText (fed : List Piece) : List Char :=
  fed.flatMap (·.text)

/-- A position in the pieces as a position in the raw comment. A position outside the pieces stays
as it is. -/
def toSource (fed : List Piece) (p : Position) : Position :=
  if p.line = 0 then p
  else
    match fed[p.line - 1]? with
    | some piece => { line := piece.line, column := p.column + piece.skipped }
    | none => p

end DocComments.Comment
