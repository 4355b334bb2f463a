import DocComments.Text.Blank
import DocComments.Text.Punctuation

set_option autoImplicit false

/-!
# Scanning marked-up text

The small scanners that everything else is built from. They look at the head of a character list and
say how many characters they recognise there. A place in a text is a byte offset together with what
is still to be read.

## Main definitions

* `eol?`, `blankLine?`, `lineLength` — line ends, blank lines and whole lines.
* `Place` — an offset and the text from there on.
* `Glyph` — a character with the offset it stands at.
-/

namespace DocComments.Markup

/-- White space inside a line. -/
def isLineBlank (c : Char) : Bool :=
  c == ' ' || c == '\t' || c == '\x0b' || c == '\x0c'

/-- The ASCII white space characters, line ends included. -/
def isAsciiSpace (c : Char) : Bool :=
  isLineBlank c || c == '\n' || c == '\r'

/-- The ASCII letters and digits. -/
def isAsciiAlphanumeric (c : Char) : Bool :=
  Text.isAsciiLetter c || Text.isAsciiDigit c

/-- The length of the line end at the head of a text; the end of the text is one of length zero. -/
def eol? : List Char → Option Nat
  | [] => some 0
  | '\r' :: '\n' :: _ => some 2
  | '\r' :: _ => some 1
  | '\n' :: _ => some 1
  | _ => none

/-- How many characters at the head of a text satisfy a test. -/
def countWhile (test : Char → Bool) (text : List Char) : Nat :=
  (text.takeWhile test).length

/-- How often a character is repeated at the head of a text. -/
def repeats (c : Char) (text : List Char) : Nat :=
  countWhile (· == c) text

/-- The length of a blank line at the head of a text, its line end included. -/
def blankLine? (text : List Char) : Option Nat :=
  let n := countWhile isLineBlank text
  (eol? (text.drop n)).map (n + ·)

/-- The length of the line at the head of a text, up to and including the first line feed. -/
def lineLength (text : List Char) : Nat :=
  let n := countWhile (· != '\n') text
  if n < text.length then n + 1 else n

/-- The value of a decimal numeral. -/
def decimal (digits : List Char) : Nat :=
  digits.foldl (fun n c => 10 * n + (c.toNat - '0'.toNat)) 0

/-! ## Places -/

/-- A place in a text: its byte offset and what is still to be read. -/
structure Place where
  offset : Nat
  rest : List Char
  deriving Repr, DecidableEq

namespace Place

/-- The start of a text. -/
def start (text : List Char) : Place :=
  { offset := 0, rest := text }

/-- The place some characters further on. -/
def advance : Nat → Place → Place
  | 0, p => p
  | n + 1, p =>
    match p.rest with
    | [] => p
    | c :: rest => advance n { offset := p.offset + c.utf8Size, rest }

/-- Nothing is left to read. -/
def atEnd (p : Place) : Bool :=
  p.rest.isEmpty

end Place

/-- A character with the offset it stands at. -/
structure Glyph where
  offset : Nat
  char : Char
  deriving Repr, DecidableEq

namespace Glyph

/-- The offset after the character. -/
def stop (g : Glyph) : Nat :=
  g.offset + g.char.utf8Size

/-- The characters without their offsets. -/
def chars (glyphs : List Glyph) : List Char :=
  glyphs.map (·.char)

/-- The glyphs from a given offset on. -/
def since (offset : Nat) (glyphs : List Glyph) : List Glyph :=
  glyphs.dropWhile (·.offset < offset)

/-- The glyphs before a given offset. -/
def upTo (offset : Nat) (glyphs : List Glyph) : List Glyph :=
  glyphs.takeWhile (·.offset < offset)

end Glyph

/-- The next characters at a place, with their offsets. -/
def Place.glyphs : Nat → Place → List Glyph
  | 0, _ => []
  | n + 1, p =>
    match p.rest with
    | [] => []
    | c :: rest => ⟨p.offset, c⟩ :: glyphs n { offset := p.offset + c.utf8Size, rest }

end DocComments.Markup
