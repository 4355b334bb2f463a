import DocComments.Markup.Entity

set_option autoImplicit false

/-!
# Tokens of running text

The lines of a paragraph or heading are cut into tokens before links and emphasis are looked for:
plain text, character references, the marks that may turn out to be markup, and the breaks between
lines.

## Main definitions

* `Token` — a piece of a line.
* `LineTokens` — the tokens of a line and the break after it.
* `tokenize` — the tokens of a line.
* `Token.cut` — the tokens from a given offset on.
-/

namespace DocComments.Markup

/-- A piece of running text. Every token knows its offset. -/
inductive Token where
  /-- Plain text, possibly empty. -/
  | text (offset : Nat) (glyphs : List Glyph)
  /-- A character reference, the offset after it and what it means. -/
  | reference (offset stop : Nat) (value : List Char)
  /-- A line end. -/
  | softBreak (offset stop : Nat)
  /-- A line end that breaks the line, written with a backslash or with blanks. -/
  | hardBreak (offset stop : Nat) (backslash : Bool)
  /-- A run of emphasis marks that can open, close, or both. -/
  | run (offset : Nat) (mark : Char) (count : Nat) (opens closes : Bool)
  /-- A run of backticks; `escaped` if its first one stands behind a backslash. -/
  | ticks (offset count : Nat) (escaped : Bool)
  /-- An opening angle bracket. -/
  | angle (offset : Nat)
  /-- An opening bracket, with an exclamation mark before it for an image. -/
  | opening (offset : Nat) (image : Bool)
  /-- A closing bracket; `fresh` unless it has been tried as the end of a label. -/
  | closing (offset : Nat) (fresh : Bool)
  deriving Repr, DecidableEq

namespace Token

/-- The offset of the first character. -/
def offset : Token → Nat
  | text offset _ | reference offset _ _ | softBreak offset _ | hardBreak offset _ _ | run offset _ _ _ _
  | ticks offset _ _ | angle offset | opening offset _ | closing offset _ => offset

/-- The offset after the last character. -/
def stop : Token → Nat
  | text offset glyphs => (glyphs.getLast?.map (·.stop)).getD offset
  | reference _ stop _ | softBreak _ stop | hardBreak _ stop _ => stop
  | run offset _ count _ _ | ticks offset count _ => offset + count
  | angle offset | closing offset _ => offset + 1
  | opening offset image => if image then offset + 2 else offset + 1

/-- The part of a token from a given offset on. -/
def trimTo (offset : Nat) : Token → Token
  | text start glyphs => text (max start offset) (Glyph.since offset glyphs)
  | token => token

/-- The part of a token before a given offset. -/
def trimAt (offset : Nat) : Token → Token
  | text start glyphs => text start (Glyph.upTo offset glyphs)
  | token => token

/-- The tokens from a given offset on. -/
def cut (offset : Nat) (tokens : List Token) : List Token :=
  match tokens.dropWhile (·.stop ≤ offset) with
  | [] => []
  | token :: rest => token.trimTo offset :: rest

/-- Cutting does not add tokens. -/
theorem length_cut_le (offset : Nat) (tokens : List Token) :
    (cut offset tokens).length ≤ tokens.length := by
  have h := (List.dropWhile_suffix (fun t : Token => decide (t.stop ≤ offset)) (l := tokens)).length_le
  unfold cut
  split
  · simp
  · rename_i heq
    rw [heq] at h
    simpa using h

end Token

/-! ## Emphasis marks -/

/-- A run of marks can open emphasis, given the characters around it, if any. -/
def canOpen (mark : Char) (before after : Option Char) : Bool :=
  match after with
  | none => false
  | some next =>
    if Text.isSpace next then false
    else
      match before with
      | none => true
      | some prev =>
        (mark == '*' && !Text.isPunctuation next) || Text.isSpace prev || Text.isPunctuation prev

/-- A run of marks can close emphasis, given the characters around it, if any. -/
def canClose (mark : Char) (before after : Option Char) : Bool :=
  match before with
  | none => false
  | some prev =>
    if Text.isSpace prev then false
    else
      match after with
      | none => true
      | some next =>
        (mark == '*' && !Text.isPunctuation prev) || Text.isSpace next || Text.isPunctuation next

/-! ## Lines -/

/-- The tokens of a line, reversed, and the break after it. -/
structure LineTokens where
  tokens : List Token
  break? : Option Token
  deriving Repr, DecidableEq

/-- The state of reading a line: how many characters belong to the last token (`skip`) or are plain
whatever they look like (`keep`), the characters before, the plain text being read and the tokens so
far, all reversed. -/
structure LineState where
  skip : Nat := 0
  keep : Nat := 0
  seen : List Char := []
  plain : List Glyph := []
  out : List Token := []

namespace LineState

/-- Ends the plain text being read. -/
def flush (s : LineState) : LineState :=
  match s.plain.reverse with
  | [] => s
  | g :: rest => { s with plain := [], out := .text g.offset (g :: rest) :: s.out }

/-- Ends the plain text and adds a token that covers `skip` more characters. -/
def add (s : LineState) (token : Token) (skip : Nat) : LineState :=
  let s := s.flush
  { s with out := token :: s.out, skip }

/-- Adds a character to the plain text. -/
def push (s : LineState) (g : Glyph) : LineState :=
  { s with plain := g :: s.plain }

/-- The plain text without the blanks it ends with. -/
def trimmed (s : LineState) : LineState :=
  { s with plain := s.plain.dropWhile fun g => isLineBlank g.char }

end LineState

/-- The state after a character that may be markup, given what follows it on the line. -/
def LineState.read (s : LineState) (g : Glyph) (rest : List Glyph) : LineState :=
  let next := rest.head?.map (·.char)
  match g.char with
  | '\\' =>
    if next.any Text.isAsciiPunctuation then
      if next == some '\x60' then
        let count := repeats '\x60' (Glyph.chars rest)
        s.add (.ticks (g.offset + 1) count true) count
      else
        { s.flush with keep := 1 }
    else
      s.push g
  | '*' | '_' =>
    let more := repeats g.char (Glyph.chars rest)
    let after := (rest.drop more).head?.map (·.char)
    let opens := canOpen g.char s.seen.head? after
    let closes := canClose g.char s.seen.head? after
    if opens || closes then s.add (.run g.offset g.char (more + 1) opens closes) more
    else { s.push g with keep := more }
  | '\x60' =>
    let more := repeats '\x60' (Glyph.chars rest)
    s.add (.ticks g.offset (more + 1) false) more
  | '<' => if next == some '\\' then s.push g else s.add (.angle g.offset) 0
  | '!' => if next == some '[' then s.add (.opening g.offset true) 1 else s.push g
  | '[' => s.add (.opening g.offset false) 0
  | ']' => s.add (.closing g.offset true) 0
  | '&' =>
    match Entity.reference? (g.char :: Glyph.chars rest) with
    | some (n, value) => s.add (.reference g.offset (g.offset + n) value) (n - 1)
    | none => s.push g
  | _ => s.push g

/-- The tokens of a line that ends at an offset with a line end of the given length. A backslash
before the line end breaks the line, unless nothing follows, and so do two blanks. -/
def LineState.finish (s : LineState) (more : Bool) (offset length : Nat) : LineTokens :=
  let stop := offset + length
  let backslashes := repeats '\\' s.seen
  let blanks := countWhile isLineBlank s.seen
  if backslashes % 2 == 1 && more then
    { tokens := { s with plain := s.plain.drop 1 }.flush.out,
      break? := some (.hardBreak (offset - 1) stop true) }
  else if 2 ≤ blanks then
    { tokens := s.trimmed.flush.out, break? := some (.hardBreak (offset - blanks) stop false) }
  else
    { tokens := s.trimmed.flush.out, break? := some (.softBreak offset stop) }

/-- Reads a line up to its line end. `more` says whether the text goes on after the line. -/
def tokenizeFrom (more : Bool) (s : LineState) : List Glyph → LineTokens
  | [] => { tokens := s.trimmed.flush.out, break? := none }
  | g :: rest =>
    let seen := g.char :: s.seen
    if 0 < s.skip then tokenizeFrom more { s with skip := s.skip - 1, seen } rest
    else if 0 < s.keep then tokenizeFrom more { s.push g with keep := s.keep - 1, seen } rest
    else if g.char == '\n' || g.char == '\r' then
      s.finish more g.offset (((eol? (g.char :: Glyph.chars rest)).getD 1))
    else tokenizeFrom more { s.read g rest with seen } rest

/-- The tokens of a line, reversed, and the break after it. -/
def tokenize (more : Bool) (line : List Glyph) : LineTokens :=
  tokenizeFrom more {} line

end DocComments.Markup
