import DocComments.Markup.Emphasis
import DocComments.Markup.Html
import DocComments.Markup.LinkParts

set_option autoImplicit false

/-!
# Links, code and raw markup in running text

The tokens of a paragraph or heading are read from left to right. Backticks pair with the next run of
the same length, angle brackets with the construct they open, and a closing bracket with the
innermost opening one, if a destination follows or the bracketed text or the label after it is
defined. Everything else stays as it is written. A link cannot hold another link.

## Main definitions

* `Content` — the tokens of a paragraph or heading together with its characters.
* `Definitions` — the link definitions of a document.
* `Content.inlines` — the running text with its markup.
-/

namespace DocComments.Markup

/-- The tokens of a paragraph or heading, and its characters without the margins of its lines. -/
structure Content where
  tokens : List Token := []
  glyphs : List Glyph := []

/-- The link definitions of a document: label keys with their destinations. The first definition of
a label counts. -/
abbrev Definitions := List (List Char × List Char)

/-- An opening bracket that waits for its closing one: an `active` one can still become a link. The
siblings before it are kept, reversed. -/
structure OpenBracket where
  offset : Nat
  image : Bool
  active : Bool := true
  before : List Inline

namespace OpenBracket

/-- The bracket as plain text. -/
def plain (b : OpenBracket) : Inline :=
  .text b.offset (if b.image then ['!', '['] else ['['])

/-- The offset of the bracket itself. -/
def bracket (b : OpenBracket) : Nat :=
  if b.image then b.offset + 1 else b.offset

/-- A bracket around a link cannot become a link. -/
def deactivate (b : OpenBracket) : OpenBracket :=
  if b.image then b else { b with active := false }

end OpenBracket

/-- The state of reading: the open brackets, innermost first, and the siblings after the innermost
one, reversed. -/
structure Reading where
  brackets : List OpenBracket := []
  out : List Inline := []

namespace Reading

/-- Adds a sibling. -/
def push (r : Reading) (node : Inline) : Reading :=
  { r with out := node :: r.out }

/-- Turns the innermost open bracket `b` and the closing one into plain text. -/
def literal (r : Reading) (b : OpenBracket) (offset : Nat) : Reading :=
  { r with out := .text offset [']'] :: (r.out ++ b.plain :: b.before) }

/-- Makes a link of what stands after the innermost open bracket `b`. -/
def link (r : Reading) (b : OpenBracket) (target : List Char) : Reading :=
  let node := Inline.link b.offset b.image target (resolveChildren r.out.reverse)
  { brackets := if b.image then r.brackets else r.brackets.map (·.deactivate),
    out := node :: b.before }

/-- All siblings, in order, with the brackets left open as plain text. -/
def finish (r : Reading) : List Inline :=
  (r.brackets.foldl (fun out b => out ++ b.plain :: b.before) r.out).reverse

end Reading

/-! ## Brackets -/

/-- What a label refers to. -/
def Definitions.find? (defs : Definitions) (label : List Char) : Option (List Char) :=
  defs.lookup (Link.labelKey label)

/-- How a closing bracket is read: as it stands, or as the end of a link, with the tokens that
follow. -/
inductive Closing where
  | plain (rest : List Token)
  | link (target : List Char) (rest : List Token)

/-- The tokens left to read. -/
def Closing.rest : Closing → List Token
  | plain rest | link _ rest => rest

/-- The closing bracket at an offset has been tried as the end of a label. -/
def markTried (offset : Nat) (tokens : List Token) : List Token :=
  tokens.map fun
    | .closing o fresh => .closing o (fresh && o != offset)
    | token => token

/-- The label between the innermost open bracket and the closing one. -/
def ownTarget? (defs : Definitions) (glyphs : List Glyph) (b : OpenBracket) (offset : Nat) :
    Option (List Char) :=
  let bracketed := Glyph.chars (Glyph.upTo (offset + 1) (Glyph.since b.bracket glyphs))
  match Link.label? (fun _ => some 0) bracketed with
  | some (label, []) => defs.find? label
  | _ => none

/-- A token starts with a bracket that does not stand behind a backslash. -/
def Token.startsLabel : Token → Bool
  | .opening _ image => !image
  | _ => false

/-- Reads the closing bracket at an offset as the end of a reference: followed by a label, by empty
brackets, or by neither. -/
def referenceAt (defs : Definitions) (glyphs : List Glyph) (b : OpenBracket) (offset : Nat)
    (fresh : Bool) (rest : List Token) : Closing :=
  let shortcut (rest' : List Token) : Closing :=
    if fresh then
      match ownTarget? defs glyphs b offset with
      | some target => .link target rest'
      | none => .plain rest
    else .plain rest
  match rest with
  | next :: more =>
    if next.startsLabel then
      let text := Glyph.chars (Glyph.since next.offset glyphs)
      match text with
      | '[' :: ']' :: _ => shortcut (more.drop 1)
      | _ =>
        match Link.label? (fun _ => some 0) text with
        | some (label, after) =>
          let stop := next.offset + Text.byteLength (text.take (text.length - after.length))
          match defs.find? label with
          | some target => .link target (Token.cut stop rest)
          | none => .plain (markTried (stop - 1) rest)
        | none => shortcut rest
    else shortcut rest
  | [] => shortcut rest

/-- Reads the closing bracket at an offset, given the open bracket it pairs with. -/
def closingAt (defs : Definitions) (glyphs : List Glyph) (b : OpenBracket) (offset : Nat)
    (fresh : Bool) (rest : List Token) : Closing :=
  let text := Glyph.chars (Glyph.since (offset + 1) glyphs)
  match Link.inline? text with
  | some (target, after) =>
    let stop := offset + 1 + Text.byteLength (text.take (text.length - after.length))
    .link target (Token.cut stop rest)
  | none => referenceAt defs glyphs b offset fresh rest

/-- Reading a closing bracket does not add tokens. -/
theorem length_closingAt_le (defs : Definitions) (glyphs : List Glyph) (b : OpenBracket)
    (offset : Nat) (fresh : Bool) (rest : List Token) :
    (closingAt defs glyphs b offset fresh rest).rest.length ≤ rest.length := by
  have hcut := Token.length_cut_le
  unfold closingAt
  dsimp only
  split
  · exact hcut _ _
  · unfold referenceAt
    dsimp only
    repeat' split
    all_goals
      simp only [Closing.rest, markTried, List.length_map, List.length_drop, List.length_cons]
    all_goals first
      | omega
      | exact hcut _ _

/-! ## Code and angle brackets -/

/-- The text of code between two offsets: line ends become blanks, and a blank is taken off at both
ends if there is one at both and something else between them. -/
def codeText (glyphs : List Glyph) (start stop : Nat) : List Char :=
  let text := (Glyph.chars (Glyph.upTo stop (Glyph.since start glyphs))).map fun c =>
    if c == '\n' || c == '\r' then ' ' else c
  if text.head? == some ' ' && text.getLast? == some ' ' && !text.all (· == ' ') then
    (text.drop 1).dropLast
  else
    text

/-- The tokens after the next run of exactly `count` backticks, and where that run starts. -/
def afterTicks? (count : Nat) : List Token → Option (Nat × List Token)
  | [] => none
  | .ticks offset n _ :: rest => if n == count then some (offset, rest) else afterTicks? count rest
  | _ :: rest => afterTicks? count rest

/-- What follows a closing run is shorter than what was searched. -/
theorem length_afterTicks? {count : Nat} {tokens rest : List Token} {offset : Nat}
    (h : afterTicks? count tokens = some (offset, rest)) : rest.length < tokens.length := by
  fun_induction afterTicks? count tokens with
  | case1 => cases h
  | case2 o n e rest' hn =>
    simp only [Option.some.injEq, Prod.mk.injEq] at h
    simp [h.2]
  | case3 o n e rest' hn ih => exact Nat.lt_succ_of_lt (ih h)
  | case4 t rest' _ ih => exact Nat.lt_succ_of_lt (ih h)

/-- What an opening angle bracket at an offset starts, given where the next token starts, and the
offset after it. -/
def angleAt? (glyphs : List Glyph) (offset next : Nat) : Option (Inline × Nat) :=
  let text := Glyph.chars (Glyph.since next glyphs)
  match Html.autolink? text with
  | some address =>
    some (.link offset false address [.text (offset + 1) address],
      next + Text.byteLength address + 1)
  | none =>
    let construct := Glyph.since offset glyphs
    match Html.inline? (Glyph.chars construct) with
    | some n =>
      let piece := construct.take n
      some (.text offset (Glyph.chars piece), (piece.getLast?.map (·.stop)).getD offset)
    | none => none

/-! ## Reading tokens -/

/-- Reads the tokens from left to right. -/
def readTokens (defs : Definitions) (glyphs : List Glyph) (r : Reading) (tokens : List Token) :
    List Inline :=
  match tokens with
  | [] => r.finish
  | .text offset g :: rest => readTokens defs glyphs (r.push (.text offset (Glyph.chars g))) rest
  | .reference offset _ value :: rest => readTokens defs glyphs (r.push (.text offset value)) rest
  | .softBreak offset _ :: rest => readTokens defs glyphs (r.push (.softBreak offset)) rest
  | .hardBreak offset _ backslash :: rest =>
    readTokens defs glyphs (r.push (.hardBreak offset backslash)) rest
  | .run offset mark count opens closes :: rest =>
    readTokens defs glyphs (r.push (.run offset mark count opens closes)) rest
  | .ticks offset count escaped :: rest =>
    let wanted := if escaped then count - 1 else count
    if wanted = 0 then
      readTokens defs glyphs (r.push (.text offset (List.replicate count '\x60'))) rest
    else
      match _h : afterTicks? wanted rest with
      | some (stop, after) =>
        let code := codeText glyphs (offset + count) stop
        if escaped then
          readTokens defs glyphs ((r.push (.text offset ['\x60'])).push (.code (offset + 1) code))
            after
        else
          readTokens defs glyphs (r.push (.code offset code)) after
      | none => readTokens defs glyphs (r.push (.text offset (List.replicate count '\x60'))) rest
  | .angle offset :: rest =>
    match rest.head?.bind fun next => angleAt? glyphs offset next.offset with
    | some (node, stop) => readTokens defs glyphs (r.push node) (Token.cut stop rest)
    | none => readTokens defs glyphs (r.push (.text offset ['<'])) rest
  | .opening offset image :: rest =>
    readTokens defs glyphs
      { brackets := { offset, image, before := r.out } :: r.brackets, out := [] } rest
  | .closing offset fresh :: rest =>
    match r.brackets with
    | [] => readTokens defs glyphs (r.push (.text offset [']'])) rest
    | b :: brackets =>
      let inner : Reading := { r with brackets }
      if !b.active then readTokens defs glyphs (inner.literal b offset) rest
      else
        match _h : closingAt defs glyphs b offset fresh rest with
        | .link target after => readTokens defs glyphs (inner.link b target) after
        | .plain after => readTokens defs glyphs (inner.literal b offset) after
termination_by tokens.length
decreasing_by
  all_goals simp only [List.length_cons]
  all_goals first
    | omega
    | exact Nat.lt_succ_of_lt (length_afterTicks? _h)
    | exact Nat.lt_succ_of_le (Token.length_cut_le _ _)
    | (have hle := length_closingAt_le defs glyphs b offset fresh rest
       rw [_h] at hle
       simp only [Closing.rest] at hle
       omega)

/-- The running text of a paragraph or heading with its markup. -/
def Content.inlines (defs : Definitions) (content : Content) : List Inline :=
  resolve (readTokens defs content.glyphs {} content.tokens)

end DocComments.Markup
