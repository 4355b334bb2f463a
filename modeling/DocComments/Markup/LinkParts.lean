import DocComments.Markup.Entity
import DocComments.Text.CaseFold

set_option autoImplicit false

/-!
# The parts of a link

A link has a destination and possibly a title in parentheses, as in `[text](target "title")`, or it
refers to a definition by a label, as in `[text][label]`. The same parts make up a definition. The
scanners take the text where the part should start and return what follows it.

## Main definitions

* `Link.destination?` — a destination, in angle brackets or bare.
* `Link.afterTitle?` — a quoted title.
* `Link.label?` — a label in brackets.
* `Link.inline?` — destination and title in parentheses.
* `Link.labelKey` — what two labels have in common when they are the same.
-/

namespace DocComments.Markup.Link

/-- How deeply parentheses may nest in a bare destination. -/
def maxNesting : Nat := 32

/-! ## Destinations -/

/-- A destination in angle brackets, after the opening one; `out` is what was read, reversed. -/
def pointedFrom (out : List Char) : List Char → Option (List Char × List Char)
  | [] => none
  | '\\' :: c :: rest =>
    if Text.isAsciiPunctuation c then pointedFrom (c :: '\\' :: out) rest
    else pointedFrom ('\\' :: out) (c :: rest)
  | '>' :: rest => some (out.reverse, rest)
  | c :: rest => if c == '<' || c == '\n' || c == '\r' then none else pointedFrom (c :: out) rest
termination_by text => text.length

/-- A bare destination: it ends at white space, a control or an unmatched closing parenthesis. -/
def bareFrom (depth : Nat) (out : List Char) : List Char → Option (List Char × List Char)
  | [] => if depth = 0 then some (out.reverse, []) else none
  | '\\' :: d :: rest =>
    if Text.isAsciiPunctuation d then bareFrom depth (d :: '\\' :: out) rest
    else bareFrom depth ('\\' :: out) (d :: rest)
  | c :: rest =>
    if c.toNat ≤ 0x20 then if depth = 0 then some (out.reverse, c :: rest) else none
    else if c == '(' then if maxNesting < depth then none else bareFrom (depth + 1) (c :: out) rest
    else if c == ')' then
      if depth = 0 then some (out.reverse, c :: rest) else bareFrom (depth - 1) (c :: out) rest
    else bareFrom depth (c :: out) rest
termination_by text => text.length

/-- The destination at the head of a text, as it is written, and what follows it. -/
def destination? : List Char → Option (List Char × List Char)
  | '<' :: rest => pointedFrom [] rest
  | text => bareFrom 0 [] text

/-! ## Titles -/

/-- The mark that closes a title opened by a given one. -/
def closingMark? : Char → Option Char
  | '"' => some '"'
  | '\'' => some '\''
  | '(' => some ')'
  | _ => none

/-- The text after a title in the given marks. -/
def afterMarks? (opening closing : Char) : List Char → Option (List Char)
  | [] => none
  | '\\' :: c :: rest =>
    if Text.isAsciiPunctuation c then afterMarks? opening closing rest
    else afterMarks? opening closing (c :: rest)
  | c :: rest =>
    if c == closing then some rest
    else if c == opening then none
    else afterMarks? opening closing rest
termination_by text => text.length

/-- The text after the title at the head of a text. -/
def afterTitle? : List Char → Option (List Char)
  | [] => none
  | c :: rest =>
    match closingMark? c with
    | some closing => afterMarks? c closing rest
    | none => none

/-! ## Destination and title in parentheses -/

/-- Skips blanks and at most one line end. -/
def skipSeparator (text : List Char) : List Char :=
  let text := text.dropWhile isLineBlank
  (text.drop ((eol? text).getD 0)).dropWhile isLineBlank

/-- The destination in parentheses at the head of a text, and what follows the closing one. -/
def inline? : List Char → Option (List Char × List Char)
  | '(' :: rest =>
    match destination? (skipSeparator rest) with
    | none => none
    | some (target, tail) =>
      let tail := skipSeparator tail
      let tail :=
        match afterTitle? tail with
        | some rest => skipSeparator rest
        | none => tail
      match tail with
      | ')' :: rest => some (unescape target, rest)
      | _ => none
  | _ => none

/-! ## Labels -/

/-- The state of reading a label: how much of the length limit is used, whether something other
than white space was read, and the label so far, reversed. -/
structure LabelState where
  used : Nat := 0
  solid : Bool := false
  out : List Char := []

/-- The longest label, in code points. -/
def maxLabel : Nat := 1000

/-- The white space at the head of a text inside a label: the text after it, whether it is more
than one blank, and how many line ends it has. `continue?` says how many characters to skip after a
line end, or that the label cannot go on there. The first argument bounds the steps. -/
def labelSpace? (continue? : List Char → Option Nat) :
    Nat → Nat → Nat → List Char → Option (List Char × Nat)
  | 0, _, weight, text => some (text, weight)
  | fuel + 1, lines, weight, text =>
    match text with
    | [] => some ([], weight)
    | c :: rest =>
      if !isAsciiSpace c then some (text, weight)
      else if c == '\n' || c == '\r' then
        if 0 < lines then none
        else
          let tail := text.drop ((eol? text).getD 1)
          match continue? tail with
          | none => none
          | some n => labelSpace? continue? fuel (lines + 1) (weight + 2) (tail.drop n)
      else labelSpace? continue? fuel lines (weight + if c == ' ' then 1 else 2) rest

/-- The rest of a label after its opening bracket: the label with its white space collapsed, and
what follows the closing bracket. The first argument bounds the steps. -/
def labelFrom? (continue? : List Char → Option Nat) :
    Nat → LabelState → List Char → Option (List Char × List Char)
  | 0, _, _ => none
  | fuel + 1, s, text =>
    if maxLabel ≤ s.used then none
    else
      match text with
      | [] => none
      | '[' :: _ => none
      | ']' :: rest => if s.solid then some (s.out.reverse, rest) else none
      | '\\' :: c :: rest =>
        labelFrom? continue? fuel
          { used := s.used + 2, solid := true, out := c :: '\\' :: s.out } rest
      | c :: rest =>
        if isAsciiSpace c then
          match labelSpace? continue? (text.length + 1) 0 0 text with
          | none => none
          | some (tail, weight) =>
            let used := if 1 < weight then s.used + (text.length - tail.length) else s.used + 1
            labelFrom? continue? fuel { s with used, out := ' ' :: s.out } tail
        else
          labelFrom? continue? fuel
            { used := if c.toNat < 0x80 then s.used else s.used + c.utf8Size, solid := true,
              out := c :: s.out } rest

/-- The label in brackets at the head of a text, and what follows it. -/
def label? (continue? : List Char → Option Nat) : List Char → Option (List Char × List Char)
  | '[' :: rest => labelFrom? continue? (rest.length + 1) {} rest
  | _ => none

/-- Two labels are the same when their keys are: white space at the ends and case do not count. -/
def labelKey (label : List Char) : List Char :=
  Text.foldCase ((label.dropWhile isAsciiSpace).reverse.dropWhile isAsciiSpace).reverse

end DocComments.Markup.Link
