import DocComments.Markup.LinkParts
import DocComments.Markup.Starts

set_option autoImplicit false

/-!
# Link definitions

A definition such as `[label]: target "title"` stands where a paragraph could start. Its parts may be
on different lines, each of which has to be a line that a paragraph could go on with.

## Main definitions

* `continuation?` — how far the margin of a line that continues a paragraph reaches.
* `definition?` — the definition at the head of a text.
-/

namespace DocComments.Markup

/-- How many characters the margin of the line at the head of a text takes, if a paragraph inside
the given containers goes on with that line. -/
def continuation? (containers : List Container) (text : List Char) : Option Nat :=
  let (n, margin) := continueContainers containers (Margin.ofPlace (Place.start text))
  let inside := n == containers.length
  let (deep, margin) := margin.indented 4
  let rest := margin.rest
  if !deep && (interrupts inside rest || (inside && (underline? rest).isSome)) then none
  else some (text.length - rest.length)

/-- Skips blanks and at most one line end before a part of a definition; says whether there was a
line end. -/
def skipToPart? (containers : List Container) (text : List Char) : Option (Bool × List Char) :=
  let text := text.dropWhile isLineBlank
  match eol? text with
  | none => some (false, text)
  | some n =>
    let line := text.drop n
    match continuation? containers line with
    | none => none
    | some k =>
      let content := (line.drop k).dropWhile isLineBlank
      if (eol? content).isSome then none else some (true, content)

/-- The text after a title in a definition, which may go on over several lines. The first argument
bounds the steps. -/
def afterDefinitionTitle? (containers : List Container) (opening closing : Char) :
    Nat → List Char → Option (List Char)
  | 0, _ => none
  | fuel + 1, text =>
    match text with
    | [] => none
    | c :: rest =>
      if c == closing then some rest
      else if c == opening then none
      else if c == '\n' || c == '\r' then
        let line := text.drop ((eol? text).getD 1)
        match continuation? containers line with
        | none => none
        | some k => afterDefinitionTitle? containers opening closing fuel (line.drop k)
      else if c == '\\' && rest.head?.any (fun d => d != '\n' && d != '\r') then
        afterDefinitionTitle? containers opening closing fuel (rest.drop 1)
      else afterDefinitionTitle? containers opening closing fuel rest

/-- The title at the head of a text, if a blank line end follows it: the text from that line end
on. -/
def definitionTitle? (containers : List Container) : List Char → Option (List Char)
  | [] => none
  | c :: rest =>
    match Link.closingMark? c with
    | none => none
    | some closing =>
      match afterDefinitionTitle? containers c closing (rest.length + 1) rest with
      | none => none
      | some after => if (blankLine? after).isSome then some after else none

/-- The destination and title of a definition, after its label and colon: the destination and the
text after the definition. -/
def definitionBody? (containers : List Container) (text : List Char) :
    Option (List Char × List Char) :=
  match skipToPart? containers text with
  | none => none
  | some (_, start) =>
    match Link.destination? start with
    | none => none
    | some (target, rest) =>
      if rest.length == start.length then none
      else
        let target := unescape target
        match skipToPart? containers rest with
        | none => some (target, rest)
        | some (newLine, title) =>
          if title.length == rest.length && !newLine then none
          else
            match definitionTitle? containers title with
            | some after => some (target, after)
            | none => if newLine then some (target, rest) else none

/-- The definition at the head of a text inside the given containers: the key of its label, its
destination and the text after it. -/
def definition? (containers : List Container) (text : List Char) :
    Option (List Char × List Char × List Char) :=
  match Link.label? (continuation? containers) text with
  | some (label, ':' :: rest) =>
    (definitionBody? containers rest).map fun (target, after) =>
      (Link.labelKey label, target, after)
  | _ => none

end DocComments.Markup
