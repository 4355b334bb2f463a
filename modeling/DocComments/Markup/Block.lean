import DocComments.Markup.Definition
import DocComments.Markup.Inline

set_option autoImplicit false

/-!
# The block structure of marked-up text

A text is read line by line. The margin of a line says which of the open containers it continues;
what follows may open further containers and then holds a heading, code, raw markup, a thematic
break, a link definition or the start of a paragraph, which goes on until something ends it. The
running text of paragraphs and headings is only cut into tokens here, since links may be defined
later in the text.

## Main definitions

* `Block` — a block of a text.
* `Reader` — the open containers and what has been read.
* `readBlock` — reads one block, or one line of containers.
* `readBlocks` — the blocks and the link definitions of a text.
-/

namespace DocComments.Markup

/-- A block of a text, with the offset it starts at. -/
inductive Block where
  | paragraph (offset : Nat) (content : Content)
  | heading (offset level : Nat) (content : Content)
  | rule (offset : Nat)
  /-- Code, with the text after its fence if it has one. -/
  | code (offset : Nat) (info : Option (List Char)) (text : List Char)
  | html (offset : Nat) (text : List Char)
  | quote (offset : Nat) (children : List Block)
  /-- A list, with its first number if it is numbered. The paragraphs of a tight list are not
  paragraphs of their own. -/
  | list (offset : Nat) (first : Option Nat) (tight : Bool) (items : List Block)
  | item (offset : Nat) (children : List Block)

/-- A container that may still go on. -/
inductive OpenBlock where
  | quote (offset : Nat)
  | list (offset : Nat) (mark : Char) (number : Nat) (tight : Bool)
  | item (offset indent : Nat)

namespace OpenBlock

/-- The container as far as the margin of a line goes. -/
def container : OpenBlock → Container
  | quote _ => .quote
  | list .. => .list
  | item _ indent => .item indent

/-- The container is a list. -/
def isList : OpenBlock → Bool
  | list .. => true
  | _ => false

/-- The container is a list item. -/
def isItem : OpenBlock → Bool
  | item .. => true
  | _ => false

/-- A list with blank lines between its blocks is not tight. -/
def loosen : OpenBlock → OpenBlock
  | list offset mark number _ => list offset mark number false
  | block => block

/-- The finished container. -/
def close (children : List Block) : OpenBlock → Block
  | quote offset => .quote offset children
  | list offset mark number tight =>
    .list offset (if mark == '.' || mark == ')' then some number else none) tight children
  | item offset _ => .item offset children

end OpenBlock

/-- An open container with the blocks it has so far, reversed. -/
structure Frame where
  block : OpenBlock
  children : List Block := []

/-- The state of reading: the open containers, innermost first, the finished blocks outside them,
reversed, the definitions found, whether the innermost item started with an empty line, and whether
the last line was blank. -/
structure Reader where
  frames : List Frame := []
  blocks : List Block := []
  definitions : Definitions := []
  emptyItem : Bool := false
  lastBlank : Bool := false

namespace Reader

/-- The open containers, outermost first. -/
def containers (r : Reader) : List Container :=
  (r.frames.map (·.block.container)).reverse

/-- The innermost open container. -/
def top? (r : Reader) : Option OpenBlock :=
  r.frames.head?.map (·.block)

/-- Adds a finished block to the innermost open container. -/
def add (r : Reader) (block : Block) : Reader :=
  match r.frames with
  | [] => { r with blocks := block :: r.blocks }
  | f :: rest => { r with frames := { f with children := block :: f.children } :: rest }

/-- Opens a container inside the innermost one. -/
def enter (r : Reader) (block : OpenBlock) : Reader :=
  { r with frames := { block } :: r.frames }

/-- Finishes the innermost container. -/
def leave (r : Reader) : Reader :=
  match r.frames with
  | [] => r
  | f :: rest =>
    let emptyItem := match f.block with
      | .list _ _ _ true => false
      | _ => r.emptyItem
    { r with frames := rest, emptyItem }.add (f.block.close f.children.reverse)

/-- Finishes the innermost containers until `n` of them are left. -/
def leaveTo (r : Reader) (n : Nat) : Reader :=
  (List.range (r.frames.length - n)).foldl (fun r _ => r.leave) r

/-- Changes the innermost container. -/
def modifyTop (r : Reader) (f : OpenBlock → OpenBlock) : Reader :=
  match r.frames with
  | [] => r
  | top :: rest => { r with frames := { top with block := f top.block } :: rest }

/-- Changes the container around the innermost one. -/
def modifySecond (r : Reader) (f : OpenBlock → OpenBlock) : Reader :=
  match r.frames with
  | top :: second :: rest =>
    { r with frames := top :: { second with block := f second.block } :: rest }
  | _ => r

/-- An item that started with an empty line has no content after another blank line. -/
def finishEmptyItem (r : Reader) : Reader :=
  let r' := if r.emptyItem && r.lastBlank && r.top?.any OpenBlock.isItem then r.leave else r
  { r' with emptyItem := false }

/-- A block that is not a list item starts: an open list ends, and a blank line before the block
makes the list around it loose. -/
def finishList (r : Reader) : Reader :=
  let r := r.finishEmptyItem
  let r := if r.top?.any OpenBlock.isList then r.leave else r
  if r.lastBlank then { r.modifySecond OpenBlock.loosen with lastBlank := false } else r

/-- A list item starts: it goes on with an open list of the same mark, or starts a new one. -/
def continueList (r : Reader) (offset : Nat) (mark : Char) (number : Nat) : Reader :=
  let r := r.finishEmptyItem
  let same := match r.top? with
    | some (.list _ m _ _) => m == mark
    | _ => false
  if same then
    if r.lastBlank then { r.modifyTop OpenBlock.loosen with lastBlank := false } else r
  else
    let r := if r.frames.isEmpty then r else r.finishList
    { r.enter (.list offset mark number true) with lastBlank := false }

/-- A blank line. Inside a quote it does not count; an item that started with an empty line takes
no more indentation. -/
def blank (r : Reader) : Reader :=
  match r.top? with
  | some (.quote _) => r
  | some (.item offset _) =>
    if r.emptyItem then { r.modifyTop (fun _ => .item offset 0) with lastBlank := true }
    else { r with lastBlank := true }
  | _ => { r with lastBlank := true }

/-- Files a definition; the first one of a label counts. -/
def define (r : Reader) (key target : List Char) : Reader :=
  { r with definitions := r.definitions ++ [(key, target)] }

/-- Finishes all containers. -/
def finish (r : Reader) : List Block :=
  (r.leaveTo 0).blocks.reverse

end Reader

/-! ## New containers -/

/-- What the marks of new containers on a line lead to: the line is used up, or the rest of it, after
a margin, is still to be read. -/
inductive Opening where
  | done (reader : Reader) (next : Place)
  | content (reader : Reader) (margin : Margin)

/-- Opens the containers whose marks stand at the start of a line. The first argument bounds their
number. -/
def openContainers : Nat → Reader → Margin → Opening
  | 0, r, m => .content r m
  | fuel + 1, r, m =>
    let (indent, inner) := m.spaces 4
    if 4 ≤ indent then .content r m
    else
      let start := inner.place.offset
      match inner.listMark? indent with
      | some (mark, next) =>
        let r := (r.continueList (start - indent) mark.mark mark.number).enter
          (.item (start - indent) mark.indent)
        match blankLine? next.rest with
        | some n => .done { r with emptyItem := true } (next.place.advance n)
        | none => openContainers fuel r next
      | none =>
        match inner.quoteMark? with
        | some next => openContainers fuel (r.finishList.enter (.quote start)) next
        | none => .content r m

/-! ## Code and raw markup -/

/-- A line of code or raw markup, with the columns of a tab that the margin left over. A carriage
return before the line feed is left out. -/
def verbatimLine (spare : Nat) (line : List Char) : List Char :=
  let text :=
    match line.reverse with
    | c :: '\r' :: rest => if c.toNat < 0x80 then (c :: rest).reverse else line
    | _ => line
  List.replicate spare ' ' ++ text

/-- Reads the lines of indented code from a place inside a line. `text` is the code so far, `kept` the
part of it up to the last line that is not blank. Returns the code and the next line, and whether
the last line read was blank. The first argument bounds the number of lines. -/
def indentedCode (containers : List Container) :
    Nat → Place → Nat → Bool → List Char → List Char → List Char × Place × Bool
  | 0, p, _, blank, _, kept => (kept, p, blank)
  | fuel + 1, p, spare, blank, text, kept =>
    let n := lineLength p.rest
    let text := text ++ verbatimLine spare (p.rest.take n)
    let kept := if blank then kept else text
    let next := p.advance n
    let (count, margin) := continueContainers containers (Margin.ofPlace next)
    let (deep, inner) := margin.indented 4
    if count < containers.length || !(deep || inner.atEol) || inner.place.atEnd then
      (kept, next, blank)
    else
      indentedCode containers fuel inner.place inner.spare (blankLine? inner.rest).isSome text kept

/-- Reads the lines of fenced code from the start of a line. The first argument bounds their
number. -/
def fencedCode (containers : List Container) (indent : Nat) (mark : Char) (size : Nat) :
    Nat → Place → List Char → List Char × Place
  | 0, p, text => (text, p)
  | fuel + 1, p, text =>
    let (count, margin) := continueContainers containers (Margin.ofPlace p)
    if count < containers.length then (text, p)
    else
      let inner := (margin.missing indent).2
      let (deep, close) := inner.indented (4 - indent)
      match if deep then none else closingFence? mark size close.rest with
      | some n =>
        let stop := close.place.advance n
        (text, stop.advance ((blankLine? stop.rest).getD 0))
      | none =>
        let n := lineLength inner.rest
        fencedCode containers indent mark size fuel (inner.place.advance n)
          (text ++ verbatimLine inner.spare (inner.rest.take n))

/-- Reads the lines of raw markup from a place inside a line. The block ends with the line that has
the closing text, or before a blank line if there is none. The first argument bounds the number of
lines. -/
def rawBlock (containers : List Container) (closing : Option (List Char)) :
    Nat → Place → Nat → List Char → List Char × Place
  | 0, p, _, text => (text, p)
  | fuel + 1, p, spare, text =>
    let n := lineLength p.rest
    let line := p.rest.take n
    let text := text ++ verbatimLine spare line
    let next := p.advance n
    let (count, margin) := continueContainers containers (Margin.ofPlace next)
    let ended := match closing with
      | some pattern => Html.occurs pattern line
      | none => (blankLine? margin.rest).isSome
    if count < containers.length || ended || margin.place.atEnd then (text, next)
    else rawBlock containers closing fuel margin.place margin.spare text

/-! ## Paragraphs and headings -/

/-- What a paragraph has been read to: its content, the next line, and its level if an underline made
it a heading. -/
structure Paragraph where
  content : Content
  next : Place
  level? : Option Nat := none

/-- The length of the line at the head of a text, its line end included. -/
def textLineLength (text : List Char) : Nat :=
  let n := countWhile (fun c => c != '\n' && c != '\r') text
  n + (eol? (text.drop n)).getD 0

/-- The tokens of a line that ends its paragraph: a backslash at its end is plain text. -/
def LineTokens.last (line : LineTokens) : List Token :=
  match line.break? with
  | some (.hardBreak offset _ true) => .text offset [⟨offset, '\\'⟩] :: line.tokens
  | _ => line.tokens

/-- Reads the lines of a paragraph from a place inside a line. `tokens` are the tokens so far,
reversed. The first argument bounds the number of lines. -/
def readParagraph (containers : List Container) :
    Nat → Place → List Token → List Glyph → Paragraph
  | 0, p, tokens, glyphs => { content := { tokens := tokens.reverse, glyphs }, next := p }
  | fuel + 1, p, tokens, glyphs =>
    let n := textLineLength p.rest
    let line := p.glyphs n
    let next := p.advance n
    let read := tokenize (!next.atEnd) line
    let glyphs := glyphs ++ line
    let ended (place : Place) (level? : Option Nat) : Paragraph :=
      { content := { tokens := (read.last ++ tokens).reverse, glyphs }, next := place, level? }
    let (count, margin) := continueContainers containers (Margin.ofPlace next)
    let inside := count == containers.length
    let (deep, inner) := margin.indented 4
    match if inside && !deep then underline? inner.rest else none with
    | some (length, level) => ended (inner.place.advance length) (some level)
    | none =>
      let content := inner.skipBlanks
      if (!deep && interrupts inside inner.rest) || content.atEol then ended next none
      else
        let lead := margin.place.glyphs (margin.rest.length - content.rest.length)
        readParagraph containers fuel content.place (read.break?.toList ++ read.tokens ++ tokens)
          (glyphs ++ lead)

/-- How much of the text of a heading is left when the hash marks that close it are taken off. -/
def headingLimit (line : List Char) : Nat :=
  let text := (line.reverse.dropWhile fun c => c == '\n' || c == '\r' || c == ' ').reverse
  let opened := (text.reverse.dropWhile (· == '#')).reverse
  if opened.isEmpty then 0
  else
    let spaces := repeats ' ' opened.reverse
    if 0 < spaces then opened.length - spaces else text.length

/-- Reads the heading of a given level at a place. -/
def readHeading (level : Nat) (p : Place) : Block × Place :=
  let after := p.advance level
  match eol? after.rest with
  | some n => (.heading p.offset level {}, after.advance n)
  | none =>
    let start := after.advance (countWhile isLineBlank after.rest)
    let n := textLineLength start.rest
    let line := start.glyphs n
    let next := start.advance n
    let limit := (start.advance (headingLimit (Glyph.chars line))).offset
    let tokens :=
      match (tokenize (!next.atEnd) line).last with
      | [] => []
      | token :: rest => token.trimAt limit :: rest
    (.heading p.offset level { tokens := tokens.reverse, glyphs := line }, next)

/-! ## Reading blocks -/

/-- The paragraph at a place, or the heading that its underline makes of it. -/
def Reader.paragraph (r : Reader) (p : Place) : Reader × Place :=
  let read := readParagraph r.containers (p.rest.length + 1) p [] []
  let block := match read.level? with
    | some level => Block.heading p.offset level read.content
    | none => Block.paragraph p.offset read.content
  (r.add block, read.next)

/-- Reads link definitions and then the paragraph after them, if there is one. The first argument
bounds the number of definitions. -/
def readText : Nat → Reader → Place → Reader × Place
  | 0, r, p => r.paragraph p
  | fuel + 1, r, p =>
    match definition? r.containers p.rest with
    | none => r.paragraph p
    | some (key, target, after) =>
      let r := r.define key target
      let stop := p.advance (p.rest.length - after.length)
      let next := stop.advance ((blankLine? stop.rest).getD 0)
      let (count, margin) := continueContainers r.containers (Margin.ofPlace next)
      let (deep, inner) := margin.indented 4
      let content := inner.skipBlanks
      if (!deep && interrupts (count == r.containers.length) inner.rest) || content.atEol then
        (r, next)
      else
        readText fuel r content.place

/-- Reads the content of a line after the marks of its containers. -/
def readContent (r : Reader) (m : Margin) : Reader × Place :=
  match blankLine? m.rest with
  | some n => (r.blank, m.place.advance n)
  | none =>
    let (indent, inner) := m.spaces 4
    let p := inner.place
    let text := p.rest
    let r := r.finishList
    let lines := m.rest.length + 1
    if indent = 4 then
      let (code, next, blank) := indentedCode r.containers lines p inner.spare false [] []
      ({ r.add (.code p.offset none code) with lastBlank := blank }, next)
    else
      let raw (closing : Option (List Char)) : Reader × Place :=
        let (text, next) := rawBlock r.containers closing lines p (max m.spare indent) []
        (r.add (.html p.offset text), next)
      let named := text.head? == some '<' &&
        (Html.startsNamedBlock (text.drop 1) || Html.startsLoneTag text)
      match if text.head? == some '<' then Html.blockEnd? (text.drop 1) else none with
      | some closing => raw (some closing)
      | none =>
        if named then raw none
        else
          match rule? text, headingLevel? text, fence? text with
          | some n, _, _ => (r.add (.rule p.offset), p.advance n)
          | none, some level, _ =>
            let (block, next) := readHeading level p
            (r.add block, next)
          | none, none, some (size, mark) =>
            let info := p.advance size
            let info := info.advance (countWhile isLineBlank info.rest)
            let n := lineLength info.rest
            let words := ((info.rest.take n).reverse.dropWhile isAsciiSpace).reverse
            let (code, next) :=
              fencedCode r.containers indent mark size lines (info.advance n) []
            (r.add (.code p.offset (some (unescape words)) code), next)
          | none, none, none => readText lines r p

/-- Reads one block, or one line that only has marks of containers. -/
def readBlock (r : Reader) (p : Place) : Reader × Place :=
  let (count, margin) := continueContainers r.containers (Margin.ofPlace p)
  match openContainers (p.rest.length + 1) (r.leaveTo count) margin with
  | .done r next => (r, next)
  | .content r margin => readContent r margin

/-- Reads blocks until the text ends. The first argument bounds their number. -/
def readAll : Nat → Reader → Place → Reader
  | 0, r, _ => r
  | fuel + 1, r, p =>
    if p.atEnd then r
    else
      let (r, next) := readBlock r p
      readAll fuel r next

/-- The blocks and the link definitions of a text. -/
def readBlocks (text : List Char) : List Block × Definitions :=
  let r := readAll (text.length + 1) {} (Place.start text)
  (r.finish, r.definitions)

end DocComments.Markup
