import DocComments.Markup.Block

set_option autoImplicit false

/-!
# The event stream of marked-up text

Marked-up text is handed on as a stream of events: a container is entered and left, everything else
is a single event. Each event has the byte offset where its source starts.

## Main definitions

* `Kind` — what a node of marked-up text is.
* `Event` — an event.
* `TextReader` — anything that turns a text into an event stream.
* `events` — the event stream of a text.
-/

namespace DocComments.Markup

/-- What a node of marked-up text is. -/
inductive Kind where
  | document
  | paragraph
  | heading (level : Nat)
  | quote
  | codeBlock (language : Option String) (code : List Char)
  | htmlBlock (text : List Char)
  | list (start : Option Nat)
  | item
  | rule
  | text (value : List Char)
  | code (value : List Char)
  | emphasis
  | strong
  | link (target : List Char)
  | image (target : List Char)
  | softBreak
  | hardBreak
  /-- A construct outside the supported ones, by name. -/
  | unsupported (name : String)
  deriving Repr, DecidableEq

/-- Containers have other nodes inside them. -/
def Kind.isContainer : Kind → Bool
  | document | paragraph | heading _ | quote | list _ | item | emphasis | strong | link _ | image _
  | unsupported _ => true
  | _ => false

/-- An event of marked-up text. -/
inductive Event where
  /-- A node starts at an offset; what follows belongs to it until it is left. -/
  | enter (kind : Kind) (offset : Nat)
  /-- The node entered last ends. -/
  | leave
  /-- Text of the node entered last. -/
  | text (value : List Char) (offset : Nat)
  /-- A node without anything inside it. -/
  | leaf (kind : Kind) (offset : Nat)
  deriving Repr, DecidableEq

/-- Something that reads marked-up text: it turns a text into an event stream. -/
abbrev TextReader := List Char → List Event

/-! ## Running text -/

mutual

/-- The events of a piece of running text. -/
def Inline.events : Inline → List Event
  | .text offset value => [.text value offset]
  | .code offset value => [.leaf (.code value) offset]
  | .softBreak offset => [.leaf .softBreak offset]
  | .hardBreak offset _ => [.leaf .hardBreak offset]
  | .run offset mark count _ _ => [.text (List.replicate count mark) offset]
  | .emphasis offset children => .enter .emphasis offset :: (inlineEvents children ++ [.leave])
  | .strong offset children => .enter .strong offset :: (inlineEvents children ++ [.leave])
  | .link offset image target children =>
    .enter (if image then .image target else .link target) offset ::
      (inlineEvents children ++ [.leave])

/-- The events of running text. -/
def inlineEvents : List Inline → List Event
  | [] => []
  | node :: rest => node.events ++ inlineEvents rest

end

/-! ## Blocks -/

/-- The language named after a fence: the first word there. -/
def language? (info : List Char) : Option String :=
  match Text.words info with
  | [] => none
  | word :: _ => some (String.ofList word)

mutual

/-- The events of a block; `tight` inside the items of a tight list. -/
def Block.events (defs : Definitions) (tight : Bool) : Block → List Event
  | .paragraph offset content =>
    let inner := inlineEvents (content.inlines defs)
    if tight then inner else .enter .paragraph offset :: (inner ++ [.leave])
  | .heading offset level content =>
    .enter (.heading level) offset :: (inlineEvents (content.inlines defs) ++ [.leave])
  | .rule offset => [.leaf .rule offset]
  | .code offset info text =>
    [.enter (.codeBlock (info.bind language?) []) offset, .text text offset, .leave]
  | .html offset text => [.enter (.htmlBlock []) offset, .text text offset, .leave]
  | .quote offset children => .enter .quote offset :: (blockEvents defs false children ++ [.leave])
  | .list offset first tight items =>
    .enter (.list first) offset :: (blockEvents defs tight items ++ [.leave])
  | .item offset children => .enter .item offset :: (blockEvents defs tight children ++ [.leave])

/-- The events of blocks that follow each other. -/
def blockEvents (defs : Definitions) (tight : Bool) : List Block → List Event
  | [] => []
  | block :: rest => block.events defs tight ++ blockEvents defs tight rest

end

/-- The event stream of a text. -/
def events (text : List Char) : List Event :=
  let (blocks, defs) := readBlocks text
  blockEvents defs false blocks

end DocComments.Markup
