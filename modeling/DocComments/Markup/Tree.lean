import DocComments.Arena
import DocComments.Markup.Event

set_option autoImplicit false

/-!
# The markup tree

The event stream of a text makes a tree. Texts that follow each other are one node, and the text of
code and raw blocks belongs to the block itself. A walk over the tree enters every node and leaves
every container again; the step from one event of the walk to the next only looks at the tree as it
is, so that nodes may be detached while walking.

## Main definitions

* `Tree` — a markup tree.
* `Tree.ofEvents` — the tree of an event stream.
* `Tree.parse` — the tree of a text.
* `Walk`, `Tree.advance` — the walk over a tree.
* `Tree.text` — the plain text of a node.
-/

namespace DocComments.Markup

/-- A markup tree, rooted at the document. -/
abbrev Tree := Arena (Placed Kind)

/-- The state of building a tree: the tree so far and the open nodes, innermost first. -/
structure Building where
  tree : Tree := Arena.singleton ⟨.document, ⟨1, 1⟩⟩
  stack : List Nat := []

namespace Building

/-- The innermost open node. -/
def top (b : Building) : Nat :=
  b.stack.head?.getD 0

/-- The last child of the innermost open node, if it is text. -/
def lastText? (b : Building) : Option Nat :=
  match (b.tree.children b.top).getLast? with
  | none => none
  | some id =>
    match b.tree.node? id with
    | some (.text _) => some id
    | _ => none

/-- A kind with more text at its end. -/
def appendText (value : List Char) : Kind → Kind
  | .text old => .text (old ++ value)
  | .codeBlock language code => .codeBlock language (code ++ value)
  | .htmlBlock old => .htmlBlock (old ++ value)
  | kind => kind

/-- The node takes text into itself. -/
def takesText : Kind → Bool
  | .codeBlock .. | .htmlBlock _ => true
  | _ => false

/-- Adds text to the innermost open node. -/
def addText (b : Building) (value : List Char) (position : Position) : Building :=
  if (b.tree.node? b.top).any takesText then
    { b with tree := b.tree.modifyNode b.top (appendText value) }
  else
    match b.lastText? with
    | some id => { b with tree := b.tree.modifyNode id (appendText value) }
    | none => { b with tree := b.tree.push b.top ⟨.text value, position⟩ }

/-- Takes one more event. -/
def step (position : Nat → Position) (b : Building) : Event → Building
  | .enter kind offset =>
    { tree := b.tree.push b.top ⟨kind, position offset⟩, stack := b.tree.size :: b.stack }
  | .leave => { b with stack := b.stack.tail }
  | .text value offset => b.addText value (position offset)
  | .leaf kind offset => { b with tree := b.tree.push b.top ⟨kind, position offset⟩ }

end Building

namespace Tree

/-- The tree of an event stream, given the positions of offsets. -/
def ofEvents (position : Nat → Position) (events : List Event) : Tree :=
  (events.foldl (Building.step position) {}).tree

/-- The tree of a text, by the events that a reader finds in it. -/
def parse (text : List Char) (reader : TextReader := events) : Tree :=
  ofEvents (Position.ofOffset (lineStarts text)) (reader text)

/-- The tree has nothing but its root. -/
def isEmpty (t : Tree) : Bool :=
  (t.children 0).isEmpty

/-- The node has other nodes inside it. -/
def isContainer (t : Tree) (id : Nat) : Bool :=
  (t.node? id).any Kind.isContainer

/-- The text of a node that has no nodes inside it; line ends are blanks. -/
def leafText? : Kind → Option (List Char)
  | .text value | .code value => some value
  | .softBreak | .hardBreak => some [' ']
  | _ => none

/-- The plain text of a node and of everything below it. -/
def text (t : Tree) (id : Nat) : List Char :=
  t.gather (fun p => leafText? p.value) id

end Tree

/-! ## Walking -/

/-- An event of a walk: a node is entered or left. -/
inductive Walk where
  | enter (id : Nat)
  | leave (id : Nat)
  deriving Repr, DecidableEq

/-- The node of an event. -/
def Walk.id : Walk → Nat
  | enter id | leave id => id

namespace Tree

/-- The event after a node has been left, or entered if it is no container. -/
def next? (t : Tree) (id : Nat) : Option Walk :=
  if id = 0 then none
  else
    match t.nextSibling? id with
    | some sibling => some (.enter sibling)
    | none => (t.parent? id).map .leave

/-- The event that follows in document order; there is none once the root is left. -/
def advance (t : Tree) : Walk → Option Walk
  | .enter id =>
    if t.isContainer id then
      match t.children id with
      | child :: _ => some (.enter child)
      | [] => some (.leave id)
    else t.next? id
  | .leave id => t.next? id

/-- The events from a given one on. The first argument bounds their number. -/
def walkFrom (t : Tree) : Nat → Option Walk → List Walk
  | 0, _ => []
  | _ + 1, none => []
  | fuel + 1, some event => event :: walkFrom t fuel (t.advance event)

/-- All events of a walk over the tree. -/
def walk (t : Tree) : List Walk :=
  t.walkFrom (2 * t.size) (some (.enter 0))

end Tree

end DocComments.Markup
