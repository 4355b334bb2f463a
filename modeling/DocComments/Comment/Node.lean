import DocComments.Arena
import DocComments.Section

set_option autoImplicit false

/-!
# Comments

A comment is a tree of typed nodes. The children of its root are its sections: paragraphs with a
role, and other blocks.

## Main definitions

* `Destination` — an anchor in a document.
* `Comment.Target`, `Comment.Node` — where a link leads, and what a node is.
* `Comment` — a comment.
* `Comment.sections`, `Comment.sectionKind?`, `Comment.sectionsOf` — its sections.
* `Comment.links` — its links, in document order.
* `Comment.text`, `Comment.firstLine` — the plain text of a node.
-/

namespace DocComments

/-- An anchor in a document. -/
structure Destination where
  document : String
  anchor : String
  deriving Repr, DecidableEq

namespace Comment

/-- Where a link leads. -/
inductive Target where
  /-- The destination that was written. -/
  | explicit (url : List Char)
  /-- No destination was written, and none is known. -/
  | unresolved
  /-- No destination was written, and this one was found. -/
  | resolved (destination : Destination)
  deriving Repr, DecidableEq

/-- Only links without a written destination are looked up. -/
def Target.isAutomatic : Target → Bool
  | explicit _ => false
  | _ => true

/-- What a node of a comment is. -/
inductive Node where
  | document
  | paragraph (kind : SectionKind) (title : String)
  /-- A list, with its first number if it is numbered. -/
  | list (start : Option Nat)
  | item
  | quote
  | heading (level : Nat)
  | code (language : Option String) (text : List Char)
  | rule
  | text (value : List Char)
  | emphasis
  | strong
  | codeSpan (value : List Char)
  | softBreak
  | hardBreak
  /-- A link, with the plain text between its brackets. -/
  | link (name : List Char) (target : Target)
  deriving Repr, DecidableEq

/-- Containers have other nodes inside them. -/
def Node.isContainer : Node → Bool
  | document | paragraph .. | list _ | item | quote | heading _ | emphasis | strong | link .. => true
  | _ => false

/-- The node is a link. -/
def Node.isLink : Node → Bool
  | link .. => true
  | _ => false

/-- The text of a node that has no nodes inside it; breaks are line ends. -/
def Node.leafText? : Node → Option (List Char)
  | text value | codeSpan value => some value
  | code _ value => some value
  | softBreak | hardBreak => some ['\n']
  | _ => none

end Comment

/-- A comment, rooted at its document. -/
abbrev Comment := Arena (Placed Comment.Node)

namespace Comment

/-- The comment without any section. -/
def empty : Comment :=
  Arena.singleton ⟨.document, ⟨1, 1⟩⟩

/-- The top-level blocks, in order. -/
def sections (c : Comment) : List Nat :=
  c.children 0

/-- The role of a paragraph; other nodes have none. -/
def sectionKind? (c : Comment) (id : Nat) : Option SectionKind :=
  match c.node? id with
  | some (.paragraph kind _) => some kind
  | _ => none

/-- The top-level paragraphs of a given role. -/
def sectionsOf (c : Comment) (kind : SectionKind) : List Nat :=
  (sections c).filter fun id => sectionKind? c id == some kind

/-- The comment has no sections. -/
def isEmpty (c : Comment) : Bool :=
  (sections c).isEmpty

/-- The links that are reached from the root, in document order. -/
def links (c : Comment) : List Nat :=
  (c.preorder 0).filter fun id => (c.node? id).any Node.isLink

/-- The plain text of a node and of everything below it. -/
def text (c : Comment) (id : Nat) : List Char :=
  c.gather (fun p => p.value.leafText?) id

/-- The first line of the plain text of a node, without white space at its ends. -/
def firstLine (c : Comment) (id : Nat) : List Char :=
  Text.trim (Text.firstLine (text c id))

end Comment

end DocComments
