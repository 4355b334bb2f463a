import DocComments.Position

set_option autoImplicit false

/-!
# Trees in an arena

The nodes of a tree are kept in the order in which they were made, and refer to each other by their
index in that order. A node knows its parent and its children. A node that is detached stays in the
arena with everything below it, but is no longer reached from the root, which is node zero.

## Main definitions

* `Slot`, `Arena` — a node with its links, and the nodes of a tree.
* `Placed` — a content with a position in a text.
* `Rose`, `Arena.plant` — a tree as a value, and how it is put into an arena.
* `Arena.push`, `Arena.alloc`, `Arena.attach`, `Arena.detach` — how a tree is built and changed.
* `Arena.previousSibling?`, `Arena.nextSibling?` — the neighbours of a node.
* `Arena.preorder` — the nodes below a node, itself included, in document order.
* `Arena.gather` — the text of the nodes below a node.
-/

namespace DocComments

/-- A node with its parent and its children. -/
structure Slot (α : Type) where
  value : α
  parent : Option Nat := none
  children : List Nat := []
  deriving Repr, DecidableEq

/-- The nodes of a tree, in the order in which they were made. -/
structure Arena (α : Type) where
  slots : Array (Slot α)
  deriving Repr, DecidableEq

/-- A content with a position in a text. -/
structure Placed (α : Type) where
  value : α
  position : Position
  deriving Repr, DecidableEq

/-- A tree as a value. -/
inductive Rose (α : Type) where
  | node (value : α) (children : List (Rose α))

namespace Arena

variable {α : Type}

/-- The arena of a tree that has only its root. -/
def singleton (root : α) : Arena α :=
  { slots := #[{ value := root }] }

/-- The number of nodes ever made. -/
def size (a : Arena α) : Nat :=
  a.slots.size

/-- The content of a node. -/
def value? (a : Arena α) (id : Nat) : Option α :=
  a.slots[id]?.map (·.value)

/-- The parent of a node. -/
def parent? (a : Arena α) (id : Nat) : Option Nat :=
  a.slots[id]?.bind (·.parent)

/-- The children of a node, in order. -/
def children (a : Arena α) (id : Nat) : List Nat :=
  (a.slots[id]?.map (·.children)).getD []

/-- Changes a node. -/
def modify (a : Arena α) (id : Nat) (f : Slot α → Slot α) : Arena α :=
  { slots := a.slots.modify id f }

/-- Changes the content of a node. -/
def modifyValue (a : Arena α) (id : Nat) (f : α → α) : Arena α :=
  a.modify id fun s => { s with value := f s.value }

/-- Makes a node that has no parent yet; its index is the size of the arena before. -/
def alloc (a : Arena α) (value : α) : Arena α :=
  { slots := a.slots.push { value } }

/-- Makes a node the last child of another one. -/
def attach (a : Arena α) (parent child : Nat) : Arena α :=
  (a.modify child fun s => { s with parent := some parent }).modify parent fun s =>
    { s with children := s.children ++ [child] }

/-- Makes a new node that is the last child of another one. -/
def push (a : Arena α) (parent : Nat) (value : α) : Arena α :=
  (a.alloc value).attach parent a.size

mutual

/-- Puts a tree into an arena, below a node. -/
def plant (a : Arena α) (parent : Nat) : Rose α → Arena α
  | .node value children => plantAll (a.push parent value) a.size children

/-- Puts trees into an arena, one after the other, below a node. -/
def plantAll (a : Arena α) (parent : Nat) : List (Rose α) → Arena α
  | [] => a
  | tree :: rest => plantAll (a.plant parent tree) parent rest

end

/-- The arena of a tree. -/
def ofRose : Rose α → Arena α
  | .node value children => (singleton value).plantAll 0 children

/-- Takes a node, and with it everything below it, from its parent. -/
def detach (a : Arena α) (id : Nat) : Arena α :=
  match a.parent? id with
  | none => a
  | some parent =>
    (a.modify id fun s => { s with parent := none }).modify parent fun s =>
      { s with children := s.children.filter (· != id) }

/-- The element of a list before a given one. -/
def before? (id : Nat) : List Nat → Option Nat
  | a :: b :: rest => if a = id then none else if b = id then some a else before? id (b :: rest)
  | _ => none

/-- The element of a list after a given one. -/
def after? (id : Nat) : List Nat → Option Nat
  | a :: rest => if a = id then rest.head? else after? id rest
  | [] => none

/-- The child of the same parent before a node. -/
def previousSibling? (a : Arena α) (id : Nat) : Option Nat :=
  (a.parent? id).bind fun parent => before? id (a.children parent)

/-- The child of the same parent after a node. -/
def nextSibling? (a : Arena α) (id : Nat) : Option Nat :=
  (a.parent? id).bind fun parent => after? id (a.children parent)

/-- Visits nodes and everything below them in document order. The first argument bounds the number
of visits. -/
def visit (a : Arena α) : Nat → List Nat → List Nat
  | 0, _ => []
  | _ + 1, [] => []
  | fuel + 1, id :: rest => id :: visit a fuel (a.children id ++ rest)

/-- The nodes below a node, itself included, in document order. -/
def preorder (a : Arena α) (id : Nat) : List Nat :=
  a.visit a.size [id]

/-- Collects the text of nodes and of everything below them. A node for which `text?` gives a text
is not descended into. The first argument bounds the number of visits. -/
def gatherFrom (text? : α → Option (List Char)) (a : Arena α) : Nat → List Nat → List Char
  | 0, _ => []
  | _ + 1, [] => []
  | fuel + 1, id :: rest =>
    match (a.value? id).bind text? with
    | some text => text ++ gatherFrom text? a fuel rest
    | none => gatherFrom text? a fuel (a.children id ++ rest)

/-- The text of a node and of everything below it. -/
def gather (text? : α → Option (List Char)) (a : Arena α) (id : Nat) : List Char :=
  gatherFrom text? a a.size [id]

/-! ## Nodes with positions -/

/-- What a node is. -/
def node? (a : Arena (Placed α)) (id : Nat) : Option α :=
  (a.value? id).map (·.value)

/-- The position of a node. -/
def position (a : Arena (Placed α)) (id : Nat) : Position :=
  ((a.value? id).map (·.position)).getD {}

/-- Changes what a node is. -/
def modifyNode (a : Arena (Placed α)) (id : Nat) (f : α → α) : Arena (Placed α) :=
  a.modifyValue id fun p => { p with value := f p.value }

end Arena

end DocComments
