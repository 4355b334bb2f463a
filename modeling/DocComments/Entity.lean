import DocComments.Comment.Node
import DocComments.Declaration

set_option autoImplicit false

/-!
# Documented entities

An entity stands for one declaration, or for several that are grouped; each of them is a member of
the entity. The entities of a document make a tree.

## Main definitions

* `Member`, `InlineEntity`, `Entity` — an entity, its declarations and the named parts its comments
  document.
* `Document` — the entities of a document.
* `Document.preorder`, `Document.find?` — the entities in order, and the one with a given id.
* `Document.anchor?` — the anchor an entity is reached at.
-/

namespace DocComments

/-- A declaration that an entity stands for. -/
structure Member where
  /-- The place among the members, counted from one. -/
  number : Nat
  qualifiedName : String
  /-- The id of the declaration itself. -/
  uniqueId : String
  signature : String
  position : Position
  comment : Option Comment

/-- A named part of an entity that a section of a comment documents. -/
structure InlineEntity where
  kind : SectionKind
  name : String
  uniqueId : String
  /-- The index of the member whose comment has the section. -/
  member : Nat
  /-- The node of the section in that comment. -/
  section_ : Nat

/-- A documented entity. -/
structure Entity where
  kind : EntityKind
  name : String
  qualifiedName : String
  uniqueId : String
  heading : String
  group : Option String
  module : Option String
  excluded : Bool
  members : List Member
  inlines : List InlineEntity

namespace Entity

/-- Files always have an anchor; every other entity has one if it is not excluded and has a
comment. -/
def isDocumented (e : Entity) : Bool :=
  e.kind == .file || (!e.excluded && e.members.any fun m => m.comment.isSome)

/-- The comments of the members. -/
def comments (e : Entity) : List Comment :=
  e.members.filterMap (·.comment)

end Entity

/-- The entities of a document. -/
structure Document where
  id : String
  entities : Arena Entity

namespace Document

/-- The entity with a given index. -/
def get? (d : Document) (id : Nat) : Option Entity :=
  d.entities.value? id

/-- Changes an entity. -/
def modify (d : Document) (id : Nat) (f : Entity → Entity) : Document :=
  { d with entities := d.entities.modifyValue id f }

/-- The indices of all entities, in document order. -/
def preorder (d : Document) : List Nat :=
  d.entities.preorder 0

/-- The first entity in document order with a given id. -/
def find? (d : Document) (uniqueId : String) : Option Nat :=
  d.preorder.find? fun id => (d.get? id).any (·.uniqueId == uniqueId)

/-- The id of the nearest documented entity, from an entity upwards. The first argument bounds the
number of steps. -/
def anchorFrom? (d : Document) : Nat → Nat → Option String
  | 0, _ => none
  | fuel + 1, id =>
    match d.get? id with
    | none => none
    | some entity =>
      if entity.isDocumented then some entity.uniqueId
      else (d.entities.parent? id).bind (anchorFrom? d fuel)

/-- The anchor an entity is reached at: its own if it is documented, else that of the nearest
documented entity around it. -/
def anchor? (d : Document) (id : Nat) : Option String :=
  d.anchorFrom? d.entities.size id

end Document

end DocComments
