import DocComments.Entity
import DocComments.Name.Forms

set_option autoImplicit false

/-!
# What a document registers

A document registers the ids of its entities, the names of their members and the ids of the named
parts they document, each with an anchor in the document, and besides the short names its entities
can be found under. Excluded entities register nothing. Two entities with the same id collide, and
then the document registers nothing at all.

## Main definitions

* `Collision` — two entities of a document with the same id.
* `Registration` — what a document registers.
* `Document.listings` — the entities that count, with their anchors.
* `Listing.repeated?` — the first entity whose id was taken before.
* `Document.register` — the registration of a document.
-/

namespace DocComments

/-- Two entities of a document with the same id; the entity and the position are those of the second
one. -/
structure Collision where
  document : String
  uniqueId : String
  entity : String
  position : Position
  deriving Repr, DecidableEq

/-- What is said about a collision. -/
def Collision.message (c : Collision) : String :=
  s!"Duplicate unique id '{c.uniqueId}' in document '{c.document}'"

/-- What a document registers. -/
structure Registration where
  document : String
  /-- The ids, each with the anchor it leads to. -/
  long : List (String × String)
  /-- The short names, each with the id of an entity it may stand for. -/
  short : List (String × String)
  deriving Repr, DecidableEq

/-- An entity with the anchor it is reached at. -/
structure Listing where
  entity : Entity
  anchor : Option String

namespace Listing

/-- The first entity whose id is among the given ones or was that of an entity before it. -/
def repeated? (seen : List String) : List Listing → Option Listing
  | [] => none
  | l :: rest =>
    if l.entity.uniqueId ∈ seen then some l else repeated? (l.entity.uniqueId :: seen) rest

/-- The id of the entity itself, with its anchor. -/
def own (l : Listing) : List (String × String) :=
  match l.anchor with
  | none => []
  | some anchor => [(l.entity.uniqueId, anchor)]

/-- The names of the members: for each of them its id and its qualified name. -/
def memberNames (l : Listing) : List String :=
  l.entity.members.flatMap fun m => [m.uniqueId, m.qualifiedName]

/-- What the entity can be found under besides its own id. The named parts have anchors of their
own. -/
def others (l : Listing) : List (String × String) :=
  match l.anchor with
  | none => []
  | some anchor =>
    l.memberNames.map (fun name => (name, anchor)) ++
      l.entity.inlines.map fun part => (part.uniqueId, part.uniqueId)

/-- The short names of the entity, from the names of its members and from its own id. -/
def aliases (l : Listing) : List (String × String) :=
  match l.anchor with
  | none => []
  | some _ =>
    (l.memberNames ++ [l.entity.uniqueId]).flatMap fun name =>
      (Name.shortAliases name.toList).map fun short =>
        (String.ofList short, l.entity.uniqueId)

end Listing

/-- The entries whose key is not among the given ones, and of several with the same key only the
first. -/
def keepNew (seen : List String) : List (String × String) → List (String × String)
  | [] => []
  | (key, value) :: rest =>
    if key ∈ seen then keepNew seen rest else (key, value) :: keepNew (key :: seen) rest

namespace Document

/-- The entities that are not excluded, in document order, with their anchors. -/
def listings (d : Document) : List Listing :=
  d.preorder.filterMap fun id =>
    match d.get? id with
    | some entity => if entity.excluded then none else some { entity, anchor := d.anchor? id }
    | none => none

/-- The registration of a document, or the first collision in it. No other name takes the place of
the id of an entity. -/
def register (d : Document) : Except Collision Registration :=
  let listed := d.listings
  match Listing.repeated? [] listed with
  | some l =>
    .error
      { document := d.id, uniqueId := l.entity.uniqueId, entity := l.entity.qualifiedName,
        position := (l.entity.members.head?.map (·.position)).getD {} }
  | none =>
    .ok
      { document := d.id
        long := listed.flatMap (·.own) ++
          keepNew (listed.map (·.entity.uniqueId)) (listed.flatMap (·.others))
        short := listed.flatMap (·.aliases) }

end Document

end DocComments
