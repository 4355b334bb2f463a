import DocComments.Link.Registration
import DocComments.Table

set_option autoImplicit false

/-!
# The registry

The registry of a run holds what all documents have registered. It is kept sorted, so that it does
not depend on the order of the registrations of different documents.

## Main definitions

* `Registry` — the ids, short names and documents that are registered.
* `Registry.merge` — the registry with a registration added.
* `Registry.register`, `Registry.registerAll` — the registry with documents added.
-/

namespace DocComments

/-- What the documents of a run have registered. -/
structure Registry where
  /-- For each id the documents that have it, with the anchor it leads to there. -/
  long : Table (Table String) := .empty
  /-- For each short name the ids it may stand for. -/
  short : Table NameSet := .empty
  /-- The registered documents. -/
  documents : NameSet := .empty
  deriving Repr, DecidableEq

namespace Registry

/-- Adds an id of a document. -/
def addLong (document : String) (long : Table (Table String)) (entry : String × String) :
    Table (Table String) :=
  long.alter entry.1 fun old => (old.getD .empty).insert document entry.2

/-- Adds an id that a short name may stand for. -/
def addShort (short : Table NameSet) (entry : String × String) : Table NameSet :=
  short.alter entry.1 fun old => (old.getD .empty).insert entry.2 ()

/-- Adds a registration. -/
def merge (r : Registry) (x : Registration) : Registry :=
  { long := x.long.foldl (addLong x.document) r.long
    short := x.short.foldl addShort r.short
    documents := r.documents.insert x.document () }

/-- The document is registered. -/
def isRegistered (r : Registry) (document : String) : Bool :=
  r.documents.contains document

/-- Registers a document, unless two of its entities collide. -/
def register (r : Registry) (d : Document) : Except Collision Registry :=
  d.register.map r.merge

/-- Registers documents. Those with a collision are left out. -/
def registerAll (r : Registry) : List Document → Registry × List Collision
  | [] => (r, [])
  | d :: rest =>
    match r.register d with
    | .ok r => r.registerAll rest
    | .error collision =>
      let (r, collisions) := r.registerAll rest
      (r, collision :: collisions)

end Registry

end DocComments
