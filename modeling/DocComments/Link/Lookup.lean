import DocComments.Link.Registry
import DocComments.Text.Quoted

set_option autoImplicit false

/-!
# Finding what a link names

A name with a relative sigil is looked for among the children of a scope. Any other name is looked
for as an id, then as an id with its member or its arguments left out, and last as a short name. An
id that several documents have leads into the document of the link, if that is one of them.

## Main definitions

* `LinkError`, `LinkError.message` — why a name was not found.
* `Registry.findId?` — the exact lookup of an id.
* `Registry.findShort` — the lookup of a short name.
* `findRelative` — the lookup of a relative name.
* `Registry.lookup` — the lookup of a name as it is written in a comment.
-/

namespace DocComments

/-- Why a name was not found. -/
inductive LinkError where
  /-- Nothing has the name. -/
  | unknown (name : String)
  /-- Several entities have the name. -/
  | ambiguous (name : String) (candidates : List String)
  /-- No entity of the scope has the name. -/
  | relativeNotFound (name scope : String)
  /-- Several entities of the scope have the name. -/
  | relativeAmbiguous (name scope : String)
  deriving Repr, DecidableEq

/-- What is said about a name that was not found. -/
def LinkError.message : LinkError → String
  | unknown name => s!"Unknown link target '{name}'"
  | ambiguous name candidates =>
    s!"Ambiguous link target '{name}', candidates: " ++ Text.quoteList candidates
  | relativeNotFound name scope => s!"No entity '{name}' in scope '{scope}'"
  | relativeAmbiguous name scope => s!"Ambiguous relative link '{name}' in scope '{scope}'"

/-! ## Relative names -/

/-- The scope an entity belongs to: itself if its kind is one, else the entity around it. -/
def ownScope? (d : Document) (referrer : Nat) : Option Nat :=
  match d.get? referrer with
  | none => none
  | some entity => if entity.kind.isScope then some referrer else d.entities.parent? referrer

/-- The scope whose children a relative name is looked for among. -/
def relativeScope? (d : Document) (referrer : Nat) : Name.Relation → Option Nat
  | .child => ownScope? d referrer
  | .sibling => (ownScope? d referrer).bind d.entities.parent?

/-- The entity has the name, or its id ends in it. -/
def Entity.isCalled (e : Entity) (name : List Char) : Bool :=
  !e.excluded &&
    (e.name.toList == name || Name.lastComponent e.uniqueId.toList == Name.shortKey name)

/-- The children of a scope with a given name. -/
def childrenCalled (d : Document) (scope : Nat) (name : List Char) : List Nat :=
  (d.entities.children scope).filter fun id => (d.get? id).any fun e => e.isCalled name

/-- Looks for a name among the children of a scope, never deeper or wider. -/
def findRelative (d : Document) (referrer : Nat) (relation : Name.Relation) (name : List Char) :
    Except LinkError Destination :=
  let written := String.ofList name
  match relativeScope? d referrer relation with
  | none => .error (.relativeNotFound written "")
  | some scope =>
    let scopeName := ((d.get? scope).map (·.uniqueId)).getD ""
    match childrenCalled d scope name with
    | [] => .error (.relativeNotFound written scopeName)
    | [found] =>
      match d.anchor? found with
      | some anchor => .ok ⟨d.id, anchor⟩
      | none => .error (.relativeNotFound written scopeName)
    | _ => .error (.relativeAmbiguous written scopeName)

/-! ## Registered names -/

namespace Registry

/-- Where an id leads among the documents that have it: into the document of the link if it is one of
them, else into the only one. Failures are reported under the name as it was written. -/
def choose (entries : Table String) (document written id : String) : Except LinkError Destination :=
  match entries.get? document with
  | some anchor => .ok ⟨document, anchor⟩
  | none =>
    match entries.entries with
    | [(other, anchor)] => .ok ⟨other, anchor⟩
    | _ => .error (.ambiguous written (entries.keys.map fun other => other ++ ":" ++ id))

/-- Looks for an id; gives nothing if no document has it. -/
def findId? (r : Registry) (document written id : String) : Option (Except LinkError Destination) :=
  (r.long.get? id).map fun entries => choose entries document written id

/-- Looks for a short name. -/
def findShort (r : Registry) (document written : String) (name : List Char) :
    Except LinkError Destination :=
  match (r.short.get? (String.ofList (Name.shortKey name))).map (·.keys) with
  | none | some [] => .error (.unknown written)
  | some [id] => (r.findId? document written id).getD (.error (.unknown written))
  | some ids => .error (.ambiguous written ids)

/-- The owner of the member that a name ends in. -/
def owner? (name : List Char) : Option (List Char) :=
  (Name.splitMember? name).map (·.1)

/-- The ids that a name may stand for if it is none itself: without its member, without its
arguments, and without both. -/
def fallbacks (name : List Char) : List (List Char) :=
  let owner := (owner? name).toList
  (owner ++ [Name.stripSignature name] ++ owner.map Name.stripSignature).filter fun candidate =>
    candidate != name && !candidate.isEmpty

/-- Looks for a name as it is written in the comment of an entity. -/
def lookup (r : Registry) (d : Document) (referrer : Nat) (name : List Char) :
    Except LinkError Destination :=
  match Name.relative? name with
  | some (relation, rest) => findRelative d referrer relation rest
  | none =>
    let written := String.ofList name
    let find? (id : List Char) := r.findId? d.id written (String.ofList id)
    match find? name with
    | some found => found
    | none =>
      match (fallbacks name).findSome? find? with
      | some found => found
      | none => r.findShort d.id written ((owner? name).getD name)

end Registry

end DocComments
