import DocComments.Diagnostic
import DocComments.Link.Lookup

set_option autoImplicit false

/-!
# Resolving links

Every link without a written destination is looked up and leads where its name was found. One that
was not found stays without a destination, and gives a warning.

## Main definitions

* `Comment.bindLinks`, `Comment.linkProblems` — the links of a comment looked up.
* `Registry.resolve` — the links of a document looked up.
* `Registry.resolveAll` — the links of all registered documents looked up.
-/

namespace DocComments

/-- A way to look up the names in a comment. -/
abbrev Finder := List Char → Except LinkError Destination

namespace Comment

/-- Where a link leads whose name was looked up. -/
def Target.ofResult : Except LinkError Destination → Target
  | .ok destination => .resolved destination
  | .error _ => .unresolved

/-- Looks up the name of a link without a written destination. -/
def Node.bind (find : Finder) : Node → Node
  | link name target =>
    if target.isAutomatic then link name (Target.ofResult (find name)) else link name target
  | node => node

/-- The problem of a link whose name was not found. -/
def Node.problem? (find : Finder) : Node → Option LinkError
  | link name target =>
    if target.isAutomatic then
      match find name with
      | .ok _ => none
      | .error e => some e
    else none
  | _ => none

/-- Looks up the links of a comment. -/
def bindLinks (find : Finder) (c : Comment) : Comment :=
  (links c).foldl (fun c id => c.modifyNode id (Node.bind find)) c

/-- A warning for every link whose name was not found, in document order. -/
def linkProblems (find : Finder) (entity : String) (c : Comment) : List Diagnostic :=
  (links c).filterMap fun id =>
    ((c.node? id).bind (Node.problem? find)).map fun e =>
      Diagnostic.warning entity (c.position id) e.message

end Comment

/-- Looks up the links in the comment of a member. -/
def Member.bindLinks (find : Finder) (m : Member) : Member :=
  { m with comment := m.comment.map (Comment.bindLinks find) }

/-- Warnings for the links in the comment of a member. -/
def Member.linkProblems (find : Finder) (m : Member) : List Diagnostic :=
  match m.comment with
  | none => []
  | some c => Comment.linkProblems find m.qualifiedName c

/-- Looks up the links in the comments of an entity. -/
def Entity.bindLinks (find : Finder) (e : Entity) : Entity :=
  { e with members := e.members.map (Member.bindLinks find) }

/-- Warnings for the links in the comments of an entity. -/
def Entity.linkProblems (find : Finder) (e : Entity) : List Diagnostic :=
  e.members.flatMap (Member.linkProblems find)

namespace Registry

/-- Looks up the links of a document, and returns a warning for every one that was not found. -/
def resolve (r : Registry) (d : Document) : Document × List Diagnostic :=
  let order := d.preorder
  (order.foldl (fun d' id => d'.modify id (Entity.bindLinks (r.lookup d id))) d,
    order.flatMap fun id =>
      match d.get? id with
      | some e => e.linkProblems (r.lookup d id)
      | none => [])

/-- Looks up the links of the documents that are registered; the others stay as they are. -/
def resolveAll (r : Registry) (documents : List Document) : List Document × List Diagnostic :=
  let results := documents.map fun d => if r.isRegistered d.id then r.resolve d else (d, [])
  (results.map (·.1), results.flatMap (·.2))

end Registry

end DocComments
