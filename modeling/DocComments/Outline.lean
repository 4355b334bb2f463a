import DocComments.Entity

set_option autoImplicit false

/-!
# Outlines

The outline of a document is a text with a line for every entity, indented by how deep it is, and
below it a line for every section of its comments and for every link in them.

## Main definitions

* `Comment.sectionLabel`, `Comment.outline` — the lines of a comment.
* `Entity.outline` — the lines of an entity.
* `Document.levels` — the entities in document order, with their depths.
* `Document.outline` — the outline of a document.
-/

namespace DocComments

/-- The blanks a line at a given depth starts with. -/
def indentation (depth : Nat) : String :=
  String.ofList (List.replicate (2 * depth) ' ')

/-- Where a link leads, as it is shown. -/
def Comment.Target.outline : Comment.Target → String
  | explicit url => String.ofList url
  | unresolved => "unresolved"
  | resolved d => d.document ++ "#" ++ d.anchor

namespace Comment

/-- What a section is called. -/
def sectionLabel : Option Node → String
  | some (.paragraph .brief _) => "brief"
  | some (.paragraph .details _) => "details"
  | some (.paragraph _ title) => title
  | some (.list (some _)) => "ordered list"
  | some (.list none) => "list"
  | some .quote => "quote"
  | some (.heading _) => "heading"
  | some (.code ..) => "code"
  | some .rule => "rule"
  | _ => "block"

/-- The text of a section on one line. -/
def sectionText (c : Comment) (id : Nat) : String :=
  String.ofList (Text.trimEnd ((text c id).map fun ch => if ch == '\n' then ' ' else ch))

/-- A line for every link in a section. -/
def linkLines (c : Comment) (id : Nat) : List String :=
  (c.preorder id).filterMap fun node =>
    match c.node? node with
    | some (.link name target) => some ("  -> [" ++ String.ofList name ++ "] " ++ target.outline)
    | _ => none

/-- The lines of a section; `label` is what follows its name. -/
def sectionLines (c : Comment) (label : Nat → String) (id : Nat) : List String :=
  ("- " ++ sectionLabel (c.node? id) ++ label id ++ ": " ++ sectionText c id) :: linkLines c id

/-- The lines of a comment. -/
def outline (c : Comment) (label : Nat → String) : List String :=
  (sections c).flatMap (sectionLines c label)

end Comment

namespace Entity

/-- The id of the named part that a section documents, if it does, in brackets. -/
def inlineLabel (e : Entity) (member section_ : Nat) : String :=
  match e.inlines.find? fun part => part.member == member && part.section_ == section_ with
  | some part => " [" ++ part.uniqueId ++ "]"
  | none => ""

/-- The line of an entity. -/
def headline (e : Entity) : String :=
  e.uniqueId ++ " \"" ++ e.heading ++ "\"" ++
    (match e.module with
      | some name => " module=" ++ name
      | none => "") ++
    (if e.excluded then " (excluded)" else if e.isDocumented then "" else " (undocumented)")

/-- The signatures of the members, shown if there are several. -/
def signatureLines (e : Entity) : List String :=
  if e.members.length > 1 then e.members.map fun m => s!"({m.number}) {m.signature}" else []

/-- The lines of the comments of the members. -/
def commentLines (e : Entity) : List String :=
  e.members.zipIdx.flatMap fun (m, index) =>
    match m.comment with
    | some c => Comment.outline c (e.inlineLabel index)
    | none => []

/-- The lines of an entity, at a given depth. -/
def outline (e : Entity) (depth : Nat) : List String :=
  (indentation depth ++ e.headline) ::
    (e.signatureLines ++ e.commentLines).map (indentation (depth + 1) ++ ·)

end Entity

namespace Document

/-- Visits entities and everything below them in document order, each with its depth. The first
argument bounds the number of visits. -/
def levelsFrom (d : Document) : Nat → List (Nat × Nat) → List (Nat × Nat)
  | 0, _ => []
  | _ + 1, [] => []
  | fuel + 1, (id, depth) :: rest =>
    (id, depth) ::
      levelsFrom d fuel ((d.entities.children id).map (fun child => (child, depth + 1)) ++ rest)

/-- The entities in document order, with their depths. -/
def levels (d : Document) : List (Nat × Nat) :=
  d.levelsFrom d.entities.size [(0, 0)]

/-- The outline of a document. -/
def outline (d : Document) : String :=
  let lines := d.levels.flatMap fun (id, depth) =>
    match d.get? id with
    | some e => e.outline depth
    | none => []
  String.join (lines.map (· ++ "\n"))

end Document

end DocComments
