import DocComments.Comment.Classify
import DocComments.Entity

set_option autoImplicit false

/-!
# Assembling a document

The declarations of a document become entities level by level. The comments of all siblings are read
first; sections with metadata are taken out of them. Siblings with the same group tag become one
entity, at the place of the first of them, and what is declared inside any of them becomes the next
level of that entity. The text of the comments is handed to a reader of marked-up text, and nothing
else depends on how it is read.

## Main definitions

* `Metadata`, `extractMetadata` — what the metadata sections of a comment say.
* `Entry`, `readEntry` — a declaration with its comment read.
* `groupEntries` — siblings with the same tag put together.
* `takeInlines` — the named parts that a comment documents.
* `makeEntity` — the entity of a group.
* `assemble` — the document of a declaration.
-/

namespace DocComments

/-! ## Metadata -/

/-- What the metadata sections of a comment say. -/
structure Metadata where
  group : Option String := none
  groupTitle : Option String := none
  uniqueName : Option String := none
  module : Option String := none
  exclude : Bool := false

/-- The problem that a command without its argument is. -/
def missingArgument (settings : Settings) (entity : String) (c : Comment) (id : Nat)
    (kind : SectionKind) : Diagnostic :=
  Diagnostic.warning entity (c.position id)
    (Comment.Error.missingArgument ((settings.commandWord? kind).getD kind.defaultTitle)).message

/-- The metadata with one more section taken into account, or nothing if its argument is missing. A
later section of the same role replaces an earlier one. -/
def Metadata.add? (m : Metadata) (kind : SectionKind) (argument : List Char) : Option Metadata :=
  match kind with
  | .exclude => some { m with exclude := true }
  | .group =>
    let (tag, title) := Text.splitWord argument
    let title := Text.trim title
    if tag.isEmpty then none
    else
      some { m with
        group := some (String.ofList tag)
        groupTitle := if title.isEmpty then none else some (String.ofList title) }
  | .uniqueName =>
    if argument.isEmpty then none else some { m with uniqueName := some (String.ofList argument) }
  | .module =>
    if argument.isEmpty then none else some { m with module := some (String.ofList argument) }
  | _ => none

/-- What has been taken out of a comment: the comment left, what was said, and the problems
found. -/
structure Extraction where
  comment : Comment
  metadata : Metadata := {}
  diagnostics : List Diagnostic := []

/-- Takes a section out of a comment if it has metadata. -/
def Extraction.take (settings : Settings) (entity : String) (x : Extraction) (id : Nat) :
    Extraction :=
  match Comment.sectionKind? x.comment id with
  | none => x
  | some kind =>
    if !kind.isMetadata then x
    else
      let rest := x.comment.detach id
      match x.metadata.add? kind (Comment.firstLine x.comment id) with
      | some metadata => { x with comment := rest, metadata }
      | none =>
        { x with
          comment := rest
          diagnostics := x.diagnostics ++ [missingArgument settings entity x.comment id kind] }

/-- Takes the metadata sections out of a comment. -/
def extractMetadata (settings : Settings) (entity : String) (c : Comment) : Extraction :=
  (Comment.sections c).foldl (Extraction.take settings entity) { comment := c }

/-! ## Reading declarations -/

/-- The entity around a level of declarations. -/
structure Scope where
  kind : EntityKind
  qualifiedName : String

/-- A declaration with its comment read; an excluded one has none. -/
structure Entry where
  source : Declaration
  comment : Option Comment
  metadata : Metadata
  uniqueId : String

/-- The id a comment asks for. A name after `*` is relative to the scope around the declaration,
unless that is a file. -/
def requestedId (scope : Option Scope) (name : String) : String :=
  match name.toList with
  | '*' :: rest =>
    let rest := String.ofList rest
    match scope with
    | some s => if s.kind = .file then rest else s.qualifiedName ++ "::" ++ rest
    | none => rest
  | _ => name

/-- Reads the comment of a declaration; returns the problems found. -/
def readEntry (settings : Settings) (reader : Markup.TextReader) (scope : Option Scope)
    (source : Declaration) : Entry × List Diagnostic :=
  match source.comment with
  | none =>
    ({ source, comment := none, metadata := {}, uniqueId := source.qualifiedName }, [])
  | some raw =>
    let (comment, problems) := Comment.parse settings source.qualifiedName raw.toList reader
    let x := extractMetadata settings source.qualifiedName comment
    let uniqueId :=
      match x.metadata.uniqueName with
      | some name => requestedId scope name
      | none => source.qualifiedName
    ({ source, comment := if x.metadata.exclude then none else some x.comment,
       metadata := x.metadata, uniqueId }, problems ++ x.diagnostics)

/-! ## Groups -/

/-- The entry belongs to a group that has been started. -/
def Entry.joins (entry : Entry) (group : List Entry) : Bool :=
  match entry.metadata.group, group.head?.bind (·.metadata.group) with
  | some tag, some other => tag == other
  | _, _ => false

/-- Adds an entry to the group it belongs to, or starts a new one at the end. -/
def addEntry (groups : List (List Entry)) (entry : Entry) : List (List Entry) :=
  match groups with
  | [] => [[entry]]
  | group :: rest =>
    if entry.joins group then (group ++ [entry]) :: rest else group :: addEntry rest entry

/-- Siblings with the same tag put together, in the order of the first of them. -/
def groupEntries (entries : List Entry) : List (List Entry) :=
  entries.foldl addEntry []

/-! ## Named parts -/

/-- Takes the first word off the text a paragraph starts with. -/
def takeWord? (c : Comment) (paragraph : Nat) : Option (List Char × Comment) :=
  match c.children paragraph with
  | [] => none
  | first :: _ =>
    match c.node? first with
    | some (.text value) =>
      let (word, rest) := Text.splitWord (Text.trimStart value)
      if word.isEmpty then none
      else some (word, c.modifyNode first fun _ => .text (Text.trimStart rest))
    | _ => none

/-- The id of a named part: base classes are scopes of their own, parameters are members. -/
def inlineId (owner : String) (kind : SectionKind) (name : String) : String :=
  if kind = .baseClass then owner ++ "::" ++ name else owner ++ "." ++ name

/-- What has been read of a comment's named parts: the comment left, the parts, and the problems
found. -/
structure InlineReading where
  comment : Comment
  inlines : List InlineEntity := []
  diagnostics : List Diagnostic := []

/-- Reads the named part that a section documents, if it does. -/
def InlineReading.take (settings : Settings) (owner entity : String) (member : Nat)
    (x : InlineReading) (id : Nat) : InlineReading :=
  match Comment.sectionKind? x.comment id with
  | none => x
  | some kind =>
    if !kind.isInline then x
    else
      match takeWord? x.comment id with
      | none =>
        { x with
          diagnostics := x.diagnostics ++ [missingArgument settings entity x.comment id kind] }
      | some (word, comment) =>
        let name := String.ofList word
        { x with
          comment
          inlines := x.inlines ++
            [{ kind, name, uniqueId := inlineId owner kind name, member, section_ := id }] }

/-- Reads the named parts that a comment documents. -/
def takeInlines (settings : Settings) (owner entity : String) (member : Nat) (c : Comment) :
    InlineReading :=
  (Comment.sections c).foldl (InlineReading.take settings owner entity member) { comment := c }

/-! ## Entities -/

/-- The members of a group, the named parts their comments document, and the problems found. -/
structure MemberReading where
  members : List Member := []
  inlines : List InlineEntity := []
  diagnostics : List Diagnostic := []

/-- Adds the member that an entry becomes. -/
def MemberReading.add (settings : Settings) (owner : String) (x : MemberReading) (entry : Entry) :
    MemberReading :=
  let index := x.members.length
  let member (comment : Option Comment) : Member :=
    { number := index + 1, qualifiedName := entry.source.qualifiedName, uniqueId := entry.uniqueId,
      signature := entry.source.signature, position := entry.source.position, comment }
  match entry.comment with
  | none => { x with members := x.members ++ [member none] }
  | some c =>
    let read := takeInlines settings owner entry.source.qualifiedName index c
    { members := x.members ++ [member (some read.comment)], inlines := x.inlines ++ read.inlines,
      diagnostics := x.diagnostics ++ read.diagnostics }

/-- The entity of a group, given its first entry; returns the problems found. -/
def makeEntity (settings : Settings) (first : Entry) (rest : List Entry) :
    Entity × List Diagnostic :=
  let entries := first :: rest
  let source := first.source
  let read := entries.foldl (MemberReading.add settings first.uniqueId) {}
  let heading := (entries.findSome? (·.metadata.groupTitle)).getD
    (source.kind.displayName ++ " " ++ source.name)
  ({ kind := source.kind, name := source.name, qualifiedName := source.qualifiedName,
     uniqueId := first.uniqueId, heading, group := first.metadata.group,
     module := entries.findSome? (·.metadata.module),
     excluded := entries.all (·.metadata.exclude), members := read.members,
     inlines := read.inlines }, read.diagnostics)

/-- The trees of entities that a level of declarations becomes, and the problems found: first those
of the comments of the level, then group by group those of its named parts and of the level inside
it. The first argument bounds the number of levels. -/
def assembleLevel (settings : Settings) (reader : Markup.TextReader) :
    Nat → Scope → List Declaration → List (Rose Entity) × List Diagnostic
  | 0, _, _ => ([], [])
  | depth + 1, scope, sources =>
    let read := sources.map (readEntry settings reader (some scope))
    let built := (groupEntries (read.map (·.1))).map fun (group : List Entry) =>
      match group with
      | [] => ([], [])
      | first :: rest =>
        let (entity, problems) := makeEntity settings first rest
        let inner : Scope := { kind := entity.kind, qualifiedName := entity.qualifiedName }
        let (children, below) :=
          assembleLevel settings reader depth inner
            (group.flatMap fun (e : Entry) => e.source.children)
        ([Rose.node entity children], problems ++ below)
    (built.flatMap (·.1), read.flatMap (·.2) ++ built.flatMap (·.2))

/-- The document of a declaration, and the problems found. -/
def assemble (settings : Settings) (id : String) (root : Declaration)
    (reader : Markup.TextReader := Markup.events) : Document × List Diagnostic :=
  let (entry, read) := readEntry settings reader none root
  let (entity, problems) := makeEntity settings entry []
  let scope : Scope := { kind := entity.kind, qualifiedName := entity.qualifiedName }
  let (children, below) := assembleLevel settings reader root.depth scope root.children
  ({ id, entities := Arena.ofRose (.node entity children) }, read ++ problems ++ below)

end DocComments
