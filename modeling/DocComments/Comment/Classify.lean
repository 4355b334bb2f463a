import DocComments.Comment.Error
import DocComments.Comment.Lines
import DocComments.Comment.Node
import DocComments.Diagnostic
import DocComments.Markup.Tree

set_option autoImplicit false

/-!
# From markup to sections

A walk over the markup tree turns every node into a typed one and gives the top-level paragraphs
their roles: the first one without a command is the brief description, the others are details, and a
command word selects its role. Typed nodes join the innermost open container as they are entered;
top-level ones are collected and joined to the root at the end. Paragraphs inside other blocks have
no role of their own.

Raw markup and images cannot be turned, and a paragraph with an unknown command has no role. Such a
node is taken out of the markup tree, and the walk goes on with the node that followed it: it is set
back to leaving the node before, or to entering the parent if there is none.

## Main definitions

* `Classifier` — the state of the walk.
* `Classifier.enter`, `Classifier.leave`, `Classifier.recover` — its steps; a step that fails keeps
  what it had done before.
* `classify` — the comment of a markup tree and the problems found.
* `parse` — the comment of a raw comment and the problems found.
-/

namespace DocComments.Comment

/-- What a comment is read with: the settings, the entity it belongs to, and its pieces. -/
structure Context where
  settings : Settings
  entity : String
  lines : List Piece

/-- The state of the walk: the markup still to be walked, the comment so far, the open typed nodes,
innermost first, the top-level nodes with their markup, in order, whether the brief description is
still to come, and the problems found, in order. -/
structure Classifier where
  tree : Markup.Tree
  comment : Comment := Comment.empty
  stack : List Nat := [0]
  topLevel : List (Nat × Nat) := []
  briefPending : Bool := true
  diagnostics : List Diagnostic := []

/-- An error at a position. -/
structure Failure where
  error : Error
  position : Position

namespace Classifier

/-- The position of a markup node in the raw comment. -/
def source (ctx : Context) (s : Classifier) (id : Nat) : Position :=
  toSource ctx.lines (s.tree.position id)

/-- The typed form of a markup node. -/
def convert (t : Markup.Tree) (id : Nat) : Except Error Node :=
  match t.node? id with
  | none | some .document => .ok .document
  | some .paragraph => .ok (.paragraph .details "")
  | some (.heading level) => .ok (.heading level)
  | some .quote => .ok .quote
  | some (.codeBlock language code) => .ok (.code language code)
  | some (.list start) => .ok (.list start)
  | some .item => .ok .item
  | some .rule => .ok .rule
  | some (.text value) => .ok (.text value)
  | some (.code value) => .ok (.codeSpan value)
  | some .emphasis => .ok .emphasis
  | some .strong => .ok .strong
  | some .softBreak => .ok .softBreak
  | some .hardBreak => .ok .hardBreak
  | some (.link target) =>
    .ok (.link (Text.trim (Markup.Tree.text t id))
      (if target.isEmpty then .unresolved else .explicit target))
  | some (.htmlBlock _) => .error (.unsupportedMarkup "HTML block")
  | some (.image _) => .error (.unsupportedMarkup "image")
  | some (.unsupported name) => .error (.unsupportedMarkup name)

/-- Enters a markup node: makes its typed form, and joins it to the innermost open one unless it is
top-level. A node without a typed form fails, and nothing is changed. -/
def enter (ctx : Context) (s : Classifier) (id : Nat) : Classifier × Option Failure :=
  match convert s.tree id with
  | .error error => (s, some ⟨error, s.source ctx id⟩)
  | .ok node =>
    let typed := s.comment.size
    let s := { s with comment := s.comment.alloc ⟨node, s.source ctx id⟩ }
    let s :=
      if s.tree.parent? id == some 0 then { s with topLevel := s.topLevel ++ [(id, typed)] }
      else
        match s.stack with
        | [] => s
        | parent :: _ => { s with comment := s.comment.attach parent typed }
    (if Markup.Tree.isContainer s.tree id then { s with stack := typed :: s.stack } else s, none)

/-- The command word at the start of a paragraph, the text node it stands in and the text after the
word. -/
def leadingCommand? (settings : Settings) (c : Comment) (paragraph : Nat) :
    Option (Nat × List Char × List Char) :=
  match c.children paragraph with
  | [] => none
  | first :: _ =>
    match c.node? first with
    | some (.text (mark :: rest)) =>
      if mark == settings.commandCharacter then
        let (word, tail) := Text.splitWord rest
        some (first, word, tail)
      else none
    | _ => none

/-- Gives a top-level paragraph its role and title, and takes the command off its text. -/
def assignRole (ctx : Context) (s : Classifier) (paragraph : Nat) : Except Failure Classifier :=
  match leadingCommand? ctx.settings s.comment paragraph with
  | none =>
    let kind := if s.briefPending then SectionKind.brief else .details
    .ok { s with
      briefPending := false
      comment := s.comment.modifyNode paragraph fun _ =>
        .paragraph kind (ctx.settings.title kind) }
  | some (first, word, tail) =>
    let name := String.ofList word
    let kind := ctx.settings.sectionFor name
    if kind = .invalid then .error ⟨.unknownCommand word, s.comment.position paragraph⟩
    else
      let title := if kind = .outputSection then name else ctx.settings.title kind
      .ok { s with
        comment := (s.comment.modifyNode first fun _ => .text (Text.trimStart tail)).modifyNode
          paragraph fun _ => .paragraph kind title }

/-- Leaves a markup node: its typed form is no longer open, and a top-level paragraph gets its role.
If there is none for it, the node stays left. -/
def leave (ctx : Context) (s : Classifier) (id : Nat) : Classifier × Option Failure :=
  match s.stack with
  | [] => (s, none)
  | typed :: stack =>
    let s := { s with stack }
    if s.tree.parent? id == some 0 && (sectionKind? s.comment typed).isSome then
      match s.assignRole ctx typed with
      | .ok s => (s, none)
      | .error failure => (s, some failure)
    else
      (s, none)

/-- Drops the typed form of a failing node. Nodes that cannot be turned have none, so only top-level
ones are looked through. -/
def discard (s : Classifier) (id : Nat) : Classifier :=
  match s.topLevel.find? (·.1 == id) with
  | none => s
  | some (_, typed) =>
    { s with topLevel := s.topLevel.eraseP (·.1 == id), comment := s.comment.detach typed }

/-- Notes a problem, takes the failing node out of the comment and of the markup, and says where the
walk goes on. -/
def recover (ctx : Context) (s : Classifier) (id : Nat) (failure : Failure) :
    Classifier × Option Markup.Walk :=
  let s : Classifier :=
    { s with
      diagnostics := s.diagnostics ++
        [Diagnostic.warning ctx.entity failure.position failure.error.message] }
  let s := s.discard id
  let resume :=
    match s.tree.previousSibling? id with
    | some previous => some (Markup.Walk.leave previous)
    | none => (s.tree.parent? id).map .enter
  let tree := s.tree.detach id
  ({ s with tree }, resume.bind (Markup.Tree.advance tree))

/-- Takes one event of the walk. The root itself needs no step. -/
def step (ctx : Context) (s : Classifier) (event : Markup.Walk) :
    Classifier × Option Markup.Walk :=
  let (s, failure) :=
    if event.id = 0 then (s, none)
    else
      match event with
      | .enter id => s.enter ctx id
      | .leave id => s.leave ctx id
  match failure with
  | none => (s, Markup.Tree.advance s.tree event)
  | some failure => s.recover ctx event.id failure

/-- Walks on from an event until the root is left. The first argument bounds the number of events. -/
def run (ctx : Context) : Nat → Classifier → Option Markup.Walk → Classifier
  | 0, s, _ => s
  | _ + 1, s, none => s
  | fuel + 1, s, some event =>
    let (s, next) := s.step ctx event
    run ctx fuel s next

/-- Joins the top-level nodes to the root. -/
def finish (s : Classifier) : Comment × List Diagnostic :=
  (s.topLevel.foldl (fun c entry => c.attach 0 entry.2) s.comment, s.diagnostics)

end Classifier

/-- The comment of a markup tree and the problems found. Every node is entered and left at most
once. -/
def classify (ctx : Context) (tree : Markup.Tree) : Comment × List Diagnostic :=
  (Classifier.run ctx (2 * tree.size) { tree } (some (.enter 0))).finish

/-- The comment of a raw comment that belongs to an entity, and the problems found. -/
def parse (settings : Settings) (entity : String) (raw : List Char)
    (reader : Markup.TextReader := Markup.events) : Comment × List Diagnostic :=
  let lines := pieces settings raw
  classify { settings, entity, lines } (Markup.Tree.parse (piecesText lines) reader)

/-- The comment that a given markup tree makes, with the positions of a raw comment. -/
def parseWith (settings : Settings) (entity : String) (raw : List Char) (tree : Markup.Tree) :
    Comment × List Diagnostic :=
  classify { settings, entity, lines := pieces settings raw } tree

end DocComments.Comment
