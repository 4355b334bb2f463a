import DocComments.Comment.Classify
import DocComments.Proofs.Arena.Reading

set_option autoImplicit false

/-!
# Sections by recursion

The comment of a markup tree, described without a walk. First every top-level block is converted: a
node with a typed form keeps its place, with the converted nodes below it if it is a container, and
a node without one is dropped together with everything below it. Then the converted blocks get their
roles from left to right; a paragraph with an unknown command is dropped.

## Main definitions

* `form` — the typed form of a kind of markup, or the name of the construct that has none.
* `convertTree`, `convertAll` — markup trees converted, and the problems found.
* `classifyBlock`, `classifyBlocks` — converted blocks with their roles, and the problems found.
* `Outcome` — what becomes of one top-level block.
* `sectionTree` — the tree of a comment, and the problems found.
-/

namespace DocComments.Comment

open Markup (Kind)

/-! ## Conversion -/

/-- The typed form of a kind of markup, given the plain text of the node, or the name of the
construct if it has none. -/
def form (text : List Char) : Kind → Except String Node
  | .htmlBlock _ => .error "HTML block"
  | .image _ => .error "image"
  | .unsupported name => .error name
  | .document => .ok .document
  | .paragraph => .ok (.paragraph .details "")
  | .heading level => .ok (.heading level)
  | .quote => .ok .quote
  | .codeBlock language code => .ok (.code language code)
  | .list start => .ok (.list start)
  | .item => .ok .item
  | .rule => .ok .rule
  | .text value => .ok (.text value)
  | .code value => .ok (.codeSpan value)
  | .emphasis => .ok .emphasis
  | .strong => .ok .strong
  | .softBreak => .ok .softBreak
  | .hardBreak => .ok .hardBreak
  | .link target =>
    .ok (.link (Text.trim text) (if target.isEmpty then .unresolved else .explicit target))

/-- The plain text of a markup tree. -/
def plainText (t : Rose (Placed Kind)) : List Char :=
  t.gather fun p => Markup.Tree.leafText? p.value

/-- The problem of a failure. -/
def Failure.diagnostic (entity : String) (f : Failure) : Diagnostic :=
  Diagnostic.warning entity f.position f.error.message

mutual

/-- A markup tree converted, if its root is not dropped, and the problems found. -/
def convertTree (ctx : Context) :
    Rose (Placed Kind) → Option (Rose (Placed Node)) × List Diagnostic
  | .node p below =>
    let position := toSource ctx.lines p.position
    match form (plainText (.node p below)) p.value with
    | .error construct =>
      (none, [Failure.diagnostic ctx.entity ⟨.unsupportedMarkup construct, position⟩])
    | .ok node =>
      if p.value.isContainer then
        (some (.node ⟨node, position⟩ (convertAll ctx below).1), (convertAll ctx below).2)
      else
        (some (.node ⟨node, position⟩ []), [])

/-- Markup trees that stand side by side converted, without those that are dropped, and the problems
found. -/
def convertAll (ctx : Context) :
    List (Rose (Placed Kind)) → List (Rose (Placed Node)) × List Diagnostic
  | [] => ([], [])
  | t :: ts =>
    ((convertTree ctx t).1.toList ++ (convertAll ctx ts).1,
      (convertTree ctx t).2 ++ (convertAll ctx ts).2)

end

/-! ## Roles -/

/-- The command word that the nodes of a paragraph start with, and the nodes without it. -/
def command? (settings : Settings) :
    List (Rose (Placed Node)) → Option (List Char × List (Rose (Placed Node)))
  | .node ⟨.text (mark :: rest), position⟩ below :: others =>
    if mark = settings.commandCharacter then
      let (word, tail) := Text.splitWord rest
      some (word, .node ⟨.text (Text.trimStart tail), position⟩ below :: others)
    else none
  | _ => none

/-- A top-level block with its role, and whether the brief description is still to come after it. A
block that is no paragraph stays as it is. -/
def classifyBlock (ctx : Context) (brief : Bool) :
    Rose (Placed Node) → Except Failure (Rose (Placed Node) × Bool)
  | .node ⟨.paragraph _ _, position⟩ children =>
    match command? ctx.settings children with
    | none =>
      let kind := if brief then SectionKind.brief else .details
      .ok (.node ⟨.paragraph kind (ctx.settings.title kind), position⟩ children, false)
    | some (word, stripped) =>
      let name := String.ofList word
      let kind := ctx.settings.sectionFor name
      if kind = .invalid then .error ⟨.unknownCommand word, position⟩
      else
        let title := if kind = .outputSection then name else ctx.settings.title kind
        .ok (.node ⟨.paragraph kind title, position⟩ stripped, brief)
  | block => .ok (block, brief)

/-- What becomes of a top-level block: the section it makes, if any, whether the brief description
is still to come, and the problems found. -/
structure Outcome where
  sections : List (Rose (Placed Node))
  brief : Bool
  problems : List Diagnostic

/-- What becomes of a top-level block, given its conversion. A block that was dropped or has an
unknown command makes no section. -/
def Outcome.ofBlock (ctx : Context) (brief : Bool) :
    Option (Rose (Placed Node)) × List Diagnostic → Outcome
  | (none, problems) => { sections := [], brief, problems }
  | (some block, problems) =>
    match classifyBlock ctx brief block with
    | .error failure =>
      { sections := [], brief, problems := problems ++ [failure.diagnostic ctx.entity] }
    | .ok (block, brief) => { sections := [block], brief, problems }

/-- The sections that converted blocks make, from left to right, and the problems found: for each
block first those of its conversion, then that of its role. -/
def classifyBlocks (ctx : Context) (brief : Bool) :
    List (Option (Rose (Placed Node)) × List Diagnostic) →
      List (Rose (Placed Node)) × List Diagnostic
  | [] => ([], [])
  | block :: rest =>
    let outcome := Outcome.ofBlock ctx brief block
    let (sections, problems) := classifyBlocks ctx outcome.brief rest
    (outcome.sections ++ sections, outcome.problems ++ problems)

/-- The tree of the comment of a markup tree, and the problems found. The root of a comment is not
converted: it is the document at the start of the text. -/
def sectionTree (ctx : Context) : Rose (Placed Kind) → Rose (Placed Node) × List Diagnostic
  | .node _ blocks =>
    let (sections, problems) := classifyBlocks ctx true (blocks.map (convertTree ctx))
    (.node ⟨.document, ⟨1, 1⟩⟩ sections, problems)

/-! ## Small facts -/

/-- Converting trees, the first of which is dropped. -/
lemma convertAll_cons_error {ctx : Context} {p : Placed Kind} {below ts : List (Rose (Placed Kind))}
    {construct : String} (h : form (plainText (.node p below)) p.value = .error construct) :
    convertAll ctx (.node p below :: ts) = ((convertAll ctx ts).1,
      Failure.diagnostic ctx.entity ⟨.unsupportedMarkup construct, toSource ctx.lines p.position⟩
        :: (convertAll ctx ts).2) := by
  simp [convertAll, convertTree, h]

/-- Converting trees, the first of which is kept. -/
lemma convertAll_cons_ok {ctx : Context} {p : Placed Kind} {below ts : List (Rose (Placed Kind))}
    {node : Node} (h : form (plainText (.node p below)) p.value = .ok node) :
    convertAll ctx (.node p below :: ts) =
      if p.value.isContainer then
        (.node ⟨node, toSource ctx.lines p.position⟩ (convertAll ctx below).1 ::
          (convertAll ctx ts).1, (convertAll ctx below).2 ++ (convertAll ctx ts).2)
      else
        (.node ⟨node, toSource ctx.lines p.position⟩ [] :: (convertAll ctx ts).1,
          (convertAll ctx ts).2) := by
  by_cases hc : p.value.isContainer = true
  · simp [convertAll, convertTree, h, hc]
  · simp [convertAll, convertTree, h, hc]

/-- Only paragraphs become paragraphs. -/
lemma form_eq_paragraph {text : List Char} {kind : Kind} {role : SectionKind} {title : String}
    (h : form text kind = .ok (.paragraph role title)) : kind = .paragraph := by
  cases kind <;> simp [form] at h ⊢

/-- A block that is no paragraph needs no role. -/
lemma classifyBlock_of_ne {ctx : Context} {brief : Bool} {typed : Node} {position : Position}
    {children : List (Rose (Placed Node))} (h : ∀ role title, typed ≠ .paragraph role title) :
    classifyBlock ctx brief (.node ⟨typed, position⟩ children)
      = .ok (.node ⟨typed, position⟩ children, brief) := by
  cases typed with
  | paragraph role title => exact absurd rfl (h role title)
  | _ => rfl

/-- The problems of the conversion of a block come before that of its role. -/
lemma Outcome.ofBlock_some (ctx : Context) (brief : Bool) (block : Rose (Placed Node))
    (problems : List Diagnostic) : Outcome.ofBlock ctx brief (some block, problems) =
      { Outcome.ofBlock ctx brief (some block, []) with
        problems := problems ++ (Outcome.ofBlock ctx brief (some block, [])).problems } := by
  simp only [Outcome.ofBlock]
  cases classifyBlock ctx brief block with
  | error failure => simp
  | ok result => simp

end DocComments.Comment
