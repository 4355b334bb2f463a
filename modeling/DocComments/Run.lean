import DocComments.Assembly
import DocComments.Link.Resolve

set_option autoImplicit false

/-!
# A run over all documents

A run assembles every document, registers all of them, and then looks up the links of those that
could be registered. A collision leaves out its own document only.

## Main definitions

* `Source` — what a document is made from.
* `assembleAll` — the documents, each with the problems found in it.
* `linkAll` — the documents with their links looked up.
* `run` — the whole run.
-/

namespace DocComments

/-- What a document is made from. -/
structure Source where
  id : String
  root : Declaration

/-- The documents of a run, with the registry they made and the problems found. -/
structure Report where
  documents : List Document
  registry : Registry
  diagnostics : List Diagnostic
  collisions : List Collision

/-- The problem that a collision is. -/
def Collision.diagnostic (c : Collision) : Diagnostic :=
  Diagnostic.error c.entity c.position c.message

/-- Assembles documents. -/
def assembleAll (settings : Settings) (sources : List Source) (reader : Markup.TextReader) :
    List (Document × List Diagnostic) :=
  sources.map fun s => assemble settings s.id s.root reader

/-- Registers all documents, then looks up the links of those that are registered. -/
def linkAll (documents : List Document) : Report :=
  let (registry, collisions) := Registry.registerAll {} documents
  let (documents, problems) := registry.resolveAll documents
  { documents, registry, diagnostics := collisions.map (·.diagnostic) ++ problems, collisions }

/-- Assembles and links documents. -/
def run (settings : Settings) (sources : List Source)
    (reader : Markup.TextReader := Markup.events) : Report :=
  let assembled := assembleAll settings sources reader
  let linked := linkAll (assembled.map (·.1))
  { linked with diagnostics := assembled.flatMap (·.2) ++ linked.diagnostics }

end DocComments
