import DocComments.Markup.Token

set_option autoImplicit false

/-!
# Emphasis

Runs of `*` and `_` are matched from left to right. A run that can close looks for the nearest run
before it, of the same mark, that can open; the runs in between are then plain text. As many marks
are used as both runs have: two of them make strong emphasis, a single one left over makes plain
emphasis around it. Marks that are not used up stay available.

## Main definitions

* `Inline` — running text with its markup.
* `matches` — an opening and a closing run may be paired.
* `resolve` — replaces the runs among some siblings.
-/

namespace DocComments.Markup

/-- Running text with its markup. Until emphasis is resolved, runs of marks stand among it. -/
inductive Inline where
  | text (offset : Nat) (value : List Char)
  | code (offset : Nat) (value : List Char)
  | softBreak (offset : Nat)
  | hardBreak (offset : Nat) (backslash : Bool)
  | run (offset : Nat) (mark : Char) (count : Nat) (opens closes : Bool)
  | emphasis (offset : Nat) (children : List Inline)
  | strong (offset : Nat) (children : List Inline)
  | link (offset : Nat) (image : Bool) (target : List Char) (children : List Inline)

/-- A run that may still open emphasis: where its unused marks stand, how many they are, how many
the run had, whether it can close as well, and the siblings before it, reversed. -/
structure OpenRun where
  offset : Nat
  mark : Char
  count : Nat
  length : Nat
  both : Bool
  before : List Inline

/-- The unused marks of a run as plain text. -/
def OpenRun.plain (r : OpenRun) : Inline :=
  .text r.offset (List.replicate r.count r.mark)

/-- A run before may be paired with a closing run. If one of them can both open and close, their
lengths must not add up to a multiple of three, unless both are multiples of three. -/
def OpenRun.pairs (r : OpenRun) (mark : Char) (length : Nat) (both : Bool) : Bool :=
  r.mark == mark && ((!both && !r.both) || (length + r.length) % 3 != 0 || length % 3 == 0)

/-- Wraps siblings in emphasis for `count` marks that end before the offset `stop`, two at a time
from the inside. -/
def wrap (stop : Nat) : Nat → List Inline → List Inline
  | 0, children => children
  | 1, children => [.emphasis (stop - 1) children]
  | n + 2, children => wrap (stop - 2) n [.strong (stop - 2) children]

/-- Turns the innermost open runs, as many as `drop` says, into plain text; returns the runs left
and the siblings after them, reversed. -/
def flatten : Nat → List OpenRun → List Inline → List OpenRun × List Inline
  | 0, runs, out => (runs, out)
  | _ + 1, [], out => ([], out)
  | n + 1, r :: runs, out => flatten n runs (out ++ r.plain :: r.before)

/-- Turns all open runs into plain text. -/
def flattenAll : List OpenRun → List Inline → List Inline
  | [], out => out
  | r :: runs, out => flattenAll runs (out ++ r.plain :: r.before)

/-- The state of matching runs: the open runs, innermost first, and the siblings after the innermost
one, reversed. -/
structure Matching where
  runs : List OpenRun := []
  out : List Inline := []

/-- Uses the marks of a closing run, `count` of them left at `offset`, on the runs before it. The
first argument bounds the steps. Returns what is left of the run. -/
def Matching.close (mark : Char) (length : Nat) (both : Bool) :
    Nat → Nat → Nat → Matching → Nat × Nat × Matching
  | 0, offset, count, m => (offset, count, m)
  | fuel + 1, offset, count, m =>
    match m.runs.findIdx? (·.pairs mark length both) with
    | none => (offset, count, m)
    | some i =>
      match flatten i m.runs m.out with
      | ([], out) => (offset, count, { runs := [], out })
      | (r :: runs, out) =>
        let used := min count r.count
        let wrapped := (wrap (r.offset + r.count) used out.reverse).reverse
        let m : Matching :=
          if used < r.count then { runs := { r with count := r.count - used } :: runs, out := wrapped }
          else { runs, out := wrapped ++ r.before }
        if used < count then
          Matching.close mark length both fuel (offset + used) (count - used) m
        else
          (offset + used, 0, m)

/-- Reads one more sibling. -/
def Matching.read (m : Matching) : Inline → Matching
  | .run offset mark count opens closes =>
    let both := opens && closes
    let (offset, left, m) :=
      if closes then m.close mark count both count offset count else (offset, count, m)
    if left = 0 then m
    else if opens then
      { runs := { offset, mark, count := left, length := count, both, before := m.out } :: m.runs,
        out := [] }
    else { m with out := .text offset (List.replicate left mark) :: m.out }
  | node => { m with out := node :: m.out }

/-- Replaces the runs among some siblings by emphasis and plain text. -/
def resolve (siblings : List Inline) : List Inline :=
  let m := siblings.foldl Matching.read {}
  (flattenAll m.runs m.out).reverse

/-- A sibling is a run of emphasis marks. -/
def Inline.isRun : Inline → Bool
  | .run .. => true
  | _ => false

/-- Replaces the runs among the children of a link. A backslash before a line end at the very end is
plain text if there are runs before it. -/
def resolveChildren (children : List Inline) : List Inline :=
  match children.getLast? with
  | some (.hardBreak offset true) =>
    if children.any Inline.isRun then
      resolve (children.dropLast ++ [.text offset ['\\']])
    else
      children
  | _ => resolve children

end DocComments.Markup
