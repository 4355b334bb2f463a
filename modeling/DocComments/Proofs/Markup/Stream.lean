import DocComments.Proofs.Arena.Families
import DocComments.Proofs.Markup.Spine
import Mathlib.Data.List.Chain
import Mathlib.Data.List.TakeWhile

set_option autoImplicit false

/-!
# Event streams and the trees they make

In a well nested stream every node that is entered is left, and code and raw blocks have nothing but
text in them. What a walk over the tree of such a stream should meet can be read off the stream: a
run of texts is one node, the text of a block belongs to the block, and a node without anything
inside it is not left. This file defines that, and shows that the tree of the stream, visited
recursively, gives it.

## Main definitions

* `isWellNested` — every node is left, and blocks that take text have only text in them.
* `Visit` — a node is met by a walk, when it is entered or left.
* `replay` — what a walk should meet, read off a stream.
* `visits`, `visitsAll` — what a recursive visit of trees meets.
* `Tidy` — a node that is no container has nothing below it, and texts below it are apart.
* `Ready`, `Builds` — building stands before a stream, and what it makes of the stream.

## Main results

* `isWellNested_events` — the stream of every text is well nested.
* `flatMap_ownText_replay` — replaying a stream keeps all text, in its order.
* `foldl_step_replay` — the tree of a well nested stream, visited recursively, gives its replay.
-/

namespace DocComments.Markup

open Rose (FamiliesAll familiesAll_cons familiesAll_append)
open Building (takesText appendText ofSpine step)

/-! ## Streams -/

/-- The node is a single event of a stream. -/
def Kind.isSingle : Kind → Bool
  | rule | code _ | softBreak | hardBreak => true
  | _ => false

/-- The node is entered and left in a stream: a container, or a block that takes text. -/
def Kind.isOpened (kind : Kind) : Bool :=
  kind.isContainer || takesText kind

/-- The text that a node has itself. -/
def Kind.ownText : Kind → List Char
  | text value | code value | codeBlock _ value | htmlBlock value => value
  | _ => []

/-- The event is text. -/
def Event.isText : Event → Bool
  | text .. => true
  | _ => false

/-- The text that an event brings. -/
def Event.ownText : Event → List Char
  | text value _ => value
  | enter kind _ | leaf kind _ => kind.ownText
  | leave => []

/-- The stream is well nested, given the open nodes, innermost first: it leaves every node that it
enters, and no other, and inside a block that takes text it has only text. -/
def isWellNested : List Kind → List Event → Bool
  | opened, [] => opened.isEmpty
  | opened, .text _ _ :: rest => isWellNested opened rest
  | opened, .enter kind _ :: rest =>
    !opened.head?.any takesText && kind.isOpened && isWellNested (kind :: opened) rest
  | opened, .leaf kind _ :: rest =>
    !opened.head?.any takesText && kind.isSingle && isWellNested opened rest
  | opened, .leave :: rest => !opened.isEmpty && isWellNested opened.tail rest

section Reader

variable {opened : List Kind} (hopened : opened.head?.any takesText = false)

include hopened

/-- A part of a stream that enters a container, has something well nested in it and leaves it. -/
lemma isWellNested_container {kind : Kind} (hkind : kind.isContainer = true) (offset : Nat)
    {inner : List Event} (rest : List Event)
    (hinner : isWellNested (kind :: opened) (inner ++ (.leave :: rest))
      = isWellNested (kind :: opened) (.leave :: rest)) :
    isWellNested opened (.enter kind offset :: (inner ++ [.leave]) ++ rest)
      = isWellNested opened rest := by
  have hevents : .enter kind offset :: (inner ++ [.leave]) ++ rest
      = .enter kind offset :: (inner ++ (.leave :: rest)) := by simp
  rw [hevents, isWellNested, hinner, isWellNested]
  simp [hopened, Kind.isOpened, hkind]

/-- A block that takes text, with its text. -/
lemma isWellNested_block {kind : Kind} (hkind : takesText kind = true) (offset at_ : Nat)
    (value : List Char) (rest : List Event) :
    isWellNested opened ([.enter kind offset, .text value at_, .leave] ++ rest)
      = isWellNested opened rest := by
  simp [isWellNested, hopened, Kind.isOpened, hkind]

end Reader

/-- Containers take no text into themselves. -/
lemma takesText_of_isContainer {kind : Kind} (h : kind.isContainer = true) :
    takesText kind = false := by
  cases kind <;> first | rfl | cases h

mutual

/-- Running text is well nested, wherever it stands outside blocks that take text. -/
theorem isWellNested_inline (node : Inline) {opened : List Kind}
    (hopened : opened.head?.any takesText = false) (rest : List Event) :
    isWellNested opened (node.events ++ rest) = isWellNested opened rest := by
  match node with
  | .text offset value => rw [Inline.events, List.singleton_append, isWellNested]
  | .code offset value | .softBreak offset | .hardBreak offset _ =>
    rw [Inline.events, List.singleton_append, isWellNested]
    simp [hopened, Kind.isSingle]
  | .run offset mark count _ _ => rw [Inline.events, List.singleton_append, isWellNested]
  | .emphasis offset children | .strong offset children =>
    rw [Inline.events]
    exact isWellNested_container hopened rfl _ _ (isWellNested_inlineEvents children rfl _)
  | .link offset image target children =>
    rw [Inline.events]
    cases image with
    | true =>
      exact isWellNested_container hopened rfl _ _ (isWellNested_inlineEvents children rfl _)
    | false =>
      exact isWellNested_container hopened rfl _ _ (isWellNested_inlineEvents children rfl _)

/-- Pieces of running text that follow each other. -/
theorem isWellNested_inlineEvents (nodes : List Inline) {opened : List Kind}
    (hopened : opened.head?.any takesText = false) (rest : List Event) :
    isWellNested opened (inlineEvents nodes ++ rest) = isWellNested opened rest := by
  match nodes with
  | [] => rw [inlineEvents, List.nil_append]
  | node :: nodes =>
    rw [inlineEvents, List.append_assoc, isWellNested_inline node hopened,
      isWellNested_inlineEvents nodes hopened]

end

mutual

/-- Blocks are well nested, wherever they stand outside blocks that take text. -/
theorem isWellNested_block_events (defs : Definitions) (tight : Bool) (block : Block)
    {opened : List Kind} (hopened : opened.head?.any takesText = false) (rest : List Event) :
    isWellNested opened (block.events defs tight ++ rest) = isWellNested opened rest := by
  match block with
  | .paragraph offset content =>
    rw [Block.events]
    cases tight with
    | true => exact isWellNested_inlineEvents _ hopened rest
    | false =>
      exact isWellNested_container hopened rfl _ _ (isWellNested_inlineEvents _ rfl _)
  | .heading offset level content =>
    rw [Block.events]
    exact isWellNested_container hopened rfl _ _ (isWellNested_inlineEvents _ rfl _)
  | .rule offset =>
    rw [Block.events, List.singleton_append, isWellNested]
    simp [hopened, Kind.isSingle]
  | .code offset info text | .html offset text =>
    rw [Block.events]
    exact isWellNested_block hopened rfl _ _ _ rest
  | .quote offset children | .list offset first tight children | .item offset children =>
    rw [Block.events]
    exact isWellNested_container hopened rfl _ _
      (isWellNested_blockEvents defs _ children rfl _)

/-- Blocks that follow each other. -/
theorem isWellNested_blockEvents (defs : Definitions) (tight : Bool) (blocks : List Block)
    {opened : List Kind} (hopened : opened.head?.any takesText = false) (rest : List Event) :
    isWellNested opened (blockEvents defs tight blocks ++ rest) = isWellNested opened rest := by
  match blocks with
  | [] => rw [blockEvents, List.nil_append]
  | block :: blocks =>
    rw [blockEvents, List.append_assoc, isWellNested_block_events defs tight block hopened,
      isWellNested_blockEvents defs tight blocks hopened]

end

/-- **The stream of every text is well nested.** -/
theorem isWellNested_events (text : List Char) : isWellNested [] (events text) = true := by
  have hblocks : isWellNested [] (blockEvents (readBlocks text).2 false (readBlocks text).1 ++ [])
      = isWellNested [] [] :=
    isWellNested_blockEvents _ _ _ rfl []
  rw [List.append_nil] at hblocks
  rw [events, hblocks]
  rfl

/-! ## Replaying a stream -/

/-- A node is met by a walk, when it is entered or left. -/
inductive Visit where
  | enter (node : Placed Kind)
  | leave (node : Placed Kind)
  deriving Repr, DecidableEq

/-- The text that a walk meets with a node, which is when the node is entered. -/
def Visit.ownText : Visit → List Char
  | enter node => node.value.ownText
  | leave _ => []

/-- The run of texts that a stream starts with, put together. -/
def textRun (events : List Event) : List Char :=
  (events.takeWhile Event.isText).flatMap Event.ownText

/-- What a walk should meet, read off a stream, given the open nodes, innermost first. A run of
texts is one node, at the position of the first of them; the text of a block belongs to the block;
and only containers are left. -/
def replay (position : Nat → Position) (opened : List (Placed Kind)) : List Event → List Visit
  | [] => []
  | .text value offset :: rest =>
    .enter ⟨.text (value ++ textRun rest), position offset⟩ ::
      replay position opened (rest.dropWhile Event.isText)
  | .enter kind offset :: rest =>
    if takesText kind then
      .enter ⟨appendText (textRun rest) kind, position offset⟩ ::
        replay position opened (rest.dropWhile Event.isText).tail
    else
      .enter ⟨kind, position offset⟩ :: replay position (⟨kind, position offset⟩ :: opened) rest
  | .leaf kind offset :: rest => .enter ⟨kind, position offset⟩ :: replay position opened rest
  | .leave :: rest => (opened.head?.map Visit.leave).toList ++ replay position opened.tail rest
termination_by events => events.length
decreasing_by
  · have := (List.dropWhile_suffix (l := rest) Event.isText).length_le
    simp only [List.length_cons]
    omega
  · have := (List.dropWhile_suffix (l := rest) Event.isText).length_le
    simp only [List.length_cons, List.length_tail]
    omega
  all_goals simp

/-- A run of texts brings what it says. -/
lemma ownText_append_textRun (events : List Event) :
    textRun events ++ (events.dropWhile Event.isText).flatMap Event.ownText
      = events.flatMap Event.ownText := by
  rw [textRun, ← List.flatMap_append, List.takeWhile_append_dropWhile]

/-- Inside a block that takes text there is a run of texts, and then the block is left. -/
lemma exists_of_isWellNested_block {kind : Kind} {opened : List Kind} {events : List Event}
    (hkind : takesText kind = true) (h : isWellNested (kind :: opened) events = true) :
    ∃ rest, events.dropWhile Event.isText = .leave :: rest ∧ isWellNested opened rest = true := by
  induction events with
  | nil => simp [isWellNested] at h
  | cons event events ih =>
    cases event with
    | text value offset =>
      rw [isWellNested] at h
      obtain ⟨rest, hrest, hnested⟩ := ih h
      exact ⟨rest, by rw [List.dropWhile_cons_of_pos rfl, hrest], hnested⟩
    | leave => exact ⟨events, rfl, by simpa [isWellNested] using h⟩
    | enter kind' offset => simp [isWellNested, hkind] at h
    | leaf kind' offset => simp [isWellNested, hkind] at h

/-- Text does not open or close anything. -/
lemma isWellNested_dropWhile (opened : List Kind) (events : List Event) :
    isWellNested opened (events.dropWhile Event.isText) = isWellNested opened events := by
  induction events with
  | nil => rfl
  | cons event events ih =>
    cases event with
    | text value offset => rw [List.dropWhile_cons_of_pos rfl, ih, isWellNested]
    | _ => rfl

/-- Text that is appended to a node becomes part of its text. -/
lemma ownText_appendText {kind : Kind} (hkind : takesText kind = true) (value : List Char) :
    (appendText value kind).ownText = kind.ownText ++ value := by
  cases kind <;> first | rfl | cases hkind

/-- **Replaying a stream keeps all text, in its order.** -/
lemma flatMap_ownText_replay (position : Nat → Position) {opened : List (Placed Kind)}
    {events : List Event} (h : isWellNested (opened.map (·.value)) events = true) :
    (replay position opened events).flatMap Visit.ownText = events.flatMap Event.ownText := by
  fun_induction replay position opened events with
  | case1 opened => rfl
  | case2 opened value offset rest ih =>
    rw [isWellNested, ← isWellNested_dropWhile] at h
    rw [List.flatMap_cons, ih h, List.flatMap_cons, ← ownText_append_textRun rest,
      ← List.append_assoc]
    rfl
  | case3 opened kind offset rest hkind ih =>
    simp only [isWellNested, Bool.and_eq_true] at h
    obtain ⟨rest', hrest, hnested⟩ := exists_of_isWellNested_block hkind h.2
    have htext := ownText_append_textRun rest
    rw [hrest, List.flatMap_cons] at htext
    rw [hrest, List.tail_cons] at ih
    rw [hrest, List.tail_cons, List.flatMap_cons, ih hnested, List.flatMap_cons, ← htext,
      Visit.ownText, ownText_appendText hkind, List.append_assoc]
    rfl
  | case4 opened kind offset rest hkind ih =>
    simp only [isWellNested, Bool.and_eq_true] at h
    rw [List.flatMap_cons, ih h.2, List.flatMap_cons]
    rfl
  | case5 opened kind offset rest ih =>
    simp only [isWellNested, Bool.and_eq_true] at h
    rw [List.flatMap_cons, ih h.2, List.flatMap_cons]
    rfl
  | case6 opened rest ih =>
    simp only [isWellNested, Bool.and_eq_true, ← List.map_tail] at h
    rw [List.flatMap_append, ih h.2, List.flatMap_cons]
    cases opened with
    | nil => rfl
    | cons node opened => rfl

/-! ## Visiting trees -/

mutual

/-- What a recursive visit of a tree meets. What is below a node that is no container is not
visited. -/
def visits : Rose (Placed Kind) → List Visit
  | .node v below =>
    if v.value.isContainer then .enter v :: (visitsAll below ++ [.leave v]) else [.enter v]

/-- What a recursive visit of trees meets. -/
def visitsAll : List (Rose (Placed Kind)) → List Visit
  | [] => []
  | t :: ts => visits t ++ visitsAll ts

end

/-- A visit of two lists of trees. -/
lemma visitsAll_append (ts us : List (Rose (Placed Kind))) :
    visitsAll (ts ++ us) = visitsAll ts ++ visitsAll us := by
  induction ts with
  | nil => simp [visitsAll]
  | cons t ts ih => simp [visitsAll, ih]

/-- The node is text. -/
def Kind.isText : Kind → Bool
  | text _ => true
  | _ => false

/-- Not both of two nodes are text. -/
def Apart (v w : Placed Kind) : Prop :=
  ¬(v.value.isText = true ∧ w.value.isText = true)

/-- A node that is no container has nothing below it, and no two neighbours below it are both
text. -/
def Tidy (v : Placed Kind) (below : List (Placed Kind)) : Prop :=
  (v.value.isContainer = false → below = []) ∧ below.IsChain Apart

/-! ## Building trees -/

namespace Building

/-- The trees below the open node end in a text. -/
def endsInText (f : OpenNode) : Bool :=
  f.done.getLast?.any fun t => t.value.value.isText

/-- The contents of the open nodes but the outermost one, innermost first. -/
def openValues : OpenNode → List OpenNode → List (Placed Kind)
  | _, [] => []
  | f, g :: outer => f.value :: openValues g outer

/-- What a visit has met when it stands behind the finished trees of the innermost open node. -/
def metSoFar : OpenNode → List OpenNode → List Visit
  | f, [] => visitsAll f.done
  | f, g :: outer => metSoFar g outer ++ .enter f.value :: visitsAll f.done

/-- The last child of the innermost open node is the root of its last finished tree. -/
lemma node?_last (f : OpenNode) (outer : List OpenNode) {id : Nat}
    (h : ((ofSpine f outer).tree.children (tip outer)).getLast? = some id) :
    ∃ t, f.done.getLast? = some t ∧ (ofSpine f outer).tree.node? id = some t.value.value := by
  obtain ⟨parent, hslot⟩ := slot_tip f outer
  rw [(Arena.views_of_slot hslot).2.2] at h
  have hstored : (ofSpine f outer).tree.StoresAll (some (tip outer)) (tip outer + 1) f.done := by
    have := Arena.storesAll_plantAll (stem f.value outer) (p := tip outer) f.done
      (by rw [size_stem]; omega)
    rwa [size_stem, ← tree_ofSpine] at this
  have hlast := congrArg List.getLast? hstored.map_value?_roots
  rw [List.getLast?_map, h, List.getLast?_map, List.getLast?_map, Option.map_some] at hlast
  cases hdone : f.done.getLast? with
  | none => simp [hdone] at hlast
  | some t =>
    rw [hdone, Option.map_some, Option.map_some, Option.some.injEq] at hlast
    exact ⟨t, rfl, by rw [Arena.node?, hlast]; rfl⟩

section Text

variable {f : OpenNode} {outer : List OpenNode} (value : List Char) (position : Position)

/-- A block that takes text takes it into itself. -/
lemma addText_of_takesText (h : takesText f.value.value = true) :
    (ofSpine f outer).addText value position
      = ofSpine { f with value := { f.value with value := appendText value f.value.value } }
          outer := by
  have htakes : ((ofSpine f outer).tree.node? (tip outer)).any takesText = true := by
    rw [node?_tip, Option.any_some, h]
  rw [addText, top_ofSpine, if_pos htakes]
  exact ofSpine_modify f outer fun p => { p with value := appendText value p.value }

/-- Text makes a node of its own where no text stands before it. -/
lemma addText_of_not_endsInText (h : takesText f.value.value = false)
    (hlast : endsInText f = false) :
    (ofSpine f outer).addText value position
      = ofSpine { f with done := f.done ++ [.node ⟨.text value, position⟩ []] } outer := by
  have htakes : ¬((ofSpine f outer).tree.node? (tip outer)).any takesText = true := by
    rw [node?_tip, Option.any_some, h]
    exact Bool.false_ne_true
  have hnone : (ofSpine f outer).lastText? = none := by
    rw [lastText?, top_ofSpine]
    split
    · rfl
    · rename_i id hid
      obtain ⟨t, ht, hnode⟩ := node?_last f outer hid
      rw [hnode]
      rw [endsInText, ht, Option.any_some] at hlast
      split
      · rename_i heq
        rw [Option.some.inj heq] at hlast
        cases hlast
      · rfl
  rw [addText, top_ofSpine, if_neg htakes, hnone, ofSpine_append, Arena.push_eq_plantAll]

/-- Text goes to the text before it. -/
lemma addText_of_endsInText (h : takesText f.value.value = false)
    {ts : List (Rose (Placed Kind))} {old : List Char} {at_ : Position}
    (hdone : f.done = ts ++ [.node ⟨.text old, at_⟩ []]) :
    (ofSpine f outer).addText value position
      = ofSpine { f with done := ts ++ [.node ⟨.text (old ++ value), at_⟩ []] } outer := by
  have htakes : ¬((ofSpine f outer).tree.node? (tip outer)).any takesText = true := by
    rw [node?_tip, Option.any_some, h]
    exact Bool.false_ne_true
  have hlast : (ofSpine f outer).lastText? = some (tip outer + 1 + Rose.sizeAll ts) := by
    obtain ⟨parent, hslot⟩ := slot_tip f outer
    have hid : ((ofSpine f outer).tree.children (tip outer)).getLast?
        = some (tip outer + 1 + Rose.sizeAll ts) := by
      rw [(Arena.views_of_slot hslot).2.2, hdone, Rose.roots_append, Rose.roots_cons,
        Rose.roots_nil, List.getLast?_concat]
    obtain ⟨t, ht, hnode⟩ := node?_last f outer hid
    rw [hdone, List.getLast?_concat, Option.some.injEq] at ht
    rw [lastText?, top_ofSpine, hid]
    simp only [hnode, ← ht, Rose.value]
  rw [addText, top_ofSpine, if_neg htakes, hlast]
  exact ofSpine_modify_last f outer _ [] ts
    (fun p => { p with value := appendText value p.value }) hdone

end Text

section Runs

variable {f : OpenNode} {outer : List OpenNode} (position : Nat → Position)

/-- A run of texts in a block that takes text. -/
lemma foldl_step_of_takesText (h : takesText f.value.value = true) {run : List Event}
    (hrun : ∀ event ∈ run, event.isText = true) :
    run.foldl (step position) (ofSpine f outer)
      = ofSpine { f with value :=
          { f.value with value := appendText (run.flatMap Event.ownText) f.value.value } }
            outer := by
  induction run generalizing f with
  | nil =>
    have hnil : appendText [] f.value.value = f.value.value := by
      cases f.value.value <;> simp [appendText]
    rw [List.foldl_nil, List.flatMap_nil, hnil]
  | cons event run ih =>
    obtain ⟨hevent, hrest⟩ := List.forall_mem_cons.1 hrun
    cases event with
    | text value offset =>
      have htakes : takesText (appendText value f.value.value) = true := by
        revert h
        cases f.value.value <;> simp [appendText, takesText]
      have happend : ∀ more, appendText more (appendText value f.value.value)
          = appendText (value ++ more) f.value.value := by
        intro more
        cases f.value.value <;> simp [appendText]
      have hnext := ih
        (f := { f with value := { f.value with value := appendText value f.value.value } })
        htakes hrest
      rw [List.foldl_cons, step, addText_of_takesText value _ h, hnext, happend,
        List.flatMap_cons]
      rfl
    | enter kind offset => cases hevent
    | leave => cases hevent
    | leaf kind offset => cases hevent

/-- A run of texts behind a text. -/
lemma foldl_step_of_endsInText (h : takesText f.value.value = false)
    {ts : List (Rose (Placed Kind))} {old : List Char} {at_ : Position}
    (hdone : f.done = ts ++ [.node ⟨.text old, at_⟩ []]) {run : List Event}
    (hrun : ∀ event ∈ run, event.isText = true) :
    run.foldl (step position) (ofSpine f outer)
      = ofSpine { f with
          done := ts ++ [.node ⟨.text (old ++ run.flatMap Event.ownText), at_⟩ []] } outer := by
  induction run generalizing f old with
  | nil => rw [List.foldl_nil, List.flatMap_nil, List.append_nil, ← hdone]
  | cons event run ih =>
    obtain ⟨hevent, hrest⟩ := List.forall_mem_cons.1 hrun
    cases event with
    | text value offset =>
      have hnext := ih
        (f := { f with done := ts ++ [.node ⟨.text (old ++ value), at_⟩ []] }) h rfl hrest
      rw [List.foldl_cons, step, addText_of_endsInText value _ h hdone, hnext,
        List.flatMap_cons, ← List.append_assoc]
      rfl
    | enter kind offset => cases hevent
    | leave => cases hevent
    | leaf kind offset => cases hevent

/-- The run of texts that a stream starts with may be taken by itself. -/
lemma foldl_step_split (b : Building) (events : List Event) :
    events.foldl (step position) b = (events.dropWhile Event.isText).foldl (step position)
      ((events.takeWhile Event.isText).foldl (step position) b) := by
  rw [← List.foldl_append, List.takeWhile_append_dropWhile]

/-- The open node with one more finished tree below it. -/
def add (f : OpenNode) (t : Rose (Placed Kind)) : OpenNode :=
  { f with done := f.done ++ [t] }

/-- A run of texts behind a node that is no text makes one node. -/
lemma foldl_step_texts (h : takesText f.value.value = false) (hends : endsInText f = false)
    (value : List Char) (offset : Nat) (rest : List Event) :
    (.text value offset :: rest).foldl (step position) (ofSpine f outer)
      = (rest.dropWhile Event.isText).foldl (step position)
          (ofSpine (add f (.node ⟨.text (value ++ textRun rest), position offset⟩ [])) outer) := by
  have hrun : (rest.takeWhile Event.isText).foldl (step position)
      (ofSpine (add f (.node ⟨.text value, position offset⟩ [])) outer) = _ :=
    foldl_step_of_endsInText (f := add f (.node ⟨.text value, position offset⟩ [])) position h rfl
      fun _ => List.mem_takeWhile_imp
  rw [List.foldl_cons, step, addText_of_not_endsInText _ _ h hends, foldl_step_split]
  exact congrArg (List.foldl (step position) · _) hrun

/-- A container that is left is a finished tree of the node around it. -/
lemma step_leave (g : OpenNode) :
    step position (ofSpine f (g :: outer)) .leave
      = ofSpine (add g (.node f.value f.done)) outer := by
  rw [add, ofSpine_close f g outer, step]
  simp [ofSpine]

/-- A block that takes text is entered, takes a run of texts, and is left. -/
lemma foldl_step_block {kind : Kind} (h : takesText kind = true) (offset : Nat)
    {rest rest' : List Event} (hrest : rest.dropWhile Event.isText = .leave :: rest') :
    (.enter kind offset :: rest).foldl (step position) (ofSpine f outer)
      = rest'.foldl (step position)
          (ofSpine (add f (.node ⟨appendText (textRun rest) kind, position offset⟩ [])) outer) := by
  have henter : step position (ofSpine f outer) (.enter kind offset)
      = ofSpine ⟨⟨kind, position offset⟩, []⟩ (f :: outer) := by
    simp [step, ofSpine]
  have hrun : (rest.takeWhile Event.isText).foldl (step position)
      (ofSpine ⟨⟨kind, position offset⟩, []⟩ (f :: outer)) = _ :=
    foldl_step_of_takesText position h
      fun _ => List.mem_takeWhile_imp
  rw [List.foldl_cons, henter, foldl_step_split, hrun, hrest, List.foldl_cons, step_leave]
  rfl

end Runs

/-! ## Whole streams -/

/-- An open node that takes no text into itself and has only tidy trees below it. -/
structure TidySoFar (f : OpenNode) : Prop where
  container : f.value.value.isContainer = true
  families : FamiliesAll Tidy f.done
  apart : (f.done.map Rose.value).IsChain Apart

/-- A tidy tree may follow, unless two texts would meet. -/
lemma TidySoFar.add {f : OpenNode} (h : TidySoFar f) {t : Rose (Placed Kind)}
    (ht : FamiliesAll Tidy [t])
    (hmeet : endsInText f = true → t.value.value.isText = false) : TidySoFar (add f t) where
  container := h.container
  families := familiesAll_append.2 ⟨h.families, ht⟩
  apart := by
    rw [Building.add, List.map_append, List.isChain_append]
    refine ⟨h.apart, List.isChain_singleton _, fun v hv w hw => ?_⟩
    obtain rfl : w = t.value := by simpa using hw.symm
    rintro ⟨hvtext, hwtext⟩
    have hends : endsInText f = true := by
      obtain ⟨u, hu, rfl⟩ : ∃ u, f.done.getLast? = some u ∧ u.value = v := by
        simpa using hv
      rw [endsInText, hu]
      exact hvtext
    rw [hmeet hends] at hwtext
    cases hwtext

/-- A node ends in text if the last tree below it is text. -/
lemma endsInText_add (f : OpenNode) (t : Rose (Placed Kind)) :
    endsInText (add f t) = t.value.value.isText := by
  rw [endsInText, add, List.getLast?_concat, Option.any_some]

/-- A further tree keeps the open nodes. -/
lemma openValues_add (f : OpenNode) (outer : List OpenNode) (t : Rose (Placed Kind)) :
    openValues (add f t) outer = openValues f outer := by
  cases outer <;> rfl

/-- A further tree is met after all others. -/
lemma metSoFar_add (f : OpenNode) (outer : List OpenNode) (t : Rose (Placed Kind)) :
    metSoFar (add f t) outer = metSoFar f outer ++ visits t := by
  cases outer <;> simp [metSoFar, add, visitsAll_append, visitsAll]

/-- Closing a container adds that it is left. -/
lemma metSoFar_close {f : OpenNode} (hf : f.value.value.isContainer = true) (g : OpenNode)
    (outer : List OpenNode) :
    metSoFar (add g (.node f.value f.done)) outer
      = metSoFar f (g :: outer) ++ [.leave f.value] := by
  rw [metSoFar_add, visits, if_pos hf, metSoFar]
  simp

/-- A node with nothing below it is tidy. -/
lemma familiesAll_leaf (v : Placed Kind) : FamiliesAll Tidy [.node v []] :=
  familiesAll_cons.2 ⟨⟨fun _ => rfl, List.isChain_nil⟩, by simp, by simp⟩

/-! ### Event by event -/

/-- Building stands at a spine, before a stream that is well nested given the open nodes: those are
tidy so far, and no two texts meet. -/
structure Ready (opened : List (Placed Kind)) (f : OpenNode) (outer : List OpenNode)
    (events : List Event) : Prop where
  opened_eq : openValues f outer = opened
  nested : isWellNested (opened.map (·.value)) events = true
  tidy : TidySoFar f
  outer_tidy : ∀ g ∈ outer, TidySoFar g
  apart : endsInText f = true → events.head?.any Event.isText = false

/-- From a spine on, a stream closes all open nodes and leaves a tidy tree; after what was met so
far, a visit of that tree meets the given things. -/
def Builds (position : Nat → Position) (f : OpenNode) (outer : List OpenNode)
    (events : List Event) (met : List Visit) : Prop :=
  ∃ g, events.foldl (step position) (ofSpine f outer) = ofSpine g [] ∧
    g.value = rootValue f outer ∧ TidySoFar g ∧ visitsAll g.done = metSoFar f outer ++ met

section Events

variable {position : Nat → Position} {opened : List (Placed Kind)} {f g : OpenNode}
  {outer : List OpenNode} {rest : List Event} {kind : Kind} {value : List Char}
  {offset : Nat} {met : List Visit}

/-- A finished tree has been added, and the rest of the stream does not start with a text if the
tree is one. -/
lemma Ready.add {events : List Event} (h : Ready opened f outer events) {t : Rose (Placed Kind)}
    (ht : FamiliesAll Tidy [t]) (hmeet : endsInText f = true → t.value.value.isText = false)
    (hnested : isWellNested (opened.map (·.value)) rest = true)
    (hapart : t.value.value.isText = true → rest.head?.any Event.isText = false) :
    Ready opened (add f t) outer rest where
  opened_eq := (openValues_add f outer t).trans h.opened_eq
  nested := hnested
  tidy := h.tidy.add ht hmeet
  outer_tidy := h.outer_tidy
  apart hends := hapart ((endsInText_add f t).symm.trans hends)

/-- What is met by a visit of a finished tree that was added. -/
lemma Builds.of_add {events : List Event} {t : Rose (Placed Kind)}
    (hstep : events.foldl (step position) (ofSpine f outer)
      = rest.foldl (step position) (ofSpine (add f t) outer))
    (h : Builds position (add f t) outer rest met) :
    Builds position f outer events (visits t ++ met) := by
  obtain ⟨g, hg, hvalue, htidy, hmet⟩ := h
  refine ⟨g, hstep.trans hg, hvalue.trans (rootValue_of_value _ _ _ rfl), htidy, ?_⟩
  rw [hmet, metSoFar_add, List.append_assoc]

/-- A visit of a node that is not entered meets the node. -/
lemma visits_of_not_isContainer {v : Placed Kind} (h : v.value.isContainer = false) :
    visits (.node v []) = [.enter v] := by
  rw [visits, if_neg (by simp [h])]

/-- Building does not stand behind a text if a text follows. -/
lemma Ready.endsInText_eq_false (h : Ready opened f outer (.text value offset :: rest)) :
    endsInText f = false := by
  by_contra hends
  exact absurd (h.apart (by simpa using hends)) (by simp [Event.isText])

/-- **Behind a run of texts** building is ready for the rest. -/
lemma Ready.text (h : Ready opened f outer (.text value offset :: rest)) :
    Ready opened (Building.add f (.node ⟨.text (value ++ textRun rest), position offset⟩ [])) outer
      (rest.dropWhile Event.isText) := by
  have hnested := h.nested
  rw [isWellNested, ← isWellNested_dropWhile] at hnested
  refine h.add (familiesAll_leaf _) (by simp [h.endsInText_eq_false]) hnested fun _ => ?_
  have hhead := List.head?_dropWhile_not Event.isText rest
  cases hfirst : (rest.dropWhile Event.isText).head? with
  | none => rfl
  | some event => simpa [hfirst] using hhead

/-- **A run of texts makes one node.** -/
lemma Builds.text (h : Ready opened f outer (.text value offset :: rest))
    (hrest : Builds position
      (Building.add f (.node ⟨.text (value ++ textRun rest), position offset⟩ [])) outer
      (rest.dropWhile Event.isText) met) :
    Builds position f outer (.text value offset :: rest)
      (.enter ⟨.text (value ++ textRun rest), position offset⟩ :: met) :=
  .of_add (foldl_step_texts position (takesText_of_isContainer h.tidy.container)
    h.endsInText_eq_false value offset rest) hrest

/-- **Behind a block that takes text** building is ready for the rest. -/
lemma Ready.block (h : Ready opened f outer (.enter kind offset :: rest))
    (hkind : takesText kind = true) :
    Ready opened (Building.add f (.node ⟨appendText (textRun rest) kind, position offset⟩ [])) outer
      (rest.dropWhile Event.isText).tail := by
  have hnested := h.nested
  simp only [isWellNested, Bool.and_eq_true] at hnested
  obtain ⟨rest', hrest, hnested⟩ := exists_of_isWellNested_block hkind hnested.2
  rw [hrest, List.tail_cons]
  have hnotText : (appendText (textRun rest) kind).isText = false := by
    cases kind <;> first | rfl | cases hkind
  exact h.add (familiesAll_leaf _) (fun _ => hnotText) hnested
    (by simp [Rose.value, hnotText])

/-- **A block that takes text has it itself**, and is not entered by a visit. -/
lemma Builds.block (h : Ready opened f outer (.enter kind offset :: rest))
    (hkind : takesText kind = true)
    (hrest : Builds position
      (Building.add f (.node ⟨appendText (textRun rest) kind, position offset⟩ [])) outer
      (rest.dropWhile Event.isText).tail met) :
    Builds position f outer (.enter kind offset :: rest)
      (.enter ⟨appendText (textRun rest) kind, position offset⟩ :: met) := by
  have hnested := h.nested
  simp only [isWellNested, Bool.and_eq_true] at hnested
  obtain ⟨rest', hdrop, -⟩ := exists_of_isWellNested_block hkind hnested.2
  rw [hdrop, List.tail_cons] at hrest
  have hleaf : (appendText (textRun rest) kind).isContainer = false := by
    cases kind <;> first | rfl | cases hkind
  have hbuilds := Builds.of_add (foldl_step_block position hkind offset hdrop) hrest
  rwa [visits_of_not_isContainer hleaf] at hbuilds

/-- **Inside a container** building is ready for the rest. -/
lemma Ready.enter (h : Ready opened f outer (.enter kind offset :: rest))
    (hkind : ¬takesText kind = true) :
    Ready (⟨kind, position offset⟩ :: opened) ⟨⟨kind, position offset⟩, []⟩ (f :: outer) rest := by
  have hnested := h.nested
  simp only [isWellNested, Bool.and_eq_true] at hnested
  have hcontainer : kind.isContainer = true := by
    simpa [Kind.isOpened, hkind] using hnested.1.2
  exact ⟨by rw [openValues, h.opened_eq], hnested.2, ⟨hcontainer, by simp, List.isChain_nil⟩,
    List.forall_mem_cons.2 ⟨h.tidy, h.outer_tidy⟩, by simp [endsInText]⟩

/-- **A container is met when it is entered**, and then what is below it. -/
lemma Builds.enter (hrest : Builds position ⟨⟨kind, position offset⟩, []⟩ (f :: outer) rest met) :
    Builds position f outer (.enter kind offset :: rest)
      (.enter ⟨kind, position offset⟩ :: met) := by
  obtain ⟨g, hg, hvalue, htidy, hmet⟩ := hrest
  refine ⟨g, ?_, hvalue, htidy, ?_⟩
  · simpa [step, ofSpine] using hg
  · rw [hmet, metSoFar, List.append_assoc]
    simp [visitsAll]

/-- **Behind a node without anything inside it** building is ready for the rest. -/
lemma Ready.leaf (h : Ready opened f outer (.leaf kind offset :: rest)) :
    Ready opened (Building.add f (.node ⟨kind, position offset⟩ [])) outer rest := by
  have hnested := h.nested
  simp only [isWellNested, Bool.and_eq_true] at hnested
  have hnotText : kind.isText = false := by
    cases kind <;> first | rfl | cases hnested.1.2
  exact h.add (familiesAll_leaf _) (fun _ => hnotText) hnested.2 (by simp [Rose.value, hnotText])

/-- **A node without anything inside it is met once.** -/
lemma Builds.leaf (h : Ready opened f outer (.leaf kind offset :: rest))
    (hrest : Builds position (Building.add f (.node ⟨kind, position offset⟩ [])) outer rest met) :
    Builds position f outer (.leaf kind offset :: rest)
      (.enter ⟨kind, position offset⟩ :: met) := by
  have hnested := h.nested
  simp only [isWellNested, Bool.and_eq_true] at hnested
  have hleaf : kind.isContainer = false := by
    cases kind <;> first | rfl | cases hnested.1.2
  have hstep : step position (ofSpine f outer) (.leaf kind offset)
      = ofSpine (Building.add f (.node ⟨kind, position offset⟩ [])) outer := by
    rw [Building.add, ofSpine_append, step, Arena.push_eq_plantAll, top_ofSpine]
  have hbuilds := Builds.of_add (by rw [List.foldl_cons, hstep]) hrest
  rwa [visits_of_not_isContainer hleaf] at hbuilds

/-- **Behind a container that is left** building is ready for the rest: the container is one more
finished tree of the node around it. -/
lemma Ready.leave (h : Ready opened f (g :: outer) (.leave :: rest)) :
    Ready opened.tail (Building.add g (.node f.value f.done)) outer rest := by
  have hnested := h.nested
  simp only [isWellNested, Bool.and_eq_true, ← List.map_tail] at hnested
  obtain rfl : f.value :: openValues g outer = opened := h.opened_eq
  obtain ⟨hg, houter⟩ := List.forall_mem_cons.1 h.outer_tidy
  have hfamilies : FamiliesAll Tidy [.node f.value f.done] :=
    familiesAll_cons.2 ⟨⟨by simp [h.tidy.container], h.tidy.apart⟩, h.tidy.families, by simp⟩
  have hnotText : f.value.value.isText = false := by
    have hcontainer := h.tidy.container
    cases hvalue : f.value.value <;> first | rfl | (rw [hvalue] at hcontainer; cases hcontainer)
  exact ⟨openValues_add _ _ _, hnested.2, hg.add hfamilies fun _ => hnotText, houter,
    by simp [endsInText_add, Rose.value, hnotText]⟩

/-- **A container is met again when it is left.** -/
lemma Builds.leave (h : Ready opened f (g :: outer) (.leave :: rest))
    (hrest : Builds position (Building.add g (.node f.value f.done)) outer rest met) :
    Builds position f (g :: outer) (.leave :: rest) (.leave f.value :: met) := by
  obtain ⟨g', hg', hvalue, htidy, hmet⟩ := hrest
  refine ⟨g', by rw [List.foldl_cons, step_leave, hg'],
    hvalue.trans (rootValue_of_value _ _ _ rfl), htidy, ?_⟩
  rw [hmet, metSoFar_close h.tidy.container, List.append_assoc]
  rfl

/-- Nothing is open but the root where a well nested stream ends. -/
lemma Ready.outer_eq_nil (h : Ready opened f outer []) : outer = [] := by
  have hnested := h.nested
  cases outer with
  | nil => rfl
  | cons g outer =>
    rw [← h.opened_eq] at hnested
    simp [isWellNested, openValues] at hnested

/-- Something is open around a node that is left. -/
lemma Ready.outer_ne_nil (h : Ready opened f outer (.leave :: rest)) : outer ≠ [] := by
  rintro rfl
  have hnested := h.nested
  rw [← h.opened_eq] at hnested
  simp [isWellNested, openValues] at hnested

end Events

/-- **The tree of a well nested stream, visited recursively, gives the replay of the stream.**

**Proof sketch.** Induction along the replay. A run of texts outside a block makes one node, as no
text stands before it; a block takes the run inside it and is left right after it; a container is
open until it is left, and then is one more finished tree of the node around it. In each case what
has been met so far grows by what the replay gives. -/
theorem foldl_step_replay (position : Nat → Position) {opened : List (Placed Kind)}
    {events : List Event} {f : OpenNode} {outer : List OpenNode}
    (h : Ready opened f outer events) :
    Builds position f outer events (replay position opened events) := by
  fun_induction replay position opened events generalizing f outer with
  | case1 opened =>
    obtain rfl := h.outer_eq_nil
    exact ⟨f, rfl, rfl, h.tidy, by simp [metSoFar]⟩
  | case2 opened value offset rest ih => exact .text h (ih h.text)
  | case3 opened kind offset rest hkind ih => exact .block h hkind (ih (h.block hkind))
  | case4 opened kind offset rest hkind ih => exact .enter (ih (h.enter hkind))
  | case5 opened kind offset rest ih => exact .leaf h (ih h.leaf)
  | case6 opened rest ih =>
    obtain ⟨g, outer, rfl⟩ := List.exists_cons_of_ne_nil h.outer_ne_nil
    obtain rfl : f.value :: openValues g outer = opened := h.opened_eq
    exact .leave h (ih h.leave)

end Building

end DocComments.Markup
