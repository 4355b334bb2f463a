import DocComments.Proofs.Comment.Walk
import DocComments.Proofs.Markup.Spine
import Mathlib.Data.List.Forall2

set_option autoImplicit false

/-!
# The walk and the recursion give the same comment

The walk over a markup tree converts the top-level blocks one after the other, gives each its role
as it leaves it, and joins those that are left to the root at the end. This file follows it from
block to block, and shows that what it ends up with is the tree that the recursion describes.

## Main definitions

* `Classifier.Kept` — the top-level nodes of a comment hold given trees.

## Main results

* `Classifier.steps_block`, `Classifier.steps_blocks` — the walk through one block, and through all.
* `classify_holds_sectionTree` — the walk ends, and the comment is the one given by recursion.
-/

namespace DocComments.Comment.Classifier

open Markup (Kind Walk)
open Markup.Tree (Below)
open Arena
open Rose (roots roots_cons sizeAll size_node)

variable {ctx : Context}

/-! ## Roles -/

/-- A paragraph that does not start with a command. -/
lemma leadingCommand?_eq_none {settings : Settings} {c : Comment} {parent : Option Nat} {id : Nat}
    {v : Placed Node} {children : List (Rose (Placed Node))}
    (h : c.Stores parent id (.node v children)) (hcommand : command? settings children = none) :
    leadingCommand? settings c id = none := by
  obtain ⟨hroot, hbelow⟩ := stores_node.1 h
  rw [leadingCommand?, (views_of_slot hroot).2.2]
  cases children with
  | nil => rfl
  | cons first others =>
    obtain ⟨⟨typed, position⟩, below⟩ := first
    have hfirst := (stores_node.1 (storesAll_cons.1 hbelow).1).1
    have hnode : c.node? (id + 1) = some typed := by simp [node?, (views_of_slot hfirst).1]
    rw [roots_cons]
    simp only [hnode]
    split
    · rename_i mark rest heq
      cases heq
      by_cases hmark : mark = settings.commandCharacter
      · simp [command?, hmark] at hcommand
      · simp [hmark]
    · rfl

/-- A paragraph that starts with a command. -/
lemma leadingCommand?_eq_some {settings : Settings} {c : Comment} {parent : Option Nat} {id : Nat}
    {v : Placed Node} {children stripped : List (Rose (Placed Node))} {word : List Char}
    (h : c.Stores parent id (.node v children))
    (hcommand : command? settings children = some (word, stripped)) :
    ∃ tail old position below others,
      leadingCommand? settings c id = some (id + 1, word, tail) ∧
      children = .node ⟨old, position⟩ below :: others ∧
      stripped = .node ⟨.text (Text.trimStart tail), position⟩ below :: others := by
  obtain ⟨hroot, hbelow⟩ := stores_node.1 h
  unfold command? at hcommand
  split at hcommand
  · rename_i mark rest position below others
    by_cases hmark : mark = settings.commandCharacter
    · rw [if_pos hmark] at hcommand
      simp only [Option.some.injEq, Prod.mk.injEq] at hcommand
      obtain ⟨rfl, rfl⟩ := hcommand
      have hfirst := (stores_node.1 (storesAll_cons.1 hbelow).1).1
      have hnode : c.node? (id + 1) = some (.text (mark :: rest)) := by
        simp [node?, (views_of_slot hfirst).1]
      refine ⟨(Text.splitWord rest).2, _, position, below, others, ?_, rfl, rfl⟩
      rw [leadingCommand?, (views_of_slot hroot).2.2, roots_cons]
      simp [hnode, hmark]
    · rw [if_neg hmark] at hcommand
      cases hcommand
  · cases hcommand

/-- A paragraph without a known command gets no role. -/
lemma assignRole_eq_error {s : Classifier} {parent : Option Nat} {id : Nat} {role : SectionKind}
    {title : String} {position : Position} {children : List (Rose (Placed Node))}
    {failure : Failure} (h : s.comment.Stores parent id
      (.node ⟨.paragraph role title, position⟩ children))
    (hclass : classifyBlock ctx s.briefPending (.node ⟨.paragraph role title, position⟩ children)
      = .error failure) : s.assignRole ctx id = .error failure := by
  have hposition : s.comment.position id = position := by
    simp [Arena.position, (views_of_slot (stores_node.1 h).1).1]
  rw [classifyBlock] at hclass
  split at hclass
  · cases hclass
  · rename_i word stripped hcommand
    obtain ⟨tail, old, p, below, others, hlead, -, -⟩ := leadingCommand?_eq_some h hcommand
    simp only [assignRole, hlead, hposition]
    simp only at hclass
    split at hclass
    · rename_i hinvalid
      rw [if_pos hinvalid]
      cases hclass
      rfl
    · cases hclass

/-- A paragraph gets its role; nothing before it changes. -/
lemma assignRole_eq_ok {s : Classifier} {parent : Option Nat} {id : Nat} {role : SectionKind}
    {title : String} {position : Position} {children : List (Rose (Placed Node))}
    {block : Rose (Placed Node)} {brief : Bool} (h : s.comment.Stores parent id
      (.node ⟨.paragraph role title, position⟩ children))
    (hclass : classifyBlock ctx s.briefPending (.node ⟨.paragraph role title, position⟩ children)
      = .ok (block, brief)) :
    ∃ c : Comment, s.assignRole ctx id = .ok { s with comment := c, briefPending := brief } ∧
      c.Stores parent id block ∧ ∀ i : Nat, i < id → c.slots[i]? = s.comment.slots[i]? := by
  have hslots : ∀ (c : Comment) (f : Placed Node → Placed Node) (j i : Nat), i < j →
      (c.modifyValue j f).slots[i]? = c.slots[i]? := by
    intro c f j i hi
    rw [Arena.modifyValue, slots_modify, if_neg (by omega)]
  rw [classifyBlock] at hclass
  split at hclass
  · rename_i hcommand
    simp only [Except.ok.injEq, Prod.mk.injEq] at hclass
    obtain ⟨rfl, rfl⟩ := hclass
    refine ⟨_, by rw [assignRole, leadingCommand?_eq_none h hcommand], ?_, ?_⟩
    · exact h.modifyValue fun p => { p with value := .paragraph _ _ }
    · intro i hi
      exact hslots _ _ _ _ hi
  · rename_i word stripped hcommand
    obtain ⟨tail, old, p, below, others, hlead, rfl, rfl⟩ := leadingCommand?_eq_some h hcommand
    simp only at hclass
    split at hclass
    · cases hclass
    · rename_i hvalid
      simp only [Except.ok.injEq, Prod.mk.injEq] at hclass
      obtain ⟨rfl, rfl⟩ := hclass
      refine ⟨_, by simp only [assignRole, hlead, if_neg hvalid]; rfl, ?_, ?_⟩
      · -- the text is changed first, then the paragraph itself
        obtain ⟨hroot, hbelow⟩ := stores_node.1 h
        have htext : (s.comment.modifyNode (id + 1) fun _ => .text (Text.trimStart tail)).Stores
            parent id (.node ⟨.paragraph role title, position⟩
              (.node ⟨.text (Text.trimStart tail), p⟩ below :: others)) := by
          refine stores_node.2 ⟨?_, hbelow.modifyValue _⟩
          rw [modifyNode, hslots _ _ _ _ (by omega), hroot, roots_cons, roots_cons, size_node,
            size_node]
        exact htext.modifyValue fun p => { p with value := .paragraph _ _ }
      · intro i hi
        rw [modifyNode, hslots _ _ _ _ hi, modifyNode, hslots _ _ _ _ (by omega)]

/-! ## Top-level nodes -/

/-- The root of the comment has no children yet, and the collected top-level nodes hold the given
trees. -/
structure Kept (c : Comment) (entries : List (Nat × Nat)) (out : List (Rose (Placed Node))) :
    Prop where
  root : c.slots[0]? = some { value := ⟨.document, ⟨1, 1⟩⟩ }
  stored : List.Forall₂ (fun e t => 0 < e.2 ∧ c.Stores none e.2 t) entries out

/-- What is kept lies in the slots there are. -/
lemma Kept.congr {c c' : Comment} {entries : List (Nat × Nat)} {out : List (Rose (Placed Node))}
    (h : Kept c entries out) (hc : ∀ i : Nat, i < c.size → c'.slots[i]? = c.slots[i]?) :
    Kept c' entries out := by
  constructor
  · rw [hc 0 (lt_size_of_slots h.root), h.root]
  · refine h.stored.imp fun e t he => ⟨he.1, he.2.congr fun i _ hi => hc i ?_⟩
    have := he.2.le_size
    omega

/-- One more node is kept. -/
lemma Kept.append {c : Comment} {entries : List (Nat × Nat)} {out : List (Rose (Placed Node))}
    {id typed : Nat} {block : Rose (Placed Node)} (h : Kept c entries out) (hpos : 0 < typed)
    (hblock : c.Stores none typed block) : Kept c (entries ++ [(id, typed)]) (out ++ [block]) :=
  ⟨h.root, List.rel_append h.stored (.cons ⟨hpos, hblock⟩ .nil)⟩

/-- Joining nodes to the root changes the children of the root only. -/
lemma views_foldl_attach (entries : List (Nat × Nat)) (c : Comment) (hsize : 0 < c.size) (i : Nat) :
    (entries.foldl (fun c e => c.attach 0 e.2) c).value? i = c.value? i ∧
      (entries.foldl (fun c e => c.attach 0 e.2) c).children i
        = if i = 0 then c.children 0 ++ entries.map (·.2) else c.children i := by
  induction entries generalizing c with
  | nil =>
    by_cases hi : i = 0 <;> simp [hi]
  | cons e entries ih =>
    obtain ⟨hvalue, hchildren⟩ := ih (c.attach 0 e.2) (by rwa [size_attach])
    obtain ⟨s, hs⟩ : ∃ s, c.slots[0]? = some s := by
      cases hs : c.slots[0]? with
      | none =>
        have := (c.slots_eq_none_iff 0).1 hs
        omega
      | some s => exact ⟨s, rfl⟩
    rw [List.foldl_cons]
    constructor
    · rw [hvalue]
      simp only [value?, attach, slots_modify]
      grind
    · rw [hchildren]
      simp only [Arena.children, attach, slots_modify, List.map_cons]
      grind

/-- Kept trees are reached from their nodes, whatever happens to the root. -/
lemma Kept.holdsAll {c c' : Comment} {entries : List (Nat × Nat)} {out : List (Rose (Placed Node))}
    (h : Kept c entries out)
    (hviews : ∀ i, i ≠ 0 → c'.value? i = c.value? i ∧ c'.children i = c.children i) :
    c'.HoldsAll (entries.map (·.2)) out := by
  have hstored := h.stored
  clear h
  induction hstored with
  | nil => simp
  | cons he _ ih =>
    rw [List.map_cons, holdsAll_cons]
    refine ⟨he.2.holds fun i hi => hviews i ?_, ih⟩
    have := he.1
    omega

/-- **Joining the kept nodes to the root gives the tree they make.** -/
lemma Kept.holds_finish {s : Classifier} {out : List (Rose (Placed Node))}
    (h : Kept s.comment s.topLevel out) :
    s.finish.1.Holds 0 (.node ⟨.document, ⟨1, 1⟩⟩ out) := by
  obtain ⟨hvalue, -, hchildren⟩ := views_of_slot h.root
  have hviews := views_foldl_attach s.topLevel s.comment (lt_size_of_slots h.root)
  rw [finish, holds_node, (hviews 0).1, (hviews 0).2, if_pos rfl, hvalue, hchildren,
    List.nil_append]
  refine ⟨rfl, h.holdsAll fun i hi => ?_⟩
  rw [(hviews i).1, (hviews i).2, if_neg hi]
  exact ⟨rfl, rfl⟩

/-! ## From block to block -/

/-- The walk stands between top-level blocks: those in `done` are still in the markup tree, `ts` are
to come, and the comment keeps the sections `out`. -/
structure Between (s : Classifier) (done : List Nat) (next : Nat) (ts : List (Rose (Placed Kind)))
    (out : List (Rose (Placed Node))) : Prop where
  below : Below s.tree 0 done next ts
  top : ∀ e ∈ s.topLevel, e.1 < next
  kept : Kept s.comment s.topLevel out

/-- The state after the typed form of a top-level node has been made, and is open. -/
def openedTop (s : Classifier) (id : Nat) (v : Placed Node) : Classifier :=
  { s with
    comment := s.comment.alloc v
    topLevel := s.topLevel ++ [(id, s.comment.size)]
    stack := s.comment.size :: s.stack }

/-- One more node is collected. -/
lemma forall_lt_append {entries : List (Nat × Nat)} {id next : Nat} (typed : Nat)
    (h : ∀ e ∈ entries, e.1 < id) (hid : id < next) :
    ∀ e ∈ entries ++ [(id, typed)], e.1 < next := by
  intro e he
  rcases List.mem_append.1 he with he | he
  · have := h e he
    omega
  · rw [List.mem_singleton.1 he]
    exact hid

section Block

variable {s : Classifier} {next : Nat} {done : List Nat} {v : Placed Kind}
  {below ts : List (Rose (Placed Kind))} {out : List (Rose (Placed Node))}

/-- The walk enters a top-level node with a typed form. -/
lemma step_enter_top {typed : Node} (h : Below s.tree 0 done next (.node v below :: ts))
    (hform : form (plainText (.node v below)) v.value = .ok typed) : s.step ctx (.enter next) =
      ({ s with
        comment := s.comment.alloc ⟨typed, toSource ctx.lines v.position⟩
        topLevel := s.topLevel ++ [(next, s.comment.size)]
        stack := if v.value.isContainer then s.comment.size :: s.stack else s.stack },
        Markup.Tree.advance s.tree (.enter next)) := by
  have hstored := (storesAll_cons.1 h.stored).1
  have hpos : next ≠ 0 := by
    have := h.lt_next
    omega
  have hparent : (s.tree.parent? next == some 0) = true := by
    rw [(views_of_slot (stores_node.1 hstored).1).2.1]
    rfl
  have henter : s.enter ctx next = ({ s with
      comment := s.comment.alloc ⟨typed, toSource ctx.lines v.position⟩
      topLevel := s.topLevel ++ [(next, s.comment.size)]
      stack := if v.value.isContainer then s.comment.size :: s.stack else s.stack }, none) := by
    rw [enter, convert_eq hstored, hform]
    have hcontainer := Markup.Tree.isContainer_eq hstored
    simp only [hparent, source_eq hstored]
    by_cases hc : v.value.isContainer = true
    · simp [hcontainer, hc]
    · simp [hcontainer, hc]
  simp only [step, Walk.id, if_neg hpos, henter]

/-- A dropped block leaves no section. -/
lemma steps_block_drop (ctx : Context) {construct : String}
    (h : Between s done next (.node v below :: ts) out)
    (hform : form (plainText (.node v below)) v.value = .error construct) :
    ∃ s', Steps ctx 1 (s, some (.enter next))
        (s', some (Walk.into 0 (roots (next + (sizeAll below + 1)) ts))) ∧
      Between s' done (next + (sizeAll below + 1)) ts out ∧ s'.briefPending = s.briefPending ∧
      s'.diagnostics = s.diagnostics ++ [Failure.diagnostic ctx.entity
        ⟨.unsupportedMarkup construct, toSource ctx.lines v.position⟩] := by
  have hone := Steps.single ctx s (.enter next)
  rw [step_drop h.below hform h.top] at hone
  refine ⟨_, hone, ⟨?_, ?_, h.kept⟩, rfl, rfl⟩
  · have := h.below.skip.detach
    rwa [size_node] at this
  · intro e he
    have := h.top e he
    omega

/-- A block that is no container becomes a section as it is entered. -/
lemma steps_block_leaf (ctx : Context) {typed : Node}
    (h : Between s done next (.node v below :: ts) out)
    (hform : form (plainText (.node v below)) v.value = .ok typed)
    (hc : ¬ v.value.isContainer = true) :
    ∃ s', Steps ctx 1 (s, some (.enter next))
        (s', some (Walk.into 0 (roots (next + (sizeAll below + 1)) ts))) ∧
      Between s' (done ++ [next]) (next + (sizeAll below + 1)) ts
        (out ++ [.node ⟨typed, toSource ctx.lines v.position⟩ []]) ∧
      s'.briefPending = s.briefPending ∧ s'.diagnostics = s.diagnostics := by
  have hstored := (storesAll_cons.1 h.below.stored).1
  have hafter := h.below.skip
  rw [size_node] at hafter
  have hadvance : Markup.Tree.advance s.tree (.enter next)
      = some (Walk.into 0 (roots (next + (sizeAll below + 1)) ts)) := by
    rw [Markup.Tree.advance, Markup.Tree.isContainer_eq hstored, if_neg hc, hafter.next?_eq]
  have hone := Steps.single ctx s (.enter next)
  rw [step_enter_top h.below hform, hadvance] at hone
  refine ⟨_, hone, ⟨hafter, forall_lt_append _ h.top (by omega), ?_⟩, rfl, rfl⟩
  · have hkept : Kept (s.comment.alloc ⟨typed, toSource ctx.lines v.position⟩) s.topLevel out := by
      refine h.kept.congr fun i hi => ?_
      rw [slots_alloc, if_neg (by omega)]
    have hblock := stores_alloc_plantAll s.comment ⟨typed, toSource ctx.lines v.position⟩ []
    rw [plantAll_nil] at hblock
    exact hkept.append (lt_size_of_slots h.kept.root) hblock

/-- The walk enters a top-level container and goes through what is below it. -/
lemma steps_block_inner (ctx : Context) {typed : Node}
    (h : Between s done next (.node v below :: ts) out)
    (hform : form (plainText (.node v below)) v.value = .ok typed)
    (hc : v.value.isContainer = true) :
    ∃ k b, k ≤ 2 * sizeAll below + 1 ∧
      Below b 0 (done ++ [next]) (next + (sizeAll below + 1)) ts ∧
      Steps ctx k (s, some (.enter next))
        ((s.openedTop next ⟨typed, toSource ctx.lines v.position⟩).planted ctx b s.comment.size
          below, some (.leave next)) := by
  have hlt := h.below.lt_next
  have hparent := (views_of_slot (stores_node.1 (storesAll_cons.1 h.below.stored).1).1).2.1
  have hinner := h.below.inner hc
  have hone := Steps.single ctx s (.enter next)
  rw [step_enter_top h.below hform, hinner.advance_enter, if_pos hc] at hone
  obtain ⟨k, b, hk, hconf, hsteps⟩ := steps_forest ctx below
    (s := s.openedTop next ⟨typed, toSource ctx.lines v.position⟩)
    hinner (by omega) rfl (forall_lt_append _ h.top (by omega))
  refine ⟨1 + k, b, by omega, ?_, hone.trans hsteps⟩
  rw [← size_node v]
  refine h.below.advance (fun i hi => hconf.slots_eq ?_ ?_) ?_
  · rw [size_node] at hi
    omega
  · rw [size_node] at hi
    omega
  · rw [hconf.parent?_eq (by omega)]
    exact hparent

/-- The walk leaves a top-level node, which gets its role if it is a paragraph. -/
lemma step_leave_top {id typed : Nat} {stack : List Nat} (hid : id ≠ 0)
    (hparent : s.tree.parent? id = some 0) (hstack : s.stack = typed :: stack) :
    s.step ctx (.leave id) =
      match (if (sectionKind? s.comment typed).isSome then { s with stack }.assignRole ctx typed
        else .ok { s with stack }) with
      | .ok s' => (s', Markup.Tree.next? s'.tree id)
      | .error failure => { s with stack }.recover ctx id failure := by
  have hleave : s.leave ctx id =
      match (if (sectionKind? s.comment typed).isSome then { s with stack }.assignRole ctx typed
        else .ok { s with stack }) with
      | .ok s' => (s', none)
      | .error failure => ({ s with stack }, some failure) := by
    rw [leave, hstack]
    simp only [hparent, beq_self_eq_true, Bool.true_and]
    split <;> rfl
  simp only [step, Walk.id, if_neg hid, hleave]
  cases (if (sectionKind? s.comment typed).isSome then { s with stack }.assignRole ctx typed
    else .ok { s with stack }) <;> rfl

/-- The role of a stored node. -/
lemma isSome_sectionKind? {c : Comment} {parent : Option Nat} {id : Nat} {typed : Node}
    {position : Position} {children : List (Rose (Placed Node))}
    (h : c.Stores parent id (.node ⟨typed, position⟩ children)) :
    (sectionKind? c id).isSome = true ↔ ∃ role title, typed = .paragraph role title := by
  have hnode : c.node? id = some typed := by
    simp [node?, (views_of_slot (stores_node.1 h).1).1]
  rw [sectionKind?, hnode]
  cases typed <;> simp

end Block

/-- The walk is about to leave a top-level block, whose conversion lies at the end of the comment
`c` as it was before the block. -/
structure Leaving (s : Classifier) (c : Comment) (id next : Nat) (done stack : List Nat)
    (entries : List (Nat × Nat)) (ts : List (Rose (Placed Kind))) (out : List (Rose (Placed Node)))
    (block : Rose (Placed Node)) : Prop where
  below : Below s.tree 0 (done ++ [id]) next ts
  top : s.topLevel = entries ++ [(id, c.size)]
  lt : ∀ e ∈ entries, e.1 < id
  stack : s.stack = c.size :: stack
  kept : Kept c entries out
  slots : ∀ i : Nat, i < c.size → s.comment.slots[i]? = c.slots[i]?
  stored : s.comment.Stores none c.size block

section Leaving

variable {s : Classifier} {c : Comment} {id next : Nat} {done stack : List Nat}
  {entries : List (Nat × Nat)} {ts : List (Rose (Placed Kind))} {out : List (Rose (Placed Node))}
  {position : Position} {children : List (Rose (Placed Node))}

/-- The block is not the root. -/
lemma Leaving.lt_next {block : Rose (Placed Node)}
    (h : Leaving s c id next done stack entries ts out block) : 0 < id ∧ id < next :=
  h.below.done_lt id (by simp)

/-- All nodes collected so far come before the walk. -/
lemma Leaving.top_lt {block : Rose (Placed Node)}
    (h : Leaving s c id next done stack entries ts out block) : ∀ e ∈ s.topLevel, e.1 < next := by
  rw [h.top]
  exact forall_lt_append _ h.lt h.lt_next.2

/-- The walk takes a step to leave the block. -/
lemma Leaving.step {typed : Node}
    (h : Leaving s c id next done stack entries ts out (.node ⟨typed, position⟩ children)) :
    s.step ctx (.leave id) =
      match (if (sectionKind? s.comment c.size).isSome then { s with stack }.assignRole ctx c.size
        else .ok { s with stack }) with
      | .ok s' => (s', Markup.Tree.next? s'.tree id)
      | .error failure => { s with stack }.recover ctx id failure := by
  have hid := h.lt_next.1
  exact step_leave_top (by omega) (h.below.parent id (by simp)) h.stack

/-- A paragraph without a role is taken out of the markup and out of the collected nodes. -/
lemma steps_leave_failed {role : SectionKind} {title : String} {failure : Failure}
    (h : Leaving s c id next done stack entries ts out
      (.node ⟨.paragraph role title, position⟩ children))
    (hclass : classifyBlock ctx s.briefPending (.node ⟨.paragraph role title, position⟩ children)
      = .error failure) :
    ∃ s', Steps ctx 1 (s, some (.leave id)) (s', some (Walk.into 0 (roots next ts))) ∧
      Between s' done next ts out ∧ s'.briefPending = s.briefPending ∧
      s'.diagnostics = s.diagnostics ++ [failure.diagnostic ctx.entity] := by
  have hone := Steps.single ctx s (.leave id)
  rw [h.step, if_pos ((isSome_sectionKind? h.stored).2 ⟨role, title, rfl⟩),
    assignRole_eq_error (s := { s with stack }) h.stored hclass] at hone
  have hparent : s.comment.parent? c.size = none := (views_of_slot (stores_node.1 h.stored).1).2.1
  have hdiscard := discard_eq_of_last (s := { s with stack }) h.top h.lt hparent
  simp only [recover_eq (s := { s with stack }) h.below, hdiscard] at hone
  refine ⟨_, hone, ⟨h.below.detach, ?_, h.kept.congr h.slots⟩, rfl, rfl⟩
  intro e he
  have := h.lt e he
  have := h.lt_next.2
  omega

/-- A paragraph with a role becomes a section. -/
lemma steps_leave_classified {role : SectionKind} {title : String} {block : Rose (Placed Node)}
    {brief : Bool} (h : Leaving s c id next done stack entries ts out
      (.node ⟨.paragraph role title, position⟩ children))
    (hclass : classifyBlock ctx s.briefPending (.node ⟨.paragraph role title, position⟩ children)
      = .ok (block, brief)) :
    ∃ s', Steps ctx 1 (s, some (.leave id)) (s', some (Walk.into 0 (roots next ts))) ∧
      Between s' (done ++ [id]) next ts (out ++ [block]) ∧ s'.briefPending = brief ∧
      s'.diagnostics = s.diagnostics := by
  obtain ⟨c', hrole, hstored, hsame⟩ := assignRole_eq_ok (s := { s with stack }) h.stored hclass
  have hone := Steps.single ctx s (.leave id)
  rw [h.step, if_pos ((isSome_sectionKind? h.stored).2 ⟨role, title, rfl⟩), hrole] at hone
  simp only [h.below.next?_eq] at hone
  have hkept : Kept c' entries out := by
    refine h.kept.congr fun i hi => ?_
    rw [hsame i hi, h.slots i hi]
  refine ⟨_, hone, ⟨h.below, h.top_lt, ?_⟩, rfl, rfl⟩
  rw [h.top]
  exact hkept.append (lt_size_of_slots h.kept.root) hstored

/-- A block that is no paragraph becomes a section as it is. -/
lemma steps_leave_plain (ctx : Context) {typed : Node}
    (hpar : ∀ role title, typed ≠ .paragraph role title)
    (h : Leaving s c id next done stack entries ts out (.node ⟨typed, position⟩ children)) :
    ∃ s', Steps ctx 1 (s, some (.leave id)) (s', some (Walk.into 0 (roots next ts))) ∧
      Between s' (done ++ [id]) next ts (out ++ [.node ⟨typed, position⟩ children]) ∧
      s'.briefPending = s.briefPending ∧ s'.diagnostics = s.diagnostics := by
  have hone := Steps.single ctx s (.leave id)
  have hrole : ¬ (sectionKind? s.comment c.size).isSome = true := by
    intro hsome
    obtain ⟨role, title, heq⟩ := (isSome_sectionKind? h.stored).1 hsome
    exact hpar role title heq
  rw [h.step, if_neg hrole] at hone
  simp only [h.below.next?_eq] at hone
  refine ⟨_, hone, ⟨h.below, h.top_lt, ?_⟩, rfl, rfl⟩
  rw [h.top]
  exact (h.kept.congr h.slots).append (lt_size_of_slots h.kept.root) h.stored

/-- The walk leaves a top-level block, and does what the recursion says. -/
lemma steps_leave_block (ctx : Context) {block : Rose (Placed Node)}
    (h : Leaving s c id next done stack entries ts out block) :
    ∃ s' done', Steps ctx 1 (s, some (.leave id)) (s', some (Walk.into 0 (roots next ts))) ∧
      Between s' done' next ts
        (out ++ (Outcome.ofBlock ctx s.briefPending (some block, [])).sections) ∧
      s'.briefPending = (Outcome.ofBlock ctx s.briefPending (some block, [])).brief ∧
      s'.diagnostics
        = s.diagnostics ++ (Outcome.ofBlock ctx s.briefPending (some block, [])).problems := by
  obtain ⟨⟨typed, position⟩, children⟩ := block
  by_cases hpar : ∃ role title, typed = .paragraph role title
  · obtain ⟨role, title, rfl⟩ := hpar
    cases hclass : classifyBlock ctx s.briefPending
        (.node ⟨.paragraph role title, position⟩ children) with
    | error failure =>
      obtain ⟨s', hsteps, hbetween, hbrief, hproblems⟩ := steps_leave_failed h hclass
      refine ⟨s', done, hsteps, ?_, ?_, ?_⟩ <;> simpa [Outcome.ofBlock, hclass]
    | ok result =>
      obtain ⟨block, brief⟩ := result
      obtain ⟨s', hsteps, hbetween, hbrief, hproblems⟩ := steps_leave_classified h hclass
      refine ⟨s', done ++ [id], hsteps, ?_, ?_, ?_⟩ <;> simpa [Outcome.ofBlock, hclass]
  · have hne : ∀ role title, typed ≠ .paragraph role title := by
      intro role title heq
      exact hpar ⟨role, title, heq⟩
    have hclass : classifyBlock ctx s.briefPending (.node ⟨typed, position⟩ children)
        = .ok (.node ⟨typed, position⟩ children, s.briefPending) := classifyBlock_of_ne hne
    obtain ⟨s', hsteps, hbetween, hbrief, hproblems⟩ := steps_leave_plain ctx hne h
    refine ⟨s', done ++ [id], hsteps, ?_, ?_, ?_⟩ <;> simpa [Outcome.ofBlock, hclass]

end Leaving

/-- **The walk through a top-level block** takes at most two steps for each node, and does what the
recursion says. -/
lemma steps_block (ctx : Context) {s : Classifier} {next : Nat} {done : List Nat}
    {t : Rose (Placed Kind)} {ts : List (Rose (Placed Kind))} {out : List (Rose (Placed Node))}
    (h : Between s done next (t :: ts) out) :
    ∃ k s' done', k ≤ 2 * t.size ∧
      Steps ctx k (s, some (.enter next)) (s', some (Walk.into 0 (roots (next + t.size) ts))) ∧
      Between s' done' (next + t.size) ts
        (out ++ (Outcome.ofBlock ctx s.briefPending (convertTree ctx t)).sections) ∧
      s'.briefPending = (Outcome.ofBlock ctx s.briefPending (convertTree ctx t)).brief ∧
      s'.diagnostics
        = s.diagnostics ++ (Outcome.ofBlock ctx s.briefPending (convertTree ctx t)).problems := by
  obtain ⟨v, below⟩ := t
  rw [size_node]
  cases hform : form (plainText (.node v below)) v.value with
  | error construct =>
    obtain ⟨s', hsteps, hbetween, hbrief, hproblems⟩ := steps_block_drop ctx h hform
    refine ⟨1, s', done, by omega, hsteps, ?_, ?_, ?_⟩
    · simpa [convertTree, hform, Outcome.ofBlock] using hbetween
    · simpa [convertTree, hform, Outcome.ofBlock] using hbrief
    · simpa [convertTree, hform, Outcome.ofBlock] using hproblems
  | ok typed =>
    by_cases hc : v.value.isContainer = true
    · obtain ⟨k, b, hk, hbelow, hsteps⟩ := steps_block_inner ctx h hform hc
      obtain ⟨s', done', hone, hbetween, hbrief, hproblems⟩ := steps_leave_block ctx
        (s := (s.openedTop next ⟨typed, toSource ctx.lines v.position⟩).planted ctx b
          s.comment.size below)
        ⟨hbelow, rfl, h.top, rfl, h.kept, fun i hi => slots_alloc_plantAll _ _ _ hi,
          stores_alloc_plantAll _ _ _⟩
      have hconvert : convertTree ctx (.node v below)
          = (some (.node ⟨typed, toSource ctx.lines v.position⟩ (convertAll ctx below).1),
            (convertAll ctx below).2) := by
        simp [convertTree, hform, hc]
      refine ⟨k + 1, s', done', by omega, hsteps.trans hone, ?_, ?_, ?_⟩
      · rw [hconvert, Outcome.ofBlock_some]
        exact hbetween
      · rw [hconvert, Outcome.ofBlock_some]
        exact hbrief
      · rw [hconvert, Outcome.ofBlock_some, hproblems, planted, openedTop, List.append_assoc]
    · have hne : ∀ role title, typed ≠ .paragraph role title := by
        rintro role title rfl
        rw [form_eq_paragraph hform] at hc
        exact hc rfl
      obtain ⟨s', hsteps, hbetween, hbrief, hproblems⟩ := steps_block_leaf ctx h hform hc
      refine ⟨1, s', done ++ [next], by omega, hsteps, ?_, ?_, ?_⟩
      · simpa [convertTree, hform, hc, Outcome.ofBlock, classifyBlock_of_ne hne] using hbetween
      · simpa [convertTree, hform, hc, Outcome.ofBlock, classifyBlock_of_ne hne] using hbrief
      · simpa [convertTree, hform, hc, Outcome.ofBlock, classifyBlock_of_ne hne] using hproblems

/-- **The walk through top-level blocks** does what the recursion says, block by block. -/
lemma steps_blocks (ctx : Context) (ts : List (Rose (Placed Kind))) {s : Classifier}
    {next : Nat} {done : List Nat} {out : List (Rose (Placed Node))}
    (h : Between s done next ts out) :
    ∃ k s', k ≤ 2 * sizeAll ts ∧
      Steps ctx k (s, some (Walk.into 0 (roots next ts))) (s', some (.leave 0)) ∧
      Kept s'.comment s'.topLevel
        (out ++ (classifyBlocks ctx s.briefPending (ts.map (convertTree ctx))).1) ∧
      s'.diagnostics
        = s.diagnostics ++ (classifyBlocks ctx s.briefPending (ts.map (convertTree ctx))).2 := by
  induction ts generalizing s next done out with
  | nil =>
    refine ⟨0, s, by simp, .refl _, ?_, ?_⟩
    · simpa [classifyBlocks] using h.kept
    · simp [classifyBlocks]
  | cons t ts ih =>
    obtain ⟨j, s₁, done₁, hj, hblock, hbetween, hbrief, hproblems⟩ := steps_block ctx h
    obtain ⟨k, s₂, hk, hrest, hkept, hmore⟩ := ih hbetween
    rw [hbrief] at hkept hmore
    refine ⟨j + k, s₂, ?_, hblock.trans hrest, ?_, ?_⟩
    · rw [Rose.sizeAll_cons]
      omega
    · simpa [classifyBlocks, List.append_assoc] using hkept
    · simpa [classifyBlocks, hproblems, List.append_assoc] using hmore

end DocComments.Comment.Classifier

namespace DocComments.Comment

open Markup (Kind Walk)
open Classifier (Steps)
open Arena
open Rose (roots sizeAll size_node)

/-- The walk over the arena of a tree whose root is the document. -/
lemma exists_steps_ofRose (ctx : Context) (position : Position)
    (blocks : List (Rose (Placed Kind))) :
    ∃ k s, k ≤ 2 * (sizeAll blocks + 1) ∧
      Steps ctx k ({ tree := Arena.ofRose (.node ⟨.document, position⟩ blocks) },
        some (.enter 0)) (s, none) ∧
      s.finish.1.Holds 0 (sectionTree ctx (.node ⟨.document, position⟩ blocks)).1 ∧
      s.finish.2 = (sectionTree ctx (.node ⟨.document, position⟩ blocks)).2 := by
  obtain ⟨hroot, hbelow⟩ := stores_node.1 (stores_ofRose (.node ⟨Kind.document, position⟩ blocks))
  obtain ⟨hvalue, -, hchildren⟩ := views_of_slot hroot
  set tree : Markup.Tree := Arena.ofRose (.node ⟨.document, position⟩ blocks) with htree
  have hstart : Classifier.Between { tree } [] 1 blocks [] := by
    refine ⟨⟨?_, ?_, hbelow, by omega, by simp, by simp, by simp⟩, by simp, ⟨rfl, .nil⟩⟩
    · simp [Markup.Tree.isContainer, node?, hvalue, Kind.isContainer]
    · rw [hchildren, List.nil_append]
  obtain ⟨k, s, hk, hsteps, hkept, hproblems⟩ := Classifier.steps_blocks ctx blocks hstart
  have hfirst := Steps.single ctx ({ tree } : Classifier) (.enter 0)
  have hadvance := hstart.below.advance_enter
  simp only [Classifier.step, Walk.id, if_true, hadvance] at hfirst
  have hlast := Steps.single ctx s (.leave 0)
  simp only [Classifier.step, Walk.id, if_true, Markup.Tree.advance, Markup.Tree.next?] at hlast
  refine ⟨1 + k + 1, s, by omega, (hfirst.trans hsteps).trans hlast, ?_, ?_⟩
  · simpa [sectionTree] using hkept.holds_finish
  · simpa [sectionTree, Classifier.finish] using hproblems

/-- **The walk and the recursion agree.** For the markup tree of any event stream, the walk comes to
its end after at most two events for each node, and the comment that it leaves holds the tree that
the recursion gives for the tree held by the markup, with the same problems in the same order.

**Proof sketch.** The events make an arena that stores a tree rooted at the document, in document
order. On such an arena the walk is followed block by block, and all its events fit in the number
that `classify` allows. -/
theorem classify_holds_sectionTree (ctx : Context) (position : Nat → Position)
    (events : List Markup.Event) :
    ∃ t, (Markup.Tree.ofEvents position events).Holds 0 t ∧
      (∃ k s, k ≤ 2 * (Markup.Tree.ofEvents position events).size ∧
        Steps ctx k ({ tree := Markup.Tree.ofEvents position events }, some (.enter 0)) (s, none) ∧
        classify ctx (Markup.Tree.ofEvents position events) = s.finish) ∧
      (classify ctx (Markup.Tree.ofEvents position events)).1.Holds 0 (sectionTree ctx t).1 ∧
      (classify ctx (Markup.Tree.ofEvents position events)).2 = (sectionTree ctx t).2 := by
  obtain ⟨blocks, htree⟩ := Markup.Tree.ofEvents_eq_ofRose position events
  rw [htree]
  set root : Placed Kind := ⟨.document, ⟨1, 1⟩⟩
  obtain ⟨k, s, hk, hsteps, hholds, hproblems⟩ := exists_steps_ofRose ctx ⟨1, 1⟩ blocks
  have hsize : (Arena.ofRose (.node root blocks)).size = sizeAll blocks + 1 := by
    rw [size_ofRose, size_node]
  -- the walk is over before the allowed number of events is used up
  have hclassify : classify ctx (Arena.ofRose (.node root blocks)) = s.finish := by
    obtain ⟨m, hm⟩ := Nat.exists_eq_add_of_le hk
    rw [classify, hsize, hm, hsteps.run_eq]
    cases m <;> rfl
  refine ⟨.node root blocks, (stores_ofRose _).holds fun i _ => ⟨rfl, rfl⟩,
    ⟨k, s, by rwa [hsize], hsteps, hclassify⟩, ?_, ?_⟩
  · rw [hclassify]
    exact hholds
  · rw [hclassify]
    exact hproblems

/-- The root of a comment does not have the mapped position of the root of its markup: for the raw
comment `/// x` the latter is behind the decoration. -/
theorem classify_root_not_mapped :
    ¬ ∃ children, (classify { settings := {}, entity := "e", lines := pieces {} "/// x".toList }
        (Markup.Tree.ofEvents (fun offset => ⟨1, offset + 1⟩)
          [.enter .paragraph 0, .text ['x'] 0, .leave])).1.Holds 0
      (.node ⟨.document, toSource (pieces {} "/// x".toList)
        ((Markup.Tree.ofEvents (fun offset => ⟨1, offset + 1⟩)
          [.enter .paragraph 0, .text ['x'] 0, .leave]).position 0)⟩ children) := by
  rintro ⟨children, h⟩
  rw [holds_node] at h
  exact absurd h.1 (by decide)

end DocComments.Comment
