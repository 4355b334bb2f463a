import DocComments.Comment.Classify
import DocComments.Proofs.Arena.Layout
import Mathlib.Logic.Relation

set_option autoImplicit false

/-!
# What the walk over a comment can do

Every step of the walk is made of a few kinds of moves: a node is made, opened, closed or replaced,
or a failing one is dropped. What all moves keep is kept by the whole walk.

## Main definitions

* `Error.isOfReading` — the errors that reading a comment finds.
* `Move` — one change that the walk makes.

## Main results

* `topLevel_discard`, `comment_discard` — what dropping a failing node does to the comment.
* `next_recover` — where the walk goes on behind a node that was dropped.
* `moves_step` — a step of the walk is made of moves.
* `run_induct` — what all moves keep holds after the walk.
-/

namespace DocComments.Comment

/-- The errors that reading a comment finds; missing arguments are found later. -/
def Error.isOfReading : Error → Bool
  | unknownCommand _ | unsupportedMarkup _ => true
  | missingArgument _ => false

namespace Classifier

/-! ## Dropping a node -/

section Discard

variable (s : Classifier) (id : Nat)

/-- Dropping a typed form leaves the markup as it is. -/
@[simp]
lemma tree_discard : (s.discard id).tree = s.tree := by
  unfold discard
  split <;> rfl

/-- Dropping a typed form leaves the open nodes as they are. -/
@[simp]
lemma stack_discard : (s.discard id).stack = s.stack := by
  unfold discard
  split <;> rfl

/-- Dropping a typed form notes no problem. -/
@[simp]
lemma diagnostics_discard : (s.discard id).diagnostics = s.diagnostics := by
  unfold discard
  split <;> rfl

/-- The entry of the dropped node is taken out of the collected ones. -/
@[simp]
lemma topLevel_discard : (s.discard id).topLevel = s.topLevel.eraseP (·.1 == id) := by
  unfold discard
  split
  · rename_i hnone
    exact (List.eraseP_of_forall_not (List.find?_eq_none.1 hnone)).symm
  · rfl

/-- The typed form of the dropped node is detached, if there is one. -/
lemma comment_discard : (s.discard id).comment = s.comment ∨
    ∃ entry ∈ s.topLevel, (s.discard id).comment = s.comment.detach entry.2 := by
  unfold discard
  split
  · exact .inl rfl
  · rename_i markup typed hfound
    exact .inr ⟨(markup, typed), List.mem_of_find?_eq_some hfound, rfl⟩

/-- Whether a problem is noted before or after the typed form is dropped makes no difference. -/
lemma discard_noted (problems : List Diagnostic) :
    ({ s with diagnostics := problems } : Classifier).discard id
      = { s.discard id with diagnostics := problems } := by
  simp only [discard]
  cases s.topLevel.find? (·.1 == id) <;> rfl

variable (ctx : Context) (failure : Failure)

/-- Dropping a failing node notes the problem. -/
lemma diagnostics_recover : (s.recover ctx id failure).1.diagnostics = s.diagnostics ++
    [Diagnostic.warning ctx.entity failure.position failure.error.message] := by
  simp [recover]

/-- The comment after a failing node has been dropped. -/
lemma comment_recover : (s.recover ctx id failure).1.comment = s.comment ∨
    ∃ entry ∈ s.topLevel, (s.recover ctx id failure).1.comment = s.comment.detach entry.2 :=
  comment_discard _ id

/-- The nodes collected after a failing node has been dropped. -/
lemma topLevel_recover : (s.recover ctx id failure).1.topLevel
    = s.topLevel.eraseP (·.1 == id) := by
  simp [recover]

/-- Dropping a failing node leaves the open nodes as they are. -/
lemma stack_recover : (s.recover ctx id failure).1.stack = s.stack := by
  simp [recover]

/-- A failing node is detached from the markup. -/
lemma tree_recover : (s.recover ctx id failure).1.tree = s.tree.detach id := by
  simp [recover]

/-- The walk goes on behind the sibling before a failing node, or inside its parent. -/
lemma next_recover : (s.recover ctx id failure).2
    = ((s.tree.previousSibling? id).elim ((s.tree.parent? id).map .enter) (some ∘ .leave)).bind
      (Markup.Tree.advance (s.recover ctx id failure).1.tree) := by
  cases hprevious : s.tree.previousSibling? id with
  | none => simp [recover, hprevious]
  | some previous => simp [recover, hprevious]

end Discard

/-! ## Moves -/

/-- One change that the walk makes. -/
inductive Move (ctx : Context) (s : Classifier) : Classifier → Prop where
  /-- A top-level node is made. -/
  | top {id : Nat} {node : Node} (hnode : convert s.tree id = .ok node) :
    Move ctx s { s with
      comment := s.comment.alloc ⟨node, s.source ctx id⟩
      topLevel := s.topLevel ++ [(id, s.comment.size)] }
  /-- A node is made that has no place. -/
  | loose {id : Nat} {node : Node} (hnode : convert s.tree id = .ok node) :
    Move ctx s { s with comment := s.comment.alloc ⟨node, s.source ctx id⟩ }
  /-- A node is made inside an open one. -/
  | inner {id parent : Nat} {node : Node} (hnode : convert s.tree id = .ok node)
      (hparent : parent ∈ s.stack) :
    Move ctx s { s with
      comment := (s.comment.alloc ⟨node, s.source ctx id⟩).attach parent s.comment.size }
  /-- A node is opened. -/
  | opened {id : Nat} (hid : id < s.comment.size) : Move ctx s { s with stack := id :: s.stack }
  /-- The innermost open node is closed. -/
  | closed : Move ctx s { s with stack := s.stack.tail }
  /-- A node is replaced by one that is not a link. -/
  | replaced (id : Nat) {node : Node} (hnode : node.isLink = false) (briefPending : Bool) :
    Move ctx s { s with comment := s.comment.modifyNode id fun _ => node, briefPending }
  /-- A failing node is dropped. -/
  | dropped (id : Nat) (failure : Failure) (hfailure : failure.error.isOfReading = true) :
    Move ctx s (s.recover ctx id failure).1

/-- Several changes that the walk makes. -/
abbrev Moves (ctx : Context) : Classifier → Classifier → Prop :=
  Relation.ReflTransGen (Move ctx)

variable {ctx : Context} {s s' : Classifier} {id : Nat}

/-- Entering a node makes it, and opens it if it is a container. -/
lemma moves_enter (ctx : Context) (s : Classifier) (id : Nat) : Moves ctx s (s.enter ctx id).1 := by
  unfold enter
  split
  · exact .refl
  · rename_i node hnode
    have hopen : ∀ {x : Classifier} (b : Bool), Move ctx s x → s.comment.size < x.comment.size →
        Moves ctx s (if b then { x with stack := s.comment.size :: x.stack } else x) := by
      intro x b hx hlt
      cases b with
      | false => exact .single hx
      | true => exact .tail (.single hx) (.opened hlt)
    apply hopen
    · split
      · exact .top hnode
      · split
        · exact .loose hnode
        · rename_i parent rest hstack
          have hparent : parent ∈ s.stack := by
            rw [show s.stack = parent :: rest from hstack]
            exact List.mem_cons_self
          exact .inner hnode hparent
    · split
      · simp
      · split <;> simp

/-- Giving a paragraph its role replaces it, and the text it starts with. -/
lemma moves_assignRole (hs : s.assignRole ctx id = .ok s') : Moves ctx s s' := by
  unfold assignRole at hs
  split at hs
  · cases hs
    exact .single (.replaced id rfl false)
  · rename_i first word tail _
    simp only at hs
    split at hs
    · cases hs
    · cases hs
      have htext : Move ctx s { s with
          comment := s.comment.modifyNode first fun _ => .text (Text.trimStart tail) } :=
        .replaced first rfl s.briefPending
      exact .tail (.single htext) (.replaced id rfl s.briefPending)

/-- Leaving a node closes it, and a top-level paragraph gets its role if there is one for it. -/
lemma moves_leave (ctx : Context) (s : Classifier) (id : Nat) : Moves ctx s (s.leave ctx id).1 := by
  unfold leave
  split
  · exact .refl
  · rename_i typed stack hstack
    have hclosed : Move ctx s { s with stack } := by
      have hmove : Move ctx s { s with stack := s.stack.tail } := .closed
      rwa [hstack] at hmove
    simp only
    split
    · split
      · rename_i s' hrole
        exact .head hclosed (moves_assignRole hrole)
      · exact .single hclosed
    · exact .single hclosed

/-- Entering a node fails if it has no typed form. -/
lemma isOfReading_of_enter {failure : Failure} (hs : (s.enter ctx id).2 = some failure) :
    failure.error.isOfReading = true := by
  unfold enter at hs
  split at hs
  · rename_i error herror
    cases hs
    unfold convert at herror
    split at herror <;> first | (cases herror; rfl) | cases herror
  · cases hs

/-- A paragraph has no role if its command is unknown. -/
lemma isOfReading_of_assignRole {failure : Failure} (hs : s.assignRole ctx id = .error failure) :
    failure.error.isOfReading = true := by
  unfold assignRole at hs
  split at hs
  · cases hs
  · simp only at hs
    split at hs
    · cases hs
      rfl
    · cases hs

/-- Leaving a node fails if its command is unknown. -/
lemma isOfReading_of_leave {failure : Failure} (hs : (s.leave ctx id).2 = some failure) :
    failure.error.isOfReading = true := by
  unfold leave at hs
  split at hs
  · cases hs
  · simp only at hs
    split at hs
    · split at hs
      · cases hs
      · rename_i hrole
        cases hs
        exact isOfReading_of_assignRole hrole
    · cases hs

/-- **A step of the walk is made of moves.** What was done before a failure is kept. -/
lemma moves_step (ctx : Context) (s : Classifier) (event : Markup.Walk) :
    Moves ctx s (s.step ctx event).1 := by
  unfold step
  by_cases hid : event.id = 0
  · rw [if_pos hid]
  · rw [if_neg hid]
    cases event with
    | enter id =>
      dsimp only
      have hmoves := moves_enter ctx s id
      cases houtcome : s.enter ctx id with
      | mk s' failure =>
        rw [houtcome] at hmoves
        cases failure with
        | none => exact hmoves
        | some failure =>
          have hreading := isOfReading_of_enter (congrArg Prod.snd houtcome)
          exact .tail hmoves (.dropped _ failure hreading)
    | leave id =>
      dsimp only
      have hmoves := moves_leave ctx s id
      cases houtcome : s.leave ctx id with
      | mk s' failure =>
        rw [houtcome] at hmoves
        cases failure with
        | none => exact hmoves
        | some failure =>
          have hreading := isOfReading_of_leave (congrArg Prod.snd houtcome)
          exact .tail hmoves (.dropped _ failure hreading)

/-- The whole walk is made of moves. -/
lemma moves_run (ctx : Context) (s : Classifier) (fuel : Nat) (event : Option Markup.Walk) :
    Moves ctx s (s.run ctx fuel event) := by
  induction fuel generalizing s event with
  | zero => exact .refl
  | succ fuel ih =>
    cases event with
    | none => exact .refl
    | some event =>
      rw [run]
      exact (moves_step ctx s event).trans (ih _ _)

/-- **What all moves keep holds after the walk.** -/
theorem run_induct (ctx : Context) {P : Classifier → Prop} (h : P s)
    (hP : ∀ {s s' : Classifier}, Move ctx s s' → P s → P s') (fuel : Nat)
    (event : Option Markup.Walk) : P (s.run ctx fuel event) := by
  have hmoves := moves_run ctx s fuel event
  generalize s.run ctx fuel event = s' at hmoves ⊢
  induction hmoves with
  | refl => exact h
  | tail _ hmove ih => exact hP hmove ih

end Classifier

end DocComments.Comment
