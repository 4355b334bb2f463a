import DocComments.Proofs.Assembly.Comments
import DocComments.Proofs.Comment.Moves

set_option autoImplicit false

/-!
# Comments before linking

No link of an assembled document leads to a found destination: reading a comment makes links that
have a written destination or none, and assembling only takes nodes away and changes texts and
roles.

## Main definitions

* `Arena.Forall` — a property of the contents of all slots.
* `Comment.Node.destination?` — the destination that was found for a link.
* `Comment.Unbound` — no link of a comment has such a destination.

## Main results

* `Comment.unbound_classify` — a comment is unbound when it has been read.
* `unbound_assemble` — the comments of an assembled document are unbound.
-/

namespace DocComments

open Markup (TextReader)

/-! ## Properties of all slots -/

namespace Arena

variable {α : Type} {P : α → Prop}

/-- A property of the contents of all slots. -/
def Forall (P : α → Prop) (a : Arena α) : Prop :=
  ∀ i v, a.value? i = some v → P v

/-- A change of a slot that keeps the property of its content. -/
lemma Forall.modify {a : Arena α} (h : a.Forall P) (id : Nat) {f : Slot α → Slot α}
    (hf : ∀ s, P s.value → P (f s).value) : (a.modify id f).Forall P := by
  intro i v hv
  obtain ⟨s, hs, rfl⟩ := Option.map_eq_some_iff.1 hv
  rw [slots_modify] at hs
  split at hs
  · obtain ⟨old, hold, rfl⟩ := Option.map_eq_some_iff.1 hs
    exact hf old (h i old.value (views_of_slot hold).1)
  · exact h i s.value (views_of_slot hs).1

/-- Links between the slots may change freely. -/
lemma Forall.modify_links {a : Arena α} (h : a.Forall P) (id : Nat) {f : Slot α → Slot α}
    (hf : ∀ s, (f s).value = s.value) : (a.modify id f).Forall P := by
  apply h.modify id
  intro s hs
  rwa [hf]

/-- A change of contents that keeps their property. -/
lemma Forall.modifyValue {a : Arena α} (h : a.Forall P) (id : Nat) {f : α → α}
    (hf : ∀ v, P v → P (f v)) : (a.modifyValue id f).Forall P :=
  h.modify id fun s hs => hf s.value hs

/-- A new content that has the property. -/
lemma Forall.alloc {a : Arena α} (h : a.Forall P) {v : α} (hv : P v) : (a.alloc v).Forall P := by
  intro i w hw
  obtain ⟨s, hs, rfl⟩ := Option.map_eq_some_iff.1 hw
  rw [slots_alloc] at hs
  split at hs
  · cases hs
    exact hv
  · exact h i s.value (views_of_slot hs).1

/-- Attaching a node changes links only. -/
lemma Forall.attach {a : Arena α} (h : a.Forall P) (parent child : Nat) :
    (a.attach parent child).Forall P := by
  apply Forall.modify_links
  · apply h.modify_links
    intro s
    rfl
  · intro s
    rfl

/-- Detaching a node changes links only. -/
lemma Forall.detach {a : Arena α} (h : a.Forall P) (id : Nat) : (a.detach id).Forall P := by
  unfold Arena.detach
  split
  · exact h
  · apply Forall.modify_links
    · apply h.modify_links
      intro s
      rfl
    · intro s
      rfl

/-- A root alone, with a content that has the property. -/
lemma forall_singleton {v : α} (hv : P v) : (singleton v).Forall P := by
  intro i w hw
  obtain ⟨s, hs, rfl⟩ := Option.map_eq_some_iff.1 hw
  cases i with
  | zero =>
    cases hs
    exact hv
  | succ i => simp [singleton] at hs

end Arena

/-! ## Reading a comment -/

namespace Comment

/-- The destination that was found for a link. -/
def Node.destination? : Node → Option Destination
  | link _ (.resolved dest) => some dest
  | _ => none

/-- Only links have destinations. -/
lemma Node.destination?_of_isLink {node : Node} (h : node.isLink = false) :
    node.destination? = none := by
  cases node with
  | link name target => cases h
  | _ => rfl

/-- No destination was found for any link of the comment. -/
def Unbound (c : Comment) : Prop :=
  c.Forall fun p => p.value.destination? = none

/-- A node may be replaced by one that is not a link. -/
lemma Unbound.modifyNode {c : Comment} (h : Unbound c) (id : Nat) {node : Node}
    (hnode : node.isLink = false) : Unbound (c.modifyNode id fun _ => node) :=
  Arena.Forall.modifyValue h id fun _ _ => Node.destination?_of_isLink hnode

namespace Classifier

variable {ctx : Context} {s s' : Classifier}

/-- Markup never becomes a link with a found destination. -/
lemma destination?_of_convert {t : Markup.Tree} {id : Nat} {node : Node}
    (h : convert t id = .ok node) : node.destination? = none := by
  unfold convert at h
  -- only links have a target, and theirs was written or is not known yet
  split at h <;> cases h
  all_goals first
    | rfl
    | split <;> rfl

/-- **Every move of the walk keeps the comment unbound.** -/
lemma Move.unbound (hmove : Move ctx s s') (h : Unbound s.comment) : Unbound s'.comment := by
  cases hmove with
  | top hnode => exact Arena.Forall.alloc h (destination?_of_convert hnode)
  | loose hnode => exact Arena.Forall.alloc h (destination?_of_convert hnode)
  | inner hnode hparent =>
    exact Arena.Forall.attach (Arena.Forall.alloc h (destination?_of_convert hnode)) _ _
  | opened hid => exact h
  | closed => exact h
  | replaced id hnode briefPending => exact h.modifyNode id hnode
  | dropped id failure =>
    rcases comment_recover s id ctx failure with heq | ⟨entry, -, heq⟩
    · rw [heq]
      exact h
    · rw [heq]
      exact Arena.Forall.detach h entry.2

end Classifier

/-- **A comment is unbound when it has been read.** -/
lemma unbound_classify (ctx : Context) (tree : Markup.Tree) : Unbound (classify ctx tree).1 := by
  have hempty : Unbound Comment.empty := Arena.forall_singleton rfl
  apply List.foldlRecOn (motive := Unbound)
  · exact Classifier.run_induct ctx (s := { tree }) (P := fun s => Unbound s.comment) hempty
      Classifier.Move.unbound _ _
  · intro c hc entry _
    exact Arena.Forall.attach hc 0 entry.2

/-- Assembling keeps a comment unbound. -/
lemma Prepared.unbound {c : Comment} (h : Prepared c) : Unbound c := by
  induction h with
  | parse settings reader entity raw =>
    rw [Comment.parse]
    exact unbound_classify _ _
  | detach id _ ih => exact Arena.Forall.detach ih id
  | setText id value _ ih => exact ih.modifyNode id rfl

end Comment

/-- **The comments of an assembled document are unbound.** -/
theorem unbound_assemble (settings : Settings) (reader : TextReader) (id : String)
    (root : Declaration) {i : Nat}
    {e : Entity} (he : (assemble settings id root reader).1.get? i = some e) :
    ∀ m ∈ e.members, ∀ c, m.comment = some c → Comment.Unbound c := by
  intro m hm c hc
  exact (prepared_assemble settings reader id root he m hm c hc).unbound

end DocComments
