import DocComments.Proofs.Arena.Ordered
import Mathlib.Data.List.Sort

set_option autoImplicit false

/-!
# Arenas in document order

The nodes of an arena are in document order if everything below a node was made before the next
child of the same parent. An arena stays in order when nodes are detached, and when new nodes are
made at its right edge only. In such an arena document order is the order of the indices, and
detaching a node takes exactly what is below it out of every list of nodes.

## Main definitions

* `Arena.Nested` — everything below a node comes before the next child of its parent.
* `Arena.AtEdge` — a node is at the right edge of its tree.

## Main results

* `Arena.Nested.push` — making a node at the right edge keeps an arena in order.
* `Arena.Nested.pairwise_preorder` — document order is the order of the indices.
* `Arena.Nested.preorder_detach` — what detaching a node does to document order.
-/

namespace DocComments.Arena

variable {α β : Type} {a : Arena α} {b : Arena β}

/-- Everything below a node comes before the next child of the same parent. -/
def Nested (a : Arena α) : Prop :=
  ∀ p c c', [c, c'].Sublist (a.children p) → ∀ j, a.Reaches c j → j < c'

/-- The node is at the right edge of its tree: it does not lie below a node that has a sibling behind
it. -/
def AtEdge (a : Arena α) (i : Nat) : Prop :=
  ∀ p c c', [c, c'].Sublist (a.children p) → ¬a.Reaches c i

/-! ## Fewer links -/

/-- With fewer links fewer nodes are reached. -/
lemma Reaches.mono (h : ∀ i, (b.children i).Sublist (a.children i)) {i j : Nat}
    (hreaches : b.Reaches i j) : a.Reaches i j :=
  Relation.ReflTransGen.mono (fun p _ hc => (h p).subset hc) i j hreaches

/-- An arena stays in order when it loses links. -/
lemma Nested.mono (ha : a.Nested) (h : ∀ i, (b.children i).Sublist (a.children i)) : b.Nested :=
  fun p c c' hsub j hj => ha p c c' (hsub.trans (h p)) j (hj.mono h)

/-- A node stays at the right edge when links are lost. -/
lemma AtEdge.mono {i : Nat} (ha : a.AtEdge i) (h : ∀ i, (b.children i).Sublist (a.children i)) :
    b.AtEdge i :=
  fun p c c' hsub hreaches => ha p c c' (hsub.trans (h p)) (hreaches.mono h)

/-- Detaching a node takes links away only. -/
lemma sublist_children_detach (h : a.Ordered) (id i : Nat) :
    ((a.detach id).children i).Sublist (a.children i) := by
  cases hparent : a.parent? id with
  | none =>
    rw [detach, hparent]
  | some p =>
    have hlt := h.lt_of_parent hparent
    rw [children_detach hparent (by omega)]
    split
    · rename_i hi
      rw [hi]
      exact List.filter_sublist
    · exact List.Sublist.refl _

/-- Detaching a node keeps an arena in order. -/
lemma Nested.detach (hn : a.Nested) (h : a.Ordered) (id : Nat) : (a.detach id).Nested :=
  hn.mono (sublist_children_detach h id)

/-! ## New nodes at the right edge -/

/-- The root is at the right edge. -/
lemma Ordered.atEdge_zero (h : a.Ordered) : a.AtEdge 0 := by
  intro p c c' hsub hreaches
  have hc : c ∈ a.children p := hsub.subset List.mem_cons_self
  have := h.le_of_reaches hreaches
  have := h.lt_of_parent (h.mem_children_iff.1 hc)
  omega

/-- What is above a node at the right edge is there as well. -/
lemma AtEdge.of_reaches {i j : Nat} (h : a.AtEdge j) (hreaches : a.Reaches i j) : a.AtEdge i :=
  fun p c c' hsub hc => h p c c' hsub (hc.trans hreaches)

/-- A new node becomes the last child of its parent. -/
lemma children_push {p : Nat} (v : α) (hp : p < a.size) (i : Nat) :
    (a.push p v).children i = if i = p then a.children p ++ [a.size] else a.children i := by
  rw [push, children_attach _ (by rw [size_alloc]; omega), children_alloc, children_alloc]

/-- A node that is not there has no children. -/
lemma children_of_size_le {i : Nat} (hi : a.size ≤ i) : a.children i = [] := by
  rw [children, (a.slots_eq_none_iff i).2 hi]
  rfl

/-- Two children of a node in order: both were there, or the second one is new. -/
lemma sublist_children_push {p q c c' : Nat} {v : α} (hp : p < a.size)
    (h : [c, c'].Sublist ((a.push p v).children q)) :
    [c, c'].Sublist (a.children q) ∨ (c ∈ a.children p ∧ c' = a.size) := by
  rw [children_push v hp] at h
  split at h
  · rename_i hq
    rw [hq]
    obtain ⟨front, back, heq, hfront, hback⟩ := List.sublist_append_iff.1 h
    rcases List.sublist_singleton.1 hback with rfl | rfl
    · rw [List.append_nil] at heq
      exact .inl (heq ▸ hfront)
    · have hpair : [c] ++ [c'] = front ++ [a.size] := heq
      obtain ⟨rfl, hlast⟩ := List.append_inj' hpair rfl
      simp only [List.cons.injEq, and_true] at hlast
      exact .inr ⟨hfront.subset List.mem_cons_self, hlast⟩
  · exact .inl h

/-- What is reached after a node was made: what was reached, and the new node from what its parent
is reached from. -/
lemma reaches_push {p i j : Nat} {v : α} (hp : p < a.size) (h : (a.push p v).Reaches i j) :
    a.Reaches i j ∨ (a.Reaches i p ∧ j = a.size) := by
  induction h with
  | refl => exact .inl .refl
  | @tail k l _ hstep ih =>
    rw [children_push v hp] at hstep
    rcases ih with hk | ⟨-, rfl⟩
    · split at hstep
      · rename_i hkp
        rw [hkp] at hk
        rcases List.mem_append.1 hstep with hl | hl
        · exact .inl (hk.tail hl)
        · exact .inr ⟨hk, List.mem_singleton.1 hl⟩
      · exact .inl (hk.tail hstep)
    · -- nothing is below the new node
      rw [if_neg (by omega), children_of_size_le (Nat.le_refl _)] at hstep
      cases hstep

section Push

variable {p : Nat}

/-- A child of a node does not lead back to the node. -/
lemma Ordered.not_reaches_of_mem_children (h : a.Ordered) {c : Nat} (hc : c ∈ a.children p) :
    ¬a.Reaches c p := by
  intro hreaches
  have := h.le_of_reaches hreaches
  have := h.lt_of_parent (h.mem_children_iff.1 hc)
  omega

/-- **Making a node at the right edge keeps an arena in order.** -/
lemma Nested.push (hn : a.Nested) (h : a.Ordered) (hp : p < a.size) (hedge : a.AtEdge p) (v : α) :
    (a.push p v).Nested := by
  intro q c c' hsub j hj
  rcases sublist_children_push hp hsub with hold | ⟨hc, rfl⟩
  · rcases reaches_push hp hj with hj | ⟨hcp, -⟩
    · exact hn q c c' hold j hj
    · exact absurd hcp (hedge q c c' hold)
  · rcases reaches_push hp hj with hj | ⟨hcp, -⟩
    · exact h.lt_size_of_reaches (lt_size_of_parent? (h.mem_children_iff.1 hc)) hj
    · exact absurd hcp (h.not_reaches_of_mem_children hc)

/-- A node that was made at the right edge is at the right edge. -/
lemma AtEdge.push (h : a.Ordered) (hp : p < a.size) (hedge : a.AtEdge p) (v : α) :
    (a.push p v).AtEdge a.size := by
  intro q c c' hsub hreaches
  have hc : c < a.size ∧ ¬a.Reaches c p := by
    rcases sublist_children_push hp hsub with hold | ⟨hc, -⟩
    · have hc : c ∈ a.children q := hold.subset List.mem_cons_self
      exact ⟨lt_size_of_parent? (h.mem_children_iff.1 hc), hedge q c c' hold⟩
    · exact ⟨lt_size_of_parent? (h.mem_children_iff.1 hc), h.not_reaches_of_mem_children hc⟩
  rcases reaches_push hp hreaches with hsize | ⟨hcp, -⟩
  · have := h.lt_size_of_reaches hc.1 hsize
    omega
  · exact hc.2 hcp

end Push

/-! ## Document order -/

/-- **In an arena in order, document order is the order of the indices.** -/
theorem Nested.pairwise_preorder (hn : a.Nested) (h : a.Ordered) {i : Nat} (hi : i < a.size) :
    (a.preorder i).Pairwise (· < ·) := by
  refine (h.pairwise_preorder hi).imp ?_
  rintro j k (⟨hne, hreaches⟩ | ⟨p, c, c', hsub, hj, hk⟩)
  · have := h.le_of_reaches hreaches
    omega
  · have := hn p c c' hsub j hj
    have := h.le_of_reaches hk
    omega

/-- **What is reached after a node was detached**: what was reached and does not lie below it. -/
lemma Ordered.reaches_detach_iff (h : a.Ordered) {id i j : Nat} (hi : ¬a.Reaches id i) :
    (a.detach id).Reaches i j ↔ a.Reaches i j ∧ ¬a.Reaches id j := by
  constructor
  · intro hreaches
    refine ⟨hreaches.mono (sublist_children_detach h id), ?_⟩
    induction hreaches with
    | refl => exact hi
    | @tail k l _ hstep ih =>
      intro hbelow
      have hold := (sublist_children_detach h id k).subset hstep
      rcases h.reaches_child hold hbelow with rfl | hk
      · -- a detached node is nobody's child
        have hnone : (a.detach id).parent? id = none := by
          have hparent := h.mem_children_iff.1 hold
          have := h.lt_of_parent hparent
          rw [parent?_detach hparent (by omega), if_pos rfl]
        rw [(h.detach id).mem_children_iff, hnone] at hstep
        cases hstep
      · exact ih hk
  · rintro ⟨hreaches, hbelow⟩
    induction hreaches with
    | refl => exact .refl
    | @tail k l _ hstep ih =>
      have hk : ¬a.Reaches id k := fun hk => hbelow (hk.tail hstep)
      refine (ih hk).tail ?_
      have hne : l ≠ id := by
        rintro rfl
        exact hbelow .refl
      rw [(h.detach id).mem_children_iff, ← h.mem_children_iff.1 hstep]
      cases hparent : a.parent? id with
      | none => rw [Arena.detach, hparent]
      | some p =>
        have := h.lt_of_parent hparent
        rw [parent?_detach hparent (by omega), if_neg hne]

/-- **Detaching a node takes what is below it out of document order**, and keeps the rest in its
order. -/
theorem Nested.preorder_detach (hn : a.Nested) (h : a.Ordered) {id : Nat} (hid : id < a.size)
    (hpos : id ≠ 0) :
    (a.detach id).preorder 0 = (a.preorder 0).filter fun j => j ∉ a.preorder id := by
  have hzero : 0 < a.size := by omega
  have hsize := a.size_detach id
  have hroot : ¬a.Reaches id 0 := by
    intro hreaches
    have := h.le_of_reaches hreaches
    omega
  apply List.Pairwise.eq_of_mem_iff
    ((hn.detach h id).pairwise_preorder (h.detach id) (by omega))
    ((hn.pairwise_preorder h hzero).filter _)
  intro j
  rw [(h.detach id).mem_preorder_iff (by omega), h.reaches_detach_iff hroot, List.mem_filter,
    h.mem_preorder_iff hzero]
  simp [h.mem_preorder_iff hid]

end DocComments.Arena
