import DocComments.Proofs.Arena.Parents

set_option autoImplicit false

/-!
# Families in the arena of a tree

A node and the nodes right below it make a family. What holds of every family of a tree holds of
every node of the arena of the tree and its children, in their order.

## Main definitions

* `Rose.FamiliesAll` — something holds of every family of some trees.

## Main results

* `Arena.exists_family_ofRose` — what holds of the families of a tree holds of those of its arena.
-/

namespace DocComments

variable {α β : Type}

namespace Rose

/-- A relation holds between every node of some trees and the list of the nodes right below it. -/
def FamiliesAll (Q : α → List α → Prop) : List (Rose α) → Prop
  | [] => True
  | .node v below :: ts => Q v (below.map value) ∧ FamiliesAll Q below ∧ FamiliesAll Q ts

/-- An empty list of trees has no families. -/
@[simp]
lemma familiesAll_nil (Q : α → List α → Prop) : FamiliesAll Q [] := by
  rw [FamiliesAll]
  trivial

/-- The families of some trees, the first of which is taken apart. -/
lemma familiesAll_cons {Q : α → List α → Prop} {v : α} {below ts : List (Rose α)} :
    FamiliesAll Q (.node v below :: ts) ↔
      Q v (below.map value) ∧ FamiliesAll Q below ∧ FamiliesAll Q ts := by
  rw [FamiliesAll]

/-- The families of two lists of trees. -/
lemma familiesAll_append {Q : α → List α → Prop} {ts us : List (Rose α)} :
    FamiliesAll Q (ts ++ us) ↔ FamiliesAll Q ts ∧ FamiliesAll Q us := by
  induction ts with
  | nil => simp
  | cons t ts ih =>
    obtain ⟨v, below⟩ := t
    rw [List.cons_append, familiesAll_cons, familiesAll_cons, ih, and_assoc, and_assoc]

/-- The families of lists of trees that are put together. -/
lemma familiesAll_flatMap {Q : α → List α → Prop} {f : β → List (Rose α)} {xs : List β} :
    FamiliesAll Q (xs.flatMap f) ↔ ∀ x ∈ xs, FamiliesAll Q (f x) := by
  induction xs with
  | nil => simp
  | cons x xs ih => simp [familiesAll_append, ih]

end Rose

namespace Arena

open Rose (roots sizeAll FamiliesAll forest_induct sizeAll_cons size_node familiesAll_cons)

/-- The contents of the roots of stored trees. -/
lemma StoresAll.map_value?_roots {a : Arena α} {parent : Option Nat} {first : Nat}
    {ts : List (Rose α)} (h : a.StoresAll parent first ts) :
    (roots first ts).map a.value? = (ts.map Rose.value).map some := by
  induction ts generalizing first with
  | nil => rfl
  | cons t ts ih =>
    obtain ⟨v, below⟩ := t
    obtain ⟨hroot, hrest⟩ := storesAll_cons.1 h
    rw [Rose.roots_cons, List.map_cons, ih hrest, (views_of_slot (stores_node.1 hroot).1).1]
    rfl

/-- **What holds of every family of stored trees holds of every stored node and its children.**

**Proof sketch.** Induction over the trees. A node is the first root, whose children are the roots
below it; or it lies below that root, or in one of the other trees. -/
theorem StoresAll.exists_family {a : Arena α} {Q : α → List α → Prop} {parent : Option Nat}
    {first : Nat} {ts : List (Rose α)} (h : a.StoresAll parent first ts) (hall : FamiliesAll Q ts)
    {i : Nat} (hfirst : first ≤ i) (hi : i < first + sizeAll ts) :
    ∃ x ys, a.value? i = some x ∧ (a.children i).map a.value? = ys.map some ∧ Q x ys := by
  induction ts using forest_induct generalizing parent first with
  | nil => simp at hi; omega
  | cons v below ts ihb iht =>
    obtain ⟨hQ, hbelow, hrest⟩ := familiesAll_cons.1 hall
    rw [storesAll_cons, stores_node, size_node] at h
    rw [sizeAll_cons, size_node] at hi
    obtain ⟨⟨hroot, hstored⟩, hothers⟩ := h
    by_cases hself : i = first
    · subst hself
      obtain ⟨hvalue, -, hchildren⟩ := views_of_slot hroot
      refine ⟨v, below.map Rose.value, hvalue, ?_, hQ⟩
      rw [hchildren, hstored.map_value?_roots]
    · by_cases hin : i < first + 1 + sizeAll below
      · exact ihb hstored hbelow (by omega) hin
      · exact iht hothers hrest (by omega) (by omega)

/-- What holds of every family of a tree holds of every node of its arena and its children. -/
lemma exists_family_ofRose {Q : α → List α → Prop} {t : Rose α} (hall : FamiliesAll Q [t]) {i : Nat}
    {x : α} (hx : t.values[i]? = some x) :
    ∃ ys, ((ofRose t).children i).map (ofRose t).value? = ys.map some ∧ Q x ys := by
  have hstored : (ofRose t).StoresAll none 0 [t] :=
    storesAll_cons.2 ⟨stores_ofRose t, storesAll_nil _ _ _⟩
  rw [← value?_ofRose] at hx
  have hi : i < t.size := by
    rw [← size_ofRose]
    obtain ⟨s, hs, -⟩ := Option.map_eq_some_iff.1 hx
    exact lt_size_of_slots hs
  obtain ⟨x', ys, hx', hys, hQ⟩ :=
    hstored.exists_family hall (Nat.zero_le i) (by simpa using hi)
  obtain rfl : x = x' := by simpa [hx] using hx'
  exact ⟨ys, hys, hQ⟩

/-- The children of a node do not depend on the contents. -/
lemma children_ofRose_map (f : α → β) (t : Rose α) (i : Nat) :
    (ofRose (t.map f)).children i = (ofRose t).children i := by
  rw [children, children, slots_ofRose_map]
  cases (ofRose t).slots[i]? <;> rfl

/-- The parent of a node does not depend on the contents. -/
lemma parent?_ofRose_map (f : α → β) (t : Rose α) (i : Nat) :
    (ofRose (t.map f)).parent? i = (ofRose t).parent? i := by
  rw [parent?, parent?, slots_ofRose_map]
  cases (ofRose t).slots[i]? <;> rfl

/-- The root of a tree has no parent. -/
lemma parent?_ofRose_zero (t : Rose α) : (ofRose t).parent? 0 = none := by
  obtain ⟨v, below⟩ := t
  exact (views_of_slot (stores_node.1 (stores_ofRose (.node v below))).1).2.1

end Arena

end DocComments
