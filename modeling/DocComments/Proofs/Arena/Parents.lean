import DocComments.Proofs.Arena.Reading

set_option autoImplicit false

/-!
# Parents in the arena of a tree

Every node of a stored tree but its root has a parent, and the parent comes earlier. A relation that
holds between every node of a tree and the nodes right below it therefore holds between every node
of the arena and its parent. Changing the contents of a tree changes nothing else in its arena.

## Main definitions

* `Rose.map`, `Rose.mapAll` — the contents of a tree, or of trees, changed.
* `Rose.LinkedAll` — a relation holds between every node and the nodes right below it.

## Main results

* `Arena.StoresAll.exists_parent` — the parent of a stored node comes earlier, and is related to it.
* `Arena.slots_ofRose_map` — changing the contents leaves the links of the arena as they are.
-/

namespace DocComments

variable {α β : Type}

namespace Rose

mutual

/-- The tree with changed contents. -/
def map (f : α → β) : Rose α → Rose β
  | .node v below => .node (f v) (mapAll f below)

/-- The trees with changed contents. -/
def mapAll (f : α → β) : List (Rose α) → List (Rose β)
  | [] => []
  | t :: ts => t.map f :: mapAll f ts

end

/-- Changing contents, at the root and below. -/
@[simp]
lemma map_node (f : α → β) (v : α) (below : List (Rose α)) :
    (node v below).map f = .node (f v) (mapAll f below) := by
  rw [map]

/-- An empty list of trees has no contents to change. -/
@[simp]
lemma mapAll_nil (f : α → β) : mapAll f [] = [] := by
  rw [mapAll]

/-- Changing the contents of the first tree and of the others. -/
@[simp]
lemma mapAll_cons (f : α → β) (t : Rose α) (ts : List (Rose α)) :
    mapAll f (t :: ts) = t.map f :: mapAll f ts := by
  rw [mapAll]

/-- Changing the contents of two lists of trees. -/
lemma mapAll_append (f : α → β) (ts us : List (Rose α)) :
    mapAll f (ts ++ us) = mapAll f ts ++ mapAll f us := by
  induction ts with
  | nil => simp
  | cons t ts ih => simp [ih]

/-- The number of nodes does not depend on their contents. -/
@[simp]
lemma sizeAll_mapAll (f : α → β) (ts : List (Rose α)) : sizeAll (mapAll f ts) = sizeAll ts := by
  induction ts using forest_induct with
  | nil => simp
  | cons v below ts ihb iht => simp [ihb, iht]

/-- The number of nodes of a tree does not depend on their contents. -/
@[simp]
lemma size_map (f : α → β) (t : Rose α) : (t.map f).size = t.size := by
  obtain ⟨v, below⟩ := t
  simp

/-- The places of the roots do not depend on contents. -/
@[simp]
lemma roots_mapAll (f : α → β) (first : Nat) (ts : List (Rose α)) :
    roots first (mapAll f ts) = roots first ts := by
  induction ts generalizing first with
  | nil => simp
  | cons t ts ih => simp [ih]

/-- A relation holds between a content and the roots of some trees, and inside these trees between
every node and the nodes right below it. -/
def LinkedAll (R : α → α → Prop) (above : α) : List (Rose α) → Prop
  | [] => True
  | .node v below :: ts => R above v ∧ LinkedAll R v below ∧ LinkedAll R above ts

/-- A relation along the links of some trees, the first of which is taken apart. -/
lemma linkedAll_cons {R : α → α → Prop} {above v : α} {below ts : List (Rose α)} :
    LinkedAll R above (.node v below :: ts) ↔
      R above v ∧ LinkedAll R v below ∧ LinkedAll R above ts := by
  rw [LinkedAll]

/-- An empty list of trees has no links. -/
@[simp]
lemma linkedAll_nil (R : α → α → Prop) (above : α) : LinkedAll R above [] := by
  rw [LinkedAll]
  trivial

/-- A relation along the links of two lists of trees. -/
lemma linkedAll_append {R : α → α → Prop} {above : α} {ts us : List (Rose α)} :
    LinkedAll R above (ts ++ us) ↔ LinkedAll R above ts ∧ LinkedAll R above us := by
  induction ts with
  | nil => simp
  | cons t ts ih =>
    obtain ⟨v, below⟩ := t
    rw [List.cons_append, linkedAll_cons, linkedAll_cons, ih, and_assoc, and_assoc]

/-- Any two nodes are related by the relation that always holds. -/
lemma linkedAll_true (above : α) (ts : List (Rose α)) : LinkedAll (fun _ _ => True) above ts := by
  induction ts using forest_induct generalizing above with
  | nil => simp
  | cons v below ts ihb iht => exact linkedAll_cons.2 ⟨trivial, ihb v, iht above⟩

end Rose

namespace Arena

open Rose (roots sizeAll mapAll LinkedAll forest_induct sizeAll_cons size_node linkedAll_cons)

/-- **The parent of a stored node comes earlier, and is related to it** as every node of the trees
is to those right below it.

**Proof sketch.** Induction over the trees. A node is the first root, and then its parent is the
given one; or it lies below that root, and the induction hypothesis applies with the root as parent;
or it lies in one of the other trees. -/
theorem StoresAll.exists_parent {a : Arena α} {R : α → α → Prop} {p first : Nat} {above : α}
    {ts : List (Rose α)} (h : a.StoresAll (some p) first ts) (hlinked : LinkedAll R above ts)
    (hp : p < first) (habove : a.value? p = some above) {i : Nat} (hfirst : first ≤ i)
    (hi : i < first + sizeAll ts) :
    ∃ j x y, j < i ∧ a.parent? i = some j ∧ a.value? j = some x ∧ a.value? i = some y ∧ R x y := by
  induction ts using forest_induct generalizing p first above with
  | nil => simp at hi; omega
  | cons v below ts ihb iht =>
    obtain ⟨hR, hbelow, hrest⟩ := linkedAll_cons.1 hlinked
    rw [storesAll_cons, stores_node, size_node] at h
    rw [sizeAll_cons, size_node] at hi
    obtain ⟨⟨hroot, hstored⟩, hothers⟩ := h
    obtain ⟨hvalue, hparent, -⟩ := views_of_slot hroot
    by_cases hself : i = first
    · subst hself
      exact ⟨p, above, v, hp, hparent, habove, hvalue, hR⟩
    · by_cases hin : i < first + 1 + sizeAll below
      · exact ihb hstored hbelow (by omega) hvalue (by omega) hin
      · exact iht hothers hrest (by omega) habove (by omega) (by omega)

/-- In the arena of a tree, every node but the root has a parent that comes earlier and is related
to it. -/
lemma exists_parent_ofRose {R : α → α → Prop} {v : α} {below : List (Rose α)}
    (hlinked : LinkedAll R v below) {i : Nat} (hpos : i ≠ 0)
    (hi : i < (ofRose (.node v below)).size) :
    ∃ j x y, j < i ∧ (ofRose (.node v below)).parent? i = some j ∧
      (ofRose (.node v below)).value? j = some x ∧ (ofRose (.node v below)).value? i = some y ∧
      R x y := by
  obtain ⟨hroot, hbelow⟩ := stores_node.1 (stores_ofRose (.node v below))
  rw [size_ofRose, size_node] at hi
  exact hbelow.exists_parent hlinked (by omega) (views_of_slot hroot).1 (by omega) (by omega)

/-- The slots of trees whose contents have changed. -/
lemma StoresAll.slots_mapAll {a : Arena α} {b : Arena β} {f : α → β} {parent : Option Nat}
    {first : Nat} {ts : List (Rose α)} (ha : a.StoresAll parent first ts)
    (hb : b.StoresAll parent first (mapAll f ts)) {i : Nat} (hfirst : first ≤ i)
    (hi : i < first + sizeAll ts) :
    b.slots[i]? = a.slots[i]?.map fun s => ⟨f s.value, s.parent, s.children⟩ := by
  induction ts using forest_induct generalizing parent first with
  | nil => simp at hi; omega
  | cons v below ts ihb iht =>
    rw [Rose.mapAll_cons, Rose.map_node] at hb
    rw [storesAll_cons, stores_node, size_node] at ha hb
    rw [Rose.roots_mapAll, Rose.sizeAll_mapAll] at hb
    rw [sizeAll_cons, size_node] at hi
    obtain ⟨⟨haroot, habelow⟩, harest⟩ := ha
    obtain ⟨⟨hbroot, hbbelow⟩, hbrest⟩ := hb
    by_cases hself : i = first
    · subst hself
      rw [hbroot, haroot]
      rfl
    · by_cases hin : i < first + 1 + sizeAll below
      · exact ihb habelow hbbelow (by omega) hin
      · exact iht harest hbrest (by omega) (by omega)

/-- **Changing the contents of a tree leaves the links of its arena as they are.** -/
theorem slots_ofRose_map (f : α → β) (t : Rose α) (i : Nat) :
    (ofRose (t.map f)).slots[i]?
      = (ofRose t).slots[i]?.map fun s => ⟨f s.value, s.parent, s.children⟩ := by
  by_cases hi : i < t.size
  · have ha : (ofRose t).StoresAll none 0 [t] :=
      storesAll_cons.2 ⟨stores_ofRose t, storesAll_nil _ _ _⟩
    have hb : (ofRose (t.map f)).StoresAll none 0 (mapAll f [t]) := by
      rw [Rose.mapAll_cons, Rose.mapAll_nil]
      exact storesAll_cons.2 ⟨stores_ofRose _, storesAll_nil _ _ _⟩
    exact ha.slots_mapAll hb (Nat.zero_le i) (by simpa using hi)
  · have hnone : ∀ {γ : Type} (u : Rose γ), u.size ≤ i → (ofRose u).slots[i]? = none := by
      intro γ u hu
      rw [slots_eq_none_iff, size_ofRose]
      exact hu
    rw [hnone _ (by rw [Rose.size_map]; omega), hnone _ (by omega)]
    rfl

end Arena

end DocComments
