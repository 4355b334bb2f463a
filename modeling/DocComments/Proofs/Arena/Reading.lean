import DocComments.Proofs.Arena.Layout

set_option autoImplicit false

/-!
# What is read from an arena

The tree that is reached from a node is read off the contents and the children of the nodes. Where a
tree is stored, reading gives that tree, a visit in document order meets its slots one after the
other, and collecting text gives the text of the tree.

## Main definitions

* `Rose.value`, `Rose.values` — the content of the root, and the contents of all nodes of trees.
* `Arena.Holds`, `Arena.HoldsAll` — the tree that is reached from a node, the trees from nodes.
* `Rose.gather`, `Rose.gatherAll` — the text of a tree, and of trees.

## Main results

* `Arena.HoldsAll.unique` — what is reached from nodes is determined.
* `Arena.StoresAll.holdsAll` — stored trees are reached from their roots.
* `Arena.preorder_ofRose` — document order in the arena of a tree is the order of the slots.
* `Arena.value?_ofRose` — the contents of the slots are those of the nodes in document order.
* `Arena.Stores.gather_eq` — collecting text gives the text of the tree.
-/

namespace DocComments

variable {α : Type}

namespace Rose

/-- The content of the root. -/
def value : Rose α → α
  | .node v _ => v

mutual

/-- The contents of the nodes of a tree, in document order. -/
def values : Rose α → List α
  | .node v children => v :: valuesAll children

/-- The contents of the nodes of some trees, in document order. -/
def valuesAll : List (Rose α) → List α
  | [] => []
  | t :: ts => t.values ++ valuesAll ts

end

mutual

/-- The text of a tree. A node for which `text?` gives a text is not descended into. -/
def gather (text? : α → Option (List Char)) : Rose α → List Char
  | .node v children =>
    match text? v with
    | some text => text
    | none => gatherAll text? children

/-- The text of some trees. -/
def gatherAll (text? : α → Option (List Char)) : List (Rose α) → List Char
  | [] => []
  | t :: ts => t.gather text? ++ gatherAll text? ts

end

/-- The contents of two lists of trees. -/
lemma valuesAll_append (ts us : List (Rose α)) :
    valuesAll (ts ++ us) = valuesAll ts ++ valuesAll us := by
  induction ts with
  | nil => simp [valuesAll]
  | cons t ts ih => simp [valuesAll, ih]

/-- The contents of some trees are those of each of them. -/
lemma mem_valuesAll {ts : List (Rose α)} {v : α} :
    v ∈ valuesAll ts ↔ ∃ t ∈ ts, v ∈ t.values := by
  induction ts with
  | nil => simp [valuesAll]
  | cons t ts ih => simp [valuesAll, ih]

/-- There is one content for every node. -/
lemma length_valuesAll (ts : List (Rose α)) : (valuesAll ts).length = sizeAll ts := by
  induction ts using forest_induct with
  | nil => simp [valuesAll]
  | cons v below ts ihb iht =>
    simp only [valuesAll, values, List.length_append, List.length_cons, ihb, iht, sizeAll_cons,
      size_node]

end Rose

namespace Arena

open Rose

/-! ## Reading a tree -/

mutual

/-- The tree is what is reached from a node. -/
def Holds (a : Arena α) (id : Nat) : Rose α → Prop
  | .node v below => a.value? id = some v ∧ a.HoldsAll (a.children id) below

/-- The trees are what is reached from nodes, one tree from each. -/
def HoldsAll (a : Arena α) : List Nat → List (Rose α) → Prop
  | [], [] => True
  | id :: ids, t :: ts => a.Holds id t ∧ a.HoldsAll ids ts
  | _, _ => False

end

/-- A node holds a tree when it has the content of the root and its children hold the trees
below. -/
lemma holds_node {a : Arena α} {id : Nat} {v : α} {below : List (Rose α)} :
    a.Holds id (.node v below) ↔ a.value? id = some v ∧ a.HoldsAll (a.children id) below := by
  rw [Holds]

/-- An empty list of nodes holds an empty list of trees. -/
@[simp]
lemma holdsAll_nil (a : Arena α) : a.HoldsAll [] [] := by
  rw [HoldsAll]
  trivial

/-- Nodes hold trees one by one. -/
lemma holdsAll_cons {a : Arena α} {id : Nat} {ids : List Nat} {t : Rose α} {ts : List (Rose α)} :
    a.HoldsAll (id :: ids) (t :: ts) ↔ a.Holds id t ∧ a.HoldsAll ids ts := by
  rw [HoldsAll]

/-- **What is reached from nodes is determined.** -/
theorem HoldsAll.unique {a : Arena α} {ids : List Nat} {ts us : List (Rose α)}
    (ht : a.HoldsAll ids ts) (hu : a.HoldsAll ids us) : ts = us := by
  induction ts using forest_induct generalizing ids us with
  | nil =>
    cases ids with
    | nil =>
      cases us with
      | nil => rfl
      | cons u us => simp [HoldsAll] at hu
    | cons id ids => simp [HoldsAll] at ht
  | cons v below ts ihb iht =>
    cases ids with
    | nil => simp [HoldsAll] at ht
    | cons id ids =>
      cases us with
      | nil => simp [HoldsAll] at hu
      | cons u us =>
        obtain ⟨w, under⟩ := u
        rw [holdsAll_cons, holds_node] at ht hu
        obtain ⟨⟨hv, hbelow⟩, hts⟩ := ht
        obtain ⟨⟨hw, hunder⟩, hus⟩ := hu
        have hvw : v = w := by simpa [hv] using hw
        rw [hvw, ihb hbelow hunder, iht hts hus]

/-- **Stored trees are reached from their roots**, also in an arena that differs from the one they
are stored in, as long as contents and children agree from the first of their slots on. -/
lemma StoresAll.holdsAll {a b : Arena α} {parent : Option Nat} {first : Nat}
    {ts : List (Rose α)} (h : a.StoresAll parent first ts)
    (hab : ∀ i, first ≤ i → b.value? i = a.value? i ∧ b.children i = a.children i) :
    b.HoldsAll (roots first ts) ts := by
  induction ts using forest_induct generalizing parent first with
  | nil => simp
  | cons v below ts ihb iht =>
    rw [storesAll_cons, stores_node, size_node] at h
    obtain ⟨⟨hroot, hbelow⟩, hrest⟩ := h
    rw [roots_cons, holdsAll_cons, holds_node, size_node]
    obtain ⟨hvalue, hchildren⟩ := hab first (Nat.le_refl _)
    obtain ⟨hv, -, hkids⟩ := views_of_slot hroot
    refine ⟨⟨?_, ?_⟩, iht hrest fun i hi => hab i (by omega)⟩
    · rw [hvalue, hv]
    · rw [hchildren, hkids]
      exact ihb hbelow fun i hi => hab i (by omega)

/-- A stored tree is reached from its root. -/
lemma Stores.holds {a b : Arena α} {parent : Option Nat} {first : Nat} {t : Rose α}
    (h : a.Stores parent first t)
    (hab : ∀ i, first ≤ i → b.value? i = a.value? i ∧ b.children i = a.children i) :
    b.Holds first t := by
  have hall : a.StoresAll parent first [t] := storesAll_cons.2 ⟨h, storesAll_nil _ _ _⟩
  exact (holdsAll_cons.1 (hall.holdsAll hab)).1

/-! ## Document order -/

/-- A visit of stored trees meets their slots one after the other. -/
lemma StoresAll.visit_eq {a : Arena α} {parent : Option Nat} {first : Nat} {ts : List (Rose α)}
    (h : a.StoresAll parent first ts) (rest : List Nat) (fuel : Nat) :
    a.visit (sizeAll ts + fuel) (roots first ts ++ rest)
      = List.range' first (sizeAll ts) ++ a.visit fuel rest := by
  induction ts using forest_induct generalizing parent first rest fuel with
  | nil => simp
  | cons v below ts ihb iht =>
    rw [storesAll_cons, stores_node, size_node] at h
    obtain ⟨⟨hroot, hbelow⟩, hrest⟩ := h
    obtain ⟨-, -, hkids⟩ := views_of_slot hroot
    have hlen : sizeAll (node v below :: ts) = sizeAll below + sizeAll ts + 1 := by
      rw [sizeAll_cons, size_node]
      omega
    have hrange : List.range' first (sizeAll below + sizeAll ts + 1)
        = first :: (List.range' (first + 1) (sizeAll below)
          ++ List.range' (first + (sizeAll below + 1)) (sizeAll ts)) := by
      rw [List.range'_succ, ← List.range'_append_1]
      simp only [Nat.add_assoc, Nat.add_comm 1]
    rw [hlen, show sizeAll below + sizeAll ts + 1 + fuel
      = sizeAll below + (sizeAll ts + fuel) + 1 by omega, roots_cons, List.cons_append, visit,
      hkids, ihb hbelow, size_node, iht hrest, hrange]
    simp only [List.cons_append, List.append_assoc]

/-- **Document order in the arena of a tree is the order of its slots.** -/
theorem preorder_ofRose (t : Rose α) : (ofRose t).preorder 0 = List.range t.size := by
  have hall : (ofRose t).StoresAll none 0 [t] :=
    storesAll_cons.2 ⟨stores_ofRose t, storesAll_nil _ _ _⟩
  have hvisit := hall.visit_eq [] 0
  have hnil : (ofRose t).visit 0 [] = [] := by rw [visit]
  simpa [preorder, hnil, List.range_eq_range'] using hvisit

/-- The contents of the slots of stored trees. -/
lemma StoresAll.value?_eq {a : Arena α} {parent : Option Nat} {first : Nat} {ts : List (Rose α)}
    (h : a.StoresAll parent first ts) {i : Nat} (hi : i < sizeAll ts) :
    a.value? (first + i) = (valuesAll ts)[i]? := by
  induction ts using forest_induct generalizing parent first i with
  | nil => simp at hi
  | cons v below ts ihb iht =>
    rw [storesAll_cons, stores_node, size_node] at h
    obtain ⟨⟨hroot, hbelow⟩, hrest⟩ := h
    rw [sizeAll_cons, size_node] at hi
    rw [valuesAll, values, List.cons_append]
    rcases i with _ | i
    · simp [(views_of_slot hroot).1]
    · rw [List.getElem?_cons_succ]
      by_cases hlt : i < sizeAll below
      · rw [List.getElem?_append_left (by rwa [length_valuesAll]), ← ihb hbelow hlt]
        congr 1
        omega
      · rw [List.getElem?_append_right (by rw [length_valuesAll]; omega), length_valuesAll,
          ← iht hrest (by omega)]
        congr 1
        omega

/-- **The contents of the slots are those of the nodes in document order.** -/
theorem value?_ofRose (t : Rose α) (i : Nat) : (ofRose t).value? i = t.values[i]? := by
  have hvalues : valuesAll [t] = t.values := by simp [valuesAll]
  by_cases hi : i < t.size
  · have hall : (ofRose t).StoresAll none 0 [t] :=
      storesAll_cons.2 ⟨stores_ofRose t, storesAll_nil _ _ _⟩
    have := hall.value?_eq (i := i) (by simpa using hi)
    rwa [Nat.zero_add, hvalues] at this
  · have hlen : t.values.length = t.size := by
      have := length_valuesAll [t]
      rwa [hvalues, sizeAll_cons, sizeAll_nil] at this
    have hslot : (ofRose t).slots[i]? = none := by
      rw [slots_eq_none_iff, size_ofRose]
      omega
    rw [List.getElem?_eq_none (by omega)]
    simp [value?, hslot]

/-! ## Text -/

/-- Collecting the text of stored trees takes at most one visit for each of their nodes. -/
lemma StoresAll.gatherFrom_eq {a : Arena α} (text? : α → Option (List Char))
    {parent : Option Nat} {first : Nat} {ts : List (Rose α)} (h : a.StoresAll parent first ts)
    (rest : List Nat) (fuel : Nat) :
    ∃ left, fuel ≤ left ∧ gatherFrom text? a (sizeAll ts + fuel) (roots first ts ++ rest)
      = gatherAll text? ts ++ gatherFrom text? a left rest := by
  induction ts using forest_induct generalizing parent first rest fuel with
  | nil => exact ⟨fuel, Nat.le_refl _, by simp [gatherAll]⟩
  | cons v below ts ihb iht =>
    rw [storesAll_cons, stores_node, size_node] at h
    obtain ⟨⟨hroot, hbelow⟩, hrest⟩ := h
    obtain ⟨hvalue, -, hkids⟩ := views_of_slot hroot
    have hfuel : sizeAll (node v below :: ts) + fuel = sizeAll ts + (sizeAll below + fuel) + 1 := by
      rw [sizeAll_cons, size_node]
      omega
    rw [hfuel, roots_cons, List.cons_append, gatherFrom, hvalue, Option.bind_some, gatherAll,
      Rose.gather, size_node]
    cases htext : text? v with
    | some text =>
      obtain ⟨left, hleft, heq⟩ := iht hrest rest (sizeAll below + fuel)
      refine ⟨left, by omega, ?_⟩
      simp only [heq, List.append_assoc]
    | none =>
      -- the node has no text of its own, so the trees below it come first
      obtain ⟨left, hleft, heq⟩ :=
        ihb hbelow (roots (first + (sizeAll below + 1)) ts ++ rest) (sizeAll ts + fuel)
      obtain ⟨left', hleft', heq'⟩ := iht hrest rest (left - sizeAll ts)
      refine ⟨left', by omega, ?_⟩
      rw [Nat.add_sub_cancel' (by omega)] at heq'
      rw [show sizeAll ts + (sizeAll below + fuel) = sizeAll below + (sizeAll ts + fuel) by omega]
      simp only [hkids, heq, heq', List.append_assoc]

/-- **Collecting text gives the text of the tree.** -/
theorem Stores.gather_eq {a : Arena α} (text? : α → Option (List Char)) {parent : Option Nat}
    {first : Nat} {t : Rose α} (h : a.Stores parent first t) :
    a.gather text? first = t.gather text? := by
  have hall : a.StoresAll parent first [t] := storesAll_cons.2 ⟨h, storesAll_nil _ _ _⟩
  have hsize := h.le_size
  obtain ⟨left, -, heq⟩ := hall.gatherFrom_eq text? [] (a.size - t.size)
  have hnil : ∀ fuel, gatherFrom text? a fuel [] = [] := by
    intro fuel
    cases fuel <;> rw [gatherFrom]
  rw [Arena.gather]
  rw [sizeAll_cons, sizeAll_nil, Nat.add_zero, Nat.add_sub_cancel' (by omega)] at heq
  simpa [hnil, gatherAll] using heq

end Arena

end DocComments
