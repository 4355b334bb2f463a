import DocComments.Arena
import Mathlib.Data.List.Basic
import Mathlib.Tactic.Common

set_option autoImplicit false

/-!
# How trees lie in an arena

A tree that is put into an arena takes one stretch of indices: its root comes first, and the trees
below it follow one after the other. This file describes that stretch slot by slot, and says what
planting trees does to it and to the rest of the arena.

## Main definitions

* `Rose.size`, `Rose.sizeAll` — the number of nodes of a tree, and of trees.
* `Rose.roots` — the indices of the roots of trees that lie one after the other.
* `Arena.Stores`, `Arena.StoresAll` — a tree, or trees, lie in an arena from an index on.

## Main results

* `Rose.forest_induct` — induction over trees that stand side by side.
* `Arena.slots_plantAll` — planting trees changes no earlier slot but that of their parent.
* `Arena.storesAll_plantAll` — planted trees lie at the end of the arena.
* `Arena.stores_ofRose` — the arena of a tree holds exactly that tree, from its first slot on.

## Implementation notes

Statements are made about lists of trees, and proved by `Rose.forest_induct`, which takes the first
tree of a list apart: a tree alone is a list with one element.
-/

namespace DocComments

variable {α : Type}

/-! ## Trees -/

namespace Rose

/-- Induction over trees that stand side by side: the first of them is taken apart into its root and
the trees below it. -/
@[elab_as_elim]
theorem forest_induct {motive : List (Rose α) → Prop} (nil : motive [])
    (cons : ∀ v below ts, motive below → motive ts → motive (.node v below :: ts)) :
    ∀ ts, motive ts
  | [] => nil
  | .node v below :: ts =>
    cons v below ts (forest_induct nil cons below) (forest_induct nil cons ts)

mutual

/-- The number of nodes of a tree. -/
def size : Rose α → Nat
  | .node _ children => sizeAll children + 1

/-- The number of nodes of some trees. -/
def sizeAll : List (Rose α) → Nat
  | [] => 0
  | t :: ts => t.size + sizeAll ts

end

/-- The indices of the roots of trees that lie one after the other from an index on. -/
def roots (first : Nat) : List (Rose α) → List Nat
  | [] => []
  | t :: ts => first :: roots (first + t.size) ts

/-- A tree has its root and the nodes of the trees below. -/
@[simp]
lemma size_node (v : α) (below : List (Rose α)) : (node v below).size = sizeAll below + 1 := by
  rw [size]

/-- An empty list of trees has no nodes. -/
@[simp]
lemma sizeAll_nil : sizeAll ([] : List (Rose α)) = 0 := by
  rw [sizeAll]

/-- The nodes of the first tree and of the others. -/
@[simp]
lemma sizeAll_cons (t : Rose α) (ts : List (Rose α)) : sizeAll (t :: ts) = t.size + sizeAll ts := by
  rw [sizeAll]

/-- An empty list of trees has no roots. -/
@[simp]
lemma roots_nil (first : Nat) : roots first ([] : List (Rose α)) = [] := rfl

/-- The second tree starts where the first one ends. -/
@[simp]
lemma roots_cons (first : Nat) (t : Rose α) (ts : List (Rose α)) :
    roots first (t :: ts) = first :: roots (first + t.size) ts := rfl

/-- A tree has at least its root. -/
lemma size_pos (t : Rose α) : 0 < t.size := by
  obtain ⟨v, below⟩ := t
  rw [size_node]
  omega

/-- The roots of two lists of trees: the second list lies behind the first. -/
lemma roots_append (first : Nat) (ts us : List (Rose α)) :
    roots first (ts ++ us) = roots first ts ++ roots (first + sizeAll ts) us := by
  induction ts generalizing first with
  | nil => simp
  | cons t ts ih => simp [ih, Nat.add_assoc]

/-- The roots of trees lie in the stretch that the trees take. -/
lemma mem_roots {first i : Nat} {ts : List (Rose α)} (h : i ∈ roots first ts) :
    first ≤ i ∧ i < first + sizeAll ts := by
  induction ts generalizing first with
  | nil => simp at h
  | cons t ts ih =>
    have hpos := t.size_pos
    rw [roots_cons, List.mem_cons] at h
    rw [sizeAll_cons]
    rcases h with rfl | h
    · omega
    · have := ih h
      omega

end Rose

namespace Arena

open Rose

/-! ## Slots after a change -/

/-- A change of a slot is seen in that slot only. -/
lemma slots_modify (a : Arena α) (id i : Nat) (f : Slot α → Slot α) :
    (a.modify id f).slots[i]? = if id = i then a.slots[i]?.map f else a.slots[i]? := by
  simp only [modify, Array.getElem?_modify]

/-- Changing a slot makes no nodes. -/
@[simp]
lemma size_modify (a : Arena α) (id : Nat) (f : Slot α → Slot α) :
    (a.modify id f).size = a.size := by
  simp [modify, size]

/-- A new slot comes after the others. -/
lemma slots_alloc (a : Arena α) (v : α) (i : Nat) :
    (a.alloc v).slots[i]? = if i = a.size then some { value := v } else a.slots[i]? := by
  unfold alloc size
  rw [Array.getElem?_push]

/-- Allocation makes one node. -/
@[simp]
lemma size_alloc (a : Arena α) (v : α) : (a.alloc v).size = a.size + 1 := by
  simp [alloc, size]

/-- Attaching a node makes none. -/
@[simp]
lemma size_attach (a : Arena α) (parent child : Nat) : (a.attach parent child).size = a.size := by
  simp [attach]

/-- Pushing a child makes one node. -/
@[simp]
lemma size_push (a : Arena α) (parent : Nat) (v : α) : (a.push parent v).size = a.size + 1 := by
  simp [push]

/-- An arena starts with its root. -/
@[simp]
lemma size_singleton (v : α) : (singleton v).size = 1 := rfl

/-- A slot has something in it exactly below the size of the arena. -/
lemma slots_eq_none_iff (a : Arena α) (i : Nat) : a.slots[i]? = none ↔ a.size ≤ i := by
  simp [size]

/-- A slot that has something in it lies below the size of the arena. -/
lemma lt_size_of_slots {a : Arena α} {i : Nat} {s : Slot α} (h : a.slots[i]? = some s) :
    i < a.size := by
  by_contra hge
  rw [(a.slots_eq_none_iff i).2 (by omega)] at h
  cases h

/-- The views of a slot that is known. -/
lemma views_of_slot {a : Arena α} {i : Nat} {s : Slot α} (h : a.slots[i]? = some s) :
    a.value? i = some s.value ∧ a.parent? i = s.parent ∧ a.children i = s.children := by
  simp [value?, parent?, children, h]

/-- The slot of a pushed node. -/
lemma slots_push_self (a : Arena α) {parent : Nat} (v : α) (h : parent < a.size) :
    (a.push parent v).slots[a.size]? = some { value := v, parent := some parent } := by
  have hne : parent ≠ a.size := by omega
  simp [push, attach, slots_modify, slots_alloc, hne]

/-- Pushing a node changes no earlier slot but that of its parent. -/
lemma slots_push_of_lt (a : Arena α) {parent i : Nat} (v : α) (h : i < a.size) :
    (a.push parent v).slots[i]? = a.slots[i]?.map fun s =>
      if i = parent then { s with children := s.children ++ [a.size] } else s := by
  have h1 : i ≠ a.size := by omega
  by_cases hp : i = parent
  · subst hp
    simp [push, attach, slots_modify, slots_alloc, h1, Ne.symm h1]
  · simp [push, attach, slots_modify, slots_alloc, h1, Ne.symm h1, hp, Ne.symm hp]

/-- Two arenas with the same slots are equal. -/
lemma ext_slots {a b : Arena α} (h : ∀ i : Nat, a.slots[i]? = b.slots[i]?) : a = b := by
  obtain ⟨slots⟩ := a
  obtain ⟨slots'⟩ := b
  congr
  exact Array.ext_getElem? h

/-- Changing a content makes no nodes. -/
@[simp]
lemma size_modifyValue (a : Arena α) (id : Nat) (f : α → α) :
    (a.modifyValue id f).size = a.size := by
  simp [modifyValue]

/-- A new content of a pushed node might as well have been pushed. -/
lemma modifyValue_push_self (a : Arena α) (p : Nat) (v : α) (f : α → α) :
    (a.push p v).modifyValue a.size f = a.push p (f v) := by
  apply ext_slots
  intro i
  simp only [push, attach, modifyValue, slots_modify, slots_alloc]
  grind

/-- A new content of an earlier node might as well have been there before a node was pushed. -/
lemma modifyValue_push (a : Arena α) {i : Nat} (p : Nat) (v : α) (f : α → α) (h : i < a.size) :
    (a.push p v).modifyValue i f = (a.modifyValue i f).push p v := by
  apply ext_slots
  intro j
  simp only [push, attach, modifyValue, slots_modify, slots_alloc, size_modify]
  grind

/-- Detaching a node changes its own slot and that of its parent only. -/
lemma slots_detach (a : Arena α) {id p : Nat} (hp : a.parent? id = some p) (hne : id ≠ p)
    (i : Nat) : (a.detach id).slots[i]? = a.slots[i]?.map fun s =>
      if i = p then { s with children := s.children.filter (· != id) }
      else if i = id then { s with parent := none } else s := by
  simp only [detach, hp, slots_modify]
  grind

/-- Detaching a node leaves every slot alone but its own and that of its parent. -/
lemma slots_detach_of_ne (a : Arena α) {id p i : Nat} (hp : a.parent? id = some p) (hi : i ≠ p)
    (hne : i ≠ id) : (a.detach id).slots[i]? = a.slots[i]? := by
  simp [detach, hp, slots_modify, Ne.symm hi, Ne.symm hne]

/-- Detaching a node keeps its slot. -/
@[simp]
lemma size_detach (a : Arena α) (id : Nat) : (a.detach id).size = a.size := by
  unfold detach
  split
  · rfl
  · rw [size_modify, size_modify]

/-- Detaching a node leaves every content alone. -/
@[simp]
lemma value?_detach (a : Arena α) (id i : Nat) : (a.detach id).value? i = a.value? i := by
  unfold detach
  split
  · rfl
  · simp only [value?, slots_modify]
    grind

/-! ## Planting trees -/

/-- Planting trees, the first of which is taken apart. -/
lemma plantAll_cons (a : Arena α) (p : Nat) (v : α) (below ts : List (Rose α)) :
    a.plantAll p (.node v below :: ts)
      = ((a.push p v).plantAll a.size below).plantAll p ts := by
  rw [plantAll, plant]

/-- Planting no trees changes nothing. -/
@[simp]
lemma plantAll_nil (a : Arena α) (p : Nat) : a.plantAll p [] = a := by
  rw [plantAll]

/-- Trees that are planted in two goes. -/
lemma plantAll_append (a : Arena α) (p : Nat) (ts us : List (Rose α)) :
    a.plantAll p (ts ++ us) = (a.plantAll p ts).plantAll p us := by
  induction ts generalizing a with
  | nil => simp
  | cons t ts ih =>
    obtain ⟨v, below⟩ := t
    rw [List.cons_append, plantAll_cons, plantAll_cons, ih]

/-- A node that is pushed is a planted tree without anything below it. -/
lemma push_eq_plantAll (a : Arena α) (p : Nat) (v : α) :
    a.push p v = a.plantAll p [.node v []] := by
  rw [plantAll_cons, plantAll_nil, plantAll_nil]

/-- Planting trees makes as many slots as they have nodes. -/
@[simp]
lemma size_plantAll (a : Arena α) (p : Nat) (ts : List (Rose α)) :
    (a.plantAll p ts).size = a.size + sizeAll ts := by
  induction ts using forest_induct generalizing a p with
  | nil => simp
  | cons v below ts ihb iht =>
    rw [plantAll_cons, iht, ihb, size_push, sizeAll_cons, size_node]
    omega

/-- **Planting trees changes no earlier slot but that of their parent**, which gets their roots as
its last children.

**Proof sketch.** Induction over the trees. Pushing the first root adds it to the parent; the trees
below it are planted under a new slot, so they leave the earlier ones alone; the other trees add
their roots behind the first one. -/
lemma slots_plantAll (a : Arena α) (p : Nat) (ts : List (Rose α)) {i : Nat} (h : i < a.size) :
    (a.plantAll p ts).slots[i]? = a.slots[i]?.map fun s =>
      if i = p then { s with children := s.children ++ roots a.size ts } else s := by
  induction ts using forest_induct generalizing a p with
  | nil => simp
  | cons v below ts ihb iht =>
    have hne : i ≠ a.size := by omega
    rw [plantAll_cons, iht _ _ (by rw [size_plantAll, size_push]; omega),
      ihb _ _ (by rw [size_push]; omega), slots_push_of_lt a v h]
    simp only [Option.map_map, size_plantAll, size_push, roots_cons, size_node]
    congr 1
    funext s
    by_cases hp : i = p
    · subst hp
      simp [hne, Nat.add_assoc, Nat.add_comm 1]
    · simp [hp, hne]

/-- An earlier slot that is not that of the parent is left alone. -/
lemma slots_plantAll_of_ne (a : Arena α) {p i : Nat} (ts : List (Rose α)) (h : i < a.size)
    (hp : i ≠ p) : (a.plantAll p ts).slots[i]? = a.slots[i]? := by
  rw [slots_plantAll a p ts h]
  simp [hp]

/-- A new content of an earlier node might as well have been there before trees were planted. -/
lemma modifyValue_plantAll (a : Arena α) {i : Nat} (p : Nat) (ts : List (Rose α)) (f : α → α)
    (h : i < a.size) : (a.plantAll p ts).modifyValue i f = (a.modifyValue i f).plantAll p ts := by
  induction ts using forest_induct generalizing a p with
  | nil => simp
  | cons v below ts ihb iht =>
    rw [plantAll_cons, plantAll_cons, iht _ _ (by rw [size_plantAll, size_push]; omega),
      ihb _ _ (by rw [size_push]; omega), modifyValue_push a p v f h, size_modifyValue]

/-! ## Stored trees -/

mutual

/-- The tree lies in the arena from an index on, and its root has the given parent. -/
def Stores (a : Arena α) (parent : Option Nat) (first : Nat) : Rose α → Prop
  | .node v below =>
    a.slots[first]? = some { value := v, parent, children := roots (first + 1) below } ∧
      a.StoresAll (some first) (first + 1) below

/-- The trees lie in the arena one after the other, from an index on, and their roots have the given
parent. -/
def StoresAll (a : Arena α) (parent : Option Nat) (first : Nat) : List (Rose α) → Prop
  | [] => True
  | t :: ts => a.Stores parent first t ∧ a.StoresAll parent (first + t.size) ts

end

/-- A tree is stored when its root has its slot, with the roots of the trees below as its children,
and these trees are stored behind it. -/
lemma stores_node {a : Arena α} {parent : Option Nat} {first : Nat} {v : α}
    {below : List (Rose α)} : a.Stores parent first (.node v below) ↔
      a.slots[first]? = some { value := v, parent, children := roots (first + 1) below } ∧
        a.StoresAll (some first) (first + 1) below := by
  rw [Stores]

/-- An empty list of trees is stored everywhere. -/
@[simp]
lemma storesAll_nil (a : Arena α) (parent : Option Nat) (first : Nat) :
    a.StoresAll parent first [] := by
  rw [StoresAll]
  trivial

/-- Trees are stored one after the other. -/
lemma storesAll_cons {a : Arena α} {parent : Option Nat} {first : Nat} {t : Rose α}
    {ts : List (Rose α)} : a.StoresAll parent first (t :: ts) ↔
      a.Stores parent first t ∧ a.StoresAll parent (first + t.size) ts := by
  rw [StoresAll]

/-- Only the slots of its own stretch matter for what is stored there. -/
lemma StoresAll.congr {a b : Arena α} {parent : Option Nat} {first : Nat} {ts : List (Rose α)}
    (h : a.StoresAll parent first ts)
    (hab : ∀ i, first ≤ i → i < first + sizeAll ts → b.slots[i]? = a.slots[i]?) :
    b.StoresAll parent first ts := by
  induction ts using forest_induct generalizing parent first with
  | nil => simp
  | cons v below ts ihb iht =>
    rw [storesAll_cons, stores_node, size_node] at h ⊢
    rw [sizeAll_cons, size_node] at hab
    obtain ⟨⟨hroot, hbelow⟩, hrest⟩ := h
    refine ⟨⟨?_, ihb hbelow ?_⟩, iht hrest ?_⟩
    · rw [hab first (Nat.le_refl _) (by omega), hroot]
    · intro i h1 h2
      exact hab i (by omega) (by omega)
    · intro i h1 h2
      exact hab i (by omega) (by omega)

/-- Only the slots of its own stretch matter for what is stored there. -/
lemma Stores.congr {a b : Arena α} {parent : Option Nat} {first : Nat} {t : Rose α}
    (h : a.Stores parent first t)
    (hab : ∀ i, first ≤ i → i < first + t.size → b.slots[i]? = a.slots[i]?) :
    b.Stores parent first t := by
  have hall : a.StoresAll parent first [t] := storesAll_cons.2 ⟨h, storesAll_nil _ _ _⟩
  exact (storesAll_cons.1 (hall.congr (by simpa using hab))).1

/-- Stored trees lie below the size of the arena. -/
lemma StoresAll.le_size {a : Arena α} {parent : Option Nat} {first : Nat} {ts : List (Rose α)}
    (h : a.StoresAll parent first ts) (hne : ts ≠ []) : first + sizeAll ts ≤ a.size := by
  induction ts using forest_induct generalizing parent first with
  | nil => exact absurd rfl hne
  | cons v below ts ihb iht =>
    rw [storesAll_cons, stores_node, size_node] at h
    rw [sizeAll_cons, size_node]
    obtain ⟨⟨hroot, hbelow⟩, hrest⟩ := h
    have hlt := lt_size_of_slots hroot
    have hb : first + 1 + sizeAll below ≤ a.size := by
      by_cases hnil : below = []
      · subst hnil
        rw [sizeAll_nil]
        omega
      · exact ihb hbelow hnil
    by_cases hnil : ts = []
    · subst hnil
      simp only [sizeAll_nil]
      omega
    · have := iht hrest hnil
      omega

/-- A stored tree lies below the size of the arena. -/
lemma Stores.le_size {a : Arena α} {parent : Option Nat} {first : Nat} {t : Rose α}
    (h : a.Stores parent first t) : first + t.size ≤ a.size := by
  have hall : a.StoresAll parent first [t] := storesAll_cons.2 ⟨h, storesAll_nil _ _ _⟩
  simpa using hall.le_size (by simp)

/-- **Planted trees lie at the end of the arena.**

**Proof sketch.** Induction over the trees. The first root lies right behind the old slots, the
trees below it follow by induction, and planting the other trees only changes the parent, which
comes earlier. -/
theorem storesAll_plantAll (a : Arena α) {p : Nat} (ts : List (Rose α)) (h : p < a.size) :
    (a.plantAll p ts).StoresAll (some p) a.size ts := by
  induction ts using forest_induct generalizing a p with
  | nil => simp
  | cons v below ts ihb iht =>
    have hsize : ((a.push p v).plantAll a.size below).size = a.size + 1 + sizeAll below := by simp
    have hbelow : ((a.push p v).plantAll a.size below).StoresAll (some a.size) (a.size + 1)
        below := by
      have := ihb (a.push p v) (p := a.size) (by simp)
      rwa [size_push] at this
    have hroot : ((a.push p v).plantAll a.size below).slots[a.size]?
        = some { value := v, parent := some p, children := roots (a.size + 1) below } := by
      rw [slots_plantAll _ _ _ (by simp), slots_push_self a v h]
      simp
    rw [plantAll_cons, storesAll_cons, size_node]
    constructor
    · refine Stores.congr (stores_node.2 ⟨hroot, hbelow⟩) fun i h1 h2 => ?_
      rw [size_node] at h2
      exact slots_plantAll_of_ne _ _ (by omega) (by omega)
    · have := iht ((a.push p v).plantAll a.size below) (p := p) (by omega)
      rw [hsize] at this
      rwa [show a.size + (sizeAll below + 1) = a.size + 1 + sizeAll below by omega]

/-- A tree may also be planted without a parent. -/
lemma stores_alloc_plantAll (a : Arena α) (v : α) (below : List (Rose α)) :
    ((a.alloc v).plantAll a.size below).Stores none a.size (.node v below) := by
  have hsize := size_alloc a v
  rw [stores_node]
  constructor
  · rw [slots_plantAll _ _ _ (by omega), slots_alloc, if_pos rfl, hsize]
    simp
  · have := storesAll_plantAll (a.alloc v) (p := a.size) below (by omega)
    rwa [hsize] at this

/-- Planting a tree without a parent leaves the earlier slots alone. -/
lemma slots_alloc_plantAll (a : Arena α) (v : α) (below : List (Rose α)) {i : Nat}
    (h : i < a.size) : ((a.alloc v).plantAll a.size below).slots[i]? = a.slots[i]? := by
  have hne : i ≠ a.size := by omega
  rw [slots_plantAll_of_ne _ _ (by rw [size_alloc]; omega) hne, slots_alloc, if_neg hne]

/-- The content of the root of a stored tree is changed. -/
lemma Stores.modifyValue {a : Arena α} {parent : Option Nat} {first : Nat} {v : α}
    {below : List (Rose α)} (h : a.Stores parent first (.node v below)) (f : α → α) :
    (a.modifyValue first f).Stores parent first (.node (f v) below) := by
  obtain ⟨hroot, hbelow⟩ := stores_node.1 h
  refine stores_node.2 ⟨?_, hbelow.congr fun i h1 _ => ?_⟩
  · rw [Arena.modifyValue, slots_modify, if_pos rfl, hroot]
    rfl
  · rw [Arena.modifyValue, slots_modify, if_neg (by omega)]

/-- The content of the root of the first of some stored trees is changed. -/
lemma StoresAll.modifyValue {a : Arena α} {parent : Option Nat} {first : Nat} {v : α}
    {below ts : List (Rose α)} (h : a.StoresAll parent first (.node v below :: ts)) (f : α → α) :
    (a.modifyValue first f).StoresAll parent first (.node (f v) below :: ts) := by
  obtain ⟨htree, hrest⟩ := storesAll_cons.1 h
  refine storesAll_cons.2 ⟨htree.modifyValue f, ?_⟩
  rw [size_node] at hrest ⊢
  refine hrest.congr fun i h1 _ => ?_
  rw [Arena.modifyValue, slots_modify, if_neg (by omega)]

/-- **The arena of a tree holds exactly that tree**, from its first slot on. -/
theorem stores_ofRose (t : Rose α) : (ofRose t).Stores none 0 t := by
  obtain ⟨v, below⟩ := t
  rw [ofRose, stores_node]
  refine ⟨?_, storesAll_plantAll _ below (by simp)⟩
  rw [slots_plantAll _ _ _ (by simp), size_singleton]
  simp [singleton]

/-- The arena of a tree has the nodes of the tree. -/
@[simp]
lemma size_ofRose (t : Rose α) : (ofRose t).size = t.size := by
  obtain ⟨v, below⟩ := t
  simp [ofRose, Nat.add_comm]

end Arena

end DocComments
