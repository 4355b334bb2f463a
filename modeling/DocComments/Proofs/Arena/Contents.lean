import DocComments.Proofs.Arena.Ordered

set_option autoImplicit false

/-!
# Arenas with other contents

Changing the contents of nodes leaves the links between them alone, and with them document order.
This file says so for changes of all nodes at once and for changes of several nodes one after the
other.

## Main definitions

* `Arena.map` — the arena with all contents changed.

## Main results

* `Arena.preorder_congr` — document order depends on the links only.
* `Arena.value?_foldl_modifyValue` — the contents after several nodes were changed.
* `Arena.map_modifyValue` — a change that `map` does not see.
-/

namespace DocComments.Arena

variable {α β : Type}

/-! ## Document order -/

/-- A visit depends on the links only. -/
lemma visit_congr {a : Arena α} {b : Arena β} (h : ∀ i, b.children i = a.children i) (fuel : Nat)
    (ids : List Nat) : b.visit fuel ids = a.visit fuel ids := by
  induction fuel generalizing ids with
  | zero => simp only [visit]
  | succ fuel ih =>
    cases ids with
    | nil => simp only [visit]
    | cons id rest => rw [visit, visit, h, ih]

/-- **Document order depends on the links only.** -/
lemma preorder_congr {a : Arena α} {b : Arena β} (hsize : b.size = a.size)
    (h : ∀ i, b.children i = a.children i) (i : Nat) : b.preorder i = a.preorder i := by
  rw [preorder, preorder, hsize, visit_congr h]

/-! ## All contents changed -/

/-- The arena with all contents changed. -/
def map (f : α → β) (a : Arena α) : Arena β where
  slots := a.slots.map fun s => { value := f s.value, parent := s.parent, children := s.children }

/-- The slots after all contents are changed: the links stay. -/
@[simp]
lemma slots_map (f : α → β) (a : Arena α) (i : Nat) : (a.map f).slots[i]?
    = a.slots[i]?.map fun s => { value := f s.value, parent := s.parent, children := s.children } := by
  simp [map]

/-- Changing contents makes no nodes. -/
@[simp]
lemma size_map (f : α → β) (a : Arena α) : (a.map f).size = a.size := by
  simp [map, size]

/-- The content of a node after all contents are changed. -/
@[simp]
lemma value?_map (f : α → β) (a : Arena α) (i : Nat) : (a.map f).value? i = (a.value? i).map f := by
  simp [value?, Function.comp_def]

/-- Changing contents keeps the parents. -/
@[simp]
lemma parent?_map (f : α → β) (a : Arena α) (i : Nat) : (a.map f).parent? i = a.parent? i := by
  rw [parent?, parent?, slots_map]
  cases a.slots[i]? <;> rfl

/-- Changing contents keeps the children. -/
@[simp]
lemma children_map (f : α → β) (a : Arena α) (i : Nat) : (a.map f).children i = a.children i := by
  simp [children, Function.comp_def]

/-- Changing contents keeps the document order. -/
@[simp]
lemma preorder_map (f : α → β) (a : Arena α) (i : Nat) : (a.map f).preorder i = a.preorder i :=
  preorder_congr (a.size_map f) (a.children_map f) i

/-- A change that is not seen after all contents are changed. -/
lemma map_modifyValue {f : α → β} {g : α → α} (h : ∀ v, f (g v) = f v) (a : Arena α) (id : Nat) :
    (a.modifyValue id g).map f = a.map f := by
  apply ext_slots
  intro i
  rw [slots_map, slots_map, modifyValue, slots_modify]
  split
  · rw [Option.map_map]
    simp [Function.comp_def, h]
  · rfl

/-! ## Several contents changed -/

section Foldl

variable (f : Nat → α → α) (ids : List Nat) (a : Arena α)

/-- Changing several contents makes no nodes. -/
@[simp]
lemma size_foldl_modifyValue :
    (ids.foldl (fun a id => a.modifyValue id (f id)) a).size = a.size := by
  apply List.foldlRecOn (motive := fun b : Arena α => b.size = a.size)
  · rfl
  · intro b hb id _
    rw [size_modifyValue, hb]

/-- Changing several contents keeps the parents. -/
@[simp]
lemma parent?_foldl_modifyValue (i : Nat) :
    (ids.foldl (fun a id => a.modifyValue id (f id)) a).parent? i = a.parent? i := by
  apply List.foldlRecOn (motive := fun b : Arena α => b.parent? i = a.parent? i)
  · rfl
  · intro b hb id _
    rw [parent?_modifyValue, hb]

/-- Changing several contents keeps the children. -/
@[simp]
lemma children_foldl_modifyValue (i : Nat) :
    (ids.foldl (fun a id => a.modifyValue id (f id)) a).children i = a.children i := by
  apply List.foldlRecOn (motive := fun b : Arena α => b.children i = a.children i)
  · rfl
  · intro b hb id _
    rw [children_modifyValue, hb]

variable {f ids a}

/-- The contents after one node was changed. -/
lemma value?_modifyValue (a : Arena α) (id i : Nat) (g : α → α) :
    (a.modifyValue id g).value? i = if i = id then (a.value? i).map g else a.value? i := by
  unfold modifyValue value?
  rw [slots_modify]
  by_cases hi : id = i
  · simp [hi, Function.comp_def]
  · simp [hi, Ne.symm hi]

/-- **The contents after several nodes were changed**, by changes that do nothing more when they are
made again. -/
lemma value?_foldl_modifyValue (hf : ∀ i v, f i (f i v) = f i v) (i : Nat) :
    (ids.foldl (fun a id => a.modifyValue id (f id)) a).value? i
      = if i ∈ ids then (a.value? i).map (f i) else a.value? i := by
  induction ids generalizing a with
  | nil => simp
  | cons id ids ih =>
    rw [List.foldl_cons, ih, value?_modifyValue]
    by_cases hi : i = id
    · subst hi
      simp [Function.comp_def, hf]
    · simp [hi]

/-- Changes that do nothing. -/
lemma foldl_modifyValue_eq_self (h : ∀ i ∈ ids, ∀ v, a.value? i = some v → f i v = v) :
    ids.foldl (fun a id => a.modifyValue id (f id)) a = a := by
  apply List.foldlRecOn (motive := fun b : Arena α => b = a)
  · rfl
  · rintro b rfl id hid
    apply ext_slots
    intro i
    rw [modifyValue, slots_modify]
    split
    · rename_i hi
      subst hi
      cases hs : b.slots[id]? with
      | none => rfl
      | some s => rw [Option.map_some, h id hid s.value (views_of_slot hs).1]
    · rfl

end Foldl

end DocComments.Arena
