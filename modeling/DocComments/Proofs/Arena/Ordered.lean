import DocComments.Proofs.Arena.Layout
import Mathlib.Data.List.Nodup
import Mathlib.Data.List.Perm.Subperm
import Mathlib.Logic.Relation

set_option autoImplicit false

/-!
# Arenas with sound links

In a sound arena children and parents agree, no node is a child twice, and every parent comes before
its children. The operations that build and change trees keep an arena sound. In a sound arena a
visit meets exactly what is reached from where it starts, and nothing twice, so the bound on its
length is never felt.

## Main definitions

* `Arena.Ordered` — the links of an arena are sound.
* `Arena.Reaches` — a node is reached from another one.
* `Arena.Precedes` — a node comes before another one in document order.

## Main results

* `Arena.Ordered.attach`, `Arena.Ordered.detach` — attaching and detaching keep an arena sound.
* `Arena.ordered_ofRose` — the arena of a tree is sound.
* `Arena.Ordered.mem_preorder_iff` — document order lists exactly the nodes that are reached.
* `Arena.Ordered.nodup_preorder` — document order lists no node twice.
* `Arena.Ordered.preorder_eq` — document order lists a node and then its children, each with
  everything below it.
* `Arena.Ordered.pairwise_preorder` — so it lists nodes in document order.
-/

namespace DocComments.Arena

variable {α β : Type}

/-- The links of an arena are sound: children and parents agree, no node is a child twice, and every
parent comes before its children. -/
structure Ordered (a : Arena α) : Prop where
  mem_children_iff : ∀ {p c : Nat}, c ∈ a.children p ↔ a.parent? c = some p
  lt_of_parent : ∀ {p c : Nat}, a.parent? c = some p → p < c
  nodup : ∀ p, (a.children p).Nodup

/-- A node is reached from another one by going from parents to children. -/
def Reaches (a : Arena α) : Nat → Nat → Prop :=
  Relation.ReflTransGen fun p c => c ∈ a.children p

/-- A node comes before another one in document order: the other one lies below it, or they lie
below two children of one node, in the order of these children. -/
def Precedes (a : Arena α) (i j : Nat) : Prop :=
  (i ≠ j ∧ a.Reaches i j) ∨
    ∃ p c c', [c, c'].Sublist (a.children p) ∧ a.Reaches c i ∧ a.Reaches c' j

/-! ## The links after a change -/

/-- A node with a parent is there. -/
lemma lt_size_of_parent? {a : Arena α} {p c : Nat} (h : a.parent? c = some p) : c < a.size := by
  obtain ⟨s, hs, -⟩ := Option.bind_eq_some_iff.1 h
  exact lt_size_of_slots hs

/-- The children after a change of a slot that does not touch them. -/
lemma children_modify (a : Arena α) (id i : Nat) {f : Slot α → Slot α}
    (hf : ∀ s, (f s).children = s.children) : (a.modify id f).children i = a.children i := by
  simp only [children, slots_modify]
  split
  · cases a.slots[i]? <;> simp [hf]
  · rfl

/-- The parents after a change of a slot that does not touch its parent. -/
lemma parent?_modify (a : Arena α) (id i : Nat) {f : Slot α → Slot α}
    (hf : ∀ s, (f s).parent = s.parent) : (a.modify id f).parent? i = a.parent? i := by
  simp only [parent?, slots_modify]
  split
  · cases a.slots[i]? <;> simp [hf]
  · rfl

/-- Changing a content keeps the children. -/
@[simp]
lemma children_modifyValue (a : Arena α) (id i : Nat) (f : α → α) :
    (a.modifyValue id f).children i = a.children i :=
  a.children_modify id i fun _ => rfl

/-- Changing a content keeps the parents. -/
@[simp]
lemma parent?_modifyValue (a : Arena α) (id i : Nat) (f : α → α) :
    (a.modifyValue id f).parent? i = a.parent? i :=
  a.parent?_modify id i fun _ => rfl

/-- A new node has no children, and is no one's child. -/
lemma children_alloc (a : Arena α) (v : α) (i : Nat) : (a.alloc v).children i = a.children i := by
  simp only [children, slots_alloc]
  split
  · rename_i hi
    rw [(a.slots_eq_none_iff i).2 (by omega)]
    rfl
  · rfl

/-- A new node has no parent, and is no one's parent. -/
lemma parent?_alloc (a : Arena α) (v : α) (i : Nat) : (a.alloc v).parent? i = a.parent? i := by
  simp only [parent?, slots_alloc]
  split
  · rename_i hi
    rw [(a.slots_eq_none_iff i).2 (by omega)]
    rfl
  · rfl

/-- An attached node becomes the last child of its parent. -/
lemma children_attach (a : Arena α) {p c : Nat} (hp : p < a.size) (i : Nat) :
    (a.attach p c).children i = if i = p then a.children p ++ [c] else a.children i := by
  have hkids : ∀ j, (a.modify c fun s => { s with parent := some p }).children j = a.children j :=
    fun j => a.children_modify c j fun _ => rfl
  by_cases hi : i = p
  · subst hi
    obtain ⟨s, hs⟩ : ∃ s, (a.modify c fun s => { s with parent := some i }).slots[i]? = some s := by
      apply Option.ne_none_iff_exists'.1
      rw [Ne, slots_eq_none_iff, size_modify]
      omega
    rw [if_pos rfl, ← hkids i, (views_of_slot hs).2.2]
    simp [attach, children, slots_modify _ i, hs]
  · rw [if_neg hi, ← hkids i]
    simp [attach, children, slots_modify _ p, Ne.symm hi]

/-- An attached node gets its parent. -/
lemma parent?_attach (a : Arena α) {p c : Nat} (hc : c < a.size) (i : Nat) :
    (a.attach p c).parent? i = if i = c then some p else a.parent? i := by
  have hsame := (a.modify c fun s => { s with parent := some p }).parent?_modify p i
    (f := fun s => { s with children := s.children ++ [c] }) fun _ => rfl
  rw [attach, hsame, parent?, slots_modify]
  by_cases hi : i = c
  · subst hi
    obtain ⟨s, hs⟩ : ∃ s, a.slots[i]? = some s := by
      apply Option.ne_none_iff_exists'.1
      rw [Ne, slots_eq_none_iff]
      omega
    simp [hs]
  · rw [if_neg hi, if_neg (Ne.symm hi)]
    rfl

/-! ## Sound links are kept -/

/-- Only the links matter. -/
lemma Ordered.congr {a : Arena α} {b : Arena β} (h : a.Ordered)
    (hchildren : ∀ i, b.children i = a.children i) (hparent : ∀ i, b.parent? i = a.parent? i) :
    b.Ordered := by
  constructor
  · intro p c
    rw [hchildren, hparent]
    exact h.mem_children_iff
  · intro p c hp
    rw [hparent] at hp
    exact h.lt_of_parent hp
  · intro p
    rw [hchildren]
    exact h.nodup p

/-- Links stay sound when a content is changed. -/
lemma Ordered.modifyValue {a : Arena α} (h : a.Ordered) (id : Nat) (f : α → α) :
    (a.modifyValue id f).Ordered :=
  h.congr (a.children_modifyValue id · f) (a.parent?_modifyValue id · f)

/-- Links stay sound when a node is allocated. -/
lemma Ordered.alloc {a : Arena α} (h : a.Ordered) (v : α) : (a.alloc v).Ordered :=
  h.congr (a.children_alloc v) (a.parent?_alloc v)

/-- A root alone has sound links. -/
lemma ordered_singleton (v : α) : (singleton v).Ordered := by
  have hchildren : ∀ i, (singleton v).children i = [] := by
    intro i
    cases i with
    | zero => rfl
    | succ i => rfl
  have hparent : ∀ i, (singleton v).parent? i = none := by
    intro i
    cases i with
    | zero => rfl
    | succ i => rfl
  constructor
  · intro p c
    simp [hchildren, hparent]
  · intro p c hp
    simp [hparent] at hp
  · intro p
    simp [hchildren]

/-- **Attaching keeps an arena sound** if the node has no parent yet and the new parent comes
before it. -/
lemma Ordered.attach {a : Arena α} (h : a.Ordered) {p c : Nat} (hlt : p < c) (hc : c < a.size)
    (hfree : a.parent? c = none) : (a.attach p c).Ordered := by
  have hnew : ∀ q, c ∉ a.children q := by
    intro q hmem
    rw [h.mem_children_iff, hfree] at hmem
    cases hmem
  constructor
  · intro q i
    rw [a.children_attach (by omega), a.parent?_attach hc]
    by_cases hi : i = c
    · subst hi
      by_cases hq : q = p
      · simp [hq]
      · simp [hq, hnew, Ne.symm hq]
    · rw [if_neg hi, ← h.mem_children_iff]
      split
      · rename_i hq
        rw [List.mem_append, List.mem_singleton, hq]
        exact or_iff_left hi
      · rfl
  · intro q i hq
    rw [a.parent?_attach hc] at hq
    split at hq
    · rename_i hi
      cases hq
      omega
    · exact h.lt_of_parent hq
  · intro q
    rw [a.children_attach (by omega)]
    split
    · exact List.nodup_append.2 ⟨h.nodup p, by simp, fun i hi j hj heq =>
        hnew p (by rw [List.mem_singleton] at hj; rwa [← hj, ← heq])⟩
    · exact h.nodup q

/-- Planting trees keeps an arena sound. -/
lemma Ordered.plantAll {a : Arena α} (h : a.Ordered) {p : Nat} (hp : p < a.size)
    (ts : List (Rose α)) : (a.plantAll p ts).Ordered := by
  induction ts using Rose.forest_induct generalizing a p with
  | nil => simpa using h
  | cons v below ts ihb iht =>
    have hfree : (a.alloc v).parent? a.size = none := by
      rw [a.parent?_alloc, parent?, (a.slots_eq_none_iff a.size).2 (Nat.le_refl _)]
      rfl
    have hpush : (a.push p v).Ordered := (h.alloc v).attach hp (by simp) hfree
    rw [plantAll_cons]
    exact iht (ihb hpush (by simp)) (by simp; omega)

/-- **The arena of a tree is sound.** -/
lemma ordered_ofRose (t : Rose α) : (ofRose t).Ordered := by
  obtain ⟨v, below⟩ := t
  exact (ordered_singleton v).plantAll (by simp) below

/-- Detaching a node takes it from the children of its parent. -/
lemma children_detach {a : Arena α} {id p : Nat} (hp : a.parent? id = some p) (hne : id ≠ p)
    (i : Nat) : (a.detach id).children i
      = if i = p then (a.children p).filter (· != id) else a.children i := by
  simp only [children, slots_detach a hp hne]
  by_cases hi : i = p
  · subst hi
    cases a.slots[i]? <;> simp
  · rw [if_neg hi]
    cases a.slots[i]? with
    | none => rfl
    | some s =>
      simp only [Option.map_some, hi, if_false]
      split <;> rfl

/-- A detached node has no parent. -/
lemma parent?_detach {a : Arena α} {id p : Nat} (hp : a.parent? id = some p) (hne : id ≠ p)
    (i : Nat) : (a.detach id).parent? i = if i = id then none else a.parent? i := by
  simp only [parent?, slots_detach a hp hne]
  by_cases hi : i = id
  · subst hi
    cases a.slots[i]? <;> simp [hne]
  · rw [if_neg hi]
    cases a.slots[i]? with
    | none => rfl
    | some s =>
      simp only [Option.map_some, hi, if_false]
      split <;> rfl

/-- **Detaching keeps an arena sound.** -/
lemma Ordered.detach {a : Arena α} (h : a.Ordered) (id : Nat) : (a.detach id).Ordered := by
  cases hparent : a.parent? id with
  | none =>
    rw [Arena.detach, hparent]
    exact h
  | some p =>
    have hne : id ≠ p := by
      have := h.lt_of_parent hparent
      omega
    constructor
    · intro q i
      rw [children_detach hparent hne, parent?_detach hparent hne]
      by_cases hi : i = id
      · subst hi
        by_cases hq : q = p
        · simp [hq]
        · simp only [hq, if_true, if_false, h.mem_children_iff, hparent]
          simp [Ne.symm hq]
      · rw [if_neg hi, ← h.mem_children_iff]
        split
        · rename_i hq
          rw [hq]
          simp [hi]
        · rfl
    · intro q i hq
      rw [parent?_detach hparent hne] at hq
      split at hq
      · cases hq
      · exact h.lt_of_parent hq
    · intro q
      rw [children_detach hparent hne]
      split
      · exact (h.nodup p).filter _
      · exact h.nodup q

/-! ## Visits -/

/-- A visit only meets what is reached. -/
lemma exists_reaches_of_mem_visit {a : Arena α} {fuel j : Nat} {ids : List Nat}
    (h : j ∈ a.visit fuel ids) : ∃ i ∈ ids, a.Reaches i j := by
  induction fuel generalizing ids with
  | zero => simp [visit] at h
  | succ fuel ih =>
    cases ids with
    | nil => simp [visit] at h
    | cons id rest =>
      rw [visit] at h
      rcases List.mem_cons.1 h with rfl | h
      · exact ⟨j, List.mem_cons_self, .refl⟩
      · obtain ⟨i, hi, hreaches⟩ := ih h
        rcases List.mem_append.1 hi with hi | hi
        · exact ⟨id, List.mem_cons_self, .head hi hreaches⟩
        · exact ⟨i, List.mem_cons_of_mem _ hi, hreaches⟩

/-- A visit that is not cut short meets everything that is reached. -/
lemma mem_visit_of_reaches {a : Arena α} {fuel i j : Nat} {ids : List Nat}
    (hlength : (a.visit fuel ids).length < fuel) (hi : i ∈ ids) (h : a.Reaches i j) :
    j ∈ a.visit fuel ids := by
  induction fuel generalizing ids i with
  | zero => omega
  | succ fuel ih =>
    cases ids with
    | nil => cases hi
    | cons id rest =>
      rw [visit, List.length_cons] at hlength
      rw [visit]
      rcases List.mem_cons.1 hi with rfl | hi
      · rcases Relation.ReflTransGen.cases_head h with rfl | ⟨c, hc, h⟩
        · exact List.mem_cons_self
        · exact List.mem_cons_of_mem _ (ih (by omega) (List.mem_append_left _ hc) h)
      · exact List.mem_cons_of_mem _ (ih (by omega) (List.mem_append_right _ hi) h)

/-- What a visit of some nodes leaves of its bound is for the others. -/
lemma visit_append (a : Arena α) (fuel : Nat) (ids rest : List Nat) : a.visit fuel (ids ++ rest)
    = a.visit fuel ids ++ a.visit (fuel - (a.visit fuel ids).length) rest := by
  induction fuel generalizing ids with
  | zero => simp [visit]
  | succ fuel ih =>
    cases ids with
    | nil => simp [visit]
    | cons id ids =>
      rw [List.cons_append, visit, visit, ← List.append_assoc, ih, List.length_cons,
        Nat.add_sub_add_right]
      rfl

/-- A smaller bound cuts a visit short. -/
lemma visit_eq_take (a : Arena α) {n m : Nat} (h : n ≤ m) (ids : List Nat) :
    a.visit n ids = (a.visit m ids).take n := by
  induction n generalizing m ids with
  | zero => simp [visit]
  | succ n ih =>
    obtain ⟨m, rfl⟩ : ∃ k, m = k + 1 := ⟨m - 1, by omega⟩
    have hn : n ≤ m := by omega
    cases ids with
    | nil => simp [visit]
    | cons id rest => rw [visit, visit, List.take_succ_cons, ih hn]

namespace Ordered

variable {a : Arena α}

/-- What is reached comes later. -/
lemma le_of_reaches (h : a.Ordered) {i j : Nat} (hreaches : a.Reaches i j) : i ≤ j := by
  induction hreaches with
  | refl => exact Nat.le_refl i
  | tail _ hstep ih =>
    have := h.lt_of_parent (h.mem_children_iff.1 hstep)
    omega

/-- What is reached from a node that is there is there. -/
lemma lt_size_of_reaches (h : a.Ordered) {i j : Nat} (hi : i < a.size)
    (hreaches : a.Reaches i j) : j < a.size := by
  rcases Relation.ReflTransGen.cases_tail hreaches with rfl | ⟨p, -, hstep⟩
  · exact hi
  · exact lt_size_of_parent? (h.mem_children_iff.1 hstep)

/-- A child is reached from itself and from what reaches its parent only. -/
lemma reaches_child (h : a.Ordered) {i p c : Nat} (hc : c ∈ a.children p) (hreaches : a.Reaches i c) :
    i = c ∨ a.Reaches i p := by
  rcases Relation.ReflTransGen.cases_tail hreaches with rfl | ⟨q, hq, hstep⟩
  · exact .inl rfl
  · rw [h.mem_children_iff] at hc hstep
    rw [hc, Option.some.injEq] at hstep
    rw [hstep]
    exact .inr hq

/-- None of two nodes is reached from the other. -/
def Apart (a : Arena α) (i j : Nat) : Prop :=
  ¬a.Reaches i j ∧ ¬a.Reaches j i

/-- The nodes that a visit still has before it stay apart. -/
lemma pairwise_apart_children (h : a.Ordered) {id : Nat} {rest : List Nat}
    (hapart : (id :: rest).Pairwise (Apart a)) :
    (a.children id ++ rest).Pairwise (Apart a) := by
  obtain ⟨hid, hrest⟩ := List.pairwise_cons.1 hapart
  have hsiblings : ∀ c ∈ a.children id, ∀ c' ∈ a.children id, c ≠ c' → ¬a.Reaches c c' := by
    intro c hc c' hc' hne hreaches
    rcases h.reaches_child hc' hreaches with heq | hback
    · exact hne heq
    · have := h.le_of_reaches hback
      have := h.lt_of_parent (h.mem_children_iff.1 hc)
      omega
  refine List.pairwise_append.2 ⟨?_, hrest, fun c hc r hr => ⟨fun hreaches => ?_, fun hreaches => ?_⟩⟩
  · exact (h.nodup id).imp_of_mem fun hc hc' hne =>
      ⟨hsiblings _ hc _ hc' hne, hsiblings _ hc' _ hc (Ne.symm hne)⟩
  · exact (hid r hr).1 (.head hc hreaches)
  · rcases h.reaches_child hc hreaches with rfl | hback
    · exact (hid r hr).1 (.single hc)
    · exact (hid r hr).2 hback

/-- **A visit from nodes that are apart meets nothing twice.** -/
lemma nodup_visit (h : a.Ordered) (fuel : Nat) {ids : List Nat}
    (hapart : ids.Pairwise (Apart a)) : (a.visit fuel ids).Nodup := by
  induction fuel generalizing ids with
  | zero => simp [visit]
  | succ fuel ih =>
    cases ids with
    | nil => simp [visit]
    | cons id rest =>
      rw [visit]
      refine List.nodup_cons.2 ⟨fun hmem => ?_, ih (h.pairwise_apart_children hapart)⟩
      obtain ⟨i, hi, hreaches⟩ := exists_reaches_of_mem_visit hmem
      rcases List.mem_append.1 hi with hi | hi
      · have := h.le_of_reaches hreaches
        have := h.lt_of_parent (h.mem_children_iff.1 hi)
        omega
      · exact ((List.pairwise_cons.1 hapart).1 i hi).2 hreaches

/-- **Document order lists no node twice.** -/
theorem nodup_preorder (h : a.Ordered) (i : Nat) : (a.preorder i).Nodup :=
  h.nodup_visit _ (List.pairwise_singleton _ _)

/-- A visit from nodes that are there stays among them. -/
lemma lt_size_of_mem_visit (h : a.Ordered) {fuel j : Nat} {ids : List Nat}
    (hids : ∀ i ∈ ids, i < a.size) (hj : j ∈ a.visit fuel ids) : j < a.size := by
  obtain ⟨i, hi, hreaches⟩ := exists_reaches_of_mem_visit hj
  exact h.lt_size_of_reaches (hids i hi) hreaches

/-- **Document order lists exactly the nodes that are reached.**

**Proof sketch.** If the visit ends before its bound, it has met everything. Otherwise it has met as
many different nodes as there are, so it has met all of them. -/
theorem mem_preorder_iff (h : a.Ordered) {i j : Nat} (hi : i < a.size) :
    j ∈ a.preorder i ↔ a.Reaches i j := by
  constructor
  · intro hmem
    obtain ⟨k, hk, hreaches⟩ := exists_reaches_of_mem_visit hmem
    rwa [List.mem_singleton.1 hk] at hreaches
  · intro hreaches
    by_cases hlength : (a.preorder i).length < a.size
    · exact mem_visit_of_reaches hlength List.mem_cons_self hreaches
    · have hsubset : a.preorder i ⊆ List.range a.size := by
        intro k hk
        exact List.mem_range.2 (h.lt_size_of_mem_visit (by simpa using hi) hk)
      have hperm := (List.subperm_of_subset (h.nodup_preorder i) hsubset).perm_of_length_le
        (by rw [List.length_range]; omega)
      exact hperm.symm.subset (List.mem_range.2 (h.lt_size_of_reaches hi hreaches))

/-- A visit from nodes that are apart is never longer than the arena. -/
lemma length_visit_le (h : a.Ordered) (fuel : Nat) {ids : List Nat}
    (hapart : ids.Pairwise (Apart a)) (hids : ∀ i ∈ ids, i < a.size) :
    (a.visit fuel ids).length ≤ a.size := by
  have hsubset : a.visit fuel ids ⊆ List.range a.size := by
    intro k hk
    exact List.mem_range.2 (h.lt_size_of_mem_visit hids hk)
  have hlength := (List.subperm_of_subset (h.nodup_visit fuel hapart) hsubset).length_le
  rwa [List.length_range] at hlength

/-- A larger bound does not change such a visit. -/
lemma visit_eq_of_size_le (h : a.Ordered) {fuel : Nat} (hfuel : a.size ≤ fuel) {ids : List Nat}
    (hapart : ids.Pairwise (Apart a)) (hids : ∀ i ∈ ids, i < a.size) :
    a.visit fuel ids = a.visit a.size ids := by
  rw [a.visit_eq_take hfuel, List.take_of_length_le (h.length_visit_le fuel hapart hids)]

/-- Nodes that are apart are visited one after the other. -/
lemma visit_eq_flatMap (h : a.Ordered) {ids : List Nat} (hapart : ids.Pairwise (Apart a))
    (hids : ∀ i ∈ ids, i < a.size) : a.visit a.size ids = ids.flatMap a.preorder := by
  induction ids with
  | nil => cases a.size <;> simp [visit]
  | cons id rest ih =>
    obtain ⟨-, hrest⟩ := List.pairwise_cons.1 hapart
    have hid : ∀ i ∈ [id], i < a.size := by simpa using hids id List.mem_cons_self
    have hids' : ∀ i ∈ rest, i < a.size := fun i hi => hids i (List.mem_cons_of_mem _ hi)
    -- twice the bound is enough for the first node and for the others
    have hsplit := a.visit_append (2 * a.size) [id] rest
    rw [h.visit_eq_of_size_le (by omega) (List.pairwise_singleton _ _) hid] at hsplit
    have hlength := h.length_visit_le a.size (List.pairwise_singleton _ _) hid
    rw [h.visit_eq_of_size_le (by omega) hrest hids', ih hrest hids', List.singleton_append,
      h.visit_eq_of_size_le (by omega) hapart hids] at hsplit
    rw [hsplit, List.flatMap_cons]
    rfl

/-- **Document order lists a node and then its children**, each with everything below it. -/
theorem preorder_eq (h : a.Ordered) {i : Nat} (hi : i < a.size) :
    a.preorder i = i :: (a.children i).flatMap a.preorder := by
  have hsingle := List.pairwise_singleton (Apart a) i
  have hchildren := h.pairwise_apart_children hsingle
  rw [List.append_nil] at hchildren
  have hlt : ∀ c ∈ a.children i, c < a.size := fun c hc =>
    lt_size_of_parent? (h.mem_children_iff.1 hc)
  have hmore := h.visit_eq_of_size_le (Nat.le_succ a.size) hsingle (by simpa using hi)
  rw [preorder, ← hmore, visit, List.append_nil, h.visit_eq_flatMap hchildren hlt]

/-- **Document order lists nodes in document order.**

**Proof sketch.** Children come after their parent, so the induction goes down from the last node. A
node precedes everything below it. Of two nodes below it, either both lie below the same child, or
they lie below different children, which are in order. -/
theorem pairwise_preorder (h : a.Ordered) {i : Nat} (hi : i < a.size) :
    (a.preorder i).Pairwise a.Precedes := by
  induction hn : a.size - i using Nat.strongRecOn generalizing i with
  | ind n ih =>
    have hlater : ∀ c ∈ a.children i, i < c ∧ c < a.size := fun c hc =>
      have hparent := h.mem_children_iff.1 hc
      ⟨h.lt_of_parent hparent, lt_size_of_parent? hparent⟩
    rw [h.preorder_eq hi, List.pairwise_cons]
    constructor
    · intro j hj
      obtain ⟨c, hc, hj⟩ := List.mem_flatMap.1 hj
      have hreaches := (h.mem_preorder_iff (hlater c hc).2).1 hj
      have hle := h.le_of_reaches hreaches
      have hlt := (hlater c hc).1
      exact .inl ⟨by omega, .head hc hreaches⟩
    · refine List.pairwise_flatMap.2 ⟨fun c hc => ?_, ?_⟩
      · obtain ⟨hlt, hsize⟩ := hlater c hc
        exact ih (a.size - c) (by omega) hsize rfl
      · apply List.pairwise_iff_forall_sublist.2
        intro c c' hsub j hj j' hj'
        have hc := hlater c (hsub.subset (by simp))
        have hc' := hlater c' (hsub.subset (by simp))
        exact .inr ⟨i, c, c', hsub, (h.mem_preorder_iff hc.2).1 hj, (h.mem_preorder_iff hc'.2).1 hj'⟩

end Ordered

end DocComments.Arena
