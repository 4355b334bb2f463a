import DocComments.Proofs.Comment.Moves
import DocComments.Proofs.Comment.Recursive
import DocComments.Proofs.Markup.Siblings

set_option autoImplicit false

/-!
# The walk below a top-level block

Inside a top-level block nothing gets a role, so all the walk can do there is convert nodes and drop
those without a typed form. It plants the converted nodes into the comment as it enters them. This
file follows the walk from the first child of an open node to the moment it leaves that node.

## Main definitions

* `Classifier.Steps` — the walk gets from one state to another in a number of steps.
* `Classifier.Confined` — two markup trees differ in a stretch of slots and in the children of one
  node only.
* `Classifier.opened`, `Classifier.planted` — the state after a node has been opened, and after
  trees have been converted and planted.

## Main results

* `Classifier.recover_eq` — what dropping a node does to the state.
* `Classifier.steps_child_drop`, `Classifier.steps_child_leaf`, `Classifier.steps_child_inner` — how
  the walk passes one child.
* `Classifier.steps_forest` — the walk through the children of an open node.
-/

namespace DocComments.Comment.Classifier

open Markup (Kind Walk)
open Markup.Tree (Below)
open Arena
open Rose (forest_induct roots roots_cons sizeAll size_node)

variable {ctx : Context}

/-! ## Steps -/

/-- The walk gets from one state to another in a number of steps. -/
inductive Steps (ctx : Context) :
    Nat → Classifier × Option Walk → Classifier × Option Walk → Prop where
  | refl (x : Classifier × Option Walk) : Steps ctx 0 x x
  | cons {s : Classifier} {event : Walk} {k : Nat} {x : Classifier × Option Walk} :
      Steps ctx k (s.step ctx event) x → Steps ctx (k + 1) (s, some event) x

/-- A single step. -/
lemma Steps.single (ctx : Context) (s : Classifier) (event : Walk) :
    Steps ctx 1 (s, some event) (s.step ctx event) :=
  .cons (.refl _)

/-- Steps after steps. -/
lemma Steps.trans {j k : Nat} {x y z : Classifier × Option Walk} (hxy : Steps ctx j x y)
    (hyz : Steps ctx k y z) : Steps ctx (j + k) x z := by
  induction hxy with
  | refl x => rwa [Nat.zero_add]
  | cons _ ih =>
    rw [Nat.add_right_comm]
    exact .cons (ih hyz)

/-- A run takes the steps that can be taken. -/
lemma Steps.run_eq {k : Nat} {x y : Classifier × Option Walk} (h : Steps ctx k x y) (m : Nat) :
    run ctx (k + m) x.1 x.2 = run ctx m y.1 y.2 := by
  induction h with
  | refl x => rw [Nat.zero_add]
  | cons _ ih =>
    rw [Nat.add_right_comm, run]
    exact ih

/-! ## Changes of the markup tree -/

/-- The trees differ in the slots from `lo` up to `hi` and in the children of `p` only. -/
def Confined (a b : Markup.Tree) (p lo hi : Nat) : Prop :=
  ∃ ids, ∀ i : Nat, i < lo ∨ hi ≤ i →
    b.slots[i]? = a.slots[i]?.map fun s => if i = p then { s with children := ids } else s

/-- Nothing has changed. -/
lemma Confined.refl (a : Markup.Tree) (p lo hi : Nat) : Confined a a p lo hi := by
  refine ⟨a.children p, fun i _ => ?_⟩
  cases hs : a.slots[i]? with
  | none => rfl
  | some s =>
    by_cases hp : i = p
    · subst hp
      simp [(views_of_slot hs).2.2]
    · simp [hp]

/-- A change in one stretch, then one in the next. -/
lemma Confined.trans {a b c : Markup.Tree} {p lo mid hi : Nat} (hab : Confined a b p lo mid)
    (hbc : Confined b c p mid hi) (hlo : lo ≤ mid) (hhi : mid ≤ hi) : Confined a c p lo hi := by
  obtain ⟨ids, hab⟩ := hab
  obtain ⟨ids', hbc⟩ := hbc
  refine ⟨ids', fun i hi => ?_⟩
  rw [hbc i (by omega), hab i (by omega), Option.map_map]
  congr 1
  funext s
  by_cases hp : i = p <;> simp [hp]

/-- Detaching a child of `p` is a change of the child and of the children of `p`. -/
lemma Confined.detach {a : Markup.Tree} {p id hi : Nat} (hparent : a.parent? id = some p)
    (hne : id ≠ p) (hhi : id < hi) : Confined a (a.detach id) p id hi := by
  refine ⟨(a.detach id).children p, fun i hi => ?_⟩
  by_cases hp : i = p
  · subst hp
    have hslot := slots_detach a hparent hne i
    cases hs : a.slots[i]? with
    | none =>
      rw [hs] at hslot
      simpa using hslot
    | some s =>
      rw [hs] at hslot
      simp only [Option.map_some, if_true] at hslot ⊢
      rw [hslot, (views_of_slot hslot).2.2]
  · rw [slots_detach_of_ne a hparent hp (by omega)]
    simp [hp]

/-- A change below a node is a change of the stretch that the node starts. -/
lemma Confined.widen {a b : Markup.Tree} {p id hi : Nat} (h : Confined a b id (id + 1) hi)
    (hlt : id < hi) : Confined a b p id hi := by
  obtain ⟨ids, h⟩ := h
  refine ⟨a.children p, fun i hi => ?_⟩
  have hne : i ≠ id := by omega
  rw [h i (by omega)]
  cases hs : a.slots[i]? with
  | none => rfl
  | some s =>
    by_cases hp : i = p
    · subst hp
      simp [hne, (views_of_slot hs).2.2]
    · simp [hne, hp]

/-- Outside the stretch a node has the parent it had. -/
lemma Confined.parent?_eq {a b : Markup.Tree} {p lo hi i : Nat} (h : Confined a b p lo hi)
    (hi : i < lo ∨ hi ≤ i) : b.parent? i = a.parent? i := by
  obtain ⟨ids, h⟩ := h
  rw [Arena.parent?, Arena.parent?, h i hi]
  cases a.slots[i]? with
  | none => rfl
  | some s => by_cases hp : i = p <;> simp [hp]

/-- Outside the stretch only the slot of `p` has changed. -/
lemma Confined.slots_eq {a b : Markup.Tree} {p lo hi i : Nat} (h : Confined a b p lo hi)
    (hi : i < lo ∨ hi ≤ i) (hp : i ≠ p) : b.slots[i]? = a.slots[i]? := by
  obtain ⟨ids, h⟩ := h
  rw [h i hi]
  simp [hp]

/-! ## Single steps -/

/-- The typed form of a stored node. -/
lemma convert_eq {a : Markup.Tree} {parent : Option Nat} {id : Nat} {v : Placed Kind}
    {below : List (Rose (Placed Kind))} (h : a.Stores parent id (.node v below)) :
    convert a id = match form (plainText (.node v below)) v.value with
      | .error construct => .error (.unsupportedMarkup construct)
      | .ok typed => .ok typed := by
  have hnode : a.node? id = some v.value := by
    simp [node?, (views_of_slot (stores_node.1 h).1).1]
  have htext : Markup.Tree.text a id = plainText (.node v below) := h.gather_eq _
  rw [convert, hnode, htext]
  cases v.value <;> rfl

/-- The position of a stored node. -/
lemma source_eq {s : Classifier} {parent : Option Nat} {id : Nat} {v : Placed Kind}
    {below : List (Rose (Placed Kind))} (h : s.tree.Stores parent id (.node v below)) :
    s.source ctx id = toSource ctx.lines v.position := by
  simp [source, position, (views_of_slot (stores_node.1 h).1).1]

/-- **What dropping a node does to the state**: its typed form is dropped, the node is detached, a
problem is noted, and the walk goes on with what follows the node. -/
lemma recover_eq {s : Classifier} {p id next : Nat} {done : List Nat}
    {ts : List (Rose (Placed Kind))} (h : Below s.tree p (done ++ [id]) next ts)
    (failure : Failure) : s.recover ctx id failure =
      ({ s.discard id with
        tree := s.tree.detach id
        diagnostics := s.diagnostics ++ [failure.diagnostic ctx.entity] },
        some (Walk.into p (roots next ts))) := by
  rw [← h.resume_eq, recover]
  simp only [discard_noted, tree_discard]
  rfl

/-- A node that comes after all collected nodes is not among them. -/
lemma find?_topLevel {entries : List (Nat × Nat)} {id : Nat} (h : ∀ e ∈ entries, e.1 < id) :
    entries.find? (·.1 == id) = none := by
  rw [List.find?_eq_none]
  intro e he
  have hne : e.1 ≠ id := by
    have := h e he
    omega
  simpa using hne

/-- A node that comes after all collected nodes has no typed form to drop. -/
lemma discard_eq_self {s : Classifier} {id : Nat} (h : ∀ e ∈ s.topLevel, e.1 < id) :
    s.discard id = s := by
  rw [discard, find?_topLevel h]

/-- The node collected last has a typed form, which is detached from nothing. -/
lemma discard_eq_of_last {s : Classifier} {id typed : Nat} {entries : List (Nat × Nat)}
    (htop : s.topLevel = entries ++ [(id, typed)]) (h : ∀ e ∈ entries, e.1 < id)
    (hparent : s.comment.parent? typed = none) : s.discard id = { s with topLevel := entries } := by
  have hfound : s.topLevel.find? (·.1 == id) = some (id, typed) := by
    rw [htop, List.find?_append, find?_topLevel h]
    simp
  have hrest : s.topLevel.eraseP (·.1 == id) = entries := by
    rw [htop, List.eraseP_append_right _ (List.find?_eq_none.1 (find?_topLevel h))]
    simp
  have hdetach : s.comment.detach typed = s.comment := by
    rw [Arena.detach, hparent]
  rw [discard, hfound]
  simp only [hrest, hdetach]

section Child

variable {s : Classifier} {p id : Nat} {done : List Nat} {v : Placed Kind}
  {below ts : List (Rose (Placed Kind))}

/-- The walk enters a node without a typed form. -/
lemma step_drop {construct : String} (h : Below s.tree p done id (.node v below :: ts))
    (hform : form (plainText (.node v below)) v.value = .error construct)
    (htop : ∀ e ∈ s.topLevel, e.1 < id) : s.step ctx (.enter id) =
      ({ s with
        tree := s.tree.detach id
        diagnostics := s.diagnostics ++ [Failure.diagnostic ctx.entity
          ⟨.unsupportedMarkup construct, toSource ctx.lines v.position⟩] },
        some (Walk.into p (roots (id + (sizeAll below + 1)) ts))) := by
  have hstored := (storesAll_cons.1 h.stored).1
  have hpos : id ≠ 0 := by
    have := h.lt_next
    omega
  have henter : s.enter ctx id
      = (s, some ⟨.unsupportedMarkup construct, toSource ctx.lines v.position⟩) := by
    rw [enter, convert_eq hstored, hform]
    simp only [source_eq hstored]
  simp only [step, Walk.id, if_neg hpos, henter]
  rw [recover_eq h.skip, discard_eq_self htop, size_node]

/-- The walk enters a node with a typed form that is not top-level. -/
lemma step_enter {typed : Node} {parent : Nat} {stack : List Nat}
    (h : Below s.tree p done id (.node v below :: ts)) (hp : p ≠ 0)
    (hform : form (plainText (.node v below)) v.value = .ok typed)
    (hstack : s.stack = parent :: stack) : s.step ctx (.enter id) =
      ({ s with
        comment := s.comment.push parent ⟨typed, toSource ctx.lines v.position⟩
        stack := if v.value.isContainer then s.comment.size :: s.stack else s.stack },
        Markup.Tree.advance s.tree (.enter id)) := by
  have hstored := (storesAll_cons.1 h.stored).1
  have hpos : id ≠ 0 := by
    have := h.lt_next
    omega
  have hparent : (s.tree.parent? id == some 0) = false := by
    rw [(views_of_slot (stores_node.1 hstored).1).2.1]
    simpa using hp
  have henter : s.enter ctx id = ({ s with
      comment := s.comment.push parent ⟨typed, toSource ctx.lines v.position⟩
      stack := if v.value.isContainer then s.comment.size :: s.stack else s.stack }, none) := by
    rw [enter, convert_eq hstored, hform]
    have hcontainer := Markup.Tree.isContainer_eq hstored
    simp only [hparent, hstack, source_eq hstored, Arena.push]
    by_cases hc : v.value.isContainer = true
    · simp [hcontainer, hc]
    · simp [hcontainer, hc]
  simp only [step, Walk.id, if_neg hpos, henter]

/-- The walk leaves a node that is not top-level. -/
lemma step_leave {typed : Nat} {stack : List Nat} (hid : id ≠ 0)
    (hparent : s.tree.parent? id = some p) (hp : p ≠ 0) (hstack : s.stack = typed :: stack) :
    s.step ctx (.leave id) = ({ s with stack }, Markup.Tree.next? s.tree id) := by
  have hleave : s.leave ctx id = ({ s with stack }, none) := by
    rw [leave, hstack]
    simp [hparent, hp]
  simp only [step, Walk.id, if_neg hid, hleave, Markup.Tree.advance]

/-! ## The first child -/

/-- The state after a typed node has been planted below an open node, and is open itself. -/
def opened (s : Classifier) (parent : Nat) (v : Placed Node) : Classifier :=
  { s with
    comment := s.comment.push parent v
    stack := s.comment.size :: s.stack }

/-- The state after trees have been converted and planted below an open node; `b` is the markup tree
now. -/
def planted (ctx : Context) (s : Classifier) (b : Markup.Tree) (parent : Nat)
    (ts : List (Rose (Placed Kind))) : Classifier :=
  { s with
    tree := b
    comment := s.comment.plantAll parent (convertAll ctx ts).1
    diagnostics := s.diagnostics ++ (convertAll ctx ts).2 }

/-- Trees may be planted one after the other. -/
lemma planted_cons (ctx : Context) (s : Classifier) (b b' : Markup.Tree) (parent : Nat)
    (t : Rose (Placed Kind)) (ts : List (Rose (Placed Kind))) :
    (s.planted ctx b parent [t]).planted ctx b' parent ts = s.planted ctx b' parent (t :: ts) := by
  simp [planted, convertAll, plantAll_append, List.append_assoc]

/-- A child without a typed form is passed in one step, which detaches it. -/
lemma steps_child_drop (ctx : Context) (parent : Nat) {construct : String}
    (h : Below s.tree p done id (.node v below :: ts))
    (hform : form (plainText (.node v below)) v.value = .error construct)
    (htop : ∀ e ∈ s.topLevel, e.1 < id) :
    ∃ b done', Confined s.tree b p id (id + (sizeAll below + 1)) ∧
      Below b p done' (id + (sizeAll below + 1)) ts ∧
      Steps ctx 1 (s, some (.enter id)) (s.planted ctx b parent [.node v below],
        some (Walk.into p (roots (id + (sizeAll below + 1)) ts))) := by
  have hlt := h.lt_next
  have hparent := (views_of_slot (stores_node.1 (storesAll_cons.1 h.stored).1).1).2.1
  refine ⟨s.tree.detach id, done, Confined.detach hparent (by omega) (by omega), ?_, ?_⟩
  · have := h.skip.detach
    rwa [size_node] at this
  · have hone := Steps.single ctx s (.enter id)
    rw [step_drop h hform htop] at hone
    rw [planted, convertAll_cons_error hform]
    simpa [convertAll] using hone

/-- A child that is no container is passed in one step, which plants it. What is below it is never
entered. -/
lemma steps_child_leaf (ctx : Context) {typed : Node} {parent : Nat} {stack : List Nat}
    (h : Below s.tree p done id (.node v below :: ts)) (hp : p ≠ 0)
    (hform : form (plainText (.node v below)) v.value = .ok typed)
    (hc : ¬ v.value.isContainer = true) (hstack : s.stack = parent :: stack) :
    ∃ b done', Confined s.tree b p id (id + (sizeAll below + 1)) ∧
      Below b p done' (id + (sizeAll below + 1)) ts ∧
      Steps ctx 1 (s, some (.enter id)) (s.planted ctx b parent [.node v below],
        some (Walk.into p (roots (id + (sizeAll below + 1)) ts))) := by
  have hafter := h.skip
  rw [size_node] at hafter
  have hadvance : Markup.Tree.advance s.tree (.enter id)
      = some (Walk.into p (roots (id + (sizeAll below + 1)) ts)) := by
    rw [Markup.Tree.advance, Markup.Tree.isContainer_eq (storesAll_cons.1 h.stored).1, if_neg hc,
      hafter.next?_eq]
  refine ⟨s.tree, done ++ [id], Confined.refl _ _ _ _, hafter, ?_⟩
  have hone := Steps.single ctx s (.enter id)
  rw [step_enter h hp hform hstack, hadvance, if_neg hc, push_eq_plantAll] at hone
  rw [planted, convertAll_cons_ok hform, if_neg hc]
  simpa [convertAll] using hone

/-- A child that is a container is entered and left, given how the walk passes what is below it. -/
lemma steps_child_inner (ctx : Context) {typed : Node} {parent : Nat} {stack : List Nat}
    (h : Below s.tree p done id (.node v below :: ts)) (hp : p ≠ 0)
    (hform : form (plainText (.node v below)) v.value = .ok typed)
    (hc : v.value.isContainer = true) (hstack : s.stack = parent :: stack)
    (hbelow : ∃ k b, k ≤ 2 * sizeAll below ∧
      Confined s.tree b id (id + 1) (id + 1 + sizeAll below) ∧
      Steps ctx k (s.opened parent ⟨typed, toSource ctx.lines v.position⟩,
          some (Walk.into id (roots (id + 1) below)))
        ((s.opened parent ⟨typed, toSource ctx.lines v.position⟩).planted ctx b s.comment.size
          below, some (.leave id))) :
    ∃ k b done', k ≤ 2 * (sizeAll below + 1) ∧
      Confined s.tree b p id (id + (sizeAll below + 1)) ∧
      Below b p done' (id + (sizeAll below + 1)) ts ∧
      Steps ctx k (s, some (.enter id)) (s.planted ctx b parent [.node v below],
        some (Walk.into p (roots (id + (sizeAll below + 1)) ts))) := by
  obtain ⟨k, b, hk, hconf, hsteps⟩ := hbelow
  have hlt := h.lt_next
  have hparent := (views_of_slot (stores_node.1 (storesAll_cons.1 h.stored).1).1).2.1
  have hleft : b.parent? id = some p := by
    rw [hconf.parent?_eq (by omega), hparent]
  have hafter : Below b p (done ++ [id]) (id + (sizeAll below + 1)) ts := by
    rw [← size_node v]
    refine h.advance (fun i hi => hconf.slots_eq ?_ ?_) hleft
    · rw [size_node] at hi
      omega
    · rw [size_node] at hi
      omega
  have hwide := hconf.widen (p := p) (by omega)
  rw [Nat.add_right_comm, Nat.add_assoc id] at hwide
  have henter := Steps.single ctx s (.enter id)
  rw [step_enter h hp hform hstack, (h.inner hc).advance_enter, if_pos hc] at henter
  have hleave := Steps.single ctx ((s.opened parent
    ⟨typed, toSource ctx.lines v.position⟩).planted ctx b s.comment.size below) (.leave id)
  rw [step_leave (by omega) hleft hp rfl, planted, hafter.next?_eq] at hleave
  refine ⟨1 + k + 1, b, done ++ [id], by omega, hwide, hafter, ?_⟩
  rw [planted, convertAll_cons_ok hform, if_pos hc, plantAll_cons]
  simpa [opened, convertAll] using (henter.trans hsteps).trans hleave

end Child

/-! ## All children -/

/-- **The walk through the children of an open node that is not the root.** It takes at most two
steps for each node, changes nothing outside the stretch of the children but the children of the
open node, plants the converted children, notes the problems, and ends where the open node is left.

**Proof sketch.** Induction over the children. The first of them is dropped, planted, or entered and
left, and in the last case the induction hypothesis passes what is below it. The walk then stands
before the other children, and the induction hypothesis for them applies. -/
theorem steps_forest (ctx : Context) (ts : List (Rose (Placed Kind))) {s : Classifier}
    {p next parent : Nat} {done stack : List Nat} (h : Below s.tree p done next ts) (hp : p ≠ 0)
    (hstack : s.stack = parent :: stack) (htop : ∀ e ∈ s.topLevel, e.1 < next) :
    ∃ k b, k ≤ 2 * sizeAll ts ∧ Confined s.tree b p next (next + sizeAll ts) ∧
      Steps ctx k (s, some (Walk.into p (roots next ts)))
        (s.planted ctx b parent ts, some (.leave p)) := by
  induction ts using forest_induct generalizing s p next parent done stack with
  | nil =>
    refine ⟨0, s.tree, by simp, Confined.refl _ _ _ _, ?_⟩
    simp only [planted, convertAll, plantAll_nil, List.append_nil]
    exact .refl _
  | cons v below ts ihb iht =>
    have hlt := h.lt_next
    have hchild : ∃ k b done', k ≤ 2 * (sizeAll below + 1) ∧
        Confined s.tree b p next (next + (sizeAll below + 1)) ∧
        Below b p done' (next + (sizeAll below + 1)) ts ∧
        Steps ctx k (s, some (.enter next)) (s.planted ctx b parent [.node v below],
          some (Walk.into p (roots (next + (sizeAll below + 1)) ts))) := by
      cases hform : form (plainText (.node v below)) v.value with
      | error construct =>
        obtain ⟨b, done', hconf, hbelow, hsteps⟩ := steps_child_drop ctx parent h hform htop
        exact ⟨1, b, done', by omega, hconf, hbelow, hsteps⟩
      | ok typed =>
        by_cases hc : v.value.isContainer = true
        · refine steps_child_inner ctx h hp hform hc hstack ?_
          apply ihb (s := s.opened parent ⟨typed, toSource ctx.lines v.position⟩)
            (h.inner hc) (by omega) rfl
          intro e he
          have := htop e he
          omega
        · obtain ⟨b, done', hconf, hbelow, hsteps⟩ := steps_child_leaf ctx h hp hform hc hstack
          exact ⟨1, b, done', by omega, hconf, hbelow, hsteps⟩
    obtain ⟨j, b, done', hj, hconf, hbelow, hsteps⟩ := hchild
    obtain ⟨k, b', hk, hconf', hrest⟩ := iht (s := s.planted ctx b parent [.node v below])
      hbelow hp hstack (fun e he => by
        have := htop e he
        omega)
    have hsize : sizeAll (.node v below :: ts) = sizeAll below + 1 + sizeAll ts := by simp
    refine ⟨j + k, b', by omega, ?_, ?_⟩
    · rw [hsize, ← Nat.add_assoc]
      exact hconf.trans hconf' (by omega) (by omega)
    · rw [← planted_cons ctx s b b']
      exact hsteps.trans hrest

end DocComments.Comment.Classifier
