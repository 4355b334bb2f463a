import DocComments.Markup.Tree
import DocComments.Proofs.Arena.Layout

set_option autoImplicit false

/-!
# Walking along siblings

A walk that stands below a node has dealt with some of its children and still has the others before
it. The children still to come are untouched; those dealt with may have lost nodes below them, and
some of them may have been detached. What the walk does next only depends on this.

## Main definitions

* `Walk.into` — the next event of a walk that stands below a node.
* `Tree.Below` — the state of a markup tree in which a walk stands below a node.

## Main results

* `Tree.Below.next?_eq` — the walk goes on behind the child it dealt with last.
* `Tree.Below.detach` — the child dealt with last may be detached.
* `Tree.Below.resume_eq` — after that the walk goes on as if the child had not been there.
-/

namespace DocComments

open Rose

namespace Arena

/-! ## Neighbours in a list -/

/-- The element before one that occurs only once so far. -/
lemma before?_append {id : Nat} {front : List Nat} (rest : List Nat) (h : id ∉ front) :
    before? id (front ++ id :: rest) = front.getLast? := by
  induction front with
  | nil => cases rest <;> simp [before?]
  | cons x front ih =>
    have hx : x ≠ id := fun heq => h (heq ▸ List.mem_cons_self)
    have hfront : id ∉ front := fun hmem => h (List.mem_cons_of_mem _ hmem)
    cases front with
    | nil => simp [before?, hx]
    | cons y front =>
      have hy : y ≠ id := fun heq => hfront (heq ▸ List.mem_cons_self)
      rw [List.cons_append, List.cons_append, before?, if_neg hx, if_neg hy, ← List.cons_append,
        ih hfront, List.getLast?_cons_cons]

/-- The element after one that occurs only once so far. -/
lemma after?_append {id : Nat} {front : List Nat} (rest : List Nat) (h : id ∉ front) :
    after? id (front ++ id :: rest) = rest.head? := by
  induction front with
  | nil => simp [after?]
  | cons x front ih =>
    have hx : x ≠ id := fun heq => h (heq ▸ List.mem_cons_self)
    rw [List.cons_append, after?, if_neg hx]
    exact ih fun hmem => h (List.mem_cons_of_mem _ hmem)

end Arena

namespace Markup

open Arena

/-- The next event of a walk that stands below a node and has the given children before it. -/
def Walk.into (p : Nat) : List Nat → Walk
  | id :: _ => .enter id
  | [] => .leave p

namespace Tree

/-- A stored node is a container if its kind is one. -/
lemma isContainer_eq {a : Tree} {parent : Option Nat} {id : Nat} {v : Placed Kind}
    {below : List (Rose (Placed Kind))} (h : a.Stores parent id (.node v below)) :
    Tree.isContainer a id = v.value.isContainer := by
  simp [Tree.isContainer, node?, (views_of_slot (stores_node.1 h).1).1]

/-- A walk stands below the node `p`: it has dealt with the children in `done`, which are still
there, and the trees `ts` that lie from `next` on are before it, untouched. -/
structure Below (a : Tree) (p : Nat) (done : List Nat) (next : Nat)
    (ts : List (Rose (Placed Kind))) : Prop where
  container : Tree.isContainer a p = true
  children : a.children p = done ++ roots next ts
  stored : a.StoresAll (some p) next ts
  lt_next : p < next
  done_lt : ∀ d ∈ done, p < d ∧ d < next
  parent : ∀ d ∈ done, a.parent? d = some p
  nodup : done.Nodup

namespace Below

variable {a b : Tree} {p next : Nat} {done : List Nat} {ts : List (Rose (Placed Kind))}

/-- The children of a container are before a walk that has just entered it. -/
lemma of_stores {parent : Option Nat} {v : Placed Kind} {below : List (Rose (Placed Kind))}
    (h : a.Stores parent p (.node v below)) (hc : v.value.isContainer = true) :
    a.Below p [] (p + 1) below := by
  obtain ⟨hslot, hbelow⟩ := stores_node.1 h
  constructor
  · rw [isContainer_eq h, hc]
  · rw [(views_of_slot hslot).2.2, List.nil_append]
  · exact hbelow
  · omega
  · simp
  · simp
  · simp

/-- The same for a container that is the next child of a node. -/
lemma inner {v : Placed Kind} {below : List (Rose (Placed Kind))}
    (h : a.Below p done next (.node v below :: ts)) (hc : v.value.isContainer = true) :
    a.Below next [] (next + 1) below :=
  of_stores (storesAll_cons.1 h.stored).1 hc

/-- The child dealt with last is none of those before it. -/
lemma last_not_mem {id : Nat} (h : a.Below p (done ++ [id]) next ts) : id ∉ done := by
  intro hmem
  exact (List.nodup_append.1 h.nodup).2.2 id hmem id (by simp) rfl

/-- The first event below a node. -/
lemma advance_enter (h : a.Below p [] next ts) :
    Tree.advance a (.enter p) = some (Walk.into p (roots next ts)) := by
  have hkids := h.children
  rw [List.nil_append] at hkids
  rw [Tree.advance, if_pos h.container, hkids]
  cases roots next ts <;> rfl

/-- **The walk goes on behind the child it dealt with last.** -/
lemma next?_eq {id : Nat} (h : a.Below p (done ++ [id]) next ts) :
    Tree.next? a id = some (Walk.into p (roots next ts)) := by
  have hmem : id ∈ done ++ [id] := by simp
  have hpos : id ≠ 0 := by
    have := (h.done_lt id hmem).1
    omega
  have hkids : a.children p = done ++ id :: roots next ts := by
    rw [h.children, List.append_assoc, List.singleton_append]
  rw [Tree.next?, if_neg hpos, nextSibling?, h.parent id hmem, Option.bind_some, hkids,
    after?_append _ h.last_not_mem]
  cases roots next ts <;> rfl

/-- The walk has dealt with one more child, and has touched nothing outside it. -/
lemma advance {t : Rose (Placed Kind)} (h : a.Below p done next (t :: ts))
    (hab : ∀ i : Nat, i < next ∨ next + t.size ≤ i → b.slots[i]? = a.slots[i]?)
    (hparent : b.parent? next = some p) : b.Below p (done ++ [next]) (next + t.size) ts := by
  have hlt := h.lt_next
  have hp : b.slots[p]? = a.slots[p]? := hab p (Or.inl hlt)
  constructor
  · have := h.container
    simpa [Tree.isContainer, node?, value?, hp] using this
  · have := h.children
    simpa [Arena.children, hp] using this
  · refine (storesAll_cons.1 h.stored).2.congr fun i hi _ => hab i (Or.inr hi)
  · omega
  · intro d hd
    have hpos := t.size_pos
    rcases List.mem_append.1 hd with hd | hd
    · have := h.done_lt d hd
      omega
    · rw [List.mem_singleton] at hd
      omega
  · intro d hd
    rcases List.mem_append.1 hd with hd | hd
    · have hold := h.parent d hd
      have hslot := hab d (Or.inl (h.done_lt d hd).2)
      simpa [Arena.parent?, hslot] using hold
    · rw [List.mem_singleton] at hd
      rw [hd, hparent]
  · refine List.nodup_append.2 ⟨h.nodup, by simp, ?_⟩
    intro d hd e he
    have := (h.done_lt d hd).2
    rw [List.mem_singleton] at he
    omega

/-- A child that was not touched counts as dealt with. -/
lemma skip {t : Rose (Placed Kind)} (h : a.Below p done next (t :: ts)) :
    a.Below p (done ++ [next]) (next + t.size) ts := by
  refine h.advance (fun _ _ => rfl) ?_
  obtain ⟨v, below⟩ := t
  have hroot := (stores_node.1 (storesAll_cons.1 h.stored).1).1
  exact (views_of_slot hroot).2.1

/-- **The child dealt with last may be detached.** -/
lemma detach {id : Nat} (h : a.Below p (done ++ [id]) next ts) :
    Below (a.detach id) p done next ts := by
  have hmem : id ∈ done ++ [id] := by simp
  have hid := h.done_lt id hmem
  have hslot := slots_detach a (h.parent id hmem) (by omega) p
  constructor
  · have := h.container
    simp only [Tree.isContainer, node?, value?, hslot, Option.map_map] at this ⊢
    simpa [Function.comp_def] using this
  · have hfilter : (done ++ [id] ++ roots next ts).filter (· != id) = done ++ roots next ts := by
      have h1 : done.filter (· != id) = done :=
        List.filter_eq_self.2 fun d hd => by
          have hne : d ≠ id := fun heq => h.last_not_mem (heq ▸ hd)
          simpa using hne
      have h2 : (roots next ts).filter (· != id) = roots next ts :=
        List.filter_eq_self.2 fun d hd => by
          have := (mem_roots hd).1
          have hne : d ≠ id := by omega
          simpa using hne
      simp [h1, h2]
    have hkids := h.children
    rw [← hfilter, ← hkids]
    cases hs : a.slots[p]? with
    | none => simp [Arena.children, hslot, hs]
    | some s => simp [Arena.children, hslot, hs]
  · refine h.stored.congr fun i h1 _ => ?_
    have hp := h.lt_next
    exact slots_detach_of_ne a (h.parent id hmem) (by omega) (by omega)
  · exact h.lt_next
  · intro d hd
    exact h.done_lt d (List.mem_append_left _ hd)
  · intro d hd
    have hold := h.parent d (List.mem_append_left _ hd)
    have hne : d ≠ id := fun heq => h.last_not_mem (heq ▸ hd)
    have hlt := (h.done_lt d (List.mem_append_left _ hd)).1
    have hslot := slots_detach_of_ne a (h.parent id hmem) (by omega) hne
    simpa [Arena.parent?, hslot] using hold
  · exact (List.nodup_append.1 h.nodup).1

/-- **After a child has been detached, the walk goes on as if it had not been there**: from the
child before it, or from the parent if it was the first. -/
lemma resume_eq {id : Nat} (h : a.Below p (done ++ [id]) next ts) :
    (match a.previousSibling? id with
      | some previous => some (Walk.leave previous)
      | none => (a.parent? id).map Walk.enter).bind (Tree.advance (a.detach id))
      = some (Walk.into p (roots next ts)) := by
  have hmem : id ∈ done ++ [id] := by simp
  have hkids : a.children p = done ++ id :: roots next ts := by
    rw [h.children, List.append_assoc, List.singleton_append]
  have hprev : a.previousSibling? id = done.getLast? := by
    rw [previousSibling?, h.parent id hmem, Option.bind_some, hkids,
      before?_append _ h.last_not_mem]
  rw [hprev, h.parent id hmem]
  have hbelow := h.detach
  rcases List.eq_nil_or_concat done with hnil | ⟨front, last, hlast⟩
  · subst hnil
    exact hbelow.advance_enter
  · rw [List.concat_eq_append] at hlast
    subst hlast
    rw [List.getLast?_concat]
    exact hbelow.next?_eq

end Below

end Tree

end Markup

end DocComments
