import DocComments.Proofs.Arena.Ordered
import DocComments.Proofs.Markup.Replay

set_option autoImplicit false

/-!
# A walk over a tree from which nodes were taken out

Taking nodes out of a markup tree leaves gaps in its indices, but its links stay sound. The walk only
uses the links: it enters the first child of a container, goes on with the next sibling, and leaves the
parent behind the last one. So in every tree with sound links it is the recursive visit of what is
reached through containers. A node that is met may be taken out while walking: going on from the end of
the sibling before it, or from the start of the parent if there is none, leads to what followed it.

## Main definitions

* `Tree.traversal` — the events of the recursive visit of what is below a node.
* `Tree.resume` — the event from which a walk goes on when a node is taken out.

## Main results

* `Tree.traversal_eq` — the recursion.
* `Tree.follows_traversal` — the walk is the recursive visit.
* `Tree.advance_resume` — the walk goes on behind a node that was taken out.
* `walk_survives_removal` — all this for the tree of a stream, whatever was taken out.
-/

namespace DocComments.Markup

open Arena

namespace Tree

variable {t : Tree}

/-! ## Recursive visits -/

/-- The events of a recursive visit that goes down from a node to a given depth. -/
def traversalFrom (t : Tree) : Nat → Nat → List Walk
  | 0, _ => []
  | depth + 1, id =>
    if isContainer t id then
      .enter id :: ((t.children id).flatMap (fun c => traversalFrom t depth c) ++ [.leave id])
    else [.enter id]

/-- The events of the recursive visit of what is below a node, itself included. Only containers are
left, and only what is in them is visited. -/
def traversal (t : Tree) (id : Nat) : List Walk :=
  traversalFrom t t.size id

/-- Depth is not felt if it covers the later nodes: children come after their parent. -/
lemma traversalFrom_eq (h : t.Ordered) {id n m : Nat} (hid : id < t.size) (hn : t.size - id ≤ n)
    (hm : t.size - id ≤ m) : traversalFrom t n id = traversalFrom t m id := by
  induction n generalizing id m with
  | zero => omega
  | succ n ih =>
    obtain ⟨m, rfl⟩ : ∃ k, m = k + 1 := ⟨m - 1, by omega⟩
    have hchildren : (t.children id).flatMap (fun c => traversalFrom t n c)
        = (t.children id).flatMap (fun c => traversalFrom t m c) := by
      refine List.flatMap_congr fun c hc => ?_
      have hparent := h.mem_children_iff.1 hc
      have hlt := h.lt_of_parent hparent
      exact ih (lt_size_of_parent? hparent) (by omega) (by omega)
    rw [traversalFrom, traversalFrom, hchildren]

/-- **The recursion of the visit.** -/
lemma traversal_eq (h : t.Ordered) (hpos : 0 < t.size) (id : Nat) :
    traversal t id = if isContainer t id then
      .enter id :: ((t.children id).flatMap (traversal t) ++ [.leave id]) else [.enter id] := by
  obtain ⟨n, hn⟩ : ∃ n, t.size = n + 1 := ⟨t.size - 1, by omega⟩
  have hchildren : (t.children id).flatMap (fun c => traversalFrom t n c)
      = (t.children id).flatMap (traversal t) := by
    refine List.flatMap_congr fun c hc => ?_
    have hparent := h.mem_children_iff.1 hc
    have hlt := h.lt_of_parent hparent
    exact traversalFrom_eq h (lt_size_of_parent? hparent) (by omega) (by omega)
  rw [traversal, hn, traversalFrom, hchildren]

/-- A node that is met below another one is a child of a container. -/
lemma exists_parent_of_mem_traversal (h : t.Ordered) (hpos : 0 < t.size) {i x : Nat}
    (hx : .enter x ∈ traversal t i) :
    x = i ∨ ∃ p, t.parent? x = some p ∧ isContainer t p = true := by
  induction hn : t.size - i using Nat.strong_induction_on generalizing i with
  | _ n ih =>
    rw [traversal_eq h hpos] at hx
    split at hx
    · rename_i hcontainer
      rw [List.mem_cons, List.mem_append, List.mem_flatMap] at hx
      rcases hx with hx | ⟨c, hc, hx⟩ | hx
      · exact .inl (by simpa using hx)
      · have hparent := h.mem_children_iff.1 hc
        have hlt := h.lt_of_parent hparent
        have hsize := lt_size_of_parent? hparent
        rcases ih (t.size - c) (by omega) hx rfl with rfl | hfound
        · exact .inr ⟨i, hparent, hcontainer⟩
        · exact .inr hfound
      · simp at hx
    · exact .inl (by simpa using hx)

/-- A recursive visit has at most two events for each node below its start. -/
lemma length_traversal_le (h : t.Ordered) {i : Nat} (hi : i < t.size) :
    (traversal t i).length ≤ 2 * (t.preorder i).length := by
  induction hn : t.size - i using Nat.strong_induction_on generalizing i with
  | _ n ih =>
    have hchildren : ∀ ids ⊆ t.children i,
        (ids.flatMap (traversal t)).length ≤ 2 * (ids.flatMap t.preorder).length := by
      intro ids hids
      induction ids with
      | nil => simp
      | cons c ids ihids =>
        obtain ⟨hc, hids⟩ := List.cons_subset.1 hids
        have hparent := h.mem_children_iff.1 hc
        have hlt := h.lt_of_parent hparent
        have hsize := lt_size_of_parent? hparent
        have hfirst := ih (t.size - c) (by omega) hsize rfl
        have hrest := ihids hids
        rw [List.flatMap_cons, List.flatMap_cons, List.length_append, List.length_append]
        omega
    have hall := hchildren (t.children i) (List.Subset.refl _)
    rw [traversal_eq h (by omega), h.preorder_eq hi, List.length_cons]
    split
    · rw [List.length_cons, List.length_append, List.length_singleton]
      omega
    · rw [List.length_singleton]
      omega

/-! ## The walk -/

/-- A container leads to its first child, or to its own end. -/
lemma advance_enter_of_container {p : Nat} (hp : isContainer t p = true) :
    advance t (.enter p) = some (Walk.into p (t.children p)) := by
  rw [advance, if_pos hp]
  cases t.children p <;> rfl

/-- Behind a child the walk goes on with the children that follow it. -/
lemma next?_of_children (h : t.Ordered) {p id : Nat} {front back : List Nat}
    (hchildren : t.children p = front ++ id :: back) :
    next? t id = some (Walk.into p back) := by
  have hparent : t.parent? id = some p := h.mem_children_iff.1 (by simp [hchildren])
  have hlt := h.lt_of_parent hparent
  have hnodup := h.nodup p
  rw [hchildren, List.nodup_middle, List.nodup_cons] at hnodup
  have hfront : id ∉ front := fun hmem => hnodup.1 (List.mem_append_left _ hmem)
  rw [next?, if_neg (by omega), nextSibling?, hparent, Option.bind_some, hchildren,
    after?_append back hfront]
  cases back <;> rfl

/-- **Below a container the walk visits the remaining children recursively**, and then leaves the
container.

**Proof sketch.** Children come after their parent, so the induction goes down from the last node, and
for each node along its children. -/
lemma follows_into (h : t.Ordered) {p : Nat} {front ids : List Nat} {rest : List Walk}
    (hchildren : t.children p = front ++ ids) (hrest : Follows t (some (.leave p)) rest) :
    Follows t (some (Walk.into p ids)) (ids.flatMap (traversal t) ++ rest) := by
  induction hn : t.size - p using Nat.strong_induction_on generalizing p front ids rest with
  | _ n ih =>
    induction ids generalizing front with
    | nil => exact hrest
    | cons id ids ihids =>
      have hparent : t.parent? id = some p := h.mem_children_iff.1 (by simp [hchildren])
      have hlt := h.lt_of_parent hparent
      have hsize := lt_size_of_parent? hparent
      have hnext := next?_of_children h hchildren
      have hothers : Follows t (next? t id) (ids.flatMap (traversal t) ++ rest) := by
        have hlater : t.children p = (front ++ [id]) ++ ids := by simp [hchildren]
        rw [hnext]
        exact ihids hlater
      rw [List.flatMap_cons, traversal_eq h (by omega), Walk.into, List.append_assoc]
      split
      · rename_i hcontainer
        rw [List.cons_append, List.append_assoc]
        refine .step ?_
        have hall : t.children id = [] ++ t.children id := rfl
        rw [advance_enter_of_container hcontainer]
        exact ih (t.size - id) (by omega) hall (.step hothers) rfl
      · rename_i hleaf
        refine .step ?_
        rw [advance, if_neg hleaf]
        exact hothers

/-- **The walk from where the root is entered is the recursive visit of what is reached through
containers.** -/
theorem follows_traversal (h : t.Ordered) (hroot : isContainer t 0 = true) :
    Follows t (some (.enter 0)) (traversal t 0) := by
  have hpos : 0 < t.size := lt_size_of_isContainer hroot
  rw [traversal_eq h hpos, if_pos hroot]
  refine .step ?_
  have hall : t.children 0 = [] ++ t.children 0 := rfl
  rw [advance_enter_of_container hroot]
  exact follows_into h hall (.step .done)

/-- The bound of the walk is not felt. -/
lemma walk_eq_traversal (h : t.Ordered) (hroot : isContainer t 0 = true) :
    t.walk = traversal t 0 := by
  have hpos : 0 < t.size := lt_size_of_isContainer hroot
  have hlength := length_traversal_le h hpos
  have hle : (t.preorder 0).length ≤ t.size :=
    h.length_visit_le t.size (List.pairwise_singleton _ _) (by simpa using hpos)
  exact (follows_traversal h hroot).walkFrom_eq (by omega)

/-! ## Taking a node out -/

/-- The event from which a walk goes on when a child of `p` is taken out: the end of the sibling before
it, or the start of the parent. -/
def resume (t : Tree) (p id : Nat) : Walk :=
  match t.previousSibling? id with
  | some previous => .leave previous
  | none => .enter p

/-- A node that is taken out still has its kind. -/
lemma isContainer_detach (t : Tree) (id i : Nat) :
    isContainer (t.detach id) i = isContainer t i := by
  rw [isContainer, isContainer, node?, node?, value?_detach]

/-- **The walk goes on behind a node that was taken out**: with its next sibling, or the end of its
parent. -/
lemma advance_resume (h : t.Ordered) {p id : Nat} (hparent : t.parent? id = some p)
    (hp : isContainer t p = true) : advance (t.detach id) (resume t p id)
      = some (match t.nextSibling? id with
        | some next => .enter next
        | none => .leave p) := by
  have hlt := h.lt_of_parent hparent
  obtain ⟨front, back, hchildren⟩ := List.append_of_mem (h.mem_children_iff.2 hparent)
  have hnodup := h.nodup p
  rw [hchildren, List.nodup_middle, List.nodup_cons, List.mem_append, not_or] at hnodup
  obtain ⟨⟨hfront, hback⟩, -⟩ := hnodup
  have hprevious : t.previousSibling? id = front.getLast? := by
    rw [previousSibling?, hparent, Option.bind_some, hchildren, before?_append back hfront]
  have hnext : (match t.nextSibling? id with
      | some next => Walk.enter next
      | none => .leave p) = Walk.into p back := by
    rw [nextSibling?, hparent, Option.bind_some, hchildren, after?_append back hfront]
    cases back <;> rfl
  have hleft : (t.detach id).children p = front ++ back := by
    have hkeep : ∀ ids : List Nat, id ∉ ids → ids.filter (· != id) = ids := fun ids hids =>
      List.filter_eq_self.2 fun i hi => by
        have hne : i ≠ id := fun heq => hids (heq ▸ hi)
        simpa using hne
    rw [children_detach hparent (by omega), if_pos rfl, hchildren, List.filter_append,
      List.filter_cons_of_neg (by simp), hkeep front hfront, hkeep back hback]
  rw [hnext, resume, hprevious]
  rcases List.eq_nil_or_concat front with rfl | ⟨start, last, rfl⟩
  · have hp' : isContainer (t.detach id) p = true := (isContainer_detach t id p).trans hp
    rw [List.getLast?_nil, advance_enter_of_container hp', hleft, List.nil_append]
  · rw [List.concat_eq_append] at hleft ⊢
    rw [List.getLast?_concat]
    exact next?_of_children (h.detach id) (by simpa using hleft)

end Tree

/-- **The walk survives removal.** Take any event stream, the markup tree that it makes, with any nodes
taken out of it. Then children and parents agree and no node is a child twice. Following the walk from
where the root is entered comes to an end, and gives the recursive visit of what is still reached
through containers. And any node that is met, other than the root, may be taken out: from the end of the
sibling before it, or the start of its parent if there is none, the walk goes on with the sibling behind
it, or the end of the parent if there is none.

**Proof sketch.** Taking nodes out keeps the links of a tree sound and its contents as they are. In a
tree with sound links the walk is the recursive visit. A node that is met is a child of a container, and
the children of that container are what was before it and what was behind it. -/
theorem walk_survives_removal (position : Nat → Position) (events : List Event)
    (removed : List Nat) :
    let t : Tree := removed.foldl Arena.detach (Tree.ofEvents position events)
    (∀ p c, c ∈ t.children p ↔ t.parent? c = some p) ∧
    (∀ p, (t.children p).Nodup) ∧
    (∀ id, Tree.traversal t id = if Tree.isContainer t id then
      .enter id :: ((t.children id).flatMap (Tree.traversal t) ++ [.leave id]) else [.enter id]) ∧
    Tree.Follows t (some (.enter 0)) (Tree.traversal t 0) ∧
    t.walk = Tree.traversal t 0 ∧
    ∀ x, x ≠ 0 → .enter x ∈ Tree.traversal t 0 → ∃ p, t.parent? x = some p ∧
      Tree.advance (t.detach x) (Tree.resume t p x) = some (match t.nextSibling? x with
        | some next => .enter next
        | none => .leave p) := by
  intro t
  obtain ⟨below, hrose⟩ := Tree.ofEvents_eq_ofRose position events
  obtain ⟨hordered, hroot⟩ : t.Ordered ∧ Tree.isContainer t 0 = true := by
    apply List.foldlRecOn
      (motive := fun t : Tree => t.Ordered ∧ Tree.isContainer t 0 = true)
    · rw [hrose]
      exact ⟨ordered_ofRose _, Tree.isContainer_eq (stores_ofRose _)⟩
    · rintro t ⟨ht, hroot⟩ id -
      exact ⟨ht.detach id, (Tree.isContainer_detach t id 0).trans hroot⟩
  have hpos : 0 < t.size := Tree.lt_size_of_isContainer hroot
  refine ⟨fun p c => hordered.mem_children_iff, hordered.nodup, Tree.traversal_eq hordered hpos,
    Tree.follows_traversal hordered hroot, Tree.walk_eq_traversal hordered hroot, ?_⟩
  intro x hx hmet
  rcases Tree.exists_parent_of_mem_traversal hordered hpos hmet with rfl | ⟨p, hparent, hp⟩
  · exact absurd rfl hx
  · exact ⟨p, hparent, Tree.advance_resume hordered hparent hp⟩

/-- A paragraph with a text, emphasis and another text, and behind it an image with a text. -/
def imageBehindParagraph : List Event :=
  [.enter .paragraph 0, .text ['a'] 0, .enter .emphasis 1, .text ['b'] 2, .leave, .text ['c'] 4,
    .leave, .enter (.image []) 6, .text ['d'] 7, .leave]

/-- Without its first text the paragraph starts with the emphasis. Taking that out as well leads from
the start of the paragraph to the second text, and taking the image out leads from the end of the
paragraph to the end of the document. -/
theorem walk_survives_removal_firstText :
    let t := Arena.detach (Tree.ofEvents (fun offset => ⟨1, offset⟩) imageBehindParagraph) 2
    (.enter 3 ∈ Tree.traversal t 0 ∧ t.previousSibling? 3 = none ∧
      Tree.advance (t.detach 3) (.enter 1) = some (.enter 5)) ∧
    (.enter 6 ∈ Tree.traversal t 0 ∧ t.previousSibling? 6 = some 1 ∧
      Tree.advance (t.detach 6) (.leave 1) = some (.leave 0)) := by
  intro t
  obtain ⟨-, -, -, -, -, hafter⟩ :=
    walk_survives_removal (fun offset => ⟨1, offset⟩) imageBehindParagraph [2]
  have hfirst : .enter 3 ∈ Tree.traversal t 0 := by decide +kernel
  have hsecond : .enter 6 ∈ Tree.traversal t 0 := by decide +kernel
  obtain ⟨p, hp, hadvance⟩ := hafter 3 (by decide) hfirst
  obtain ⟨q, hq, hadvance'⟩ := hafter 6 (by decide) hsecond
  obtain rfl : 1 = p := Option.some.inj hp
  obtain rfl : 0 = q := Option.some.inj hq
  exact ⟨⟨hfirst, rfl, hadvance⟩, ⟨hsecond, rfl, hadvance'⟩⟩

end DocComments.Markup
