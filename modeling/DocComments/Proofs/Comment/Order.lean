import DocComments.Proofs.Arena.Nested
import DocComments.Proofs.Comment.Sections
import DocComments.Proofs.Comment.Sound

set_option autoImplicit false

/-!
# The nodes of a comment are made in document order

While the walk over a markup tree is inside a container, the typed nodes of that container and of
those around it lie on top of its stack, and the innermost of them is at the right edge of the comment
made so far. A new node becomes the last child of that node, so the comment stays in document order,
also when failing nodes are dropped. Top-level nodes are joined to the root at the end only; what is
said here is said of the comment as it would be if the walk were over.

## Main definitions

* `Classifier.Open` — the typed nodes of a container and of those around it.
* `Classifier.Inside` — the walk is inside a container.
* `Classifier.InOrder` — what holds before every event of the walk.

## Main results

* `Classifier.InOrder.step`, `Classifier.InOrder.run` — a step keeps it, and so does the walk.
* `nested_classify` — a comment is in document order when it has been read.
* `comment_nodes_in_order` — the links and the order of a comment, whatever is detached.
-/

namespace DocComments.Comment

open Markup (Walk)

namespace Classifier

/-- The typed nodes of a container, given by its markup node, and of those around it, innermost
first. The root has none. -/
inductive Open (s : Classifier) : Nat → List Nat → Prop where
  | root (hcontainer : Markup.Tree.isContainer s.tree 0 = true) : Open s 0 []
  | top {id typed : Nat} (hcontainer : Markup.Tree.isContainer s.tree id = true)
      (hparent : s.tree.parent? id = some 0) (hmem : (id, typed) ∈ s.topLevel)
      (hroot : Open s 0 []) : Open s id [typed]
  | inner {p id typed parent : Nat} {others : List Nat}
      (hcontainer : Markup.Tree.isContainer s.tree id = true) (hparent : s.tree.parent? id = some p)
      (hmem : typed ∈ s.comment.children parent) (hp : Open s p (parent :: others)) :
      Open s id (typed :: parent :: others)

/-- The innermost of some open nodes; the root if there is none. -/
def innermost (active : List Nat) : Nat :=
  active.head?.getD 0

/-- With no open node, the root is the innermost one. -/
@[simp]
lemma innermost_nil : innermost [] = 0 := rfl

/-- The innermost open node is the one on top. -/
@[simp]
lemma innermost_cons (typed : Nat) (others : List Nat) : innermost (typed :: others) = typed := rfl

/-- The walk is inside a container: its typed node and those around it are on top of the stack, and
the innermost of them is at the right edge of the comment. -/
def Inside (s : Classifier) (p : Nat) : Prop :=
  ∃ active junk, s.Open p active ∧ s.stack = active ++ junk ∧ s.finish.1.AtEdge (innermost active)

/-- What is known of the next event: a node is entered inside the container around it, and left from
inside itself. -/
def Expects (s : Classifier) : Option Walk → Prop
  | none => True
  | some (.enter id) => id = 0 ∨ ∃ p, s.tree.parent? id = some p ∧ s.Inside p
  | some (.leave id) => id = 0 ∨ s.Inside id

/-- What holds before every event of the walk. -/
structure InOrder (s : Classifier) (event : Option Walk) : Prop where
  sound : s.Sound
  tree : s.tree.Ordered
  nested : s.finish.1.Nested
  expects : s.Expects event

variable {ctx : Context} {s s' : Classifier} {p id : Nat} {active : List Nat}

/-! ## Open containers -/

/-- The open containers stay open if nothing is changed at them. They come before the innermost one,
so nothing behind that one matters. -/
lemma Open.congr (h : s.Open p active) (htree : s.tree.Ordered)
    (hcontainer : ∀ i, Markup.Tree.isContainer s'.tree i = Markup.Tree.isContainer s.tree i)
    (hparent : ∀ i ≤ p, s'.tree.parent? i = s.tree.parent? i)
    (htop : ∀ i ≤ p, ∀ typed, (i, typed) ∈ s.topLevel → (i, typed) ∈ s'.topLevel)
    (hchildren : ∀ i, s.comment.children i ⊆ s'.comment.children i) : s'.Open p active := by
  induction h with
  | root hc => exact .root ((hcontainer 0).trans hc)
  | top hc hp hmem _ ih =>
    exact .top ((hcontainer _).trans hc) ((hparent _ (Nat.le_refl _)).trans hp)
      (htop _ (Nat.le_refl _) _ hmem) (ih (fun i hi => hparent i (by omega)) fun i hi => htop i (by omega))
  | inner hc hp hmem _ ih =>
    have hlt := htree.lt_of_parent hp
    exact .inner ((hcontainer _).trans hc) ((hparent _ (Nat.le_refl _)).trans hp)
      (hchildren _ hmem) (ih (fun i hi => hparent i (by omega)) fun i hi => htop i (by omega))

/-- The innermost open container is a container. -/
lemma Open.isContainer (h : s.Open p active) : Markup.Tree.isContainer s.tree p = true := by
  cases h with
  | root hc => exact hc
  | top hc => exact hc
  | inner hc => exact hc

/-- Only the root has no typed node that is open. -/
lemma Open.eq_zero (h : s.Open p []) : p = 0 := by
  cases h
  rfl

/-- The root has no typed node that is open. -/
lemma Open.eq_nil (h : s.Open 0 active) (htree : s.tree.Ordered) : active = [] := by
  cases h with
  | root => rfl
  | top _ hparent =>
    have := htree.lt_of_parent hparent
    omega
  | inner _ hparent =>
    have := htree.lt_of_parent hparent
    omega

/-- The open typed nodes are there, and none of them is the root. -/
lemma Open.bounds (h : s.Open p active) (hs : s.Sound) :
    ∀ typed ∈ active, 0 < typed ∧ typed < s.comment.size := by
  induction h with
  | root => simp
  | top _ _ hmem =>
    intro typed htyped
    rw [List.mem_singleton.1 htyped]
    exact ⟨(hs.free _ hmem).1, (hs.free _ hmem).2.1⟩
  | inner _ _ hmem _ ih =>
    intro typed htyped
    rcases List.mem_cons.1 htyped with rfl | htyped
    · have hparent := hs.ordered.mem_children_iff.1 hmem
      have := hs.ordered.lt_of_parent hparent
      exact ⟨by omega, Arena.lt_size_of_parent? hparent⟩
    · exact ih typed htyped

/-- The innermost open node is a node of the comment. -/
lemma Open.innermost_lt (h : s.Open p active) (hs : s.Sound) : innermost active < s.comment.size := by
  cases active with
  | nil => exact hs.size_pos
  | cons typed others => exact (h.bounds hs typed List.mem_cons_self).2

/-- The children of a node when the walk is over: the root gets the top-level nodes. -/
lemma children_finish (hs : s.Sound) (i : Nat) : s.finish.1.children i
    = if i = 0 then s.comment.children 0 ++ s.topLevel.map (·.2) else s.comment.children i :=
  (views_foldl_attach s.topLevel s.comment hs.size_pos i).2

/-- A container other than the root has an open typed node, which lies right below the innermost one
around it. -/
lemma Open.exists_cons (h : s.Open id active) (hs : s.Sound) (hid : id ≠ 0) :
    ∃ p typed others, s.tree.parent? id = some p ∧ active = typed :: others ∧ s.Open p others ∧
      typed ∈ s.finish.1.children (innermost others) := by
  cases h with
  | root => exact absurd rfl hid
  | @top _ typed _ hparent hmem hroot =>
    refine ⟨0, typed, [], hparent, rfl, hroot, ?_⟩
    rw [children_finish hs, innermost_nil, if_pos rfl]
    exact List.mem_append_right _ (List.mem_map_of_mem hmem)
  | @inner p _ typed parent others _ hparent hmem hp =>
    have hpos := (hp.bounds hs parent List.mem_cons_self).1
    refine ⟨p, typed, parent :: others, hparent, rfl, hp, ?_⟩
    rw [children_finish hs, innermost_cons, if_neg (by omega)]
    exact hmem

/-! ## The next event -/

/-- The element after a given one is in the list. -/
lemma mem_of_after? {i j : Nat} {l : List Nat} (h : Arena.after? i l = some j) : j ∈ l := by
  induction l with
  | nil => cases h
  | cons x l ih =>
    rw [Arena.after?] at h
    split at h
    · exact List.mem_cons_of_mem _ (List.mem_of_head? h)
    · exact List.mem_cons_of_mem _ (ih h)

/-- The element before a given one is in the list. -/
lemma mem_of_before? {i j : Nat} {l : List Nat} (h : Arena.before? i l = some j) : j ∈ l := by
  fun_induction Arena.before? i l with
  | case1 => cases h
  | case2 x rest => exact Option.some.inj h ▸ List.mem_cons_self
  | case3 x y rest hx hy ih => exact List.mem_cons_of_mem _ (ih h)
  | case4 => cases h

/-- Behind a child of a container the walk stays inside the container. -/
lemma Inside.expects_next? (h : s.Inside p) (htree : s.tree.Ordered)
    (hparent : s.tree.parent? id = some p) : s.Expects (Markup.Tree.next? s.tree id) := by
  rw [Markup.Tree.next?]
  split
  · trivial
  · rw [Arena.nextSibling?, hparent, Option.bind_some]
    cases hafter : Arena.after? id (s.tree.children p) with
    | none => exact .inr h
    | some sibling => exact .inr ⟨p, htree.mem_children_iff.1 (mem_of_after? hafter), h⟩

/-- A container is entered to its first child, or left at once. -/
lemma Inside.expects_enter (h : s.Inside p) (htree : s.tree.Ordered) :
    s.Expects (Markup.Tree.advance s.tree (.enter p)) := by
  obtain ⟨active, junk, hopen, -, -⟩ := id h
  rw [Markup.Tree.advance, if_pos hopen.isContainer]
  split
  · rename_i child others hchildren
    have hchild : child ∈ s.tree.children p := by
      rw [hchildren]
      exact List.mem_cons_self
    exact .inr ⟨p, htree.mem_children_iff.1 hchild, h⟩
  · exact .inr h

/-! ## A node is made -/

/-- The state after a typed node has been made inside the open containers. -/
def joined (s : Classifier) (id : Nat) (v : Placed Node) : List Nat → Classifier
  | [] => { s with
      comment := s.comment.alloc v
      topLevel := s.topLevel ++ [(id, s.comment.size)] }
  | parent :: _ => { s with comment := s.comment.push parent v }

/-- Entering a node inside a container makes its typed form there, and opens it if it is a container
itself. -/
lemma enter_eq {junk : List Nat} (hopen : s.Open p active) (htree : s.tree.Ordered)
    (hparent : s.tree.parent? id = some p) (hstack : s.stack = active ++ junk)
    (henter : s.enter ctx id = (s', none)) :
    ∃ v, s' = if Markup.Tree.isContainer s.tree id then
        { s.joined id v active with stack := s.comment.size :: s.stack }
      else s.joined id v active := by
  unfold enter at henter
  split at henter
  · cases henter
  · rename_i node hnode
    refine ⟨⟨node, s.source ctx id⟩, ?_⟩
    simp only [Prod.mk.injEq, and_true] at henter
    rw [← henter]
    cases active with
    | nil =>
      rw [hopen.eq_zero] at hparent
      simp [joined, hparent]
    | cons parent others =>
      have hne : p ≠ 0 := by
        rintro rfl
        cases hopen.eq_nil htree
      simp [joined, hparent, hne, hstack, Arena.push]

section Joined

variable {v : Placed Node}

/-- The new node becomes the last child of the innermost open node. -/
lemma children_finish_joined (hopen : s.Open p active) (hs : s.Sound)
    (hs' : (s.joined id v active).Sound) (i : Nat) :
    (s.joined id v active).finish.1.children i
      = (s.finish.1.push (innermost active) v).children i := by
  have hinner := hopen.innermost_lt hs
  rw [Arena.children_push v (by rwa [size_finish]), children_finish hs', children_finish hs,
    children_finish hs, size_finish]
  cases active with
  | nil =>
    rw [innermost_nil]
    simp only [joined, Arena.children_alloc, List.map_append, List.map_singleton,
      List.append_assoc, if_true]
    split
    · rfl
    · rfl
  | cons parent others =>
    have hpos := (hopen.bounds hs parent List.mem_cons_self).1
    have hlt := (hopen.bounds hs parent List.mem_cons_self).2
    rw [innermost_cons, if_neg (c := parent = 0) (by omega)]
    simp only [joined, Arena.children_push v hlt]
    by_cases hi : i = 0
    · rw [if_pos hi, if_neg (by omega), if_neg (by omega), if_pos hi]
    · rw [if_neg hi, if_neg hi]

/-- The containers that were open stay open. -/
lemma Open.joined (hopen : s.Open p active) (hs : s.Sound) (htree : s.tree.Ordered) :
    (s.joined id v active).Open p active := by
  refine hopen.congr htree ?_ ?_ ?_ ?_
  · cases active <;> exact fun i => rfl
  · cases active <;> exact fun i _ => rfl
  · cases active with
    | nil => exact fun i _ typed hmem => List.mem_append_left _ hmem
    | cons parent others => exact fun i _ typed hmem => hmem
  · intro i
    cases active with
    | nil =>
      rw [Classifier.joined, Arena.children_alloc]
      exact List.Subset.refl _
    | cons parent others =>
      have hlt := (hopen.bounds hs parent List.mem_cons_self).2
      rw [Classifier.joined, Arena.children_push v hlt]
      split
      · rename_i hi
        rw [hi]
        exact List.subset_append_left _ _
      · exact List.Subset.refl _

/-- A new container is open. -/
lemma Open.joined_self (hopen : s.Open p active) (hs : s.Sound) (htree : s.tree.Ordered)
    (hparent : s.tree.parent? id = some p) (hcontainer : Markup.Tree.isContainer s.tree id = true) :
    (s.joined id v active).Open id (s.comment.size :: active) := by
  have hold : (s.joined id v active).Open p active := hopen.joined hs htree
  cases active with
  | nil =>
    obtain rfl := hopen.eq_zero
    exact .top hcontainer hparent (List.mem_append_right _ List.mem_cons_self) hold
  | cons parent others =>
    have hlt := (hopen.bounds hs parent List.mem_cons_self).2
    refine .inner hcontainer hparent ?_ hold
    rw [Classifier.joined, Arena.children_push v hlt, if_pos rfl]
    exact List.mem_append_right _ List.mem_cons_self

/-- Making a node at the right edge keeps the comment in order; the new node and the one it belongs
to are at the right edge. -/
lemma nested_joined (hopen : s.Open p active) (hs : s.Sound) (hs' : (s.joined id v active).Sound)
    (hnested : s.finish.1.Nested) (hedge : s.finish.1.AtEdge (innermost active)) :
    (s.joined id v active).finish.1.Nested ∧
      (s.joined id v active).finish.1.AtEdge s.comment.size ∧
      (s.joined id v active).finish.1.AtEdge (innermost active) := by
  have hlt : innermost active < s.finish.1.size := by
    rw [size_finish]
    exact hopen.innermost_lt hs
  have hsame : ∀ i, ((s.joined id v active).finish.1.children i).Sublist
      ((s.finish.1.push (innermost active) v).children i) := by
    intro i
    rw [children_finish_joined hopen hs hs']
  have hself := hedge.push hs.ordered_finish hlt v
  rw [size_finish] at hself
  have hstep : (s.finish.1.push (innermost active) v).Reaches (innermost active) s.comment.size := by
    refine .single ?_
    rw [Arena.children_push v hlt, if_pos rfl, size_finish]
    exact List.mem_append_right _ List.mem_cons_self
  exact ⟨(hnested.push hs.ordered_finish hlt hedge v).mono hsame, hself.mono hsame,
    (hself.of_reaches hstep).mono hsame⟩

end Joined

/-! ## Steps -/

/-- Moves keep the comment sound. -/
lemma Sound.of_moves (hs : s.Sound) (hmoves : Moves ctx s s') : s'.Sound := by
  induction hmoves with
  | refl => exact hs
  | tail _ hmove ih => exact hmove.sound ih

/-- A node is entered. -/
lemma InOrder.enter (h : s.InOrder (some (.enter id))) (hid : id ≠ 0)
    (henter : s.enter ctx id = (s', none)) :
    s'.InOrder (Markup.Tree.advance s'.tree (.enter id)) := by
  obtain ⟨p, hparent, active, junk, hopen, hstack, hedge⟩ := h.expects.resolve_left hid
  have hs' : s'.Sound := by
    have := h.sound.of_moves (moves_enter ctx s id)
    rwa [henter] at this
  obtain ⟨v, hv⟩ := enter_eq hopen h.tree hparent hstack henter
  -- what is below the stack does not matter for the comment
  have hjoined : (s.joined id v active).Sound := by
    have hbelow : ∀ typed ∈ s.stack, typed < (s.joined id v active).comment.size := by
      intro typed htyped
      have := h.sound.stack_lt typed htyped
      cases active with
      | nil => simp only [joined, Arena.size_alloc]; omega
      | cons parent others => simp only [joined, Arena.size_push]; omega
    have hstack' : (s.joined id v active).stack = s.stack := by
      cases active <;> rfl
    split at hv
    · rw [hv] at hs'
      exact ⟨hs'.ordered, hs'.size_pos, hstack' ▸ hbelow, hs'.free, hs'.nodup⟩
    · exact hv ▸ hs'
  have htree : (s.joined id v active).tree = s.tree := by
    cases active <;> rfl
  have hkept : (s.joined id v active).stack = active ++ junk := by
    rw [← hstack]
    cases active <;> rfl
  obtain ⟨hnested, hself, hinner⟩ := nested_joined hopen h.sound hjoined h.nested hedge
  by_cases hcontainer : Markup.Tree.isContainer s.tree id = true
  · rw [if_pos hcontainer] at hv
    have hinside : s'.Inside id := by
      refine ⟨s.comment.size :: active, junk, ?_, ?_, ?_⟩
      · rw [hv]
        exact (hopen.joined_self h.sound h.tree hparent hcontainer).congr (htree ▸ h.tree)
          (fun _ => rfl) (fun _ _ => rfl) (fun _ _ _ hmem => hmem) fun _ => List.Subset.refl _
      · rw [hv, hstack]
        rfl
      · rw [hv]
        exact hself
    have hordered : s'.tree.Ordered := by
      rw [hv]
      exact htree ▸ h.tree
    exact ⟨hs', hordered, by rw [hv]; exact hnested, hinside.expects_enter hordered⟩
  · rw [if_neg hcontainer] at hv
    have hinside : s'.Inside p := by
      rw [hv]
      exact ⟨active, junk, hopen.joined h.sound h.tree, hkept, hinner⟩
    have hsame : s'.tree = s.tree := by
      rw [hv, htree]
    refine ⟨hs', hsame ▸ h.tree, hv ▸ hnested, ?_⟩
    rw [Markup.Tree.advance, hsame, if_neg hcontainer, ← hsame]
    exact hinside.expects_next? (hsame ▸ h.tree) (hsame ▸ hparent)

/-- A node that fails when it is entered leaves the state as it was. -/
lemma enter_failed {failure : Failure} (henter : s.enter ctx id = (s', some failure)) : s' = s := by
  unfold enter at henter
  split at henter
  · cases henter
    rfl
  · cases henter

/-- Leaving a node closes it, whether it fails or not, and changes nothing else that matters for the
order. -/
lemma leave_eq (ctx : Context) (s : Classifier) (id : Nat) :
    (s.leave ctx id).1.tree = s.tree ∧ (s.leave ctx id).1.topLevel = s.topLevel ∧
      (s.leave ctx id).1.stack = s.stack.tail ∧
      ∀ i, (s.leave ctx id).1.comment.children i = s.comment.children i := by
  unfold leave
  split
  · rename_i hstack
    simp [hstack]
  · rename_i typed stack hstack
    simp only
    split
    · split
      · rename_i hrole
        unfold assignRole at hrole
        split at hrole
        · cases hrole
          simp [hstack, Arena.modifyNode]
        · simp only at hrole
          split at hrole
          · cases hrole
          · cases hrole
            simp [hstack, Arena.modifyNode]
      · simp [hstack]
    · simp [hstack]

/-- **Leaving a node**, whether it fails or not, takes the walk back inside the container around
it. -/
lemma InOrder.left (h : s.InOrder (some (.leave id))) (hid : id ≠ 0) (ctx : Context) :
    ∃ p, s.tree.parent? id = some p ∧ (s.leave ctx id).1.tree = s.tree ∧
      (s.leave ctx id).1.Sound ∧ (s.leave ctx id).1.finish.1.Nested ∧
      (s.leave ctx id).1.Inside p := by
  obtain ⟨active, junk, hopen, hstack, hedge⟩ := h.expects.resolve_left hid
  obtain ⟨p, typed, others, hparent, rfl, hothers, hchild⟩ := hopen.exists_cons h.sound hid
  have hs' := h.sound.of_moves (moves_leave ctx s id)
  obtain ⟨htree, htop, htail, hchildren⟩ := leave_eq ctx s id
  have hsame : ∀ i, ((s.leave ctx id).1.finish.1.children i).Sublist (s.finish.1.children i) := by
    intro i
    rw [children_finish hs', children_finish h.sound, hchildren, hchildren, htop]
  refine ⟨p, hparent, htree, hs', h.nested.mono hsame, others, junk, ?_, ?_, ?_⟩
  · exact hothers.congr h.tree (fun _ => by rw [htree]) (fun _ _ => by rw [htree])
      (fun _ _ _ hmem => htop ▸ hmem) fun i => by rw [hchildren i]; exact List.Subset.refl _
  · rw [htail, hstack]
    rfl
  · exact (hedge.of_reaches (.single hchild)).mono hsame

/-- Dropping a failing node takes links of the comment away only. -/
lemma sublist_children_recover (hs : s.Sound) (ctx : Context) (id : Nat) (failure : Failure)
    (i : Nat) :
    ((s.recover ctx id failure).1.finish.1.children i).Sublist (s.finish.1.children i) := by
  rw [children_finish (hs.recover ctx id failure), children_finish hs,
    hs.comment_recover ctx id failure, topLevel_recover]
  split
  · exact List.Sublist.append_left (List.eraseP_sublist.map _) _
  · exact List.Sublist.refl _

/-- Dropping a failing node takes the node from its parent in the markup. -/
lemma parent?_recover (htree : s.tree.Ordered) (hparent : s.tree.parent? id = some p)
    (ctx : Context) (failure : Failure) (i : Nat) :
    (s.recover ctx id failure).1.tree.parent? i = if i = id then none else s.tree.parent? i := by
  have hlt := htree.lt_of_parent hparent
  rw [tree_recover, Arena.parent?_detach hparent (by omega)]

/-- The walk stays inside a container when a failing node in it is dropped: the container and those
around it come before the node. -/
lemma Inside.recover (h : s.Inside p) (hs : s.Sound) (htree : s.tree.Ordered)
    (hparent : s.tree.parent? id = some p) (ctx : Context) (failure : Failure) :
    (s.recover ctx id failure).1.Inside p := by
  obtain ⟨active, junk, hopen, hstack, hedge⟩ := h
  have hlt := htree.lt_of_parent hparent
  refine ⟨active, junk, hopen.congr htree ?_ ?_ ?_ ?_, (stack_recover ..).trans hstack,
    hedge.mono (sublist_children_recover hs ctx id failure)⟩
  · intro i
    rw [tree_recover, Markup.Tree.isContainer, Arena.node?, Arena.value?_detach]
    rfl
  · intro i hi
    rw [parent?_recover htree hparent, if_neg (by omega)]
  · intro i hi typed hmem
    rw [topLevel_recover]
    refine (List.mem_eraseP_of_neg ?_).2 hmem
    have hne : i ≠ id := by omega
    simpa using hne
  · intro i
    rw [hs.comment_recover ctx id failure]
    exact List.Subset.refl _

/-- **A failing node is dropped**, and the walk goes on inside the container around it. -/
lemma inOrder_recover {failure : Failure} (hs : s.Sound) (htree : s.tree.Ordered)
    (hnested : s.finish.1.Nested) (hparent : s.tree.parent? id = some p) (hinside : s.Inside p) :
    (s.recover ctx id failure).1.InOrder (s.recover ctx id failure).2 := by
  have hinside' := hinside.recover hs htree hparent ctx failure
  have hordered : (s.recover ctx id failure).1.tree.Ordered :=
    tree_recover s id ctx failure ▸ htree.detach id
  refine ⟨hs.recover ctx id failure, hordered,
    hnested.mono (sublist_children_recover hs ctx id failure), ?_⟩
  rw [next_recover, Arena.previousSibling?, hparent, Option.bind_some]
  cases hbefore : Arena.before? id (s.tree.children p) with
  | none => exact hinside'.expects_enter hordered
  | some previous =>
    -- the node before is still there, unless it is the failing one itself
    have hprevious := parent?_recover htree hparent ctx failure previous
    split at hprevious
    · simp only [Option.elim_some, Function.comp_apply, Option.bind_some, Markup.Tree.advance,
        Markup.Tree.next?, Arena.nextSibling?, hprevious]
      split
      · trivial
      · trivial
    · have hkept := htree.mem_children_iff.1 (mem_of_before? hbefore)
      exact hinside'.expects_next? hordered (hprevious.trans hkept)

/-- **A step keeps the comment in order.** -/
lemma InOrder.step {event : Walk} (h : s.InOrder (some event)) :
    (s.step ctx event).1.InOrder (s.step ctx event).2 := by
  unfold Classifier.step
  by_cases hid : event.id = 0
  · simp only [if_pos hid]
    refine ⟨h.sound, h.tree, h.nested, ?_⟩
    cases event with
    | enter id =>
      obtain rfl : id = 0 := hid
      by_cases hcontainer : Markup.Tree.isContainer s.tree 0 = true
      · have hinside : s.Inside 0 :=
          ⟨[], s.stack, .root hcontainer, rfl, h.sound.ordered_finish.atEdge_zero⟩
        exact hinside.expects_enter h.tree
      · rw [Markup.Tree.advance, if_neg hcontainer, Markup.Tree.next?, if_pos rfl]
        trivial
    | leave id =>
      obtain rfl : id = 0 := hid
      rw [Markup.Tree.advance, Markup.Tree.next?, if_pos rfl]
      trivial
  · simp only [if_neg hid]
    cases event with
    | enter id =>
      dsimp only
      rcases henter : s.enter ctx id with ⟨s', failure⟩
      cases failure with
      | none => exact h.enter hid henter
      | some failure =>
        obtain rfl := enter_failed henter
        obtain ⟨p, hparent, hinside⟩ := h.expects.resolve_left hid
        exact inOrder_recover h.sound h.tree h.nested hparent hinside
    | leave id =>
      obtain ⟨p, hparent, htree, hsound, hnested, hinside⟩ := h.left hid ctx
      have hordered := h.tree
      rw [← htree] at hparent hordered
      dsimp only
      generalize s.leave ctx id = outcome at *
      obtain ⟨s', failure⟩ := outcome
      cases failure with
      | none => exact ⟨hsound, hordered, hnested, hinside.expects_next? hordered hparent⟩
      | some failure => exact inOrder_recover hsound hordered hnested hparent hinside

/-- **The walk keeps the comment in order.** -/
lemma InOrder.run {event : Option Walk} (h : s.InOrder event) (fuel : Nat) :
    (s.run ctx fuel event).finish.1.Nested := by
  induction fuel generalizing s event with
  | zero => exact h.nested
  | succ fuel ih =>
    cases event with
    | none => exact h.nested
    | some event => exact ih h.step

end Classifier

/-- **A comment is in document order when it has been read.** -/
theorem nested_classify (ctx : Context) {tree : Markup.Tree} (htree : tree.Ordered) :
    (classify ctx tree).1.Nested := by
  have hnone : ∀ i, (Classifier.finish { tree }).1.children i = [] := by
    intro i
    cases i with
    | zero => rfl
    | succ i => rfl
  have hstart : Classifier.InOrder { tree } (some (.enter 0)) := by
    refine ⟨Classifier.sound_start tree, htree, ?_, .inl rfl⟩
    intro p c c' hsub
    rw [hnone] at hsub
    cases hsub
  exact hstart.run (2 * tree.size)

/-- **The nodes of a comment are in document order, whatever is detached.** Take any event stream, the
markup tree that it makes, with any nodes taken out, the comment that is read from it, and detach any
nodes of that comment. Then children and parents agree, no node is a child twice, and every parent
comes before its children. Listing what is below a node comes to an end; what is below the root is
listed in the order of the indices. Detaching one more node takes what is below it out of this list,
leaves the rest in its order, and changes no node.

**Proof sketch.** Reading makes the nodes of a comment in document order, since every new node is the
last child of the innermost open one. Detaching keeps the order, and takes away exactly what is
reached from the detached node. -/
theorem comment_nodes_in_order (settings : Settings) (entity : String) (raw : List Char)
    (position : Nat → Position) (events : List Markup.Event) (removed detached : List Nat) :
    let tree := removed.foldl Arena.detach (Markup.Tree.ofEvents position events)
    let c := detached.foldl Arena.detach (parseWith settings entity raw tree).1
    (∀ p i, i ∈ c.children p ↔ c.parent? i = some p) ∧
    (∀ p, (c.children p).Nodup) ∧
    (∀ p i, c.parent? i = some p → p < i) ∧
    (∀ i, i < c.size → ∀ fuel, c.size ≤ fuel → c.visit fuel [i] = c.preorder i) ∧
    ((c.preorder 0).Pairwise (· < ·) ∧ ∀ i ∈ c.preorder 0, i < c.size) ∧
    ∀ id, id ≠ 0 → id < c.size →
      (c.detach id).preorder 0 = ((c.preorder 0).filter fun i => i ∉ c.preorder id) ∧
      ∀ i, (c.detach id).value? i = c.value? i := by
  intro tree c
  obtain ⟨blocks, hevents⟩ := Markup.Tree.ofEvents_eq_ofRose position events
  have htree : tree.Ordered := by
    apply List.foldlRecOn (motive := Arena.Ordered)
    · rw [hevents]
      exact Arena.ordered_ofRose _
    · exact fun t ht id _ => ht.detach id
  have hread := ordered_classify { settings, entity, lines := pieces settings raw } tree
  obtain ⟨hordered, hnested, hsize⟩ : c.Ordered ∧ c.Nested ∧ 0 < c.size := by
    apply List.foldlRecOn (motive := fun c : Comment => c.Ordered ∧ c.Nested ∧ 0 < c.size)
    · exact ⟨hread.1, nested_classify _ htree, hread.2⟩
    · rintro c ⟨hc, hn, hpos⟩ id _
      exact ⟨hc.detach id, hn.detach hc id, by rwa [Arena.size_detach]⟩
  refine ⟨fun p i => hordered.mem_children_iff, hordered.nodup, fun p i => hordered.lt_of_parent,
    fun i hi fuel hfuel => ?_, ⟨hnested.pairwise_preorder hordered hsize, fun i hi => ?_⟩,
    fun id hpos hid => ⟨hnested.preorder_detach hordered hid hpos, c.value?_detach id⟩⟩
  · exact hordered.visit_eq_of_size_le hfuel (List.pairwise_singleton _ _) (by simpa using hi)
  · exact hordered.lt_size_of_mem_visit (by simpa using hsize) hi

end DocComments.Comment
