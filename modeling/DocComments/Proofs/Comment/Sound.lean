import DocComments.Proofs.Arena.Ordered
import DocComments.Proofs.Comment.Moves

set_option autoImplicit false

/-!
# Comments have sound links

The walk that reads a comment makes every node after its parent, and joins it to one parent at most.
So the arena of a comment is sound when it has been read, and it stays sound when nodes are replaced
or detached.

## Main definitions

* `Classifier.Sound` — what holds of the comment during the walk.
* `Made` — a comment that was read and then possibly changed.

## Main results

* `Classifier.Move.sound` — every move of the walk keeps the comment sound.
* `ordered_classify` — a comment is sound when it has been read.
* `Made.ordered` — it stays sound when it is changed.
* `Made.mem_links_iff` — its links are the link nodes reached from its root.
-/

namespace DocComments

namespace Arena

variable {α : Type}

/-- Changing what a node says makes no nodes. -/
@[simp]
lemma size_modifyNode (a : Arena (Placed α)) (id : Nat) (f : α → α) :
    (a.modifyNode id f).size = a.size :=
  size_modifyValue a id _

/-- Changing what a node says keeps the parents. -/
@[simp]
lemma parent?_modifyNode (a : Arena (Placed α)) (id i : Nat) (f : α → α) :
    (a.modifyNode id f).parent? i = a.parent? i :=
  parent?_modifyValue a id i _

/-- Links stay sound when a node says something else. -/
lemma Ordered.modifyNode {a : Arena (Placed α)} (h : a.Ordered) (id : Nat) (f : α → α) :
    (a.modifyNode id f).Ordered :=
  h.modifyValue id _

/-- Nodes that have no parent yet may be attached to the root one after the other. -/
lemma Ordered.foldl_attach {a : Arena α} (h : a.Ordered) {ids : List Nat} (hids : ids.Nodup)
    (hfree : ∀ c ∈ ids, 0 < c ∧ c < a.size ∧ a.parent? c = none) :
    (ids.foldl (fun a c => a.attach 0 c) a).Ordered := by
  induction ids generalizing a with
  | nil => exact h
  | cons c ids ih =>
    obtain ⟨hpos, hlt, hnone⟩ := hfree c List.mem_cons_self
    obtain ⟨hnew, hids⟩ := List.nodup_cons.1 hids
    refine ih (h.attach hpos hlt hnone) hids fun i hi => ?_
    obtain ⟨hpos', hlt', hnone'⟩ := hfree i (List.mem_cons_of_mem _ hi)
    have hne : i ≠ c := fun heq => hnew (heq ▸ hi)
    rw [size_attach, a.parent?_attach hlt, if_neg hne]
    exact ⟨hpos', hlt', hnone'⟩

end Arena

namespace Comment

namespace Classifier

/-- What holds of the comment during the walk: its links are sound, the open nodes are there, and
the top-level nodes are there, without a parent and each once. -/
structure Sound (s : Classifier) : Prop where
  ordered : s.comment.Ordered
  size_pos : 0 < s.comment.size
  stack_lt : ∀ p ∈ s.stack, p < s.comment.size
  free : ∀ entry ∈ s.topLevel, 0 < entry.2 ∧ entry.2 < s.comment.size ∧
    s.comment.parent? entry.2 = none
  nodup : (s.topLevel.map (·.2)).Nodup

variable {ctx : Context} {s s' : Classifier} {id : Nat}

/-- Replacing a node keeps the comment sound. -/
lemma Sound.modifyNode (h : s.Sound) (id : Nat) (f : Node → Node) (briefPending : Bool) :
    Sound { s with comment := s.comment.modifyNode id f, briefPending } := by
  constructor
  · exact h.ordered.modifyNode id f
  · simpa using h.size_pos
  · simpa using h.stack_lt
  · simpa using h.free
  · exact h.nodup

/-- A new node that is open. -/
lemma Sound.open_ (h : s.Sound) (hid : id < s.comment.size) :
    Sound { s with stack := id :: s.stack } := by
  refine ⟨h.ordered, h.size_pos, fun p hp => ?_, h.free, h.nodup⟩
  rcases List.mem_cons.1 hp with rfl | hp
  · exact hid
  · exact h.stack_lt p hp

/-- A new node without a parent. -/
lemma Sound.alloc (h : s.Sound) (v : Placed Node) :
    Sound { s with comment := s.comment.alloc v } := by
  have hsize := s.comment.size_alloc v
  constructor
  · exact h.ordered.alloc v
  · simp only [hsize]
    omega
  · intro p hp
    have := h.stack_lt p hp
    simp only [hsize]
    omega
  · intro entry hentry
    obtain ⟨hpos, hlt, hnone⟩ := h.free entry hentry
    refine ⟨hpos, ?_, ?_⟩
    · simp only [hsize]
      omega
    · exact (s.comment.parent?_alloc v entry.2).trans hnone
  · exact h.nodup

/-- A new top-level node. -/
lemma Sound.alloc_top (h : s.Sound) (v : Placed Node) (id : Nat) :
    Sound { s with
      comment := s.comment.alloc v
      topLevel := s.topLevel ++ [(id, s.comment.size)] } := by
  have halloc := h.alloc v
  refine ⟨halloc.ordered, halloc.size_pos, halloc.stack_lt, fun entry hentry => ?_, ?_⟩
  · rcases List.mem_append.1 hentry with hentry | hentry
    · exact halloc.free entry hentry
    · rw [List.mem_singleton.1 hentry]
      refine ⟨h.size_pos, by simp, ?_⟩
      have hnone : s.comment.parent? s.comment.size = none := by
        simp [Arena.parent?, Arena.size]
      exact (s.comment.parent?_alloc v _).trans hnone
  · rw [List.map_append, List.nodup_append]
    refine ⟨h.nodup, by simp, fun i hi j hj heq => ?_⟩
    obtain ⟨entry, hentry, rfl⟩ := List.mem_map.1 hi
    have := (h.free entry hentry).2.1
    rw [List.map_singleton, List.mem_singleton] at hj
    simp only at hj
    omega

/-- A new node that is joined to an open one. -/
lemma Sound.alloc_attach (h : s.Sound) (v : Placed Node) {parent : Nat}
    (hparent : parent < s.comment.size) :
    Sound { s with comment := (s.comment.alloc v).attach parent s.comment.size } := by
  have halloc := h.alloc v
  have hlt : s.comment.size < (s.comment.alloc v).size := by simp
  have hnone : (s.comment.alloc v).parent? s.comment.size = none := by
    rw [s.comment.parent?_alloc]
    simp [Arena.parent?, Arena.size]
  refine ⟨halloc.ordered.attach hparent hlt hnone, ?_, ?_, fun entry hentry => ?_, h.nodup⟩
  · rw [Arena.size_attach]
    exact halloc.size_pos
  · simpa using halloc.stack_lt
  · obtain ⟨hpos, hsize, hfree⟩ := halloc.free entry hentry
    have hne : entry.2 ≠ s.comment.size := by
      have := (h.free entry hentry).2.1
      omega
    rw [Arena.size_attach, Arena.parent?_attach _ hlt, if_neg hne]
    exact ⟨hpos, hsize, hfree⟩

/-- A top-level node has no parent during the walk, so there is nothing to detach it from. -/
lemma Sound.comment_recover (h : s.Sound) (ctx : Context) (id : Nat) (failure : Failure) :
    (s.recover ctx id failure).1.comment = s.comment := by
  rcases Classifier.comment_recover s id ctx failure with heq | ⟨entry, hentry, heq⟩
  · exact heq
  · rw [heq, Arena.detach, (h.free entry hentry).2.2]

/-- A failing node is dropped. -/
lemma Sound.recover (h : s.Sound) (ctx : Context) (id : Nat) (failure : Failure) :
    Sound (s.recover ctx id failure).1 := by
  have hcomment := h.comment_recover ctx id failure
  have hkept : ((s.recover ctx id failure).1.topLevel).Sublist s.topLevel := by
    rw [topLevel_recover]
    exact List.eraseP_sublist
  constructor
  · rw [hcomment]
    exact h.ordered
  · rw [hcomment]
    exact h.size_pos
  · rw [stack_recover, hcomment]
    exact h.stack_lt
  · intro entry hentry
    rw [hcomment]
    exact h.free entry (hkept.subset hentry)
  · exact (hkept.map _).nodup h.nodup

/-- **Every move of the walk keeps the comment sound.** -/
lemma Move.sound (hmove : Move ctx s s') (h : s.Sound) : s'.Sound := by
  cases hmove with
  | top hnode => exact h.alloc_top _ _
  | loose hnode => exact h.alloc _
  | inner hnode hparent => exact h.alloc_attach _ (h.stack_lt _ hparent)
  | opened hid => exact h.open_ hid
  | closed =>
    refine ⟨h.ordered, h.size_pos, fun p hp => ?_, h.free, h.nodup⟩
    exact h.stack_lt p (List.mem_of_mem_tail hp)
  | replaced id hnode briefPending => exact h.modifyNode id _ briefPending
  | dropped id failure => exact h.recover ctx id failure

/-- The walk starts with a sound comment. -/
lemma sound_start (tree : Markup.Tree) : Sound { tree } :=
  ⟨Arena.ordered_singleton _, by simp [Comment.empty], by simp [Comment.empty], by simp, by simp⟩

/-- Joining the top-level nodes to the root makes no node. -/
@[simp]
lemma size_finish (s : Classifier) : s.finish.1.size = s.comment.size := by
  apply List.foldlRecOn (motive := fun c : Comment => c.size = s.comment.size)
  · rfl
  · intro c hc entry _
    rw [Arena.size_attach, hc]

/-- Joining the top-level nodes to the root keeps the comment sound. -/
lemma Sound.ordered_finish (h : s.Sound) : s.finish.1.Ordered := by
  have hfinish : s.finish.1
      = (s.topLevel.map (·.2)).foldl (fun c id => c.attach 0 id) s.comment := by
    rw [List.foldl_map]
    rfl
  rw [hfinish]
  apply h.ordered.foldl_attach h.nodup
  intro id hid
  obtain ⟨entry, hentry, rfl⟩ := List.mem_map.1 hid
  exact h.free entry hentry

end Classifier

/-- **A comment is sound when it has been read.** -/
theorem ordered_classify (ctx : Context) (tree : Markup.Tree) :
    (classify ctx tree).1.Ordered ∧ 0 < (classify ctx tree).1.size := by
  have h := Classifier.run_induct ctx (Classifier.sound_start tree) Classifier.Move.sound
    (2 * tree.size) (some (.enter 0))
  refine ⟨h.ordered_finish, ?_⟩
  rw [classify, Classifier.size_finish]
  exact h.size_pos

/-- A comment as it can be made: it was read from some markup, or it is the empty one, and nodes of
it were possibly replaced or detached afterwards. -/
inductive Made : Comment → Prop where
  | empty : Made Comment.empty
  | read (ctx : Context) (tree : Markup.Tree) : Made (classify ctx tree).1
  | modifyNode {c : Comment} (id : Nat) (f : Node → Node) : Made c → Made (c.modifyNode id f)
  | detach {c : Comment} (id : Nat) : Made c → Made (c.detach id)

namespace Made

variable {c : Comment}

/-- **A comment stays sound when it is changed.** -/
lemma ordered (h : Made c) : c.Ordered := by
  induction h with
  | empty => exact Arena.ordered_singleton _
  | read ctx tree => exact (ordered_classify ctx tree).1
  | modifyNode id f _ ih => exact ih.modifyNode id f
  | detach id _ ih => exact ih.detach id

/-- A comment has a root. -/
lemma size_pos (h : Made c) : 0 < c.size := by
  induction h with
  | empty => simp [Comment.empty]
  | read ctx tree => exact (ordered_classify ctx tree).2
  | modifyNode id f _ ih => simpa using ih
  | detach id _ ih => simpa using ih

/-- **The links of a comment are the link nodes reached from its root.** -/
lemma mem_links_iff (h : Made c) {id : Nat} :
    id ∈ links c ↔ c.Reaches 0 id ∧ ∃ name target, c.node? id = some (.link name target) := by
  rw [links, List.mem_filter, h.ordered.mem_preorder_iff h.size_pos]
  apply and_congr_right
  intro _
  cases c.node? id with
  | none => simp
  | some node => cases node <;> simp [Node.isLink]

end Made

end Comment

end DocComments
