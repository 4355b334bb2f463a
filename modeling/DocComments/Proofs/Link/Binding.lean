import DocComments.Link.Resolve
import DocComments.Proofs.Arena.Contents
import DocComments.Proofs.Comment.Sound
import Mathlib.Data.List.Forall2

set_option autoImplicit false

/-!
# Comments whose links are looked up

Looking up the links of a comment gives every link a new target that has no written one and is
reached from the root. Everything else stays as it is: the tree, the positions, the other nodes, and
the names of the links. So the links stay the same nodes, and looking them up again with the same
results changes nothing.

## Main definitions

* `Comment.LinksBound`, `Entity.LinksBound` — the comment, or the entity, in which every such link
  leads where its name was found, and which is the same otherwise.

## Main results

* `Comment.node?_bindLinks` — the nodes of a comment whose links were looked up.
* `Comment.bindLinks_bindLinks`, `Entity.bindLinks_bindLinks` — a second time changes nothing.
* `Comment.linkProblems_bindLinks`, `Entity.linkProblems_bindLinks` — and finds the same problems.
* `Entity.linksBound_bindLinks` — looking up links does nothing else.
-/

namespace DocComments

namespace Comment

/-! ## Nodes -/

namespace Node

variable (find : Finder) (node : Node)

/-- Looking up a name makes no links, and keeps those that are there. -/
@[simp]
lemma isLink_bind : (node.bind find).isLink = node.isLink := by
  cases node with
  | link name target =>
    rw [bind]
    split <;> rfl
  | _ => rfl

/-- What a lookup gives may be looked up again. -/
@[simp]
lemma isAutomatic_ofResult (result : Except LinkError Destination) :
    (Target.ofResult result).isAutomatic = true := by
  cases result <;> rfl

/-- A link that was looked up is looked up again under the same name. -/
@[simp]
lemma bind_bind : (node.bind find).bind find = node.bind find := by
  cases node with
  | link name target =>
    by_cases hautomatic : target.isAutomatic = true
    · simp [bind, hautomatic]
    · simp [bind, hautomatic]
  | _ => rfl

/-- A node whose name was looked up has the same problem. -/
@[simp]
lemma problem?_bind : (node.bind find).problem? find = node.problem? find := by
  cases node with
  | link name target =>
    by_cases hautomatic : target.isAutomatic = true
    · simp [bind, problem?, hautomatic]
    · simp [bind, hautomatic]
  | _ => rfl

end Node

/-! ## Comments -/

section

variable (find : Finder) (c : Comment)

/-- A node with its name looked up, at its place. -/
def bindPlaced (p : Placed Node) : Placed Node :=
  { p with value := p.value.bind find }

/-- Looking up the name of a node at its place once is enough. -/
lemma bindPlaced_bindPlaced (p : Placed Node) :
    bindPlaced find (bindPlaced find p) = bindPlaced find p := by
  simp [bindPlaced]

/-- Looking up links changes the contents of several nodes. -/
lemma bindLinks_eq : bindLinks find c
    = (links c).foldl (fun c id => c.modifyValue id (bindPlaced find)) c :=
  rfl

/-- Looking up links makes no nodes. -/
@[simp]
lemma size_bindLinks : (bindLinks find c).size = c.size := by
  rw [bindLinks_eq, Arena.size_foldl_modifyValue]

/-- Looking up links keeps the parents. -/
@[simp]
lemma parent?_bindLinks (i : Nat) : (bindLinks find c).parent? i = c.parent? i := by
  rw [bindLinks_eq, Arena.parent?_foldl_modifyValue]

/-- Looking up links keeps the children. -/
@[simp]
lemma children_bindLinks (i : Nat) : (bindLinks find c).children i = c.children i := by
  rw [bindLinks_eq, Arena.children_foldl_modifyValue]

/-- Looking up links keeps the document order. -/
@[simp]
lemma preorder_bindLinks (i : Nat) : (bindLinks find c).preorder i = c.preorder i :=
  Arena.preorder_congr (size_bindLinks find c) (children_bindLinks find c) i

/-- Looking up links changes the contents of links only. -/
lemma value?_bindLinks (i : Nat) : (bindLinks find c).value? i
    = if i ∈ links c then (c.value? i).map (bindPlaced find) else c.value? i := by
  rw [bindLinks_eq, Arena.value?_foldl_modifyValue fun _ => bindPlaced_bindPlaced find]

/-- **The nodes of a comment whose links were looked up.** -/
lemma node?_bindLinks (i : Nat) : (bindLinks find c).node? i
    = if i ∈ links c then (c.node? i).map (Node.bind find) else c.node? i := by
  rw [Arena.node?, Arena.node?, value?_bindLinks]
  split
  · rw [Option.map_map, Option.map_map]
    rfl
  · rfl

/-- Looking up links keeps all positions. -/
@[simp]
lemma position_bindLinks (i : Nat) : (bindLinks find c).position i = c.position i := by
  rw [Arena.position, Arena.position, value?_bindLinks]
  split
  · rw [Option.map_map]
    rfl
  · rfl

/-- The links stay the same nodes. -/
@[simp]
lemma links_bindLinks : links (bindLinks find c) = links c := by
  rw [links, links, preorder_bindLinks]
  apply List.filter_congr
  intro i _
  rw [node?_bindLinks]
  split
  · cases c.node? i with
    | none => rfl
    | some node => exact node.isLink_bind find
  · rfl

/-- **Looking up links a second time changes nothing.** -/
@[simp]
lemma bindLinks_bindLinks : bindLinks find (bindLinks find c) = bindLinks find c := by
  rw [bindLinks_eq find (bindLinks find c)]
  apply Arena.foldl_modifyValue_eq_self
  intro i hi p hp
  rw [links_bindLinks] at hi
  rw [value?_bindLinks, if_pos hi] at hp
  obtain ⟨old, -, rfl⟩ := Option.map_eq_some_iff.1 hp
  exact bindPlaced_bindPlaced find old

/-- Looking up links a second time finds the same problems. -/
@[simp]
lemma linkProblems_bindLinks (entity : String) :
    linkProblems find entity (bindLinks find c) = linkProblems find entity c := by
  rw [linkProblems, linkProblems, links_bindLinks]
  apply List.filterMap_congr
  intro i hi
  rw [node?_bindLinks, if_pos hi, position_bindLinks]
  cases c.node? i with
  | none => rfl
  | some node => simp

/-- Looking up links changes a comment in a way that comments may change. -/
lemma Made.bindLinks {c : Comment} (h : Made c) : Made (bindLinks find c) := by
  apply List.foldlRecOn (motive := Made)
  · exact h
  · intro c hc id _
    exact hc.modifyNode id _

end

/-- In the second comment every link that has no written target and is reached from the root leads
where its name was found, or nowhere if it was not found. Otherwise the comments are the same. -/
structure LinksBound (find : Finder) (c c' : Comment) : Prop where
  size_eq : c'.size = c.size
  parent?_eq : ∀ id, c'.parent? id = c.parent? id
  children_eq : ∀ id, c'.children id = c.children id
  position_eq : ∀ id, c'.position id = c.position id
  found : ∀ {id name target dest}, c.Reaches 0 id → c.node? id = some (.link name target) →
    target.isAutomatic = true → find name = .ok dest →
      c'.node? id = some (.link name (.resolved dest))
  notFound : ∀ {id name target e}, c.Reaches 0 id → c.node? id = some (.link name target) →
    target.isAutomatic = true → find name = .error e →
      c'.node? id = some (.link name .unresolved)
  node?_eq : ∀ {id}, (∀ name target, c.Reaches 0 id → c.node? id = some (.link name target) →
    target.isAutomatic = false) → c'.node? id = c.node? id

/-- **Looking up the links of a comment does nothing else.** -/
lemma Made.linksBound {c : Comment} (h : Made c) (find : Finder) :
    LinksBound find c (Comment.bindLinks find c) := by
  -- a link that is reached is among the links, and its name is looked up
  have hbound : ∀ {id name target}, c.Reaches 0 id → c.node? id = some (.link name target) →
      target.isAutomatic = true → (Comment.bindLinks find c).node? id
        = some (.link name (Target.ofResult (find name))) := by
    intro id name target hreaches hnode hautomatic
    have hmem : id ∈ links c := h.mem_links_iff.2 ⟨hreaches, name, target, hnode⟩
    rw [node?_bindLinks, if_pos hmem, hnode, Option.map_some, Node.bind, if_pos hautomatic]
  constructor
  · exact size_bindLinks find c
  · exact parent?_bindLinks find c
  · exact children_bindLinks find c
  · exact position_bindLinks find c
  · intro id name target dest hreaches hnode hautomatic hfind
    rw [hbound hreaches hnode hautomatic, hfind]
    rfl
  · intro id name target e hreaches hnode hautomatic hfind
    rw [hbound hreaches hnode hautomatic, hfind]
    rfl
  · intro id hother
    rw [node?_bindLinks]
    split
    · rename_i hmem
      obtain ⟨hreaches, name, target, hnode⟩ := h.mem_links_iff.1 hmem
      rw [hnode, Option.map_some, Node.bind, hother name target hreaches hnode]
      rfl
    · rfl

end Comment

/-! ## Members and entities -/

namespace Member

/-- Looking up the links of a member once is enough. -/
@[simp]
lemma bindLinks_bindLinks (find : Finder) (m : Member) :
    (m.bindLinks find).bindLinks find = m.bindLinks find := by
  simp [bindLinks, Function.comp_def]

/-- The links of a member have the same problems when they are looked up again. -/
@[simp]
lemma linkProblems_bindLinks (find : Finder) (m : Member) :
    (m.bindLinks find).linkProblems find = m.linkProblems find := by
  unfold linkProblems bindLinks
  cases m.comment with
  | none => rfl
  | some c => exact Comment.linkProblems_bindLinks find c m.qualifiedName

/-- The links in the comment of the second member are bound. Otherwise the members are the same. -/
def LinksBound (find : Finder) (m m' : Member) : Prop :=
  ∃ comment', m' = { m with comment := comment' } ∧
    Option.Rel (Comment.LinksBound find) m.comment comment'

end Member

namespace Entity

/-- Looking up the links of an entity once is enough. -/
@[simp]
lemma bindLinks_bindLinks (find : Finder) (e : Entity) :
    (e.bindLinks find).bindLinks find = e.bindLinks find := by
  simp [bindLinks, Function.comp_def]

/-- The links of an entity have the same problems when they are looked up again. -/
@[simp]
lemma linkProblems_bindLinks (find : Finder) (e : Entity) :
    (e.bindLinks find).linkProblems find = e.linkProblems find := by
  simp [linkProblems, bindLinks, List.flatMap_map]

/-- The links in the comments of the second entity are bound. Otherwise the entities are the
same. -/
def LinksBound (find : Finder) (e e' : Entity) : Prop :=
  ∃ members', e' = { e with members := members' } ∧
    List.Forall₂ (Member.LinksBound find) e.members members'

/-- The comments of the entity were made as comments are. -/
def CommentsMade (e : Entity) : Prop :=
  ∀ m ∈ e.members, ∀ c, m.comment = some c → c.Made

/-- Looking up links keeps the comments of an entity well made. -/
lemma CommentsMade.bindLinks {e : Entity} (h : e.CommentsMade) (find : Finder) :
    (e.bindLinks find).CommentsMade := by
  intro m' hm' c' hc'
  obtain ⟨m, hm, rfl⟩ := List.mem_map.1 hm'
  obtain ⟨c, hc, rfl⟩ := Option.map_eq_some_iff.1 hc'
  exact (h m hm c hc).bindLinks find

/-- **Looking up the links of an entity does nothing else.** -/
lemma linksBound_bindLinks {e : Entity} (h : e.CommentsMade) (find : Finder) :
    e.LinksBound find (e.bindLinks find) := by
  refine ⟨e.members.map (Member.bindLinks find), rfl, ?_⟩
  rw [List.forall₂_map_right_iff, List.forall₂_same]
  intro m hm
  refine ⟨m.comment.map (Comment.bindLinks find), rfl, ?_⟩
  cases hcomment : m.comment with
  | none => exact .none
  | some c => exact .some ((h m hm c hcomment).linksBound find)

end Entity

end DocComments
