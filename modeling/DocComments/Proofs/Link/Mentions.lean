import DocComments.Proofs.Link.Binding
import Mathlib.Data.List.Nodup

set_option autoImplicit false

/-!
# The links of a document in order

The links of a document that are reached, in the order in which they are looked up: the entities in
document order, the members of each in their order, and the nodes of each comment in document order.

## Main definitions

* `Mention` — a link with its place in a document.
* `Mention.StandsIn` — the link is reached in a document.
* `Mention.Precedes` — of two links of a document, one comes before the other.
* `Document.mentions` — the links of a document in order.
* `Mention.Warned` — the warning for a link whose name was not found.

## Main results

* `Entity.mem_mentions_iff`, `Entity.nodup_mentions`, `Entity.pairwise_mentions` — the links of an
  entity, each once and in order.
* `Entity.forall₂_linkProblems` — the problems of an entity are those of its links that were not
  found, in the same order.
-/

namespace DocComments

/-- A link with its place in a document. -/
structure Mention where
  /-- The index of the entity. -/
  entity : Nat
  /-- The index of the member whose comment has the link. -/
  member : Nat
  /-- The node in that comment. -/
  node : Nat
  /-- The qualified name of the member. -/
  qualifiedName : String
  position : Position
  name : List Char
  target : Comment.Target

namespace Mention

/-- The link is the one at its place in a member. -/
def StandsAt (l : Mention) (m : Member) : Prop :=
  l.qualifiedName = m.qualifiedName ∧ ∃ c, m.comment = some c ∧ c.Reaches 0 l.node ∧
    c.node? l.node = some (.link l.name l.target) ∧ l.position = c.position l.node

/-- The link is reached in the document, at its place. -/
def StandsIn (l : Mention) (d : Document) : Prop :=
  ∃ e m, d.get? l.entity = some e ∧ e.members[l.member]? = some m ∧ l.StandsAt m

/-- Of two links in the comment of a member, one comes before the other. -/
def PrecedesInMember (m : Member) (l l' : Mention) : Prop :=
  ∃ c, m.comment = some c ∧ c.Precedes l.node l'.node

/-- Of two links in the comments of an entity, one comes before the other: its member does, or the
members are the same and it does in the comment. -/
def PrecedesInEntity (e : Entity) (l l' : Mention) : Prop :=
  l.member < l'.member ∨ (l.member = l'.member ∧
    ∃ m, e.members[l.member]? = some m ∧ PrecedesInMember m l l')

/-- Of two links of a document, one comes before the other: its entity does, or the entities are the
same and it does in the comments of the entity. -/
def Precedes (d : Document) (l l' : Mention) : Prop :=
  d.entities.Precedes l.entity l'.entity ∨ (l.entity = l'.entity ∧
    ∃ e, d.get? l.entity = some e ∧ PrecedesInEntity e l l')

/-- The warning for a link whose name was not found. -/
def Warned (find : Nat → Finder) (l : Mention) (p : Diagnostic) : Prop :=
  ∃ e, find l.entity l.name = .error e ∧
    p = Diagnostic.warning l.qualifiedName l.position e.message

end Mention

/-- The link at a node of a comment. -/
def Comment.mention? (entity member : Nat) (qualifiedName : String) (c : Comment) (id : Nat) :
    Option Mention :=
  match c.node? id with
  | some (.link name target) =>
    some { entity, member, node := id, qualifiedName, position := c.position id, name, target }
  | _ => none

/-- The links in the comment of a member, in document order. -/
def Member.mentions (entity member : Nat) (m : Member) : List Mention :=
  match m.comment with
  | none => []
  | some c => (c.preorder 0).filterMap (c.mention? entity member m.qualifiedName)

/-- The links in the comments of an entity, member by member. -/
def Entity.mentions (entity : Nat) (e : Entity) : List Mention :=
  e.members.zipIdx.flatMap fun x => x.1.mentions entity x.2

/-- The links of the entity with a given index. -/
def Document.mentionsOf (d : Document) (i : Nat) : List Mention :=
  match d.get? i with
  | some e => e.mentions i
  | none => []

/-- The links of a document, entity by entity. -/
def Document.mentions (d : Document) : List Mention :=
  d.preorder.flatMap d.mentionsOf

/-! ## Each link once and in order -/

/-- Lists with different keys have nothing in common. -/
lemma nodup_flatMap_of_key {α β κ : Type} {xs : List α} {f : α → List β} (k : α → κ) (key : β → κ)
    (hkeys : (xs.map k).Nodup) (hf : ∀ x ∈ xs, (f x).Nodup) (hkey : ∀ x, ∀ y ∈ f x, key y = k x) :
    (xs.flatMap f).Nodup := by
  refine List.nodup_flatMap.2 ⟨hf, ?_⟩
  apply (List.pairwise_map.1 hkeys).imp
  intro x x' hne y hy hy'
  exact hne ((hkey x y hy).symm.trans (hkey x' y hy'))

namespace Comment

variable {c : Comment} {entity member id : Nat} {qualifiedName : String} {l : Mention}

/-- A node gives the mention of a link, at its place, exactly if it is that link. -/
lemma mention?_eq_some_iff : mention? entity member qualifiedName c id = some l ↔
    (l.entity = entity ∧ l.member = member ∧ l.node = id ∧ l.qualifiedName = qualifiedName) ∧
      c.node? id = some (.link l.name l.target) ∧ l.position = c.position id := by
  unfold mention?
  constructor
  · intro h
    split at h
    · rename_i name target hnode
      cases h
      exact ⟨⟨rfl, rfl, rfl, rfl⟩, hnode, rfl⟩
    · cases h
  · rintro ⟨⟨rfl, rfl, rfl, rfl⟩, hnode, hposition⟩
    rw [hnode, ← hposition]

end Comment

namespace Member

variable {m : Member} {entity member : Nat} {l : Mention}

/-- The links of a member are at its place. -/
lemma place_of_mem_mentions (h : l ∈ m.mentions entity member) :
    l.entity = entity ∧ l.member = member := by
  unfold mentions at h
  split at h
  · cases h
  · obtain ⟨id, -, hl⟩ := List.mem_filterMap.1 h
    obtain ⟨⟨hentity, hmember, -⟩, -⟩ := Comment.mention?_eq_some_iff.1 hl
    exact ⟨hentity, hmember⟩

/-- The mentions of a member are those of the links that stand in its comment. -/
lemma mem_mentions_iff (h : ∀ c, m.comment = some c → c.Made) :
    l ∈ m.mentions entity member ↔ l.entity = entity ∧ l.member = member ∧ l.StandsAt m := by
  unfold mentions Mention.StandsAt
  cases hcomment : m.comment with
  | none => simp
  | some c =>
    have hmade := h c hcomment
    rw [List.mem_filterMap]
    constructor
    · rintro ⟨id, hid, hl⟩
      obtain ⟨⟨hentity, hmember, rfl, hname⟩, hnode, hposition⟩ :=
        Comment.mention?_eq_some_iff.1 hl
      rw [hmade.ordered.mem_preorder_iff hmade.size_pos] at hid
      exact ⟨hentity, hmember, hname, c, rfl, hid, hnode, hposition⟩
    · rintro ⟨hentity, hmember, hname, c', hc', hreaches, hnode, hposition⟩
      cases hc'
      refine ⟨l.node, (hmade.ordered.mem_preorder_iff hmade.size_pos).2 hreaches, ?_⟩
      exact Comment.mention?_eq_some_iff.2 ⟨⟨hentity, hmember, rfl, hname⟩, hnode, hposition⟩

/-- Each link of a member is mentioned once. -/
lemma nodup_mentions (h : ∀ c, m.comment = some c → c.Made) :
    (m.mentions entity member).Nodup := by
  unfold mentions
  cases hcomment : m.comment with
  | none => exact List.nodup_nil
  | some c =>
    apply ((h c hcomment).ordered.nodup_preorder 0).filterMap
    intro id id' l hl hl'
    obtain ⟨⟨-, -, hid, -⟩, -⟩ := Comment.mention?_eq_some_iff.1 (Option.mem_def.1 hl)
    obtain ⟨⟨-, -, hid', -⟩, -⟩ := Comment.mention?_eq_some_iff.1 (Option.mem_def.1 hl')
    exact hid.symm.trans hid'

/-- The links of a member are mentioned in document order. -/
lemma pairwise_mentions (h : ∀ c, m.comment = some c → c.Made) :
    (m.mentions entity member).Pairwise (Mention.PrecedesInMember m) := by
  unfold mentions
  cases hcomment : m.comment with
  | none => exact .nil
  | some c =>
    have hmade := h c hcomment
    rw [List.pairwise_filterMap]
    apply (hmade.ordered.pairwise_preorder hmade.size_pos).imp
    intro id id' hprecedes l hl l' hl'
    obtain ⟨⟨-, -, rfl, -⟩, -⟩ := Comment.mention?_eq_some_iff.1 hl
    obtain ⟨⟨-, -, rfl, -⟩, -⟩ := Comment.mention?_eq_some_iff.1 hl'
    exact ⟨c, hcomment, hprecedes⟩

end Member

namespace Entity

variable {e : Entity} {entity : Nat} {l : Mention}

/-- **The links of an entity are those that are reached in its comments.** -/
lemma mem_mentions_iff (h : e.CommentsMade) :
    l ∈ e.mentions entity ↔
      l.entity = entity ∧ ∃ m, e.members[l.member]? = some m ∧ l.StandsAt m := by
  rw [mentions, List.mem_flatMap]
  constructor
  · rintro ⟨⟨m, k⟩, hmem, hl⟩
    have hm := List.mem_zipIdx_iff_getElem?.1 hmem
    obtain ⟨hentity, hmember, hstands⟩ :=
      (Member.mem_mentions_iff (h m (List.mem_of_getElem? hm))).1 hl
    exact ⟨hentity, m, by rw [hmember, hm], hstands⟩
  · rintro ⟨hentity, m, hm, hstands⟩
    refine ⟨(m, l.member), List.mem_zipIdx_iff_getElem?.2 hm, ?_⟩
    exact (Member.mem_mentions_iff (h m (List.mem_of_getElem? hm))).2 ⟨hentity, rfl, hstands⟩

/-- **No link of an entity is listed twice.** -/
lemma nodup_mentions (h : e.CommentsMade) : (e.mentions entity).Nodup := by
  apply nodup_flatMap_of_key (fun x : Member × Nat => x.2) Mention.member
  · rw [List.zipIdx_map_snd]
    exact List.nodup_range'
  · rintro ⟨m, k⟩ hmem
    exact Member.nodup_mentions (h m (List.mem_of_getElem? (List.mem_zipIdx_iff_getElem?.1 hmem)))
  · rintro ⟨m, k⟩ l hl
    exact (Member.place_of_mem_mentions hl).2

/-- **The links of an entity are listed in order.** -/
lemma pairwise_mentions (h : e.CommentsMade) :
    (e.mentions entity).Pairwise (Mention.PrecedesInEntity e) := by
  refine List.pairwise_flatMap.2 ⟨?_, ?_⟩
  · rintro ⟨m, k⟩ hmem
    have hm := List.mem_zipIdx_iff_getElem?.1 hmem
    apply (Member.pairwise_mentions (h m (List.mem_of_getElem? hm))).imp_of_mem
    intro l l' hl hl' hprecedes
    obtain ⟨-, hmember⟩ := Member.place_of_mem_mentions hl
    obtain ⟨-, hmember'⟩ := Member.place_of_mem_mentions hl'
    exact .inr ⟨hmember.trans hmember'.symm, m, by rw [hmember, hm], hprecedes⟩
  · have hindices : (e.members.zipIdx.map Prod.snd).Pairwise (· < ·) := by
      rw [List.zipIdx_map_snd]
      exact List.pairwise_lt_range'
    apply (List.pairwise_map.1 hindices).imp
    rintro ⟨m, k⟩ ⟨m', k'⟩ hlt l hl l' hl'
    obtain ⟨-, hmember⟩ := Member.place_of_mem_mentions hl
    obtain ⟨-, hmember'⟩ := Member.place_of_mem_mentions hl'
    left
    rw [hmember, hmember']
    exact hlt

end Entity

/-! ## Links and problems -/

/-- Lists that are related piece by piece. -/
lemma forall₂_flatMap {α β γ : Type} {R : β → γ → Prop} {xs : List α} {f : α → List β}
    {g : α → List γ} (h : ∀ x ∈ xs, List.Forall₂ R (f x) (g x)) :
    List.Forall₂ R (xs.flatMap f) (xs.flatMap g) := by
  induction xs with
  | nil => exact .nil
  | cons x xs ih =>
    rw [List.flatMap_cons, List.flatMap_cons]
    exact List.rel_append (h x List.mem_cons_self) (ih fun y hy => h y (List.mem_cons_of_mem _ hy))

/-- All nodes may be asked for problems, because only links have one. -/
lemma Comment.linkProblems_eq (find : Finder) (entity : String) (c : Comment) :
    linkProblems find entity c = (c.preorder 0).filterMap fun id =>
      ((c.node? id).bind (Node.problem? find)).map fun e =>
        Diagnostic.warning entity (c.position id) e.message := by
  rw [linkProblems, links, List.filterMap_filter]
  apply List.filterMap_congr
  intro id _
  cases c.node? id with
  | none => rfl
  | some node =>
    cases node with
    | link name target => rfl
    | _ => rfl

section Problems

variable (find : Nat → Finder) (entity : Nat)

/-- A node is warned about if it is a link that stays unresolved. -/
lemma forall₂_problem (member : Nat) (qualifiedName : String) {c : Comment} {id : Nat}
    (hid : id ∈ c.preorder 0) :
    List.Forall₂ (Mention.Warned find)
      (((Comment.bindLinks (find entity) c).mention? entity member qualifiedName id).toList.filter
        (·.target == .unresolved))
      (((c.node? id).bind (Comment.Node.problem? (find entity))).map fun e =>
        Diagnostic.warning qualifiedName (c.position id) e.message).toList := by
  have hlink : id ∈ Comment.links c ↔ (c.node? id).any Comment.Node.isLink = true := by
    rw [Comment.links, List.mem_filter]
    exact and_iff_right hid
  unfold Comment.mention?
  rw [Comment.node?_bindLinks, Comment.position_bindLinks]
  cases hnode : c.node? id with
  | none => simp
  | some node =>
    cases node with
    | link name target =>
      have hmem : id ∈ Comment.links c := by
        rw [hlink, hnode]
        rfl
      rw [if_pos hmem, Option.map_some, Comment.Node.bind]
      by_cases hautomatic : target.isAutomatic = true
      · cases hfind : find entity name with
        | ok dest =>
          simp [hautomatic, Comment.Node.problem?, Comment.Target.ofResult, hfind]
        | error e =>
          simp [hautomatic, Comment.Node.problem?, Comment.Target.ofResult, hfind, Mention.Warned]
      · -- a link with a written target is neither bound nor unresolved
        have hwritten : target ≠ .unresolved := by
          rintro rfl
          exact hautomatic rfl
        simp [hautomatic, Comment.Node.problem?, hwritten]
    | _ => simp [Comment.Node.bind, Comment.Node.problem?]

/-- The problems of a member are those of its links that were not found, in the same order. -/
lemma Member.forall₂_linkProblems (member : Nat) (m : Member) :
    List.Forall₂ (Mention.Warned find)
      (((m.bindLinks (find entity)).mentions entity member).filter (·.target == .unresolved))
      (m.linkProblems (find entity)) := by
  unfold Member.mentions Member.bindLinks Member.linkProblems
  cases m.comment with
  | none => exact .nil
  | some c =>
    simp only [Option.map_some, Comment.linkProblems_eq, Comment.preorder_bindLinks,
      List.filterMap_eq_flatMap_toList, List.filter_flatMap]
    apply forall₂_flatMap
    intro id hid
    exact forall₂_problem find entity member m.qualifiedName hid

/-- **The problems of an entity are those of its links that were not found**, in the same order. -/
lemma Entity.forall₂_linkProblems (e : Entity) :
    List.Forall₂ (Mention.Warned find)
      (((e.bindLinks (find entity)).mentions entity).filter (·.target == .unresolved))
      (e.linkProblems (find entity)) := by
  have hindexed : e.linkProblems (find entity)
      = e.members.zipIdx.flatMap fun x => x.1.linkProblems (find entity) := by
    rw [Entity.linkProblems]
    nth_rewrite 1 [← List.zipIdx_map_fst 0 e.members]
    rw [List.flatMap_map]
  rw [hindexed, Entity.mentions, Entity.bindLinks, List.zipIdx_map, List.flatMap_map,
    List.filter_flatMap]
  apply forall₂_flatMap
  rintro ⟨m, k⟩ -
  exact m.forall₂_linkProblems find entity k

end Problems

end DocComments
