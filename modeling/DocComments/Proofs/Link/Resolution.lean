import DocComments.Proofs.Assembly.Comments
import DocComments.Proofs.Link.Destinations
import DocComments.Proofs.Link.Emptied
import DocComments.Proofs.Link.Mentions

set_option autoImplicit false

/-!
# What looking up links does

Looking up the links of a document gives a target to the links that have no written one, and leaves
everything else as it is. It warns about each of them whose name was not found. Since names are
found without reading comments, a second time changes nothing and gives the same warnings, for a
document and for all documents together.

## Main definitions

* `Document.Edited` — a document that was assembled and possibly changed.
* `Document.LinksBound` — the document in which every such link leads where its name was found, and
  which is the same otherwise.

## Main results

* `Document.WellMade.linksBound` — looking up the links of a document does nothing else.
* `Registry.resolve_resolve` — a second time changes nothing.
* `linkAll_linkAll` — the same for all documents together.
* `resolve_binds_links` — what looking up the links of a document does.
-/

namespace DocComments

open Markup (TextReader)

/-! ## Documents that were changed -/

/-- The comments of an assembled document were made as comments are. -/
lemma Comment.Prepared.made {c : Comment} (h : c.Prepared) : c.Made := by
  induction h with
  | parse settings reader entity raw =>
    rw [Comment.parse]
    exact .read _ _
  | detach id _ ih => exact ih.detach id
  | setText id value _ ih => exact ih.modifyNode id _

namespace Document

/-- Documents are equal if their ids and entities are. -/
lemma ext {d d' : Document} (hid : d.id = d'.id) (hentities : d.entities = d'.entities) :
    d = d' := by
  cases d
  cases d'
  cases hid
  cases hentities
  rfl

/-- A document that was assembled, with any reader of its comments, and of which entities were
possibly replaced. Any entity may come in, whatever its comments say and wherever their links lead;
the tree stays as it is. -/
inductive Edited : Document → Prop where
  | assembled (settings : Settings) (reader : TextReader) (id : String) (root : Declaration) :
    Edited (assemble settings id root reader).1
  | replace {d : Document} (i : Nat) (e : Entity) (he : e.CommentsMade) :
    Edited d → Edited (d.modify i fun _ => e)

/-- The entities make a tree in which all of them are reached in the order of their slots, and their
comments were made as comments are. -/
structure WellMade (d : Document) : Prop where
  ordered : d.entities.Ordered
  size_pos : 0 < d.entities.size
  preorder_eq : d.preorder = List.range d.entities.size
  made : ∀ {i e}, d.get? i = some e → e.CommentsMade

/-- Every entity of a document is visited. -/
lemma WellMade.mem_preorder {d : Document} (h : d.WellMade) {i : Nat} {e : Entity}
    (he : d.get? i = some e) : i ∈ d.preorder := by
  obtain ⟨s, hs, -⟩ := Option.map_eq_some_iff.1 he
  rw [h.preorder_eq, List.mem_range]
  exact Arena.lt_size_of_slots hs

/-- A changed entity, with comments that were made as comments are. -/
lemma WellMade.modify {d : Document} (h : d.WellMade) (i : Nat) {f : Entity → Entity}
    (hf : ∀ e, e.CommentsMade → (f e).CommentsMade) : (d.modify i f).WellMade := by
  have hsize : (d.modify i f).entities.size = d.entities.size := Arena.size_modifyValue _ _ _
  constructor
  · exact h.ordered.modifyValue i f
  · rw [hsize]
    exact h.size_pos
  · rw [hsize, ← h.preorder_eq]
    exact Arena.preorder_congr hsize (fun j => Arena.children_modifyValue _ _ j _) 0
  · intro j e he
    rw [get?_modify] at he
    split at he
    · obtain ⟨old, hold, rfl⟩ := Option.map_eq_some_iff.1 he
      exact hf old (h.made hold)
    · exact h.made he

/-- **A document that was changed is still well made.** -/
lemma Edited.wellMade {d : Document} (h : d.Edited) : d.WellMade := by
  induction h with
  | assembled settings reader id root =>
    obtain ⟨top, ts, hd, -⟩ := exists_tree_assemble settings reader id root
    constructor
    · rw [hd]
      exact Arena.ordered_ofRose _
    · rw [hd, Arena.size_ofRose]
      exact Rose.size_pos _
    · rw [preorder, hd, Arena.preorder_ofRose, Arena.size_ofRose]
    · intro i e he m hm c hc
      exact (prepared_assemble settings reader id root he m hm c hc).made
  | replace i e he _ ih => exact ih.modify i fun _ _ => he

end Document

/-! ## A second time -/

namespace Registry

variable (r : Registry) (d : Document)

/-- Looking up links changes the contents of several nodes. -/
lemma entities_resolve : (r.resolve d).1.entities = d.preorder.foldl
    (fun a id => a.modifyValue id (Entity.bindLinks (r.lookup d id))) d.entities := by
  have hfold : ∀ (ids : List Nat) (d' : Document),
      (ids.foldl (fun d' id => d'.modify id (Entity.bindLinks (r.lookup d id))) d').entities
        = ids.foldl (fun a id => a.modifyValue id (Entity.bindLinks (r.lookup d id)))
          d'.entities := by
    intro ids
    induction ids with
    | nil =>
      intro d'
      rfl
    | cons id ids ih =>
      intro d'
      rw [List.foldl_cons, ih, List.foldl_cons]
      rfl
  exact hfold d.preorder d

/-- The entities that are reached have their links looked up. -/
lemma get?_resolve_of_mem {i : Nat} (hi : i ∈ d.preorder) :
    (r.resolve d).1.get? i = (d.get? i).map (Entity.bindLinks (r.lookup d i)) := by
  have hidem : ∀ i (e : Entity), (e.bindLinks (r.lookup d i)).bindLinks (r.lookup d i)
      = e.bindLinks (r.lookup d i) := fun i e => e.bindLinks_bindLinks _
  rw [Document.get?, entities_resolve, Arena.value?_foldl_modifyValue hidem, if_pos hi]
  rfl

/-- **Looking up the links of a document a second time changes nothing**, and it gives the same
warnings.

**Proof sketch.** Names lead where they led before, because looking up links changes comments only.
The entities were bound with the same results, so binding them again does nothing. -/
theorem resolve_resolve : r.resolve (r.resolve d).1 = r.resolve d := by
  refine Prod.ext ?_ ?_
  · apply Document.ext (r.id_resolve _)
    rw [entities_resolve r (r.resolve d).1, r.lookup_resolve, r.preorder_resolve]
    apply Arena.foldl_modifyValue_eq_self
    intro i hi e he
    have hget : some e = (d.get? i).map (Entity.bindLinks (r.lookup d i)) :=
      he.symm.trans (r.get?_resolve_of_mem d hi)
    obtain ⟨old, -, rfl⟩ := Option.map_eq_some_iff.1 hget.symm
    exact old.bindLinks_bindLinks _
  · change List.flatMap _ (r.resolve d).1.preorder = List.flatMap _ d.preorder
    rw [r.lookup_resolve, r.preorder_resolve]
    refine List.flatMap_congr fun i hi => ?_
    rw [r.get?_resolve_of_mem d hi]
    cases d.get? i with
    | none => rfl
    | some e => exact e.linkProblems_bindLinks _

/-- The document with its links looked up if it is registered, else as it is. -/
def resolveRegistered : Document × List Diagnostic :=
  if r.isRegistered d.id then r.resolve d else (d, [])

/-- Whether it is registered or not, a second time changes nothing. -/
lemma resolveRegistered_resolveRegistered :
    r.resolveRegistered (r.resolveRegistered d).1 = r.resolveRegistered d := by
  by_cases hd : r.isRegistered d.id = true
  · have hfirst : r.resolveRegistered d = r.resolve d := if_pos hd
    rw [hfirst, resolveRegistered, id_resolve, if_pos hd, resolve_resolve]
  · have hfirst : r.resolveRegistered d = (d, []) := if_neg hd
    rw [hfirst, hfirst]

/-- Whether it is registered or not, it registers what it registered before. -/
lemma register_resolveRegistered : (r.resolveRegistered d).1.register = d.register := by
  unfold resolveRegistered
  split
  · exact r.register_resolve d
  · rfl

variable (documents : List Document)

/-- Documents are resolved one by one, each as it is registered. -/
lemma resolveAll_eq : r.resolveAll documents
    = (documents.map fun d => (r.resolveRegistered d).1,
      documents.flatMap fun d => (r.resolveRegistered d).2) := by
  simp only [resolveAll, List.map_map, List.flatMap_map]
  rfl

/-- Looking up the links of all registered documents a second time changes nothing. -/
lemma resolveAll_resolveAll :
    r.resolveAll (r.resolveAll documents).1 = r.resolveAll documents := by
  rw [resolveAll_eq, resolveAll_eq, List.map_map, List.flatMap_map]
  simp only [Function.comp_def, resolveRegistered_resolveRegistered]

/-- The registry of documents depends on what each of them registers. -/
lemma registerAll_map {f : Document → Document} (h : ∀ d, (f d).register = d.register) :
    r.registerAll (documents.map f) = r.registerAll documents := by
  induction documents generalizing r with
  | nil => rfl
  | cons d documents ih => simp only [List.map_cons, registerAll, register, h, ih]

end Registry

/-- **Linking documents a second time changes nothing**, and it gives the same collisions and the
same problems. -/
theorem linkAll_linkAll (documents : List Document) :
    linkAll (linkAll documents).documents = linkAll documents := by
  set r := (Registry.registerAll {} documents).1 with hr
  have hlinked : (linkAll documents).documents = (r.resolveAll documents).1 := rfl
  have hregistry : Registry.registerAll {} (r.resolveAll documents).1
      = Registry.registerAll {} documents := by
    rw [Registry.resolveAll_eq]
    exact Registry.registerAll_map {} documents r.register_resolveRegistered
  rw [hlinked, linkAll, hregistry, linkAll]
  simp only [← hr, Registry.resolveAll_resolveAll]

/-! ## The whole document -/

namespace Document

/-- In the second document the links of every entity are bound, as the registry finds their names
from that entity. Otherwise the documents are the same. -/
structure LinksBound (r : Registry) (d d' : Document) : Prop where
  id_eq : d'.id = d.id
  size_eq : d'.entities.size = d.entities.size
  parent?_eq : ∀ i, d'.entities.parent? i = d.entities.parent? i
  children_eq : ∀ i, d'.entities.children i = d.entities.children i
  entity : ∀ {i e}, d.get? i = some e →
    ∃ e', d'.get? i = some e' ∧ e.LinksBound (r.lookup d i) e'

namespace WellMade

variable {d : Document}

/-- **Resolving keeps a document well made.** -/
lemma resolve (h : d.WellMade) (r : Registry) : (r.resolve d).1.WellMade := by
  apply List.foldlRecOn (motive := WellMade)
  · exact h
  · intro d' hd' i _
    exact hd'.modify i fun e he => he.bindLinks _

/-- **Looking up the links of a document does nothing else.** -/
lemma linksBound (h : d.WellMade) (r : Registry) : d.LinksBound r (r.resolve d).1 := by
  constructor
  · exact r.id_resolve d
  · rw [r.entities_resolve, Arena.size_foldl_modifyValue]
  · intro i
    rw [r.entities_resolve, Arena.parent?_foldl_modifyValue]
  · intro i
    rw [r.entities_resolve, Arena.children_foldl_modifyValue]
  · intro i e he
    refine ⟨e.bindLinks (r.lookup d i), ?_, Entity.linksBound_bindLinks (h.made he) _⟩
    rw [r.get?_resolve_of_mem d (h.mem_preorder he), he]
    rfl

/-- The links of one entity. -/
lemma mem_mentionsOf_iff (h : d.WellMade) {i : Nat} {l : Mention} :
    l ∈ d.mentionsOf i ↔ l.entity = i ∧ l.StandsIn d := by
  unfold mentionsOf Mention.StandsIn
  cases he : d.get? i with
  | none =>
    constructor
    · intro hl
      cases hl
    · rintro ⟨rfl, e, m, he', -⟩
      rw [he] at he'
      cases he'
  | some e =>
    refine (Entity.mem_mentions_iff (h.made he)).trans (and_congr_right ?_)
    rintro rfl
    constructor
    · rintro ⟨m, hm, hstands⟩
      exact ⟨e, m, he, hm, hstands⟩
    · rintro ⟨e', m, he', hm, hstands⟩
      rw [he] at he'
      cases he'
      exact ⟨m, hm, hstands⟩

/-- **The links of a document are those that are reached.** -/
lemma mem_mentions_iff (h : d.WellMade) {l : Mention} : l ∈ d.mentions ↔ l.StandsIn d := by
  rw [mentions, List.mem_flatMap]
  constructor
  · rintro ⟨i, -, hl⟩
    exact (h.mem_mentionsOf_iff.1 hl).2
  · rintro ⟨e, m, he, hm⟩
    exact ⟨l.entity, h.mem_preorder he, h.mem_mentionsOf_iff.2 ⟨rfl, e, m, he, hm⟩⟩

/-- **No link of a document is listed twice.** -/
lemma nodup_mentions (h : d.WellMade) : d.mentions.Nodup := by
  apply nodup_flatMap_of_key (fun i : Nat => i) Mention.entity
  · rw [List.map_id']
    exact h.ordered.nodup_preorder 0
  · intro i _
    unfold mentionsOf
    split
    · rename_i e he
      exact Entity.nodup_mentions (h.made he)
    · exact List.nodup_nil
  · intro i l hl
    exact (h.mem_mentionsOf_iff.1 hl).1

/-- **The links of a document are listed in order.** -/
lemma pairwise_mentions (h : d.WellMade) : d.mentions.Pairwise (Mention.Precedes d) := by
  refine List.pairwise_flatMap.2 ⟨fun i _ => ?_, ?_⟩
  · unfold mentionsOf
    split
    · rename_i e he
      apply (Entity.pairwise_mentions (h.made he)).imp_of_mem
      intro l l' hl hl' hprecedes
      obtain ⟨rfl, -⟩ := (Entity.mem_mentions_iff (h.made he)).1 hl
      obtain ⟨hentity, -⟩ := (Entity.mem_mentions_iff (h.made he)).1 hl'
      exact .inr ⟨hentity.symm, e, he, hprecedes⟩
    · exact .nil
  · apply (h.ordered.pairwise_preorder h.size_pos).imp
    intro i i' hprecedes l hl l' hl'
    rw [← (h.mem_mentionsOf_iff.1 hl).1, ← (h.mem_mentionsOf_iff.1 hl').1] at hprecedes
    exact .inl hprecedes

end WellMade

/-- **The warnings are those about the links that were not found**, in the same order. -/
lemma forall₂_linkProblems (r : Registry) (d : Document) :
    List.Forall₂ (Mention.Warned (r.lookup d))
      ((r.resolve d).1.mentions.filter (·.target == .unresolved)) (r.resolve d).2 := by
  rw [mentions, r.preorder_resolve, List.filter_flatMap]
  apply forall₂_flatMap
  intro i hi
  rw [mentionsOf, r.get?_resolve_of_mem d hi]
  cases d.get? i with
  | none => exact .nil
  | some e => exact e.forall₂_linkProblems (r.lookup d) i

end Document

/-- **What looking up the links of a document does.** Let a document be assembled and possibly
changed, and let its links be looked up in any registry. The new document differs from the old one
only in the targets of links that have no written target and are reached: such a link leads where
its name was found, or nowhere if it was not found, wherever it led before. The links of the new
document are those that are reached, each listed once, in the order of the entities, of their members
and of their comments; and there is one warning for each of them that leads nowhere, in that order,
with the name of the member and the position of the link. Looking up the links of the new document in
the same registry gives that document and these warnings again, and linking documents together a
second time changes nothing either.

**Proof sketch.** A changed document still has its tree, and its comments are still trees, so what is
visited is what is reached, once and in order. A second time nothing is found elsewhere, because
names are found without reading comments. -/
theorem resolve_binds_links (r : Registry) {d : Document} (h : d.Edited) :
    d.LinksBound r (r.resolve d).1 ∧
    (∀ l, l ∈ (r.resolve d).1.mentions ↔ l.StandsIn (r.resolve d).1) ∧
    (r.resolve d).1.mentions.Nodup ∧
    (r.resolve d).1.mentions.Pairwise (Mention.Precedes (r.resolve d).1) ∧
    List.Forall₂ (Mention.Warned (r.lookup d))
      ((r.resolve d).1.mentions.filter (·.target == .unresolved)) (r.resolve d).2 ∧
    r.resolve (r.resolve d).1 = r.resolve d ∧
    ∀ documents, linkAll (linkAll documents).documents = linkAll documents := by
  have hnew := h.wellMade.resolve r
  refine ⟨h.wellMade.linksBound r, fun l => hnew.mem_mentions_iff, hnew.nodup_mentions,
    hnew.pairwise_mentions, ?_, ?_, ?_⟩
  · exact Document.forall₂_linkProblems r d
  · exact r.resolve_resolve d
  · exact linkAll_linkAll

/-- The entity of a file that has two links. The first one leads to where it is no longer found. -/
def staleEntity : Entity where
  kind := .file
  name := "f"
  qualifiedName := "f"
  uniqueId := "f"
  heading := "File f"
  group := none
  module := none
  excluded := false
  members := [{
    number := 1, qualifiedName := "f", uniqueId := "f", signature := "f", position := {}
    comment := some ((Comment.parse {} "f" "[f]() [g]()".toList).1.modifyNode 2 fun _ =>
      .link ['f'] (.resolved ⟨"old", "f"⟩)) }]
  inlines := []

/-- A file that was changed so that one of its links leads to where it is no longer found. -/
def staleFile : Document :=
  (assemble {} "a" { kind := .file, name := "f", qualifiedName := "f", signature := "f" }).1.modify 0
    fun _ => staleEntity

/-- The first link leads to the file itself afterwards, and the second one gets the only warning. -/
theorem resolve_binds_links_staleFile :
    staleFile.Edited ∧
    ((Registry.registerAll {} [staleFile]).1.resolve staleFile).1.mentions.map (·.target)
      = [.resolved ⟨"a", "f"⟩, .unresolved] ∧
    ((Registry.registerAll {} [staleFile]).1.resolve staleFile).2.length = 1 := by
  have hedited : staleFile.Edited := by
    apply Document.Edited.replace 0 staleEntity
    · intro m hm c hc
      rw [staleEntity, List.mem_singleton] at hm
      rw [hm] at hc
      rw [← Option.some.inj hc]
      exact (Comment.Prepared.parse {} Markup.events "f" _).made.modifyNode 2 _
    · exact .assembled _ _ _ _
  obtain ⟨-, -, -, -, hwarned, -⟩ :=
    resolve_binds_links (Registry.registerAll {} [staleFile]).1 hedited
  refine ⟨hedited, by decide +kernel, ?_⟩
  rw [← hwarned.length_eq]
  decide +kernel

end DocComments
