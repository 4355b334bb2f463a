import DocComments.Proofs.Arena.Contents
import DocComments.Proofs.Arena.Ordered
import DocComments.Proofs.Link.Declared
import Mathlib.Data.List.Pairwise

set_option autoImplicit false

/-!
# Ids that are repeated, and ids that are registered

A document can be registered unless an id is repeated in it, and what is reported then is the first
entity, in document order, whose id was taken by an entity before it. If the document is registered,
every id has one entry, the id of an entity leads to the anchor of that entity and to nothing else, and
nothing is registered that is not the name of an entity, of a member or of a part. Entities may have
been changed in any way before that; the tree they make stays the one that was assembled.

## Main definitions

* `Document.Revised` — a document that was assembled and possibly changed.
* `Document.Counts` — an entity that is not excluded.
* `Document.Takes` — some of the entities have an id.
* `Document.collisionAt` — what is reported about an entity.
* `Entity.HasName` — the names that an entity is registered under.

## Main results

* `Listing.repeated?_eq_some` — the first listing whose id was taken before.
* `Document.nodup_ids_iff` — no id is repeated among the entities that count.
* `Document.exists_of_register_eq_error` — which entity is reported.
* `Document.nodup_long`, `Document.exists_hasName_of_mem_long`, `Document.mem_long_anchor` — what is
  registered.
* `register_keeps_ids_apart` — when a document is registered, and what then.
-/

namespace DocComments

open Markup (TextReader)

namespace Document

/-! ## Documents that were changed -/

/-- A document that was assembled, with any reader of its comments, and of which entities were
possibly changed. An entity may be changed in any way; the tree stays as it is. -/
inductive Revised : Document → Prop where
  | assembled (settings : Settings) (reader : TextReader) (id : String) (root : Declaration) :
    Revised (assemble settings id root reader).1
  | modify {d : Document} (i : Nat) (f : Entity → Entity) : Revised d → Revised (d.modify i f)

/-- **All entities are visited, in the order of their slots.** -/
lemma Revised.preorder_eq {d : Document} (h : d.Revised) :
    d.preorder = List.range d.entities.size := by
  induction h with
  | assembled settings reader id root =>
    obtain ⟨top, ts, hd, -⟩ := exists_tree_assemble settings reader id root
    rw [preorder, hd, Arena.preorder_ofRose, Arena.size_ofRose]
  | @modify d i f _ ih =>
    have hsize : (d.modify i f).entities.size = d.entities.size := Arena.size_modifyValue _ _ _
    rw [hsize, ← ih]
    exact Arena.preorder_congr hsize (fun j => Arena.children_modifyValue _ _ j _) 0

/-- No entity is visited twice. -/
lemma Revised.nodup_preorder {d : Document} (h : d.Revised) : d.preorder.Nodup := by
  rw [h.preorder_eq]
  exact List.nodup_range

/-- Every entity is visited. -/
lemma Revised.mem_preorder {d : Document} (h : d.Revised) {i : Nat} {e : Entity}
    (he : d.get? i = some e) : i ∈ d.preorder := by
  obtain ⟨s, hs, -⟩ := Option.map_eq_some_iff.1 he
  rw [h.preorder_eq, List.mem_range]
  exact Arena.lt_size_of_slots hs

/-! ## Entities that count -/

/-- The entity with this index counts: it is not excluded. -/
def Counts (d : Document) (i : Nat) (e : Entity) : Prop :=
  d.get? i = some e ∧ e.excluded = false

/-- One of the entities with these indices counts and has the id. -/
def Takes (d : Document) (ids : List Nat) (uniqueId : String) : Prop :=
  ∃ i ∈ ids, ∃ e, d.Counts i e ∧ e.uniqueId = uniqueId

/-- The listing of an entity that counts. -/
def listing? (d : Document) (i : Nat) : Option Listing :=
  match d.get? i with
  | some entity => if entity.excluded then none else some { entity, anchor := d.anchor? i }
  | none => none

/-- The listings of a document, entity by entity. -/
lemma listings_eq (d : Document) : d.listings = d.preorder.filterMap d.listing? := rfl

/-- The entities that count are listed, with their anchors. -/
lemma listing?_eq_some_iff {d : Document} {i : Nat} {l : Listing} :
    d.listing? i = some l ↔ d.Counts i l.entity ∧ l.anchor = d.anchor? i := by
  obtain ⟨entity, anchor⟩ := l
  unfold listing? Counts
  cases d.get? i with
  | none => simp
  | some e =>
    cases he : e.excluded with
    | true => grind
    | false => grind

/-- The ids of listings are those that are taken. -/
lemma mem_ids_iff {d : Document} {ids : List Nat} {uniqueId : String} :
    uniqueId ∈ (ids.filterMap d.listing?).map (·.entity.uniqueId) ↔ d.Takes ids uniqueId := by
  simp only [List.mem_map, List.mem_filterMap, Takes]
  constructor
  · rintro ⟨l, ⟨i, hi, hl⟩, hid⟩
    exact ⟨i, hi, l.entity, (listing?_eq_some_iff.1 hl).1, hid⟩
  · rintro ⟨i, hi, e, he, hid⟩
    exact ⟨⟨e, d.anchor? i⟩, ⟨i, hi, listing?_eq_some_iff.2 ⟨he, rfl⟩⟩, hid⟩

/-- **No id is repeated among the listings** if different entities that count have different ids. -/
lemma nodup_ids_iff {d : Document} {ids : List Nat} (hids : ids.Nodup) :
    ((ids.filterMap d.listing?).map (·.entity.uniqueId)).Nodup ↔
      ∀ i ∈ ids, ∀ j ∈ ids, ∀ e e', i ≠ j → d.Counts i e → d.Counts j e' →
        e.uniqueId ≠ e'.uniqueId := by
  rw [List.Nodup, List.pairwise_map, List.pairwise_filterMap]
  constructor
  · intro hpairwise i hi j hj e e' hne he he'
    let differ (i j : Nat) : Prop := ∀ e e', d.Counts i e → d.Counts j e' →
      e.uniqueId ≠ e'.uniqueId
    have hsymm : Std.Symm differ := ⟨fun i j h e e' he he' => (h e' e he' he).symm⟩
    have hdiffer : ids.Pairwise differ := by
      apply hpairwise.imp
      intro i j hij e e' he he'
      exact hij ⟨e, d.anchor? i⟩ (listing?_eq_some_iff.2 ⟨he, rfl⟩) ⟨e', d.anchor? j⟩
        (listing?_eq_some_iff.2 ⟨he', rfl⟩)
    exact hdiffer.forall hi hj hne e e' he he'
  · intro h
    apply hids.imp_of_mem
    intro i j hi hj hne l hl l' hl'
    exact h i hi j hj _ _ hne (listing?_eq_some_iff.1 hl).1 (listing?_eq_some_iff.1 hl').1

end Document

/-! ## The entity that is reported -/

/-- **The first listing whose id was taken before**: the ids of the listings before it are new and
differ from each other. -/
lemma Listing.repeated?_eq_some {seen : List String} {ls : List Listing} {l : Listing}
    (h : Listing.repeated? seen ls = some l) :
    ∃ front back, ls = front ++ l :: back ∧
      (l.entity.uniqueId ∈ seen ∨ l.entity.uniqueId ∈ front.map (·.entity.uniqueId)) ∧
      (front.map (·.entity.uniqueId)).Nodup ∧ ∀ l' ∈ front, l'.entity.uniqueId ∉ seen := by
  induction ls generalizing seen with
  | nil => cases h
  | cons first ls ih =>
    rw [Listing.repeated?] at h
    split at h
    · rename_i hseen
      cases h
      exact ⟨[], ls, rfl, .inl hseen, by simp, by simp⟩
    · rename_i hnew
      obtain ⟨front, back, rfl, htaken, hnodup, hfront⟩ := ih h
      refine ⟨first :: front, back, rfl, ?_, ?_, ?_⟩
      · rcases htaken with hseen | hfront'
        · rcases List.mem_cons.1 hseen with hfirst | hseen
          · exact .inr (by simp [hfirst])
          · exact .inl hseen
        · exact .inr (List.mem_cons_of_mem _ hfront')
      · rw [List.map_cons, List.nodup_cons]
        refine ⟨fun hmem => ?_, hnodup⟩
        obtain ⟨l', hl', heq⟩ := List.mem_map.1 hmem
        exact hfront l' hl' (by simp [heq])
      · intro l' hl'
        rcases List.mem_cons.1 hl' with rfl | hl'
        · exact hnew
        · exact fun hseen => hfront l' hl' (List.mem_cons_of_mem _ hseen)

namespace Document

/-- The collision that is reported for an entity: its id, its qualified name, and the position of its
first member. -/
def collisionAt (d : Document) (e : Entity) : Collision :=
  { document := d.id, uniqueId := e.uniqueId, entity := e.qualifiedName,
    position := (e.members.head?.map (·.position)).getD {} }

/-- **Which entity is reported**: one whose id is taken before it, and no entity before it is such.

**Proof sketch.** The listings are those of the entities in document order. So the listings before
the one that is reported are those of the entities before its entity. -/
lemma exists_of_register_eq_error {d : Document} {c : Collision} (h : d.register = .error c) :
    ∃ front i back e, d.preorder = front ++ i :: back ∧ d.Counts i e ∧
      d.Takes front e.uniqueId ∧
      (∀ front' j back' e', front = front' ++ j :: back' → d.Counts j e' →
        ¬ d.Takes front' e'.uniqueId) ∧
      c = d.collisionAt e := by
  unfold register at h
  simp only at h
  split at h
  · rename_i l hrepeated
    cases h
    obtain ⟨lfront, lback, hlistings, htaken, hnodup, -⟩ := Listing.repeated?_eq_some hrepeated
    rw [listings_eq, List.filterMap_eq_append_iff] at hlistings
    obtain ⟨before, rest, hpreorder, rfl, hrest⟩ := hlistings
    obtain ⟨skipped, i, back, rfl, hskipped, hi, -⟩ := List.filterMap_eq_cons_iff.1 hrest
    have hfront : (before ++ skipped).filterMap d.listing? = before.filterMap d.listing? := by
      rw [List.filterMap_append, List.filterMap_eq_nil_iff.2 hskipped, List.append_nil]
    rw [← hfront] at htaken hnodup
    refine ⟨before ++ skipped, i, back, l.entity, by rw [hpreorder, List.append_assoc],
      (listing?_eq_some_iff.1 hi).1, ?_, ?_, rfl⟩
    · rcases htaken with hnil | htaken
      · cases hnil
      · exact mem_ids_iff.1 htaken
    · intro front' j back' e' heq he' htakes
      have hj : d.listing? j = some ⟨e', d.anchor? j⟩ := listing?_eq_some_iff.2 ⟨he', rfl⟩
      rw [heq, List.filterMap_append, List.filterMap_cons, hj, List.map_append,
        List.nodup_append] at hnodup
      exact hnodup.2.2 _ (mem_ids_iff.2 htakes) _ (by simp) rfl
  · cases h

end Document

/-! ## What is registered -/

/-- The name is one that the entity is registered under: its own id, a name of a member, or the id of
a part. -/
def Entity.HasName (e : Entity) (name : String) : Prop :=
  name = e.uniqueId ∨ (∃ m ∈ e.members, name = m.uniqueId ∨ name = m.qualifiedName) ∨
    ∃ part ∈ e.inlines, name = part.uniqueId

/-- The keys that are kept differ from each other. -/
lemma nodup_keepNew (seen : List String) (entries : List (String × String)) :
    ((keepNew seen entries).map Prod.fst).Nodup := by
  induction entries generalizing seen with
  | nil => simp [keepNew]
  | cons entry entries ih =>
    obtain ⟨key, value⟩ := entry
    rw [keepNew]
    split
    · exact ih seen
    · rw [List.map_cons, List.nodup_cons]
      refine ⟨fun hmem => ?_, ih _⟩
      obtain ⟨e, he, heq⟩ := List.mem_map.1 hmem
      exact (mem_of_mem_keepNew he).2 (by simp [heq])

/-- Entities are listed under their own ids, at most once each. -/
lemma Listing.sublist_own (ls : List Listing) :
    ((ls.flatMap (·.own)).map Prod.fst).Sublist (ls.map (·.entity.uniqueId)) := by
  induction ls with
  | nil => simp
  | cons l ls ih =>
    rw [List.flatMap_cons, List.map_append, List.map_cons, Listing.own]
    cases l.anchor with
    | none => exact ih.cons _
    | some anchor => exact ih.cons_cons _

/-- What a listing brings in besides its own id are names of its entity, with its anchor, and ids of
parts, with themselves. -/
lemma Listing.mem_others {l : Listing} {key anchor : String} (h : (key, anchor) ∈ l.others) :
    l.entity.HasName key ∧ (l.anchor = some anchor ∨ anchor = key) := by
  unfold Listing.others at h
  split at h
  · cases h
  · rename_i own hown
    rcases List.mem_append.1 h with hname | hpart
    · obtain ⟨name, hmember, heq⟩ := List.mem_map.1 hname
      cases heq
      obtain ⟨m, hm, hmember⟩ := List.mem_flatMap.1 hmember
      exact ⟨.inr (.inl ⟨m, hm, by simpa using hmember⟩), .inl hown⟩
    · obtain ⟨part, hinline, heq⟩ := List.mem_map.1 hpart
      cases heq
      exact ⟨.inr (.inr ⟨part, hinline, rfl⟩), .inr rfl⟩

namespace Document

/-- A documented entity is its own anchor. -/
lemma anchor?_of_isDocumented {d : Document} {i : Nat} {e : Entity} (he : d.get? i = some e)
    (hdocumented : e.isDocumented = true) : d.anchor? i = some e.uniqueId := by
  obtain ⟨s, hs, -⟩ := Option.map_eq_some_iff.1 he
  obtain ⟨n, hn⟩ := Nat.exists_eq_add_one_of_ne_zero (Nat.ne_zero_of_lt (Arena.lt_size_of_slots hs))
  rw [anchor?, hn, anchorFrom?, he]
  simp [hdocumented]

section Registered

variable {d : Document} {x : Registration} (h : d.register = .ok x)

include h

/-- **Every key is registered once.** -/
lemma nodup_long : (x.long.map Prod.fst).Nodup := by
  obtain ⟨-, hnodup, hlong⟩ := register_eq_ok h
  rw [hlong, List.map_append, List.nodup_append]
  refine ⟨(Listing.sublist_own _).nodup hnodup, nodup_keepNew _ _, ?_⟩
  intro id hid key hkey heq
  obtain ⟨e, he, rfl⟩ := List.mem_map.1 hkey
  have hseen := (Listing.sublist_own d.listings).subset hid
  exact (mem_of_mem_keepNew he).2 (heq ▸ hseen)

/-- **The id of an entity is registered with the anchor of the entity.** -/
lemma mem_long_anchor {i : Nat} {e : Entity} {anchor : String} (hi : i ∈ d.preorder)
    (he : d.Counts i e) (hanchor : d.anchor? i = some anchor) : (e.uniqueId, anchor) ∈ x.long := by
  obtain ⟨-, -, hlong⟩ := register_eq_ok h
  rw [hlong]
  apply List.mem_append_left
  refine List.mem_flatMap.2 ⟨⟨e, d.anchor? i⟩, ?_, by simp [Listing.own, hanchor]⟩
  exact mem_listings.2 ⟨i, hi, he.1, he.2, rfl⟩

/-- **Every key is a name of an entity that counts**, and it leads to the anchor of that entity, or it
is the id of a part and leads to that part. -/
lemma exists_hasName_of_mem_long {key anchor : String} (hmem : (key, anchor) ∈ x.long) :
    ∃ i ∈ d.preorder, ∃ e, d.Counts i e ∧ e.HasName key ∧
      (d.anchor? i = some anchor ∨ anchor = key) := by
  obtain ⟨-, -, hlong⟩ := register_eq_ok h
  rw [hlong, List.mem_append] at hmem
  rcases hmem with hown | hother
  · obtain ⟨l, hl, hown⟩ := List.mem_flatMap.1 hown
    obtain ⟨i, hi, he, hkept, hanchor⟩ := mem_listings.1 hl
    unfold Listing.own at hown
    split at hown
    · cases hown
    · rename_i own hsome
      obtain ⟨rfl, rfl⟩ := Prod.mk.inj (List.mem_singleton.1 hown)
      exact ⟨i, hi, l.entity, ⟨he, hkept⟩, .inl rfl, .inl (hanchor ▸ hsome)⟩
  · obtain ⟨l, hl, hother⟩ := List.mem_flatMap.1 (mem_of_mem_keepNew hother).1
    obtain ⟨i, hi, he, hkept, hanchor⟩ := mem_listings.1 hl
    obtain ⟨hname, hanchor'⟩ := Listing.mem_others hother
    exact ⟨i, hi, l.entity, ⟨he, hkept⟩, hname, hanchor'.imp_left fun hsome => hanchor ▸ hsome⟩

/-- **Anchors lead to themselves** if no file is excluded: an anchor is the id of an entity that
counts and is its own anchor. -/
lemma mem_long_self (hvisited : ∀ {i e}, d.get? i = some e → i ∈ d.preorder)
    (hfiles : ∀ i e, d.get? i = some e → e.kind = .file → e.excluded = false)
    {key anchor : String} (hmem : (key, anchor) ∈ x.long) : (anchor, anchor) ∈ x.long := by
  obtain ⟨i, -, e, -, -, hanchor | rfl⟩ := exists_hasName_of_mem_long h hmem
  · obtain ⟨j, e, he, hdocumented, rfl⟩ := exists_documented_of_anchor? hanchor
    have hkept : e.excluded = false := by
      rw [Entity.isDocumented, Bool.or_eq_true, beq_iff_eq, Bool.and_eq_true] at hdocumented
      rcases hdocumented with hfile | ⟨hkept, -⟩
      · exact hfiles j e he hfile
      · simpa using hkept
    exact mem_long_anchor h (hvisited he) ⟨he, hkept⟩ (anchor?_of_isDocumented he hdocumented)
  · exact hmem

end Registered

end Document

/-! ## Registering a document -/

/-- **When a document is registered, and what then.** Let a document be assembled and possibly
changed. It cannot be registered exactly if two different entities that count have the same id. What
is reported is then the first entity in document order whose id is that of an entity before it, both
of which count.

If the document is registered, every key has one entry. The id of an entity that counts has an entry
exactly if the entity has an anchor, which is what the entry leads to; so no name of a member and no
part takes the place of an id. Every key is the id of an entity that counts, a name of one of its
members, or the id of one of its parts. If no file is excluded, whatever a key leads to is a key that
leads to itself.

**Proof sketch.** The listings are those of the entities that count, in document order, and the first
one whose id was taken before is reported. The keys of the other names are kept only if they are new,
also with respect to all ids. An anchor is the id of a documented entity, which is its own anchor and
counts unless it is a file. -/
theorem register_keeps_ids_apart {d : Document} (h : d.Revised) :
    ((∃ c, d.register = .error c) ↔
      ∃ i ∈ d.preorder, ∃ j ∈ d.preorder, ∃ e e', i ≠ j ∧ d.Counts i e ∧ d.Counts j e' ∧
        e.uniqueId = e'.uniqueId) ∧
    (∀ c, d.register = .error c →
      ∃ front i back e, d.preorder = front ++ i :: back ∧ d.Counts i e ∧
        d.Takes front e.uniqueId ∧
        (∀ front' j back' e', front = front' ++ j :: back' → d.Counts j e' →
          ¬ d.Takes front' e'.uniqueId) ∧
        c = d.collisionAt e) ∧
    ∀ x, d.register = .ok x →
      (x.long.map Prod.fst).Nodup ∧
      (∀ i ∈ d.preorder, ∀ e, d.Counts i e → ∀ anchor,
        (e.uniqueId, anchor) ∈ x.long ↔ d.anchor? i = some anchor) ∧
      (∀ key anchor, (key, anchor) ∈ x.long →
        ∃ i ∈ d.preorder, ∃ e, d.Counts i e ∧ e.HasName key) ∧
      ((∀ i e, d.get? i = some e → e.kind = .file → e.excluded = false) →
        ∀ key anchor, (key, anchor) ∈ x.long → (anchor, anchor) ∈ x.long) := by
  have hdistinct := Document.nodup_ids_iff (d := d) h.nodup_preorder
  rw [← Document.listings_eq] at hdistinct
  refine ⟨⟨?_, ?_⟩, fun c hc => Document.exists_of_register_eq_error hc, fun x hx =>
    ⟨Document.nodup_long hx, ?_, ?_, ?_⟩⟩
  · rintro ⟨c, hc⟩
    obtain ⟨front, i, back, e, hpreorder, he, ⟨j, hj, e', he', hid⟩, -⟩ :=
      Document.exists_of_register_eq_error hc
    have hnodup := h.nodup_preorder
    rw [hpreorder, List.nodup_append] at hnodup
    exact ⟨i, by simp [hpreorder], j, by simp [hpreorder, hj], e, e',
      (hnodup.2.2 j hj i (by simp)).symm, he, he', hid.symm⟩
  · rintro ⟨i, hi, j, hj, e, e', hne, he, he', hid⟩
    cases hx : d.register with
    | error c => exact ⟨c, rfl⟩
    | ok x => exact absurd hid (hdistinct.1 (Document.register_eq_ok hx).2.1 i hi j hj e e' hne he he')
  · intro i hi e he anchor
    refine ⟨fun hmem => ?_, Document.mem_long_anchor hx hi he⟩
    have hl : (⟨e, d.anchor? i⟩ : Listing) ∈ d.listings :=
      Document.mem_listings.2 ⟨i, hi, he.1, he.2, rfl⟩
    exact Document.eq_anchor_of_mem_long hx hl hmem
  · intro key anchor hmem
    obtain ⟨i, hi, e, he, hname, -⟩ := Document.exists_hasName_of_mem_long hx hmem
    exact ⟨i, hi, e, he, hname⟩
  · intro hfiles key anchor hmem
    exact Document.mem_long_self hx h.mem_preorder hfiles hmem

/-- A file with a namespace, to which the id of the file was given. -/
def renamedNamespace : Document :=
  (assemble {} "d" namespaceFile).1.modify 1 fun e => { e with uniqueId := "f" }

/-- The namespace has the id of the file, so the document cannot be registered. -/
theorem register_keeps_ids_apart_renamedNamespace :
    renamedNamespace.Revised ∧ ∃ c, renamedNamespace.register = .error c := by
  have hrevised : renamedNamespace.Revised := .modify 1 _ (.assembled _ _ _ _)
  obtain ⟨e, he, hid⟩ : ∃ e, renamedNamespace.Counts 0 e ∧ e.uniqueId = "f" :=
    ⟨_, ⟨rfl, rfl⟩, rfl⟩
  obtain ⟨e', he', hid'⟩ : ∃ e, renamedNamespace.Counts 1 e ∧ e.uniqueId = "f" :=
    ⟨_, ⟨rfl, rfl⟩, rfl⟩
  refine ⟨hrevised, (register_keeps_ids_apart hrevised).1.2 ?_⟩
  exact ⟨0, by decide, 1, by decide, e, e', by decide, he, he', hid.trans hid'.symm⟩

end DocComments
