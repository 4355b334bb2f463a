import DocComments.Proofs.Comment.Unbound
import DocComments.Proofs.Link.Declared
import DocComments.Run

set_option autoImplicit false

/-!
# Destinations exist

In the documents that a run hands out, every link that was looked up and found leads to an anchor
that is really there: the id of a documented entity, or the id of a named part of an entity that is
not excluded. Its document is one of those that could be registered. The links of the other
documents are left alone.

## Main definitions

* `Document.HasAnchor` — an anchor is there in a document.
* `Document.HasTarget` — a link of a document leads to a target.

## Main results

* `Registry.get?_resolve` — the entities of a document whose links were looked up.
* `Document.hasAnchor_of_mem_long` — a document registers anchors that are there.
* `Registry.registerAll_eq_foldl` — the registry of the documents without a collision.
* `run_destinations_exist` — every destination exists.
-/

namespace DocComments

open Markup (TextReader)
open Comment (Unbound)

/-! ## Links that are looked up -/

namespace Comment

/-- Only what was found becomes a destination. -/
lemma destination?_bind {find : Finder} {node : Node} {dest : Destination}
    (h : (node.bind find).destination? = some dest) :
    node.destination? = some dest ∨ ∃ name, find name = .ok dest := by
  cases node with
  | link name target =>
    by_cases hautomatic : target.isAutomatic = true
    · rw [Node.bind, if_pos hautomatic] at h
      right
      refine ⟨name, ?_⟩
      cases hfind : find name with
      | error e =>
        rw [hfind] at h
        cases h
      | ok found =>
        rw [hfind] at h
        cases h
        rfl
    · rw [Node.bind, if_neg hautomatic] at h
      exact .inl h
  | _ => cases h

/-- **The destinations in a comment whose links were looked up were found.** -/
lemma exists_find_of_destination? {find : Finder} {c : Comment} (hc : Unbound c) {i : Nat}
    {node : Node} {dest : Destination} (hnode : (bindLinks find c).node? i = some node)
    (hdest : node.destination? = some dest) : ∃ name, find name = .ok dest := by
  have hall : (bindLinks find c).Forall fun p =>
      ∀ dest, p.value.destination? = some dest → ∃ name, find name = .ok dest := by
    apply List.foldlRecOn (motive := Arena.Forall fun p : Placed Node =>
      ∀ dest, p.value.destination? = some dest → ∃ name, find name = .ok dest)
    · intro j p hp dest hdest
      rw [hc j p hp] at hdest
      cases hdest
    · intro c hc id _
      apply Arena.Forall.modifyValue hc
      intro p hp dest hdest
      rcases destination?_bind hdest with hold | hfound
      · exact hp dest hold
      · exact hfound
  obtain ⟨p, hp, rfl⟩ := Option.map_eq_some_iff.1 hnode
  exact hall i p hp dest hdest

end Comment

/-! ## Documents whose links are looked up -/

namespace Document

/-- A change of an entity is seen there only. -/
lemma get?_modify (d : Document) (id i : Nat) (f : Entity → Entity) :
    (d.modify id f).get? i = if i = id then (d.get? i).map f else d.get? i := by
  unfold modify get? Arena.modifyValue Arena.value?
  rw [Arena.slots_modify]
  by_cases hi : id = i
  · simp [hi, Function.comp_def]
  · simp [hi, Ne.symm hi]

/-- Changes of different entities. -/
lemma get?_foldl_modify (f : Nat → Entity → Entity) {ids : List Nat} (hids : ids.Nodup)
    (d : Document) (i : Nat) : (ids.foldl (fun d id => d.modify id (f id)) d).get? i
      = if i ∈ ids then (d.get? i).map (f i) else d.get? i := by
  induction ids generalizing d with
  | nil => simp
  | cons id ids ih =>
    obtain ⟨hnew, hids⟩ := List.nodup_cons.1 hids
    rw [List.foldl_cons, ih hids, get?_modify]
    by_cases hi : i = id
    · simp [hi, hnew]
    · simp [hi]

/-- Changing entities leaves the document the same. -/
lemma id_foldl_modify (f : Nat → Entity → Entity) (ids : List Nat) (d : Document) :
    (ids.foldl (fun d id => d.modify id (f id)) d).id = d.id := by
  induction ids generalizing d with
  | nil => rfl
  | cons id ids ih =>
    rw [List.foldl_cons, ih]
    rfl

end Document

namespace Registry

/-- Looking up links keeps the id of a document. -/
@[simp]
lemma id_resolve (r : Registry) (d : Document) : (r.resolve d).1.id = d.id :=
  Document.id_foldl_modify _ _ d

/-- **The entities of a document whose links were looked up**: each with its own lookups, everything
else as before. -/
lemma get?_resolve (r : Registry) {d : Document} {t : Rose Entity}
    (hd : d.entities = Arena.ofRose t) (i : Nat) :
    (r.resolve d).1.get? i = (d.get? i).map (Entity.bindLinks (r.lookup d i)) := by
  have hnodup : d.preorder.Nodup := by
    rw [Document.preorder, hd, Arena.preorder_ofRose]
    exact List.nodup_range
  rw [resolve, Document.get?_foldl_modify (fun i => Entity.bindLinks (r.lookup d i)) hnodup]
  split
  · rfl
  · rename_i hi
    cases he : d.get? i with
    | none => rfl
    | some e => exact absurd (Document.mem_preorder_of_get? hd he) hi

end Registry

/-! ## Anchors that are there -/

namespace Document

/-- The anchor is there in the document: it is the id of a documented entity, or of a named part of
an entity that is not excluded. -/
def HasAnchor (d : Document) (anchor : String) : Prop :=
  ∃ i e, d.get? i = some e ∧ ((e.isDocumented = true ∧ e.uniqueId = anchor) ∨
    (e.excluded = false ∧ ∃ part ∈ e.inlines, part.uniqueId = anchor))

/-- A link of the document leads to the target. -/
def HasTarget (d : Document) (target : Comment.Target) : Prop :=
  ∃ i e m c id name, d.get? i = some e ∧ m ∈ e.members ∧ m.comment = some c ∧
    c.node? id = some (.link name target)

/-- The anchor of an entity is there. -/
lemma hasAnchor_of_anchor? {d : Document} {i : Nat} {anchor : String}
    (h : d.anchor? i = some anchor) : d.HasAnchor anchor := by
  obtain ⟨j, e, he, hdocumented, hid⟩ := exists_documented_of_anchor? h
  exact ⟨j, e, he, .inl ⟨hdocumented, hid⟩⟩

/-- **A document registers anchors that are there.** -/
lemma hasAnchor_of_mem_long {d : Document} {x : Registration} (h : d.register = .ok x)
    {id anchor : String} (hmem : (id, anchor) ∈ x.long) : d.HasAnchor anchor := by
  obtain ⟨-, -, hlong⟩ := register_eq_ok h
  rw [hlong, List.mem_append] at hmem
  rcases hmem with hown | hother
  · obtain ⟨l, hl, hown⟩ := List.mem_flatMap.1 hown
    obtain ⟨i, -, -, -, hanchor⟩ := mem_listings.1 hl
    unfold Listing.own at hown
    split at hown
    · simp at hown
    · rename_i anchor' hsome
      simp only [List.mem_singleton, Prod.mk.injEq] at hown
      rw [hown.2]
      exact hasAnchor_of_anchor? (hanchor.symm.trans hsome)
  · obtain ⟨l, hl, hother⟩ := List.mem_flatMap.1 (mem_of_mem_keepNew hother).1
    obtain ⟨i, -, he, hkept, hanchor⟩ := mem_listings.1 hl
    unfold Listing.others at hother
    split at hother
    · simp at hother
    · rename_i anchor' hsome
      rcases List.mem_append.1 hother with hname | hpart
      · obtain ⟨name, -, heq⟩ := List.mem_map.1 hname
        simp only [Prod.mk.injEq] at heq
        rw [← heq.2]
        exact hasAnchor_of_anchor? (hanchor.symm.trans hsome)
      · obtain ⟨part, hpart, heq⟩ := List.mem_map.1 hpart
        simp only [Prod.mk.injEq] at heq
        exact ⟨i, l.entity, he, .inr ⟨hkept, part, hpart, heq.2⟩⟩

/-- Looking up links does not take anchors away. -/
lemma HasAnchor.resolve {d : Document} {t : Rose Entity} {anchor : String} (h : d.HasAnchor anchor)
    (hd : d.entities = Arena.ofRose t) (r : Registry) : (r.resolve d).1.HasAnchor anchor := by
  obtain ⟨i, e, he, hanchor⟩ := h
  refine ⟨i, e.bindLinks (r.lookup d i), ?_, ?_⟩
  · rw [r.get?_resolve hd, he]
    rfl
  · have hdocumented : (e.bindLinks (r.lookup d i)).isDocumented = e.isDocumented := by
      simp [Entity.isDocumented, Entity.bindLinks, Member.bindLinks, Function.comp_def]
    rw [hdocumented]
    exact hanchor

/-- In a document whose links were not looked up, links have a written destination or none. -/
lemma target_of_hasTarget {settings : Settings} {reader : TextReader} {id : String}
    {root : Declaration}
    {target : Comment.Target} (h : (assemble settings id root reader).1.HasTarget target) :
    target = .unresolved ∨ ∃ url, target = .explicit url := by
  obtain ⟨i, e, m, c, node, name, he, hm, hc, hnode⟩ := h
  have hunbound := unbound_assemble settings reader id root he m hm c hc
  obtain ⟨p, hp, hlink⟩ := Option.map_eq_some_iff.1 hnode
  have hnone : p.value.destination? = none := hunbound node p hp
  rw [hlink] at hnone
  cases target with
  | explicit url => exact .inr ⟨url, rfl⟩
  | unresolved => exact .inl rfl
  | resolved dest => cases hnone

/-- In a document whose links were looked up, destinations were found by a lookup. -/
lemma exists_lookup_of_hasTarget {settings : Settings} {reader : TextReader} {id : String}
    {root : Declaration}
    {r : Registry} {dest : Destination}
    (h : (r.resolve (assemble settings id root reader).1).1.HasTarget (.resolved dest)) :
    ∃ i name, r.lookup (assemble settings id root reader).1 i name = .ok dest := by
  obtain ⟨top, ts, hd, -⟩ := exists_tree_assemble settings reader id root
  obtain ⟨i, e, m, c, node, name, he, hm, hc, hnode⟩ := h
  rw [r.get?_resolve hd] at he
  obtain ⟨e₀, he₀, rfl⟩ := Option.map_eq_some_iff.1 he
  obtain ⟨m₀, hm₀, rfl⟩ := List.mem_map.1 hm
  obtain ⟨c₀, hc₀, rfl⟩ := Option.map_eq_some_iff.1 hc
  have hunbound := unbound_assemble settings reader id root he₀ m₀ hm₀ c₀ hc₀
  obtain ⟨name, hname⟩ := Comment.exists_find_of_destination? hunbound hnode rfl
  exact ⟨i, name, hname⟩

end Document

/-! ## The registry of a run -/

namespace Registry

/-- **The registry of some documents is that of the registrations of those without a collision.** -/
lemma registerAll_eq_foldl (r : Registry) (ds : List Document) :
    (r.registerAll ds).1 = (ds.filterMap fun d => d.register.toOption).foldl merge r := by
  induction ds generalizing r with
  | nil => rfl
  | cons d ds ih =>
    unfold registerAll register
    cases hd : d.register with
    | error collision =>
      simp only [Except.map, hd, List.filterMap_cons, Except.toOption]
      exact ih r
    | ok x =>
      simp only [Except.map, hd, List.filterMap_cons, Except.toOption, List.foldl_cons]
      exact ih (r.merge x)

/-- The registrations of those documents. -/
lemma mem_registrations_iff {ds : List Document} {x : Registration} :
    x ∈ ds.filterMap (fun d => d.register.toOption) ↔ ∃ d ∈ ds, d.register = .ok x := by
  rw [List.mem_filterMap]
  refine exists_congr fun d => and_congr_right fun _ => ?_
  cases d.register with
  | error collision => simp [Except.toOption]
  | ok y => simp [Except.toOption]

/-- A registration registers its own document only. -/
lemma isRegistered_merge {r : Registry} {x : Registration} {id : String} :
    (r.merge x).isRegistered id = true ↔ id = x.document ∨ r.isRegistered id = true := by
  unfold isRegistered Table.contains merge
  rw [Table.get?_insert]
  by_cases hid : id = x.document
  · simp [hid]
  · simp [hid]

/-- A registration registers its document, for good. -/
lemma isRegistered_foldl_merge {xs : List Registration} (r : Registry) {x : Registration}
    (hx : x ∈ xs) : (xs.foldl merge r).isRegistered x.document = true := by
  induction xs generalizing r with
  | nil => simp at hx
  | cons y xs ih =>
    rw [List.foldl_cons]
    rcases List.mem_cons.1 hx with rfl | hx
    · apply List.foldlRecOn (motive := fun r : Registry => r.isRegistered x.document = true)
      · exact isRegistered_merge.2 (.inl rfl)
      · intro r hr y _
        exact isRegistered_merge.2 (.inr hr)
    · exact ih _ hx

/-- What a document of the registry leads to is there, in a document that is registered. -/
lemma exists_document_of_anchorIn? {ds : List Document} {id document anchor : String}
    (h : (Registry.registerAll {} ds).1.anchorIn? id document = some anchor) :
    ∃ d ∈ ds, d.id = document ∧ (Registry.registerAll {} ds).1.isRegistered document = true ∧
      d.HasAnchor anchor := by
  rw [registerAll_eq_foldl] at h ⊢
  rcases exists_of_anchorIn? h with ⟨x, hx, rfl, hlong⟩ | hempty
  · obtain ⟨d, hd, hok⟩ := mem_registrations_iff.1 hx
    exact ⟨d, hd, (Document.register_eq_ok hok).1.symm, isRegistered_foldl_merge {} hx,
      Document.hasAnchor_of_mem_long hok hlong⟩
  · cases hempty

end Registry

/-! ## A whole run -/

section Run

variable {settings : Settings} {reader : TextReader} {sources : List Source}

/-- The registry of a run. -/
lemma run_registry : (run settings sources reader).registry
    = (Registry.registerAll {}
        (sources.map fun s => (assemble settings s.id s.root reader).1)).1 := by
  simp [run, linkAll, assembleAll, Function.comp_def]

/-- What a run hands out for a source. -/
def output (settings : Settings) (reader : TextReader) (r : Registry) (s : Source) : Document :=
  if r.isRegistered s.id then (r.resolve (assemble settings s.id s.root reader).1).1
  else (assemble settings s.id s.root reader).1

/-- The documents that a run hands out. -/
lemma run_documents : (run settings sources reader).documents
    = sources.map (output settings reader (run settings sources reader).registry) := by
  simp only [run, linkAll, assembleAll, Registry.resolveAll, List.map_map]
  refine List.map_congr_left fun s _ => ?_
  have hid : (assemble settings s.id s.root reader).1.id = s.id := rfl
  simp only [Function.comp_apply, hid, output]
  split <;> rfl

/-- The output of a source has its id. -/
@[simp]
lemma id_output (r : Registry) (s : Source) : (output settings reader r s).id = s.id := by
  unfold output
  split
  · rw [Registry.id_resolve]
    rfl
  · rfl

/-- Where ids differ, a run hands out one document for an id. -/
lemma mem_run_documents_iff (hids : (sources.map (·.id)).Nodup) {s : Source} (hs : s ∈ sources)
    (d : Document) : d ∈ (run settings sources reader).documents ∧ d.id = s.id ↔
      d = output settings reader (run settings sources reader).registry s := by
  rw [run_documents, List.mem_map]
  constructor
  · rintro ⟨⟨s', hs', rfl⟩, hid⟩
    rw [id_output] at hid
    rw [List.inj_on_of_nodup_map hids hs' hs hid]
  · rintro rfl
    exact ⟨⟨s, hs, rfl⟩, id_output _ _⟩

/-- A lookup in a registered document of a run leads to an anchor that is there. -/
lemma exists_source_of_lookup {s : Source} (hs : s ∈ sources)
    (hregistered : (run settings sources reader).registry.isRegistered s.id = true) {i : Nat}
    {name : List Char} {dest : Destination}
    (h : (run settings sources reader).registry.lookup (assemble settings s.id s.root reader).1 i
      name = .ok dest) :
    ∃ s' ∈ sources, s'.id = dest.document ∧
      (run settings sources reader).registry.isRegistered dest.document = true ∧
      (assemble settings s'.id s'.root reader).1.HasAnchor dest.anchor := by
  rcases Registry.exists_of_lookup h with ⟨hdocument, j, hanchor⟩ | ⟨id, hanchor⟩
  · refine ⟨s, hs, hdocument.symm, ?_, Document.hasAnchor_of_anchor? hanchor⟩
    rw [hdocument]
    exact hregistered
  · rw [run_registry] at hanchor ⊢
    obtain ⟨d, hd, hid, hregistered', hhas⟩ := Registry.exists_document_of_anchorIn? hanchor
    obtain ⟨s', hs', rfl⟩ := List.mem_map.1 hd
    exact ⟨s', hs', hid, hregistered', hhas⟩

/-- **Every destination exists.** Let the sources of a run have different ids. If a link in one of
the documents handed out leads to a destination that was found, its document is that of one of the
sources, it is registered, and in the only document handed out for it the anchor is the id of a
documented entity or of a named part of an entity that is not excluded. The links of a document that
is not registered have a written destination or none. The text of the comments may be read by any
reader.

**Proof sketch.** Before the links are looked up, none has a found destination; so the destination
comes from a lookup in a registered document. A lookup gives the anchor of an entity of the same
document, or what a document without collisions has registered: the anchor of an entity, which is
the id of a documented one, or the id of a named part. Looking up links changes neither. -/
theorem run_destinations_exist (settings : Settings) (reader : TextReader) (sources : List Source)
    (hids : (sources.map (·.id)).Nodup) :
    (∀ d ∈ (run settings sources reader).documents, ∀ dest, d.HasTarget (.resolved dest) →
      (∃ s ∈ sources, s.id = dest.document) ∧
      (run settings sources reader).registry.isRegistered dest.document = true ∧
      ∃ d', (∀ d'', d'' ∈ (run settings sources reader).documents ∧ d''.id = dest.document ↔
          d'' = d') ∧
        d'.HasAnchor dest.anchor) ∧
    ∀ d ∈ (run settings sources reader).documents,
      (run settings sources reader).registry.isRegistered d.id = false →
      ∀ target, d.HasTarget target → target = .unresolved ∨ ∃ url, target = .explicit url := by
  constructor
  · intro d hd dest htarget
    rw [run_documents] at hd
    obtain ⟨s, hs, rfl⟩ := List.mem_map.1 hd
    by_cases hregistered : (run settings sources reader).registry.isRegistered s.id = true
    · rw [output, if_pos hregistered] at htarget
      obtain ⟨i, name, hlookup⟩ := Document.exists_lookup_of_hasTarget htarget
      obtain ⟨s', hs', hid, hregistered', hhas⟩ := exists_source_of_lookup hs hregistered hlookup
      refine ⟨⟨s', hs', hid⟩, hregistered',
        output settings reader (run settings sources reader).registry s',
        ?_, ?_⟩
      · intro d''
        rw [← hid]
        exact mem_run_documents_iff hids hs' d''
      · obtain ⟨top, ts, htree, -⟩ := exists_tree_assemble settings reader s'.id s'.root
        rw [output, if_pos (by rw [hid]; exact hregistered')]
        exact hhas.resolve htree _
    · rw [output, if_neg hregistered] at htarget
      rcases Document.target_of_hasTarget htarget with h | ⟨url, h⟩
      · cases h
      · cases h
  · intro d hd hunregistered target htarget
    rw [run_documents] at hd
    obtain ⟨s, hs, rfl⟩ := List.mem_map.1 hd
    rw [id_output] at hunregistered
    rw [output, if_neg (by simp [hunregistered])] at htarget
    exact Document.target_of_hasTarget htarget

end Run

/-- A file whose comment has a link to the file itself. -/
def selfLinkingFile : Source :=
  { id := "d"
    root := {
      kind := .file, name := "f", qualifiedName := "f", signature := "f"
      comment := some "[f]()" } }

/-- The link is found, and leads to the anchor of the file. -/
theorem run_destinations_exist_selfLinkingFile :
    ∃ d ∈ (run {} [selfLinkingFile]).documents, d.HasTarget (.resolved ⟨"d", "f"⟩) ∧
      ∃ d' ∈ (run {} [selfLinkingFile]).documents, d'.id = "d" ∧ d'.HasAnchor "f" := by
  have hlink : (((((run {} [selfLinkingFile]).documents[0]?).bind (·.get? 0)).bind
      (·.members[0]?)).bind (·.comment)).bind (·.node? 2)
        = some (.link ['f'] (.resolved ⟨"d", "f"⟩)) := by
    decide +kernel
  simp only [Option.bind_eq_some_iff] at hlink
  obtain ⟨c, ⟨m, ⟨e, ⟨d, hd, he⟩, hm⟩, hc⟩, hnode⟩ := hlink
  have hmem := List.mem_of_getElem? hd
  have htarget : d.HasTarget (.resolved ⟨"d", "f"⟩) :=
    ⟨0, e, m, c, 2, ['f'], he, List.mem_of_getElem? hm, hc, hnode⟩
  obtain ⟨-, -, d', hd', hanchor⟩ :=
    (run_destinations_exist {} Markup.events [selfLinkingFile] (by decide)).1 d hmem _ htarget
  obtain ⟨hmem', hid⟩ := (hd' d').2 rfl
  exact ⟨d, hmem, htarget, d', hmem', hid, hanchor⟩

end DocComments
