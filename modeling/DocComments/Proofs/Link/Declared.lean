import DocComments.Proofs.Assembly.Groups
import DocComments.Proofs.Link.Registered

set_option autoImplicit false

/-!
# Declared names can be linked to

Every entity of a document has an anchor if the document is a file: its own, or that of an entity
around it. A document without collisions registers the id of each of its entities with that anchor,
and every name of a member with some anchor of its own. So a link by such a name leads into the
document it is written in, whatever other documents have registered.

## Main results

* `Document.isSome_anchor?` — every entity of a file has an anchor.
* `Document.exists_documented_of_anchor?` — an anchor is the id of a documented entity.
* `Document.eq_anchor_of_mem_long`, `Document.exists_mem_long` — what is registered for an id.
* `lookup_declared_name` — ids and member names are found in their own document.
-/

namespace DocComments

open Markup (TextReader)

namespace Document

/-! ## Anchors -/

/-- The entities of a tree are listed in the order of their slots. -/
lemma mem_preorder_of_get? {d : Document} {t : Rose Entity} (hd : d.entities = Arena.ofRose t)
    {i : Nat} {e : Entity} (h : d.get? i = some e) : i ∈ d.preorder := by
  have hi : i < t.size := by
    rw [get?, hd, Arena.value?_ofRose] at h
    have hlength : t.values.length = t.size := by
      obtain ⟨v, below⟩ := t
      simp [Rose.values, Rose.length_valuesAll]
    rw [← hlength]
    exact (List.getElem?_eq_some_iff.1 h).1
  rw [preorder, hd, Arena.preorder_ofRose]
  exact List.mem_range.2 hi

/-- Going up from an entity of a tree with a documented root ends at a documented entity. -/
lemma isSome_anchorFrom? {d : Document} {top : Entity} {ts : List (Rose Entity)}
    (hd : d.entities = Arena.ofRose (.node top ts)) (htop : top.isDocumented = true)
    {fuel i : Nat} (hfuel : i < fuel) (hi : i < d.entities.size) :
    (d.anchorFrom? fuel i).isSome = true := by
  induction fuel generalizing i with
  | zero => omega
  | succ fuel ih =>
    by_cases hzero : i = 0
    · have hroot : d.get? 0 = some top := by
        rw [get?, hd, Arena.value?_ofRose]
        rfl
      rw [hzero, anchorFrom?, hroot]
      simp [htop]
    · rw [hd] at hi
      obtain ⟨j, x, y, hj, hparent, hx, hy, -⟩ :=
        Arena.exists_parent_ofRose (Rose.linkedAll_true top ts) hzero hi
      rw [← hd] at hi hparent hy
      have hi' : d.get? i = some y := hy
      rw [anchorFrom?, hi']
      by_cases hdocumented : y.isDocumented = true
      · simp [hdocumented]
      · simp only [hdocumented, hparent, Option.bind_some]
        exact ih (by omega) (by omega)

/-- **Every entity of a file has an anchor.** -/
lemma isSome_anchor? {d : Document} {top : Entity} {ts : List (Rose Entity)}
    (hd : d.entities = Arena.ofRose (.node top ts)) (htop : top.isDocumented = true)
    {i : Nat} {e : Entity} (he : d.get? i = some e) : (d.anchor? i).isSome = true := by
  have hi : i < d.entities.size := by
    have := mem_preorder_of_get? hd he
    rw [preorder, hd, Arena.preorder_ofRose, List.mem_range] at this
    rwa [hd, Arena.size_ofRose]
  exact isSome_anchorFrom? hd htop hi hi

/-- **An anchor is the id of a documented entity.** -/
lemma exists_documented_of_anchor? {d : Document} {i : Nat} {anchor : String}
    (h : d.anchor? i = some anchor) :
    ∃ j e, d.get? j = some e ∧ e.isDocumented = true ∧ e.uniqueId = anchor := by
  have hfrom : ∀ fuel i, d.anchorFrom? fuel i = some anchor →
      ∃ j e, d.get? j = some e ∧ e.isDocumented = true ∧ e.uniqueId = anchor := by
    intro fuel
    induction fuel with
    | zero =>
      intro i h
      cases h
    | succ fuel ih =>
      intro i h
      rw [anchorFrom?] at h
      split at h
      · cases h
      · rename_i e he
        split at h
        · rename_i hdocumented
          cases h
          exact ⟨i, e, he, hdocumented, rfl⟩
        · obtain ⟨j, -, hj⟩ := Option.bind_eq_some_iff.1 h
          exact ih j hj
  exact hfrom _ i h

/-! ## What is registered for an id -/

/-- **Only its own anchor is registered for the id of an entity.** No other entity has the id, and
no name of a member or a part takes its place. -/
lemma eq_anchor_of_mem_long {d : Document} {x : Registration} (h : d.register = .ok x)
    {l : Listing} (hl : l ∈ d.listings) {anchor : String}
    (hmem : (l.entity.uniqueId, anchor) ∈ x.long) : l.anchor = some anchor := by
  obtain ⟨-, hnodup, hlong⟩ := register_eq_ok h
  rw [hlong, List.mem_append] at hmem
  rcases hmem with hown | hother
  · obtain ⟨l', hl', hown⟩ := List.mem_flatMap.1 hown
    unfold Listing.own at hown
    split at hown
    · simp at hown
    · rename_i anchor' hanchor
      simp only [List.mem_singleton, Prod.mk.injEq] at hown
      obtain ⟨hid, rfl⟩ := hown
      rw [List.inj_on_of_nodup_map hnodup hl hl' hid, hanchor]
  · have hnew := (mem_of_mem_keepNew hother).2
    exact absurd (List.mem_map_of_mem hl) hnew

/-- **Every id and every name of a member is registered** where all entities have an anchor. A name
that is the id of an entity is registered as such. -/
lemma exists_mem_long {d : Document} {x : Registration} (h : d.register = .ok x)
    (hanchors : ∀ l ∈ d.listings, l.anchor.isSome = true) {l : Listing} (hl : l ∈ d.listings)
    {name : String} (hname : name = l.entity.uniqueId ∨ name ∈ l.memberNames) :
    ∃ anchor, (name, anchor) ∈ x.long := by
  obtain ⟨-, -, hlong⟩ := register_eq_ok h
  have hown : ∀ l ∈ d.listings, ∃ anchor, (l.entity.uniqueId, anchor) ∈ x.long := by
    intro l hl
    obtain ⟨anchor, hanchor⟩ := Option.isSome_iff_exists.1 (hanchors l hl)
    refine ⟨anchor, ?_⟩
    rw [hlong]
    apply List.mem_append_left
    exact List.mem_flatMap.2 ⟨l, hl, by simp [Listing.own, hanchor]⟩
  rcases hname with rfl | hname
  · exact hown l hl
  · obtain ⟨anchor, hanchor⟩ := Option.isSome_iff_exists.1 (hanchors l hl)
    have hothers : (name, anchor) ∈ d.listings.flatMap (·.others) := by
      refine List.mem_flatMap.2 ⟨l, hl, ?_⟩
      simp [Listing.others, hanchor, hname]
    rcases exists_mem_keepNew (d.listings.map (·.entity.uniqueId)) hothers with
      hid | ⟨value, hvalue⟩
    · obtain ⟨l', hl', rfl⟩ := List.mem_map.1 hid
      exact hown l' hl'
    · refine ⟨value, ?_⟩
      rw [hlong]
      exact List.mem_append_right _ hvalue

end Document

/-! ## Linking to declared names -/

/-- The entities of an assembled document make a tree, whose root has the kind of the source. -/
lemma exists_tree_assemble (settings : Settings) (reader : TextReader) (id : String)
    (root : Declaration) :
    ∃ top ts, (assemble settings id root reader).1.entities = Arena.ofRose (.node top ts) ∧
      top.kind = root.kind := by
  refine ⟨(makeEntity settings (readEntry settings reader none root).1 []).1, _, rfl, ?_⟩
  show (readEntry settings reader none root).1.source.kind = root.kind
  rw [source_readEntry]

section Declared

variable {settings : Settings} {reader : TextReader} {id : String} {root : Declaration}
    {x : Registration}
  {xs : List Registration}

/-- A name that the document has registered is found there, with an anchor that was registered for
it. Other documents do not get in the way. -/
lemma exists_lookup_of_mem_long {d : Document} (hx : x.document = d.id) (hmem : x ∈ xs)
    (hothers : ∀ y ∈ xs, y = x ∨ y.document ≠ d.id) (referrer : Nat) {name anchor : String}
    (hname : Name.relative? name.toList = none) (hlong : (name, anchor) ∈ x.long) :
    ∃ anchor', (name, anchor') ∈ x.long ∧
      (xs.foldl Registry.merge {}).lookup d referrer name.toList = .ok ⟨d.id, anchor'⟩ := by
  have hsome := Registry.isSome_anchorIn? {} hmem hlong
  rw [hx] at hsome
  obtain ⟨anchor', hanchor⟩ := Option.isSome_iff_exists.1 hsome
  refine ⟨anchor', ?_, Registry.lookup_of_anchorIn? referrer hname hanchor⟩
  rcases Registry.exists_of_anchorIn? hanchor with ⟨y, hy, hdocument, hlong'⟩ | hempty
  · rcases hothers y hy with rfl | hne
    · exact hlong'
    · exact absurd hdocument hne
  · cases hempty

/-- **Declared names can be linked to in their own document.** Let the document of a file be
registered, with any other documents before or after it. Then each of its entities that is not
excluded has an anchor, and is found at it under its id; and the qualified name and the id of each
of its members are found in the document. This holds for links in any of its comments, and for all
names without a relative sigil, whatever reads the text of the comments.

**Proof sketch.** The root of a file has an anchor, so all entities do, and all names in question
are registered. The registry keeps what was registered for the document, since no other registration
has its id, and the lookup prefers the document of the link. What was registered for the id of an
entity is its own anchor only. -/
theorem lookup_declared_name (hroot : root.kind = .file)
    (hx : (assemble settings id root reader).1.register = .ok x) (hmem : x ∈ xs)
    (hothers : ∀ y ∈ xs, y = x ∨ y.document ≠ id) (referrer : Nat) {i : Nat} {e : Entity}
    (he : (assemble settings id root reader).1.get? i = some e) (hkept : e.excluded = false) :
    ∃ anchor, (assemble settings id root reader).1.anchor? i = some anchor ∧
      (Name.relative? e.uniqueId.toList = none →
        (xs.foldl Registry.merge {}).lookup (assemble settings id root reader).1 referrer
          e.uniqueId.toList = .ok ⟨id, anchor⟩) ∧
      ∀ m ∈ e.members, ∀ name, name = m.qualifiedName ∨ name = m.uniqueId →
        Name.relative? name.toList = none →
        ∃ anchor', (xs.foldl Registry.merge {}).lookup (assemble settings id root reader).1 referrer
          name.toList = .ok ⟨id, anchor'⟩ := by
  obtain ⟨top, ts, hd, hkind⟩ := exists_tree_assemble settings reader id root
  have hid : (assemble settings id root reader).1.id = id := rfl
  set d := (assemble settings id root reader).1
  have htop : top.isDocumented = true := by
    simp [Entity.isDocumented, hkind, hroot]
  have hanchors : ∀ l ∈ d.listings, l.anchor.isSome = true := by
    intro l hl
    obtain ⟨j, -, hj, -, hanchor⟩ := Document.mem_listings.1 hl
    rw [hanchor]
    exact Document.isSome_anchor? hd htop hj
  have hl : (⟨e, d.anchor? i⟩ : Listing) ∈ d.listings :=
    Document.mem_listings.2 ⟨i, Document.mem_preorder_of_get? hd he, he, hkept, rfl⟩
  have hdocument : x.document = d.id := (Document.register_eq_ok hx).1
  rw [← hid] at hothers ⊢
  obtain ⟨anchor, hanchor⟩ := Option.isSome_iff_exists.1 (Document.isSome_anchor? hd htop he)
  refine ⟨anchor, hanchor, ?_, ?_⟩
  · intro hname
    obtain ⟨a, hlong⟩ := Document.exists_mem_long hx hanchors hl (.inl rfl)
    obtain ⟨a', hlong', hlookup⟩ :=
      exists_lookup_of_mem_long hdocument hmem hothers referrer hname hlong
    have hsame := Document.eq_anchor_of_mem_long hx hl hlong'
    rw [hanchor, Option.some.injEq] at hsame
    rw [hlookup, hsame]
  · intro m hm name hname hrelative
    have hnames : name ∈ (⟨e, d.anchor? i⟩ : Listing).memberNames := by
      refine List.mem_flatMap.2 ⟨m, hm, ?_⟩
      rcases hname with rfl | rfl
      · simp
      · simp
    obtain ⟨a, hlong⟩ := Document.exists_mem_long hx hanchors hl (.inr hnames)
    obtain ⟨a', -, hlookup⟩ :=
      exists_lookup_of_mem_long hdocument hmem hothers referrer hrelative hlong
    exact ⟨a', hlookup⟩

end Declared

/-- A file with a namespace in it. -/
def namespaceFile : Declaration :=
  { kind := .file, name := "f", qualifiedName := "f", signature := "f"
    children := [{
      kind := .nameSpace, name := "n", qualifiedName := "n", signature := "namespace n" }] }

/-- The namespace is found in its own document, although another one has the same id. -/
theorem lookup_declared_name_namespaceFile :
    ∃ x anchor, (assemble {} "d" namespaceFile).1.register = .ok x ∧
      (assemble {} "d" namespaceFile).1.anchor? 1 = some anchor ∧
      ([⟨"other", [("n", "n")], []⟩, x].foldl Registry.merge {}).lookup
        (assemble {} "d" namespaceFile).1 0 "n".toList = .ok ⟨"d", anchor⟩ := by
  obtain ⟨x, hx⟩ : ∃ x, (assemble {} "d" namespaceFile).1.register = .ok x := ⟨_, rfl⟩
  obtain ⟨e, he, hkept, hid⟩ : ∃ e, (assemble {} "d" namespaceFile).1.get? 1 = some e ∧
      e.excluded = false ∧ e.uniqueId = "n" := ⟨_, rfl, rfl, rfl⟩
  have hothers : ∀ y ∈ [(⟨"other", [("n", "n")], []⟩ : Registration), x],
      y = x ∨ y.document ≠ "d" := by
    intro y hy
    rcases List.mem_pair.1 hy with rfl | rfl
    · exact .inr (by decide)
    · exact .inl rfl
  obtain ⟨anchor, hanchor, hlookup, -⟩ :=
    lookup_declared_name rfl hx (by simp) hothers 0 he hkept
  rw [hid] at hlookup
  exact ⟨x, anchor, hx, hanchor, hlookup rfl⟩

end DocComments
