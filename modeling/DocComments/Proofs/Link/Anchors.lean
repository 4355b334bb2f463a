import DocComments.Proofs.Arena.Families
import DocComments.Proofs.Arena.Ordered
import DocComments.Proofs.Link.Declared

set_option autoImplicit false

/-!
# How the entities of a document are numbered, and where their anchors are found

The entities of an assembled document are numbered in document order, from the root on, and every
entity but the root has one parent, which comes before it. So going up from an entity comes to an
end, and the first documented entity on the way gives the anchor.

## Main definitions

* `Document.IsDocumentedAt` — the entity with an index is documented.
* `Document.Nearest` — the nearest documented entity, from an entity upwards.

## Main results

* `Document.anchor?_eq` — the anchor of an entity is its own or that of its parent.
* `Document.anchor?_eq_some_iff` — the anchor is the id of the nearest documented entity.
* `entities_in_document_order` — the numbering, the links and the anchors of an assembled document.
-/

namespace DocComments

open Markup (TextReader)

namespace Document

/-- The entity with an index is documented. -/
def IsDocumentedAt (d : Document) (i : Nat) : Prop :=
  ∃ e, d.get? i = some e ∧ e.isDocumented = true

/-- The first index is that of the nearest documented entity, from the entity with the second one
upwards: it is documented, and no entity below it on the way to the other one is. -/
def Nearest (d : Document) (j i : Nat) : Prop :=
  d.entities.Reaches j i ∧ d.IsDocumentedAt j ∧
    ∀ k, d.entities.Reaches j k → d.entities.Reaches k i → k ≠ j → ¬d.IsDocumentedAt k

variable {d : Document}

/-! ## Going up -/

/-- Parents come before their children, so the index of an entity bounds the steps up from it. -/
lemma anchorFrom?_eq_of_lt (h : d.entities.Ordered) {fuel fuel' i : Nat} (hi : i < fuel)
    (hi' : i < fuel') : d.anchorFrom? fuel i = d.anchorFrom? fuel' i := by
  induction fuel generalizing fuel' i with
  | zero => omega
  | succ fuel ih =>
    obtain ⟨fuel', rfl⟩ : ∃ m, fuel' = m + 1 := ⟨fuel' - 1, by omega⟩
    rw [anchorFrom?, anchorFrom?]
    cases hparent : d.entities.parent? i with
    | none => rfl
    | some p =>
      have hlt := h.lt_of_parent hparent
      have hup : d.anchorFrom? fuel p = d.anchorFrom? fuel' p := ih (by omega) (by omega)
      rw [Option.bind_some, Option.bind_some, hup]

/-- **The anchor of an entity is its own if it is documented, else that of its parent.** -/
lemma anchor?_eq (h : d.entities.Ordered) {i : Nat} {e : Entity} (he : d.get? i = some e) :
    d.anchor? i = if e.isDocumented then some e.uniqueId
      else (d.entities.parent? i).bind d.anchor? := by
  have hi : i < d.entities.size := by
    obtain ⟨s, hs, -⟩ := Option.map_eq_some_iff.1 he
    exact Arena.lt_size_of_slots hs
  have hmore : d.anchor? i = d.anchorFrom? (d.entities.size + 1) i :=
    anchorFrom?_eq_of_lt h hi (by omega)
  rw [hmore, anchorFrom?, he]
  rfl

/-- A documented entity is the nearest one to itself. -/
lemma nearest_self (h : d.entities.Ordered) {i : Nat} (hi : d.IsDocumentedAt i) : d.Nearest i i := by
  refine ⟨.refl, hi, fun k hik hki hne => ?_⟩
  have := h.le_of_reaches hik
  have := h.le_of_reaches hki
  omega

/-- A documented entity is the only one that is nearest to itself. -/
lemma eq_of_nearest {i j : Nat} (hi : d.IsDocumentedAt i) (hj : d.Nearest j i) : j = i := by
  by_contra hne
  exact hj.2.2 i hj.1 .refl (Ne.symm hne) hi

/-- The nearest documented entity to one that is not documented is the nearest one to its parent. -/
lemma nearest_iff_of_parent (h : d.entities.Ordered) {i p j : Nat}
    (hparent : d.entities.parent? i = some p) (hi : ¬d.IsDocumentedAt i) :
    d.Nearest j i ↔ d.Nearest j p := by
  have hchild : i ∈ d.entities.children p := h.mem_children_iff.2 hparent
  have hup : ∀ {k}, d.entities.Reaches k i → k = i ∨ d.entities.Reaches k p :=
    fun hk => h.reaches_child hchild hk
  constructor
  · rintro ⟨hreach, hj, hbetween⟩
    refine ⟨?_, hj, fun k hjk hkp => hbetween k hjk (hkp.tail hchild)⟩
    rcases hup hreach with rfl | hreach
    · exact absurd hj hi
    · exact hreach
  · rintro ⟨hreach, hj, hbetween⟩
    refine ⟨hreach.tail hchild, hj, fun k hjk hki hne => ?_⟩
    rcases hup hki with rfl | hkp
    · exact hi
    · exact hbetween k hjk hkp hne

/-- **The anchor of an entity is the id of the nearest documented one, from it upwards.**

**Proof sketch.** Parents come before their children, so the induction is over the index. A
documented entity is the nearest one to itself; one that is not has the anchor of its parent and the
same nearest entities. -/
theorem anchor?_eq_some_iff (h : d.entities.Ordered) {i : Nat} (hi : i < d.entities.size)
    {anchor : String} :
    d.anchor? i = some anchor ↔ ∃ j e, d.Nearest j i ∧ d.get? j = some e ∧ e.uniqueId = anchor := by
  induction i using Nat.strongRecOn with
  | ind i ih =>
    obtain ⟨e, he⟩ : ∃ e, d.get? i = some e := by
      cases he : d.get? i with
      | some e => exact ⟨e, rfl⟩
      | none =>
        rw [get?, Arena.value?, Option.map_eq_none_iff, Arena.slots_eq_none_iff] at he
        omega
    rw [anchor?_eq h he]
    by_cases hdocumented : e.isDocumented = true
    · have hat : d.IsDocumentedAt i := ⟨e, he, hdocumented⟩
      rw [if_pos hdocumented, Option.some.injEq]
      constructor
      · intro hanchor
        exact ⟨i, e, nearest_self h hat, he, hanchor⟩
      · rintro ⟨j, e', hj, he', hanchor⟩
        rw [eq_of_nearest hat hj, he, Option.some.injEq] at he'
        rw [he', hanchor]
    · have hnot : ¬d.IsDocumentedAt i := by
        rintro ⟨e', he', hdocumented'⟩
        rw [he, Option.some.injEq] at he'
        exact hdocumented (he' ▸ hdocumented')
      rw [if_neg hdocumented]
      cases hparent : d.entities.parent? i with
      | none =>
        -- nothing is above the entity, and it is not documented itself
        simp only [Option.bind_none, reduceCtorEq, false_iff]
        rintro ⟨j, e', ⟨hreach, hj, -⟩, -⟩
        rcases Relation.ReflTransGen.cases_tail hreach with rfl | ⟨k, -, hk⟩
        · exact hnot hj
        · rw [h.mem_children_iff, hparent] at hk
          cases hk
      | some p =>
        have hlt := h.lt_of_parent hparent
        rw [Option.bind_some, ih p hlt (by omega)]
        simp only [nearest_iff_of_parent h hparent hnot]

end Document

/-! ## Assembled documents -/

/-- Only the root of a tree has no parent. -/
lemma Arena.parent?_ofRose_eq_none_iff {α : Type} (t : Rose α) {i : Nat} (hi : i < (ofRose t).size) :
    (ofRose t).parent? i = none ↔ i = 0 := by
  obtain ⟨v, below⟩ := t
  constructor
  · intro hnone
    by_contra hpos
    obtain ⟨j, -, -, -, hparent, -⟩ :=
      exists_parent_ofRose (Rose.linkedAll_true v below) hpos hi
    rw [hnone] at hparent
    cases hparent
  · rintro rfl
    exact parent?_ofRose_zero _

/-- **The entities of an assembled document are numbered in document order**, the root first: listing
them comes to an end and gives their numbers one after the other. The root alone has no parent;
children and parents agree, no entity is a child twice, and every parent comes before its children.
Going up from an entity comes to an end; the anchor of an entity is the id of the nearest documented
one, from it upwards, and every entity of a file has one. Any reader may read the comments.

**Proof sketch.** A document is assembled as a tree, and the arena of a tree has its nodes in document
order, with sound links. The bounds on the visits and on the steps upwards are never reached. -/
theorem entities_in_document_order (settings : Settings) (reader : TextReader) (id : String)
    (root : Declaration) :
    let d := (assemble settings id root reader).1
    let n := d.entities.size
    (d.preorder = List.range n ∧ ∀ fuel, n ≤ fuel → d.entities.visit fuel [0] = d.preorder) ∧
    (0 < n ∧ ∀ i, i < n → (d.entities.parent? i = none ↔ i = 0)) ∧
    (∀ p i, i ∈ d.entities.children p ↔ d.entities.parent? i = some p) ∧
    (∀ p, (d.entities.children p).Nodup) ∧
    (∀ p i, d.entities.parent? i = some p → p < i) ∧
    (∀ i, i < n → ∀ fuel, n ≤ fuel → d.anchorFrom? fuel i = d.anchor? i) ∧
    (∀ i, i < n → ∀ anchor, d.anchor? i = some anchor ↔
      ∃ j e, d.Nearest j i ∧ d.get? j = some e ∧ e.uniqueId = anchor) ∧
    (root.kind = .file → ∀ i, i < n → (d.anchor? i).isSome = true) := by
  intro d n
  obtain ⟨top, ts, htree, hkind⟩ := exists_tree_assemble settings reader id root
  have hd : d.entities = Arena.ofRose (.node top ts) := htree
  have hordered : d.entities.Ordered := hd ▸ Arena.ordered_ofRose _
  have hpos : 0 < n := by
    show 0 < d.entities.size
    rw [hd, Arena.size_ofRose]
    exact Rose.size_pos _
  refine ⟨⟨?_, ?_⟩, ⟨hpos, ?_⟩, fun p i => hordered.mem_children_iff, hordered.nodup,
    fun p i => hordered.lt_of_parent, ?_, fun i hi anchor => Document.anchor?_eq_some_iff hordered hi,
    ?_⟩
  · show d.entities.preorder 0 = List.range d.entities.size
    rw [hd, Arena.preorder_ofRose, Arena.size_ofRose]
  · intro fuel hfuel
    exact hordered.visit_eq_of_size_le hfuel (List.pairwise_singleton _ _) (by simpa using hpos)
  · intro i hi
    have hi' : i < d.entities.size := hi
    rw [hd] at hi' ⊢
    exact Arena.parent?_ofRose_eq_none_iff _ hi'
  · intro i hi fuel hfuel
    exact Document.anchorFrom?_eq_of_lt hordered (by omega) hi
  · intro hfile i hi
    have htop : top.isDocumented = true := by
      simp [Entity.isDocumented, hkind, hfile]
    exact Document.isSome_anchorFrom? hd htop hi hi

end DocComments
