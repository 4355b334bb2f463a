import DocComments.Proofs.Link.Repeated

set_option autoImplicit false

/-!
# Relative links agree with absolute ones

A relative name is looked for among the children of one scope, in the tree of the document alone. If
it is found, exactly one of these children has the name, and the link leads to the anchor of that
child; the id of the child, written as a link in any comment of the document, leads to the same
place. So the tree and the registry that is made from it name the same anchors. What a relative name
leads to depends on few entities: the one with the link, the scope and its children, and those around
a child that has the name.

## Main definitions

* `Document.Searches` — the scope that a relative name is looked for in.
* `Document.NamedIn` — a child of a scope that has a name.
* `Document.LooksAt` — the entities that a relative name depends on.
* `Document.SameTree` — documents that differ in the contents of their entities only.

## Main results

* `findRelative_eq_ok_iff` — when a relative name is found.
* `Document.SameTree.anchor?_eq` — the anchor of an entity depends on the entities around it only.
* `Document.SameTree.findRelative_eq` — a relative name depends on the entities it looks at only.
* `relative_lookup_agrees` — where a relative link leads, and on what this depends.
-/

namespace DocComments

/-- The character in front of a relative name. -/
def Name.Relation.sigil : Name.Relation → Char
  | .child => '*'
  | .sibling => '?'

namespace Document

/-! ## The scope and its children -/

/-- The scope that an entity belongs to: the entity itself if its kind is one, else the entity around
it. -/
def BelongsTo (d : Document) (i scope : Nat) : Prop :=
  ∃ e, d.get? i = some e ∧
    if e.kind.isScope then scope = i else d.entities.parent? i = some scope

/-- The scope that a relative name in a comment of an entity is looked for in: that of the entity,
or the one around it. -/
def Searches (d : Document) (referrer : Nat) : Name.Relation → Nat → Prop
  | .child, scope => d.BelongsTo referrer scope
  | .sibling, scope => ∃ own, d.BelongsTo referrer own ∧ d.entities.parent? own = some scope

/-- The entity is a child of the scope, is not excluded, and has the name or an id that ends in
it. -/
def NamedIn (d : Document) (scope : Nat) (name : List Char) (i : Nat) : Prop :=
  i ∈ d.entities.children scope ∧ ∃ e, d.Counts i e ∧
    (e.name.toList = name ∨ Name.lastComponent e.uniqueId.toList = Name.shortKey name)

/-- The entities that a relative name depends on: the one with the link, the scope and its children,
and those around a child that has the name. -/
def LooksAt (d : Document) (referrer : Nat) (relation : Name.Relation) (name : List Char) (j : Nat) :
    Prop :=
  j = referrer ∨ ∃ scope, d.Searches referrer relation scope ∧
    (j = scope ∨ j ∈ d.entities.children scope ∨ ∃ c, d.NamedIn scope name c ∧ d.entities.Reaches j c)

/-- The scope of an entity is found where it is. -/
lemma ownScope?_eq_some_iff {d : Document} {i scope : Nat} :
    ownScope? d i = some scope ↔ d.BelongsTo i scope := by
  unfold ownScope? BelongsTo
  cases d.get? i with
  | none => simp
  | some e =>
    simp only [Option.some.injEq, exists_eq_left']
    split
    · rw [Option.some.injEq, eq_comm]
    · rfl

/-- The scope of a relative name is found where it is looked for. -/
lemma relativeScope?_eq_some_iff {d : Document} {referrer scope : Nat}
    {relation : Name.Relation} :
    relativeScope? d referrer relation = some scope ↔ d.Searches referrer relation scope := by
  cases relation with
  | child => exact ownScope?_eq_some_iff
  | sibling =>
    rw [relativeScope?, Option.bind_eq_some_iff]
    simp only [ownScope?_eq_some_iff]
    rfl

/-- The children that are found by a name are those that have it. -/
lemma mem_childrenCalled {d : Document} {scope i : Nat} {name : List Char} :
    i ∈ childrenCalled d scope name ↔ d.NamedIn scope name i := by
  rw [childrenCalled, List.mem_filter, NamedIn, Option.any_eq_true]
  simp [Entity.isCalled, Counts, and_assoc]

end Document

/-- **A relative name is found** if one child of the scope has it, and that child has an anchor. -/
lemma findRelative_eq_ok_iff {d : Document} {referrer : Nat} {relation : Name.Relation}
    {name : List Char} {dest : Destination} :
    findRelative d referrer relation name = .ok dest ↔
      ∃ scope c, d.Searches referrer relation scope ∧ childrenCalled d scope name = [c] ∧
        dest.document = d.id ∧ d.anchor? c = some dest.anchor := by
  simp only [← Document.relativeScope?_eq_some_iff]
  obtain ⟨document, anchor⟩ := dest
  unfold findRelative
  cases relativeScope? d referrer relation with
  | none => simp
  | some scope =>
    match hcalled : childrenCalled d scope name with
    | [] => simp [hcalled]
    | [c] =>
      cases hanchor : d.anchor? c with
      | none => simp [hcalled, hanchor]
      | some a => simp [hcalled, hanchor, eq_comm]
    | c :: c' :: cs => simp [hcalled]

/-- A relative name is not looked for in the registry. -/
lemma Registry.lookup_relative (r : Registry) (d : Document) (referrer : Nat)
    (relation : Name.Relation) (name : List Char) :
    r.lookup d referrer (relation.sigil :: name) = findRelative d referrer relation name := by
  cases relation with
  | child => rfl
  | sibling => rfl

/-! ## What a lookup depends on -/

namespace Document

/-- The documents differ in the contents of their entities only. -/
structure SameTree (d d' : Document) : Prop where
  id : d'.id = d.id
  size : d'.entities.size = d.entities.size
  parent? : ∀ i, d'.entities.parent? i = d.entities.parent? i
  children : ∀ i, d'.entities.children i = d.entities.children i

namespace SameTree

variable {d d' : Document}

/-- Changing an entity leaves the tree as it is. -/
lemma modify (d : Document) (i : Nat) (f : Entity → Entity) : d.SameTree (d.modify i f) :=
  ⟨rfl, Arena.size_modifyValue _ _ _, fun j => Arena.parent?_modifyValue _ _ j _,
    fun j => Arena.children_modifyValue _ _ j _⟩

/-- **The anchor of an entity depends on the entity and those around it only.** -/
lemma anchor?_eq (h : d.SameTree d') (hd : d.entities.Ordered) {i : Nat}
    (hagree : ∀ j, d.entities.Reaches j i → d'.get? j = d.get? j) : d'.anchor? i = d.anchor? i := by
  have hfrom : ∀ fuel i, (∀ j, d.entities.Reaches j i → d'.get? j = d.get? j) →
      d'.anchorFrom? fuel i = d.anchorFrom? fuel i := by
    intro fuel
    induction fuel with
    | zero => exact fun i _ => rfl
    | succ fuel ih =>
      intro i hagree
      rw [anchorFrom?, anchorFrom?, hagree i .refl, h.parent? i]
      cases hparent : d.entities.parent? i with
      | none => rfl
      | some p =>
        -- what is around the parent is around the entity
        have hp := ih p fun j hj => hagree j (hj.tail (hd.mem_children_iff.2 hparent))
        rw [Option.bind_some, Option.bind_some, hp]
  rw [anchor?, anchor?, h.size]
  exact hfrom _ i hagree

/-- In the same tree, relative names of the same entity are looked for in the same scope. -/
lemma searches_iff (h : d.SameTree d') {referrer scope : Nat} {relation : Name.Relation}
    (hagree : d'.get? referrer = d.get? referrer) :
    d'.Searches referrer relation scope ↔ d.Searches referrer relation scope := by
  cases relation with
  | child => simp only [Searches, BelongsTo, hagree, h.parent?]
  | sibling => simp only [Searches, BelongsTo, hagree, h.parent?]

/-- In the same tree, the same children have a name if they are the same entities. -/
lemma childrenCalled_eq (h : d.SameTree d') {scope : Nat} (name : List Char)
    (hagree : ∀ i ∈ d.entities.children scope, d'.get? i = d.get? i) :
    childrenCalled d' scope name = childrenCalled d scope name := by
  rw [childrenCalled, childrenCalled, h.children]
  exact List.filter_congr fun i hi => by rw [hagree i hi]

/-- **A relative name leads to the same place in another document** with the same tree, or fails there
in the same way, if the entities that it depends on are the same. -/
lemma findRelative_eq (h : d.SameTree d') (hd : d.entities.Ordered) {referrer : Nat}
    {relation : Name.Relation} {name : List Char}
    (hagree : ∀ j, d.LooksAt referrer relation name j → d'.get? j = d.get? j) :
    findRelative d' referrer relation name = findRelative d referrer relation name := by
  have hscope : relativeScope? d' referrer relation = relativeScope? d referrer relation :=
    Option.ext fun scope => by
      rw [relativeScope?_eq_some_iff, relativeScope?_eq_some_iff,
        h.searches_iff (hagree referrer (.inl rfl))]
  rw [findRelative, findRelative, hscope]
  cases hsearched : relativeScope? d referrer relation with
  | none => rfl
  | some scope =>
    rw [relativeScope?_eq_some_iff] at hsearched
    have hcalled : childrenCalled d' scope name = childrenCalled d scope name :=
      h.childrenCalled_eq name fun i hi => hagree i (.inr ⟨scope, hsearched, .inr (.inl hi)⟩)
    have hself : d'.get? scope = d.get? scope := hagree scope (.inr ⟨scope, hsearched, .inl rfl⟩)
    simp only [hcalled, hself]
    split
    · rfl
    · rename_i c hc
      have hnamed : d.NamedIn scope name c := mem_childrenCalled.1 (by rw [hc, List.mem_singleton])
      rw [h.anchor?_eq hd fun j hj => hagree j (.inr ⟨scope, hsearched, .inr (.inr ⟨c, hnamed, hj⟩)⟩),
        h.id]
    · rfl

end SameTree

/-- The tree of a document stays sound when entities are changed. -/
lemma Revised.ordered {d : Document} (h : d.Revised) : d.entities.Ordered := by
  induction h with
  | assembled settings reader id root =>
    obtain ⟨top, ts, hd, -⟩ := exists_tree_assemble settings reader id root
    rw [hd]
    exact Arena.ordered_ofRose _
  | modify i f _ ih => exact ih.modifyValue i f

end Document

/-! ## Relative and absolute links -/

/-- **Relative links agree with absolute ones.** Let a document be assembled and possibly changed, and
let it be registered, with any documents that have other ids. What a relative name leads to does not
depend on the registry, and it is the same, a failure too, in every document with the same tree in
which the entity with the link, the scope that is searched, its children, and the entities around a
child with the name are the same: no other entity is looked at. If the name is found, then exactly
one child of the scope has it, and the link leads to the anchor of that child. The id of the child,
if it has no relative sigil, leads to the same place from everywhere in the document.

**Proof sketch.** A child that is found counts and has an anchor, so its id is registered with that
anchor and with no other. The registry keeps what was registered for the document, and the lookup of
an id prefers the document of the link. The anchor of an entity is found by going up from it. -/
theorem relative_lookup_agrees {d : Document} (h : d.Revised) {x : Registration}
    (hx : d.register = .ok x) {xs : List Registration} (hmem : x ∈ xs)
    (hothers : ∀ y ∈ xs, y = x ∨ y.document ≠ d.id) (referrer : Nat) (relation : Name.Relation)
    (name : List Char) :
    (∀ r : Registry, r.lookup d referrer (relation.sigil :: name)
      = (xs.foldl Registry.merge {}).lookup d referrer (relation.sigil :: name)) ∧
    (∀ d', d.SameTree d' → (∀ j, d.LooksAt referrer relation name j → d'.get? j = d.get? j) →
      ∀ r : Registry, r.lookup d' referrer (relation.sigil :: name)
        = r.lookup d referrer (relation.sigil :: name)) ∧
    ∀ dest, (xs.foldl Registry.merge {}).lookup d referrer (relation.sigil :: name) = .ok dest →
      ∃ scope c e, d.Searches referrer relation scope ∧
        (∀ i, d.NamedIn scope name i ↔ i = c) ∧
        d.get? c = some e ∧ dest.document = d.id ∧ d.anchor? c = some dest.anchor ∧
        (Name.relative? e.uniqueId.toList = none → ∀ referrer',
          (xs.foldl Registry.merge {}).lookup d referrer' e.uniqueId.toList = .ok dest) := by
  refine ⟨fun r => by rw [Registry.lookup_relative, Registry.lookup_relative], ?_, ?_⟩
  · intro d' htree hagree r
    rw [Registry.lookup_relative, Registry.lookup_relative]
    exact htree.findRelative_eq h.ordered hagree
  intro dest hdest
  rw [Registry.lookup_relative, findRelative_eq_ok_iff] at hdest
  obtain ⟨scope, c, hscope, hcalled, hdocument, hanchor⟩ := hdest
  have hnamed : ∀ i, d.NamedIn scope name i ↔ i = c := by
    intro i
    rw [← Document.mem_childrenCalled, hcalled, List.mem_singleton]
  obtain ⟨-, e, he, -⟩ := (hnamed c).2 rfl
  refine ⟨scope, c, e, hscope, hnamed, he.1, hdocument, hanchor, ?_⟩
  intro hsigil referrer'
  have hlisted := Document.mem_long_anchor hx (h.mem_preorder he.1) he hanchor
  obtain ⟨anchor, hlong, hlookup⟩ := exists_lookup_of_mem_long
    (Document.register_eq_ok hx).1 hmem hothers referrer' hsigil hlisted
  have hl : (⟨e, d.anchor? c⟩ : Listing) ∈ d.listings :=
    Document.mem_listings.2 ⟨c, h.mem_preorder he.1, he.1, he.2, rfl⟩
  have hsame : d.anchor? c = some anchor := Document.eq_anchor_of_mem_long hx hl hlong
  rw [hanchor, Option.some.injEq] at hsame
  rw [hlookup, ← hsame, ← hdocument]

/-- A file with a namespace without a comment and a function in it. -/
def nestedFile : Declaration :=
  { kind := .file, name := "f", qualifiedName := "f", signature := "f"
    children := [{
      kind := .nameSpace, name := "n", qualifiedName := "n", signature := "namespace n"
      children := [{
        kind := .function, name := "g", qualifiedName := "n::g()", signature := "void g()" }] }] }

/-- The document of the file, with another name given to the namespace. -/
def renamedScope : Document :=
  (assemble {} "d" nestedFile).1.modify 1 fun e => { e with name := "m" }

/-- The namespace is found by its new name from the file, and by its id from the function, although
another document has that id. Both lead to the file, as the namespace has no comment. No change of
the function matters. -/
theorem relative_lookup_agrees_renamedScope :
    ∃ x, renamedScope.register = .ok x ∧
      ([⟨"other", [("n", "n")], []⟩, x].foldl Registry.merge {}).lookup renamedScope 0 "*m".toList
        = .ok ⟨"d", "f"⟩ ∧
      ([⟨"other", [("n", "n")], []⟩, x].foldl Registry.merge {}).lookup renamedScope 2 "n".toList
        = .ok ⟨"d", "f"⟩ ∧
      ∀ f, Registry.lookup {} (renamedScope.modify 2 f) 0 "*m".toList = .ok ⟨"d", "f"⟩ := by
  have hrevised : renamedScope.Revised := .modify 1 _ (.assembled _ _ _ _)
  obtain ⟨x, hx⟩ : ∃ x, renamedScope.register = .ok x := ⟨_, rfl⟩
  have hothers : ∀ y ∈ [(⟨"other", [("n", "n")], []⟩ : Registration), x],
      y = x ∨ y.document ≠ renamedScope.id := by
    intro y hy
    rcases List.mem_pair.1 hy with rfl | rfl
    · exact .inr (by decide)
    · exact .inl rfl
  obtain ⟨hsame, hframe, hfound⟩ :=
    relative_lookup_agrees hrevised hx (by simp) hothers 0 .child ['m']
  have hrelative : Registry.lookup {} renamedScope 0 "*m".toList = .ok ⟨"d", "f"⟩ := by
    decide +kernel
  obtain ⟨scope, c, e, hscope, hnamed, he, -, -, habsolute⟩ :=
    hfound _ ((hsame {}).symm.trans hrelative)
  rw [← Document.relativeScope?_eq_some_iff] at hscope
  obtain rfl : 0 = scope := Option.some.inj hscope
  obtain rfl : 1 = c := (hnamed 1).1 (Document.mem_childrenCalled.1 (by decide +kernel))
  have hid : e.uniqueId = "n" := by
    have hname : (renamedScope.get? 1).map (·.uniqueId) = some "n" := rfl
    rw [he] at hname
    exact Option.some.inj hname
  rw [hid] at habsolute
  refine ⟨x, hx, (hsame {}).symm.trans hrelative, habsolute rfl 2, fun f => ?_⟩
  refine (hframe _ (Document.SameTree.modify renamedScope 2 f) (fun j hj => ?_) {}).trans hrelative
  have hne : j ≠ 2 := by
    rintro rfl
    rcases hj with hj | ⟨scope, hscope, hj⟩
    · cases hj
    rw [← Document.relativeScope?_eq_some_iff] at hscope
    obtain rfl : 0 = scope := Option.some.inj hscope
    rcases hj with hj | hj | ⟨c, hc, hj⟩
    · cases hj
    · revert hj
      decide
    · obtain rfl := (hnamed c).1 hc
      have := hrevised.ordered.le_of_reaches hj
      omega
  rw [Document.get?, Document.modify, Arena.value?_modifyValue, if_neg hne]
  rfl

end DocComments
