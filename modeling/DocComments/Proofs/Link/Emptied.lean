import DocComments.Link.Resolve
import DocComments.Proofs.Arena.Contents

set_option autoImplicit false

/-!
# Names are found without reading comments

Registering a document and looking up a name use which members have a comment, but never what a
comment says. So a document may have all its comments emptied before, and looking up its links,
which changes comments only, changes neither its registration nor any lookup.

## Main definitions

* `Document.emptied` — the document with all comments emptied.

## Main results

* `Document.register_emptied` — registering does not read comments.
* `Registry.lookup_emptied` — looking up a name does not read comments.
* `Registry.emptied_resolve` — looking up the links of a document changes comments only.
-/

namespace DocComments

/-- The member with its comment emptied. -/
def Member.emptied (m : Member) : Member :=
  { m with comment := m.comment.map fun _ => Comment.empty }

/-- The entity with its comments emptied. -/
def Entity.emptied (e : Entity) : Entity :=
  { e with members := e.members.map Member.emptied }

/-- Whether an entity is documented does not depend on what its comments say. -/
@[simp]
lemma Entity.isDocumented_emptied (e : Entity) : e.emptied.isDocumented = e.isDocumented := by
  simp [isDocumented, emptied, Member.emptied, Function.comp_def]

namespace Document

variable (d : Document)

/-- The document with all comments emptied. -/
def emptied : Document where
  id := d.id
  entities := d.entities.map Entity.emptied

/-- The document keeps its id without its comments. -/
@[simp]
lemma id_emptied : d.emptied.id = d.id := rfl

/-- The entities of a document without its comments. -/
@[simp]
lemma get?_emptied (i : Nat) : d.emptied.get? i = (d.get? i).map Entity.emptied :=
  Arena.value?_map _ _ i

/-- The parents stay without the comments. -/
@[simp]
lemma parent?_emptied (i : Nat) : d.emptied.entities.parent? i = d.entities.parent? i :=
  Arena.parent?_map _ _ i

/-- The children stay without the comments. -/
@[simp]
lemma children_emptied (i : Nat) : d.emptied.entities.children i = d.entities.children i :=
  Arena.children_map _ _ i

/-- The order of the entities stays without the comments. -/
@[simp]
lemma preorder_emptied : d.emptied.preorder = d.preorder :=
  Arena.preorder_map _ _ 0

/-! ## Anchors -/

/-- The search for an anchor does not read comments. -/
lemma anchorFrom?_emptied (fuel i : Nat) : d.emptied.anchorFrom? fuel i = d.anchorFrom? fuel i := by
  induction fuel generalizing i with
  | zero => rfl
  | succ fuel ih =>
    rw [anchorFrom?, anchorFrom?, get?_emptied]
    cases d.get? i with
    | none => rfl
    | some e =>
      simp only [Option.map_some, Entity.isDocumented_emptied, parent?_emptied]
      rw [funext ih]
      rfl

/-- Anchors do not depend on what comments say. -/
@[simp]
lemma anchor?_emptied (i : Nat) : d.emptied.anchor? i = d.anchor? i := by
  have hsize : d.emptied.entities.size = d.entities.size := Arena.size_map _ _
  rw [anchor?, anchor?, hsize, anchorFrom?_emptied]

end Document

/-! ## Registration -/

namespace Listing

/-- The listing with the comments of its entity emptied. -/
def emptied (l : Listing) : Listing :=
  { l with entity := l.entity.emptied }

/-- Member names are listed without reading comments. -/
lemma memberNames_emptied (l : Listing) : l.emptied.memberNames = l.memberNames := by
  simp [memberNames, emptied, Entity.emptied, Member.emptied, List.flatMap_map]

/-- The own entry is listed without reading comments. -/
lemma own_emptied (l : Listing) : l.emptied.own = l.own := rfl

/-- The other entries are listed without reading comments. -/
lemma others_emptied (l : Listing) : l.emptied.others = l.others := by
  unfold others
  rw [memberNames_emptied]
  rfl

/-- Aliases are listed without reading comments. -/
lemma aliases_emptied (l : Listing) : l.emptied.aliases = l.aliases := by
  unfold aliases
  rw [memberNames_emptied]
  rfl

/-- A repeated id is found without reading comments. -/
lemma repeated?_map_emptied (seen : List String) (ls : List Listing) :
    repeated? seen (ls.map emptied) = (repeated? seen ls).map emptied := by
  induction ls generalizing seen with
  | nil => rfl
  | cons l ls ih =>
    rw [List.map_cons, repeated?, repeated?, ih]
    have hid : l.emptied.entity.uniqueId = l.entity.uniqueId := rfl
    rw [hid]
    split <;> rfl

end Listing

namespace Document

/-- The entities that are registered are the same without comments. -/
lemma listings_emptied (d : Document) : d.emptied.listings = d.listings.map Listing.emptied := by
  rw [listings, listings, preorder_emptied, List.map_filterMap]
  apply List.filterMap_congr
  intro i _
  rw [get?_emptied, anchor?_emptied]
  cases d.get? i with
  | none => rfl
  | some e =>
    have hexcluded : e.emptied.excluded = e.excluded := rfl
    simp only [Option.map_some, hexcluded]
    split <;> rfl

/-- **Registering a document does not read its comments.** -/
theorem register_emptied (d : Document) : d.emptied.register = d.register := by
  have hpositions : ∀ e : Entity,
      e.emptied.members.head?.map (·.position) = e.members.head?.map (·.position) := by
    intro e
    rw [Entity.emptied, List.head?_map, Option.map_map]
    rfl
  unfold register
  simp only [listings_emptied, Listing.repeated?_map_emptied]
  cases Listing.repeated? [] d.listings with
  | some l =>
    simp only [Option.map_some, Listing.emptied, hpositions]
    rfl
  | none =>
    simp only [Option.map_none, List.flatMap_map, List.map_map, Listing.own_emptied,
      Listing.others_emptied, Listing.aliases_emptied]
    rfl

end Document

/-! ## Lookups -/

section Lookup

variable (d : Document)

/-- The scope of a relative name does not depend on comments. -/
lemma relativeScope?_emptied (referrer : Nat) (relation : Name.Relation) :
    relativeScope? d.emptied referrer relation = relativeScope? d referrer relation := by
  have hown : ownScope? d.emptied referrer = ownScope? d referrer := by
    rw [ownScope?, ownScope?, Document.get?_emptied, Document.parent?_emptied]
    cases d.get? referrer <;> rfl
  cases relation with
  | child => exact hown
  | sibling =>
    rw [relativeScope?, relativeScope?, hown]
    congr 1
    exact funext d.parent?_emptied

/-- The children with a name do not depend on comments. -/
lemma childrenCalled_emptied (scope : Nat) (name : List Char) :
    childrenCalled d.emptied scope name = childrenCalled d scope name := by
  rw [childrenCalled, childrenCalled, Document.children_emptied]
  apply List.filter_congr
  intro id _
  rw [Document.get?_emptied]
  cases d.get? id <;> rfl

/-- Relative names are found without reading comments. -/
lemma findRelative_emptied (referrer : Nat) (relation : Name.Relation) (name : List Char) :
    findRelative d.emptied referrer relation name = findRelative d referrer relation name := by
  unfold findRelative
  simp only [relativeScope?_emptied, childrenCalled_emptied, Document.anchor?_emptied,
    Document.get?_emptied, Document.id_emptied, Option.map_map]
  rfl

/-- **Looking up a name does not read comments.** -/
theorem Registry.lookup_emptied (r : Registry) : r.lookup d.emptied = r.lookup d := by
  funext referrer name
  unfold lookup
  simp only [findRelative_emptied, Document.id_emptied]

end Lookup

/-! ## After looking up links -/

/-- Looking up links changes the comments of an entity only. -/
lemma Entity.emptied_bindLinks (find : Finder) (e : Entity) :
    (e.bindLinks find).emptied = e.emptied := by
  simp [emptied, bindLinks, Member.emptied, Member.bindLinks, Function.comp_def]

namespace Registry

/-- **Looking up the links of a document changes comments only.** -/
lemma emptied_resolve (r : Registry) (d : Document) : (r.resolve d).1.emptied = d.emptied := by
  apply List.foldlRecOn (motive := fun d' : Document => d'.emptied = d.emptied)
  · rfl
  · intro d' hd' id _
    rw [← hd']
    unfold Document.modify Document.emptied
    congr 1
    exact Arena.map_modifyValue (Entity.emptied_bindLinks _) _ id

/-- The names in a document lead where they led before. -/
lemma lookup_resolve (r s : Registry) (d : Document) : s.lookup (r.resolve d).1 = s.lookup d := by
  rw [← s.lookup_emptied, r.emptied_resolve, s.lookup_emptied]

/-- A document registers what it registered before. -/
lemma register_resolve (r : Registry) (d : Document) : (r.resolve d).1.register = d.register := by
  rw [← Document.register_emptied, r.emptied_resolve, Document.register_emptied]

/-- The entities stay in order. -/
lemma preorder_resolve (r : Registry) (d : Document) : (r.resolve d).1.preorder = d.preorder := by
  rw [← Document.preorder_emptied, r.emptied_resolve, Document.preorder_emptied]

end Registry

end DocComments
