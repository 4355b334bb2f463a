import DocComments.Link.Lookup
import DocComments.Proofs.Arena.Parents
import Mathlib.Data.List.Nodup

set_option autoImplicit false

/-!
# What the registry holds

The registry of some registrations holds, for an id and a document, an anchor that a registration of
that document has for the id, and it holds one as soon as there is such a registration. A lookup
that finds something finds it there, or among the children of a scope.

## Main definitions

* `Registry.anchorIn?` — the anchor of an id in a document.

## Main results

* `Registry.exists_of_anchorIn?` — every anchor in the registry was registered.
* `Registry.isSome_anchorIn?` — every id that was registered is in the registry.
* `Registry.lookup_of_anchorIn?` — a name that is an id in the document of the link is found there.
* `Registry.exists_of_lookup` — where a name that is found leads.
* `Document.register_eq_ok` — what a registration consists of.
-/

namespace DocComments

namespace Registry

/-! ## Ids and anchors -/

/-- The anchor that an id leads to in a document. -/
def anchorIn? (r : Registry) (id document : String) : Option String :=
  (r.long.get? id).bind fun entries => entries.get? document

/-- One more entry is seen under its own id, in its own document only. -/
lemma get?_addLong (document : String) (long : Table (Table String)) (entry : String × String)
    (id other : String) :
    ((addLong document long entry).get? id).bind (fun entries => entries.get? other)
      = if id = entry.1 ∧ other = document then some entry.2
        else (long.get? id).bind fun entries => entries.get? other :=
  Table.get?_alter_insert long entry.1 document entry.2 id other

/-- An anchor that is there after some entries of a document were added is that of one of them, or
was there before. -/
lemma of_get?_foldl_addLong {document : String} {entries : List (String × String)}
    {long : Table (Table String)} {id other anchor : String}
    (h : ((entries.foldl (addLong document) long).get? id).bind (fun t => t.get? other)
      = some anchor) :
    (other = document ∧ (id, anchor) ∈ entries) ∨
      (long.get? id).bind (fun t => t.get? other) = some anchor := by
  induction entries generalizing long with
  | nil => exact .inr h
  | cons entry entries ih =>
    rcases ih h with ⟨hother, hmem⟩ | hold
    · exact .inl ⟨hother, List.mem_cons_of_mem _ hmem⟩
    · rw [get?_addLong] at hold
      split at hold
      · rename_i heq
        obtain ⟨rfl, rfl⟩ := heq
        cases hold
        exact .inl ⟨rfl, List.mem_cons_self⟩
      · exact .inr hold

/-- What is there stays there, possibly with another anchor, when entries are added. -/
lemma isSome_get?_foldl_addLong_of_isSome {document : String} {entries : List (String × String)}
    {long : Table (Table String)} {id other : String}
    (h : ((long.get? id).bind fun t => t.get? other).isSome = true) :
    (((entries.foldl (addLong document) long).get? id).bind fun t => t.get? other).isSome
      = true := by
  apply List.foldlRecOn (motive := fun long : Table (Table String) =>
    ((long.get? id).bind fun t => t.get? other).isSome = true)
  · exact h
  · intro long hlong entry _
    rw [get?_addLong]
    split
    · rfl
    · exact hlong

/-- What was added is there. -/
lemma isSome_get?_foldl_addLong {document : String} {entries : List (String × String)}
    (long : Table (Table String)) {id anchor : String} (h : (id, anchor) ∈ entries) :
    (((entries.foldl (addLong document) long).get? id).bind fun t => t.get? document).isSome
      = true := by
  induction entries generalizing long with
  | nil => simp at h
  | cons entry entries ih =>
    rcases List.mem_cons.1 h with rfl | h
    · rw [List.foldl_cons]
      apply isSome_get?_foldl_addLong_of_isSome
      rw [get?_addLong, if_pos ⟨rfl, rfl⟩]
      rfl
    · exact ih _ h

/-! ## Registrations -/

/-- **Every anchor in the registry was registered.** -/
lemma exists_of_anchorIn? {xs : List Registration} {r : Registry} {id document anchor : String}
    (h : (xs.foldl merge r).anchorIn? id document = some anchor) :
    (∃ x ∈ xs, x.document = document ∧ (id, anchor) ∈ x.long) ∨
      r.anchorIn? id document = some anchor := by
  induction xs generalizing r with
  | nil => exact .inr h
  | cons x xs ih =>
    rcases ih h with ⟨y, hy, hdocument, hmem⟩ | hold
    · exact .inl ⟨y, List.mem_cons_of_mem _ hy, hdocument, hmem⟩
    · rcases of_get?_foldl_addLong hold with ⟨rfl, hmem⟩ | hold
      · exact .inl ⟨x, List.mem_cons_self, rfl, hmem⟩
      · exact .inr hold

/-- What is in the registry stays there when registrations are added. -/
lemma isSome_anchorIn?_of_isSome {xs : List Registration} {r : Registry} {id document : String}
    (h : (r.anchorIn? id document).isSome = true) :
    ((xs.foldl merge r).anchorIn? id document).isSome = true := by
  apply List.foldlRecOn (motive := fun r : Registry => (r.anchorIn? id document).isSome = true)
  · exact h
  · intro r hr x _
    exact isSome_get?_foldl_addLong_of_isSome hr

/-- **Every id that was registered is in the registry.** -/
lemma isSome_anchorIn? {xs : List Registration} (r : Registry) {x : Registration} (hx : x ∈ xs)
    {id anchor : String} (h : (id, anchor) ∈ x.long) :
    ((xs.foldl merge r).anchorIn? id x.document).isSome = true := by
  induction xs generalizing r with
  | nil => simp at hx
  | cons y xs ih =>
    rcases List.mem_cons.1 hx with rfl | hx
    · rw [List.foldl_cons]
      apply isSome_anchorIn?_of_isSome
      exact isSome_get?_foldl_addLong r.long h
    · exact ih _ hx

/-! ## Lookups -/

/-- An id that the document of the link has leads there. -/
lemma findId?_of_anchorIn? {r : Registry} {document id anchor : String} (written : String)
    (h : r.anchorIn? id document = some anchor) :
    r.findId? document written id = some (.ok ⟨document, anchor⟩) := by
  obtain ⟨entries, hentries, hanchor⟩ := Option.bind_eq_some_iff.1 h
  rw [findId?, hentries, Option.map_some, choose, hanchor]

/-- **A name that is an id in the document of the link is found there.** -/
lemma lookup_of_anchorIn? {r : Registry} {d : Document} (referrer : Nat) {name anchor : String}
    (hname : Name.relative? name.toList = none) (h : r.anchorIn? name d.id = some anchor) :
    r.lookup d referrer name.toList = .ok ⟨d.id, anchor⟩ := by
  have hfind := findId?_of_anchorIn? name h
  simp only [lookup, hname, String.ofList_toList, hfind]

/-- A choice leads to an anchor of the id. -/
lemma get?_of_choose {entries : Table String} {document written id : String} {dest : Destination}
    (h : choose entries document written id = .ok dest) :
    entries.get? dest.document = some dest.anchor := by
  unfold choose at h
  split at h
  · rename_i anchor hanchor
    cases h
    exact hanchor
  · split at h
    · rename_i other anchor heq
      cases h
      rw [Table.get?, heq, Table.lookup, if_pos rfl]
    · cases h

/-- An id that is found leads to one of its anchors. -/
lemma anchorIn?_of_findId? {r : Registry} {document written id : String} {dest : Destination}
    (h : r.findId? document written id = some (.ok dest)) :
    r.anchorIn? id dest.document = some dest.anchor := by
  obtain ⟨entries, hentries, hchoose⟩ := Option.map_eq_some_iff.1 h
  rw [anchorIn?, hentries, Option.bind_some]
  exact get?_of_choose hchoose

/-- A short name that is found leads to an anchor of some id. -/
lemma exists_of_findShort {r : Registry} {document written : String} {name : List Char}
    {dest : Destination} (h : r.findShort document written name = .ok dest) :
    ∃ id, r.anchorIn? id dest.document = some dest.anchor := by
  unfold findShort at h
  split at h
  · cases h
  · cases h
  · rename_i id _
    cases hfind : r.findId? document written id with
    | none => simp [hfind] at h
    | some found =>
      rw [hfind, Option.getD_some] at h
      rw [h] at hfind
      exact ⟨id, anchorIn?_of_findId? hfind⟩
  · cases h

/-- A relative name that is found leads to the anchor of an entity of the same document. -/
lemma exists_of_findRelative {d : Document} {referrer : Nat} {relation : Name.Relation}
    {name : List Char} {dest : Destination} (h : findRelative d referrer relation name = .ok dest) :
    dest.document = d.id ∧ ∃ i, d.anchor? i = some dest.anchor := by
  unfold findRelative at h
  split at h
  · cases h
  · split at h
    · cases h
    · rename_i found _
      split at h
      · rename_i anchor hanchor
        cases h
        exact ⟨rfl, found, hanchor⟩
      · cases h
    · cases h

/-- **Where a name that is found leads**: to the anchor of an entity of the same document, or to one
in the registry. -/
lemma exists_of_lookup {r : Registry} {d : Document} {referrer : Nat} {name : List Char}
    {dest : Destination} (h : r.lookup d referrer name = .ok dest) :
    (dest.document = d.id ∧ ∃ i, d.anchor? i = some dest.anchor) ∨
      ∃ id, r.anchorIn? id dest.document = some dest.anchor := by
  unfold lookup at h
  split at h
  · exact .inl (exists_of_findRelative h)
  · simp only at h
    split at h
    · rename_i found hfound
      rw [h] at hfound
      exact .inr ⟨_, anchorIn?_of_findId? hfound⟩
    · split at h
      · rename_i found hfound
        obtain ⟨candidate, -, hcandidate⟩ := List.exists_of_findSome?_eq_some hfound
        rw [h] at hcandidate
        exact .inr ⟨_, anchorIn?_of_findId? hcandidate⟩
      · exact .inr (exists_of_findShort h)

end Registry

/-! ## What a document registers -/

/-- The ids of entities differ if none is repeated. -/
lemma Listing.nodup_of_repeated? {seen : List String} {ls : List Listing}
    (h : Listing.repeated? seen ls = none) :
    (ls.map (·.entity.uniqueId)).Nodup ∧ ∀ l ∈ ls, l.entity.uniqueId ∉ seen := by
  induction ls generalizing seen with
  | nil => simp
  | cons l ls ih =>
    rw [Listing.repeated?] at h
    split at h
    · cases h
    · rename_i hnew
      obtain ⟨hnodup, hrest⟩ := ih h
      refine ⟨?_, fun l' hl' => ?_⟩
      · rw [List.map_cons, List.nodup_cons]
        refine ⟨fun hmem => ?_, hnodup⟩
        obtain ⟨l', hl', heq⟩ := List.mem_map.1 hmem
        exact hrest l' hl' (by simp [heq])
      · rcases List.mem_cons.1 hl' with rfl | hl'
        · exact hnew
        · exact fun hseen => hrest l' hl' (by simp [hseen])

/-- The entries that are kept are among those given, and have a new key. -/
lemma mem_of_mem_keepNew {seen : List String} {entries : List (String × String)}
    {e : String × String} (h : e ∈ keepNew seen entries) : e ∈ entries ∧ e.1 ∉ seen := by
  induction entries generalizing seen with
  | nil => simp [keepNew] at h
  | cons entry entries ih =>
    obtain ⟨key, value⟩ := entry
    rw [keepNew] at h
    split at h
    · obtain ⟨hmem, hnew⟩ := ih h
      exact ⟨List.mem_cons_of_mem _ hmem, hnew⟩
    · rename_i hkey
      rcases List.mem_cons.1 h with rfl | h
      · exact ⟨List.mem_cons_self, hkey⟩
      · obtain ⟨hmem, hnew⟩ := ih h
        exact ⟨List.mem_cons_of_mem _ hmem, fun hseen => hnew (by simp [hseen])⟩

/-- Every key that is not taken is kept with one of its values. -/
lemma exists_mem_keepNew (seen : List String) {entries : List (String × String)}
    {e : String × String} (h : e ∈ entries) :
    e.1 ∈ seen ∨ ∃ value, (e.1, value) ∈ keepNew seen entries := by
  induction entries generalizing seen with
  | nil => simp at h
  | cons entry entries ih =>
    obtain ⟨key, value⟩ := entry
    rw [keepNew]
    rcases List.mem_cons.1 h with rfl | h
    · by_cases hkey : key ∈ seen
      · exact .inl hkey
      · exact .inr ⟨value, by simp [hkey]⟩
    · by_cases hkey : key ∈ seen
      · rw [if_pos hkey]
        exact ih seen h
      · rw [if_neg hkey]
        rcases ih (key :: seen) h with hseen | ⟨other, hother⟩
        · rcases List.mem_cons.1 hseen with heq | hseen
          · exact .inr ⟨value, by simp [heq]⟩
          · exact .inl hseen
        · exact .inr ⟨other, List.mem_cons_of_mem _ hother⟩

namespace Document

/-- The entities that count. -/
lemma mem_listings {d : Document} {l : Listing} :
    l ∈ d.listings ↔ ∃ i ∈ d.preorder, d.get? i = some l.entity ∧ l.entity.excluded = false ∧
      l.anchor = d.anchor? i := by
  obtain ⟨entity, anchor⟩ := l
  rw [listings, List.mem_filterMap]
  constructor
  · rintro ⟨i, hi, h⟩
    split at h
    · rename_i e he
      split at h
      · cases h
      · rename_i hkept
        cases h
        exact ⟨i, hi, he, by simpa using hkept, rfl⟩
    · cases h
  · rintro ⟨i, hi, he, hkept, rfl⟩
    exact ⟨i, hi, by simp_all⟩

/-- **What a registration consists of.** -/
lemma register_eq_ok {d : Document} {x : Registration} (h : d.register = .ok x) :
    x.document = d.id ∧ (d.listings.map (·.entity.uniqueId)).Nodup ∧
      x.long = d.listings.flatMap (·.own) ++
        keepNew (d.listings.map (·.entity.uniqueId)) (d.listings.flatMap (·.others)) := by
  unfold register at h
  simp only at h
  split at h
  · cases h
  · rename_i hnone
    cases h
    exact ⟨rfl, (Listing.nodup_of_repeated? hnone).1, rfl⟩

end Document

end DocComments
