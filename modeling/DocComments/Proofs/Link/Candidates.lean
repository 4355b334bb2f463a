import DocComments.Proofs.Link.Registered

set_option autoImplicit false

/-!
# The ids that a short name may stand for

The registry keeps, for each short name, the set of the ids it may stand for. A registration adds to
these sets and takes nothing from them, so an id is in the set of a short name exactly if some
registration put it there. A document puts the id of each of its entities that count, and have an
anchor, into the sets of all short names of that entity and of its members.

## Main definitions

* `Registry.candidates` — the ids that a short name may stand for.
* `Document.HasShortName` — an entity of a document can be found under a short name.

## Main results

* `Registry.findShort_eq` — what the lookup of a short name makes of the candidates.
* `Registry.mem_candidates_foldl_merge` — every candidate was registered.
* `Document.mem_short_iff` — the short names that a document registers.
-/

namespace DocComments

namespace Registry

/-! ## Candidates -/

/-- The ids that a short name may stand for, in increasing order. -/
def candidates (r : Registry) (short : String) : List String :=
  ((r.short.get? short).map (·.keys)).getD []

/-- What the lookup of a short name makes of the candidates. -/
lemma findShort_eq (r : Registry) (document written : String) (name : List Char) :
    r.findShort document written name =
      match r.candidates (String.ofList (Name.shortKey name)) with
      | [] => .error (.unknown written)
      | [id] => (r.findId? document written id).getD (.error (.unknown written))
      | ids => .error (.ambiguous written ids) := by
  unfold findShort candidates
  cases r.short.get? (String.ofList (Name.shortKey name)) with
  | none => rfl
  | some ids =>
    simp only [Option.map_some, Option.getD_some]
    match ids.keys with
    | [] => rfl
    | [_] => rfl
    | _ :: _ :: _ => rfl

/-- The candidates are in increasing order. -/
lemma pairwise_candidates (r : Registry) (short : String) :
    (r.candidates short).Pairwise (· < ·) := by
  unfold candidates
  cases r.short.get? short with
  | none => exact .nil
  | some ids => exact ids.pairwise_keys

/-- No candidate is listed twice. -/
lemma nodup_candidates (r : Registry) (short : String) : (r.candidates short).Nodup := by
  unfold candidates
  cases r.short.get? short with
  | none => exact .nil
  | some ids => exact ids.nodup_keys

/-- The candidates for a short name are the ids that are filed under it. -/
lemma mem_candidates {r : Registry} {short id : String} :
    id ∈ r.candidates short ↔ ((r.short.get? short).bind (·.get? id)).isSome = true := by
  unfold candidates
  cases r.short.get? short with
  | none => simp
  | some ids => exact Table.mem_keys

/-! ## Registrations -/

/-- The ids of a short name are those that were added and those that were there. -/
lemma isSome_get?_foldl_addShort {entries : List (String × String)} {table : Table NameSet}
    {short id : String} :
    (((entries.foldl addShort table).get? short).bind (·.get? id)).isSome = true ↔
      (short, id) ∈ entries ∨ ((table.get? short).bind (·.get? id)).isSome = true := by
  induction entries generalizing table with
  | nil => simp
  | cons entry entries ih =>
    have hadd := Table.get?_alter_insert table entry.1 entry.2 () short id
    rw [List.foldl_cons, ih, addShort, hadd, List.mem_cons, Prod.ext_iff]
    by_cases hentry : short = entry.1 ∧ id = entry.2
    · simp [hentry]
    · simp [hentry]

/-- A registration adds the candidates that it names. -/
lemma mem_candidates_merge {r : Registry} {x : Registration} {short id : String} :
    id ∈ (r.merge x).candidates short ↔ (short, id) ∈ x.short ∨ id ∈ r.candidates short := by
  rw [mem_candidates, mem_candidates]
  exact isSome_get?_foldl_addShort

/-- **Every candidate was registered**, and what was registered is a candidate. -/
lemma mem_candidates_foldl_merge {xs : List Registration} {r : Registry} {short id : String} :
    id ∈ (xs.foldl merge r).candidates short ↔
      (∃ x ∈ xs, (short, id) ∈ x.short) ∨ id ∈ r.candidates short := by
  induction xs generalizing r with
  | nil => simp
  | cons x xs ih =>
    rw [List.foldl_cons, ih, mem_candidates_merge, List.exists_mem_cons_iff, or_left_comm,
      or_assoc]

end Registry

/-! ## The short names of a document -/

namespace Document

/-- An entity of the document that is not excluded and has an anchor has the id, and it can be found
under the short name: that is a short form of its id, or of the id or the qualified name of one of
its members. -/
def HasShortName (d : Document) (short : List Char) (id : String) : Prop :=
  ∃ i e, d.get? i = some e ∧ e.excluded = false ∧ (d.anchor? i).isSome = true ∧ e.uniqueId = id ∧
    (short ∈ Name.shortAliases e.uniqueId.toList ∨
      ∃ m ∈ e.members, short ∈ Name.shortAliases m.uniqueId.toList ∨
        short ∈ Name.shortAliases m.qualifiedName.toList)

/-- The short names of a registration. -/
lemma short_of_register {d : Document} {x : Registration} (h : d.register = .ok x) :
    x.short = d.listings.flatMap (·.aliases) := by
  unfold register at h
  simp only at h
  split at h
  · cases h
  · cases h
    rfl

end Document

/-- The short names of an entity with an anchor. -/
lemma Listing.mem_aliases {l : Listing} {short id : String} :
    (short, id) ∈ l.aliases ↔ l.anchor.isSome = true ∧ l.entity.uniqueId = id ∧
      ∃ name, (name ∈ l.memberNames ∨ name = l.entity.uniqueId) ∧
        short.toList ∈ Name.shortAliases name.toList := by
  unfold aliases
  cases l.anchor with
  | none => simp
  | some anchor =>
    simp only [List.mem_flatMap, List.mem_append, List.mem_singleton, List.mem_map,
      Prod.mk.injEq, Option.isSome_some, true_and]
    constructor
    · rintro ⟨name, hname, form, halias, rfl, hid⟩
      exact ⟨hid, name, hname, by simpa using halias⟩
    · rintro ⟨hid, name, hname, halias⟩
      exact ⟨name, hname, short.toList, halias, String.ofList_toList, hid⟩

/-- **The short names that a document registers** are those of its entities. -/
lemma Document.mem_short_iff {d : Document} {x : Registration} (h : d.register = .ok x)
    (hall : ∀ {i e}, d.get? i = some e → i ∈ d.preorder) {short id : String} :
    (short, id) ∈ x.short ↔ d.HasShortName short.toList id := by
  rw [short_of_register h, List.mem_flatMap]
  constructor
  · rintro ⟨l, hl, haliases⟩
    obtain ⟨i, -, he, hkept, hanchor⟩ := mem_listings.1 hl
    obtain ⟨hsome, hid, name, hname, halias⟩ := Listing.mem_aliases.1 haliases
    refine ⟨i, l.entity, he, hkept, hanchor ▸ hsome, hid, ?_⟩
    rcases hname with hname | rfl
    · obtain ⟨m, hm, hname⟩ := List.mem_flatMap.1 hname
      rcases List.mem_pair.1 hname with rfl | rfl
      · exact .inr ⟨m, hm, .inl halias⟩
      · exact .inr ⟨m, hm, .inr halias⟩
    · exact .inl halias
  · rintro ⟨i, e, he, hkept, hsome, hid, hshort⟩
    refine ⟨⟨e, d.anchor? i⟩, mem_listings.2 ⟨i, hall he, he, hkept, rfl⟩, ?_⟩
    apply Listing.mem_aliases.2
    refine ⟨hsome, hid, ?_⟩
    rcases hshort with hown | ⟨m, hm, hid | hqualified⟩
    · exact ⟨_, .inr rfl, hown⟩
    · exact ⟨m.uniqueId, .inl (List.mem_flatMap.2 ⟨m, hm, by simp⟩), hid⟩
    · exact ⟨m.qualifiedName, .inl (List.mem_flatMap.2 ⟨m, hm, by simp⟩), hqualified⟩

end DocComments
