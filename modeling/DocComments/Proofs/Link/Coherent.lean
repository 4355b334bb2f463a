import DocComments.Proofs.Link.Candidates
import DocComments.Proofs.Link.Destinations

set_option autoImplicit false

/-!
# The registry stays coherent

The registry keeps ids, short names and documents in three tables that have to fit together: every
id leads into some document, only into registered ones, and what a short name may stand for is an
id. The first two hold after any registrations. The third one holds because a document registers
the id of every entity whose short names it registers. So the lookup of a short name never finds a
candidate that leads nowhere, and a name is only said to be ambiguous if it stands for several things.

## Main definitions

* `Registry.Grounded` — every id leads into some document, and only into registered ones.
* `Registry.Coherent` — besides, what a short name may stand for is an id.
* `Registry.Reached` — a registry that is made by registering documents.

## Main results

* `Registry.choose_eq_ok_iff`, `Registry.choose_eq_error`, `Registry.findId?_eq_ok_iff` — where an id
  leads.
* `Registry.Grounded.merge`, `Registry.Coherent.merge` — what one registration keeps.
* `Registry.Reached.coherent` — what registering documents keeps.
* `registry_stays_coherent` — the same, and what follows for the lookup of a name.
-/

namespace DocComments

namespace Registry

/-! ## Where an id leads -/

/-- **An id leads into the document of the link**, if that has the id, else into the only document
that has it. -/
lemma choose_eq_ok_iff {entries : Table String} {document written id : String}
    {dest : Destination} :
    choose entries document written id = .ok dest ↔
      entries.get? dest.document = some dest.anchor ∧
        (dest.document = document ∨
          entries.get? document = none ∧ ∀ other ∈ entries.keys, other = dest.document) := by
  obtain ⟨other, anchor⟩ := dest
  unfold choose
  cases hown : entries.get? document with
  | some own =>
    constructor
    · intro h
      cases h
      exact ⟨hown, .inl rfl⟩
    · rintro ⟨hother, rfl | ⟨hnone, -⟩⟩
      · rw [hown] at hother
        rw [Option.some.inj hother]
      · cases hnone
  | none =>
    have hsingle : entries.entries = [(other, anchor)] ↔
        entries.get? other = some anchor ∧ ∀ key ∈ entries.keys, key = other :=
      Table.entries_eq_singleton_iff
    constructor
    · intro h
      simp only at h
      split at h
      · rename_i heq
        cases h
        exact ⟨(hsingle.1 heq).1, .inr ⟨rfl, (hsingle.1 heq).2⟩⟩
      · cases h
    · rintro ⟨hother, rfl | ⟨-, hothers⟩⟩
      · rw [hown] at hother
        cases hother
      · rw [hsingle.2 ⟨hother, hothers⟩]

/-- **An id leads nowhere if several documents have it**, but not that of the link. -/
lemma choose_eq_error {entries : Table String} {document written id : String} {e : LinkError}
    (h : choose entries document written id = .error e) :
    entries.get? document = none ∧
      e = .ambiguous written (entries.keys.map fun other => other ++ ":" ++ id) ∧
      entries.keys.length ≠ 1 := by
  unfold choose at h
  split at h
  · cases h
  · rename_i hown
    split at h
    · cases h
    · rename_i hmany
      cases h
      refine ⟨hown, rfl, fun hlength => ?_⟩
      rw [Table.keys, List.length_map] at hlength
      obtain ⟨⟨key, value⟩, heq⟩ := List.length_eq_one_iff.1 hlength
      exact hmany key value heq

/-- What is found for an id was chosen among the documents that have it. -/
lemma findId?_eq_some_iff {r : Registry} {document written id : String}
    {found : Except LinkError Destination} : r.findId? document written id = some found ↔
      ∃ entries, r.long.get? id = some entries ∧ choose entries document written id = found :=
  Option.map_eq_some_iff

/-- **The exact lookup of an id**: it leads into the document of the link, if that has the id, else
into the only document that has it. -/
lemma findId?_eq_ok_iff {r : Registry} {document written id : String} {dest : Destination} :
    r.findId? document written id = some (.ok dest) ↔
      r.anchorIn? id dest.document = some dest.anchor ∧
        (dest.document = document ∨ r.anchorIn? id document = none ∧
          ∀ other, (r.anchorIn? id other).isSome = true → other = dest.document) := by
  rw [findId?_eq_some_iff]
  unfold anchorIn?
  cases r.long.get? id with
  | none => simp
  | some entries =>
    simp only [Option.some.injEq, exists_eq_left', Option.bind_some, choose_eq_ok_iff,
      Table.mem_keys]

/-! ## One registration -/

/-- Every id leads into some document, and only into registered ones. -/
structure Grounded (r : Registry) : Prop where
  keys_ne_nil : ∀ {id entries}, r.long.get? id = some entries → entries.keys ≠ []
  isRegistered : ∀ {id document}, (r.anchorIn? id document).isSome = true →
    r.isRegistered document = true

/-- What a short name may stand for is an id, too. -/
structure Coherent (r : Registry) : Prop extends Grounded r where
  contains_long : ∀ {short id}, id ∈ r.candidates short → r.long.contains id = true

/-- The empty registry is grounded: it has no ids. -/
lemma grounded_empty : ({} : Registry).Grounded where
  keys_ne_nil h := by cases h
  isRegistered h := by cases h

/-- **The empty registry is coherent.** -/
lemma coherent_empty : ({} : Registry).Coherent where
  toGrounded := grounded_empty
  contains_long h := by cases h

/-- After adding entries, every id still leads into some document. -/
lemma keys_ne_nil_foldl_addLong {document : String} {entries : List (String × String)}
    {long : Table (Table String)}
    (h : ∀ {id below}, long.get? id = some below → below.keys ≠ []) {id : String}
    {below : Table String}
    (hbelow : (entries.foldl (addLong document) long).get? id = some below) :
    below.keys ≠ [] := by
  induction entries generalizing long with
  | nil => exact h hbelow
  | cons entry entries ih =>
    refine ih (fun {other below} hother => ?_) hbelow
    rw [addLong, Table.get?_alter] at hother
    split at hother
    · cases hother
      apply List.ne_nil_of_mem (a := document)
      rw [Table.mem_keys, Table.get?_insert, if_pos rfl]
      rfl
    · exact h hother

/-- **A registration keeps ids grounded**, whatever it registers. -/
lemma Grounded.merge {r : Registry} (h : r.Grounded) (x : Registration) :
    (r.merge x).Grounded where
  keys_ne_nil := keys_ne_nil_foldl_addLong h.keys_ne_nil
  isRegistered := by
    intro id document hsome
    obtain ⟨anchor, hanchor⟩ := Option.isSome_iff_exists.1 hsome
    rcases of_get?_foldl_addLong hanchor with ⟨rfl, -⟩ | hold
    · exact isRegistered_merge.2 (.inl rfl)
    · exact isRegistered_merge.2 (.inr (h.isRegistered (Option.isSome_of_eq_some hold)))

/-- An id is one that leads somewhere. -/
lemma Grounded.contains_iff {r : Registry} (h : r.Grounded) {id : String} :
    r.long.contains id = true ↔ ∃ document, (r.anchorIn? id document).isSome = true := by
  unfold anchorIn? Table.contains
  cases hid : r.long.get? id with
  | none => simp
  | some entries =>
    obtain ⟨document, hdocument⟩ := List.exists_mem_of_ne_nil _ (h.keys_ne_nil hid)
    simp only [Option.isSome_some, Option.bind_some, true_iff]
    exact ⟨document, Table.mem_keys.1 hdocument⟩

end Registry

/-- Every id that a short name of the registration stands for is registered with it. -/
def Registration.Complete (x : Registration) : Prop :=
  ∀ short id, (short, id) ∈ x.short → ∃ anchor, (id, anchor) ∈ x.long

/-- **A document registers the ids of the entities whose short names it registers.** -/
lemma Document.complete_register {d : Document} {x : Registration} (h : d.register = .ok x) :
    x.Complete := by
  intro short id hshort
  obtain ⟨-, -, hlong⟩ := register_eq_ok h
  rw [short_of_register h] at hshort
  obtain ⟨l, hl, haliases⟩ := List.mem_flatMap.1 hshort
  obtain ⟨hsome, rfl, -⟩ := Listing.mem_aliases.1 haliases
  obtain ⟨anchor, hanchor⟩ := Option.isSome_iff_exists.1 hsome
  refine ⟨anchor, ?_⟩
  rw [hlong]
  apply List.mem_append_left
  exact List.mem_flatMap.2 ⟨l, hl, by simp [Listing.own, hanchor]⟩

namespace Registry

/-- **A registration keeps the registry coherent** if it is complete. -/
lemma Coherent.merge {r : Registry} (h : r.Coherent) {x : Registration} (hx : x.Complete) :
    (r.merge x).Coherent where
  toGrounded := h.toGrounded.merge x
  contains_long := by
    intro short id hid
    rw [(h.toGrounded.merge x).contains_iff]
    rcases mem_candidates_merge.1 hid with hnew | hold
    · obtain ⟨anchor, hanchor⟩ := hx short id hnew
      exact ⟨x.document, isSome_get?_foldl_addLong r.long hanchor⟩
    · obtain ⟨document, hdocument⟩ := h.contains_iff.1 (h.contains_long hold)
      exact ⟨document, isSome_get?_foldl_addLong_of_isSome hdocument⟩

/-! ## Many registrations -/

/-- Any registrations keep ids grounded. -/
lemma Grounded.foldl_merge {r : Registry} (h : r.Grounded) (xs : List Registration) :
    (xs.foldl Registry.merge r).Grounded :=
  List.foldlRecOn (motive := Grounded) xs _ h fun _ hr x _ => hr.merge x

/-- Complete registrations keep the registry coherent. -/
lemma Coherent.foldl_merge {r : Registry} (h : r.Coherent) {xs : List Registration}
    (hxs : ∀ x ∈ xs, x.Complete) : (xs.foldl Registry.merge r).Coherent :=
  List.foldlRecOn (motive := Coherent) xs _ h fun _ hr x hx => hr.merge (hxs x hx)

/-- A registry that is made from the empty one by registering documents, one at a time or several at
once, or by adding what documents register. Documents may come in again, changed or not, and
different ones may have the same id. A document that collides leaves the registry as it is. -/
inductive Reached : Registry → Prop where
  | empty : Reached {}
  | register {r r' : Registry} (d : Document) : Reached r → r.register d = .ok r' → Reached r'
  | registerAll {r : Registry} (ds : List Document) : Reached r → Reached (r.registerAll ds).1
  | merge {r : Registry} {d : Document} {x : Registration} : Reached r → d.register = .ok x →
    Reached (r.merge x)

/-- **Registering documents keeps the registry coherent.** -/
lemma Reached.coherent {r : Registry} (h : r.Reached) : r.Coherent := by
  induction h with
  | empty => exact coherent_empty
  | @register r r' d _ hd ih =>
    unfold Registry.register at hd
    cases hx : d.register with
    | error collision =>
      rw [hx] at hd
      cases hd
    | ok x =>
      rw [hx] at hd
      cases hd
      exact ih.merge (Document.complete_register hx)
  | registerAll ds _ ih =>
    rw [registerAll_eq_foldl]
    apply ih.foldl_merge
    intro x hx
    obtain ⟨d, -, hd⟩ := mem_registrations_iff.1 hx
    exact Document.complete_register hd
  | merge _ hx ih => exact ih.merge (Document.complete_register hx)

/-! ## Lookups -/

/-- A name without a relative sigil is found as an id, or it is looked for as a short name. -/
lemma lookup_cases {name : List Char} (hname : Name.relative? name = none) (r : Registry)
    (d : Document) (referrer : Nat) :
    (∃ id, r.findId? d.id (String.ofList name) id = some (r.lookup d referrer name)) ∨
      r.lookup d referrer name
        = r.findShort d.id (String.ofList name) ((owner? name).getD name) := by
  unfold lookup
  simp only [hname]
  split
  · rename_i found hfound
    exact .inl ⟨_, hfound⟩
  · split
    · rename_i found hfound
      obtain ⟨candidate, -, hcandidate⟩ := List.exists_of_findSome?_eq_some hfound
      exact .inl ⟨_, hcandidate⟩
    · exact .inr rfl

/-- A relative name that is not found is reported as such. -/
lemma findRelative_eq_error {d : Document} {referrer : Nat} {relation : Name.Relation}
    {name : List Char} {e : LinkError} (h : findRelative d referrer relation name = .error e) :
    ∃ written scope, e = .relativeNotFound written scope ∨ e = .relativeAmbiguous written scope := by
  unfold findRelative at h
  split at h
  · cases h
    exact ⟨_, _, .inl rfl⟩
  · split at h
    · cases h
      exact ⟨_, _, .inl rfl⟩
    · split at h
      · cases h
      · cases h
        exact ⟨_, _, .inl rfl⟩
    · cases h
      exact ⟨_, _, .inr rfl⟩

/-- Different documents give different candidates for an id. -/
lemma nodup_map_keys (entries : Table String) (id : String) :
    (entries.keys.map fun other => other ++ ":" ++ id).Nodup := by
  refine entries.nodup_keys.map fun a b hab => ?_
  have hlists := congrArg String.toList hab
  simp only [String.toList_append] at hlists
  exact String.toList_injective (List.append_cancel_right (List.append_cancel_right hlists))

namespace Coherent

variable {r : Registry} {document written : String}

/-- **An id that is not found leads into several documents.** -/
lemma findId?_eq_error (h : r.Coherent) {id : String} {e : LinkError}
    (he : r.findId? document written id = some (.error e)) :
    ∃ candidates, e = .ambiguous written candidates ∧ 2 ≤ candidates.length ∧
      candidates.Nodup := by
  obtain ⟨entries, hentries, hchoose⟩ := findId?_eq_some_iff.1 he
  obtain ⟨-, rfl, hlength⟩ := choose_eq_error hchoose
  refine ⟨_, rfl, ?_, nodup_map_keys entries id⟩
  have hpos : 0 < entries.keys.length := List.length_pos_of_ne_nil (h.keys_ne_nil hentries)
  rw [List.length_map]
  omega

/-- **What a short name may stand for is found as an id.** -/
lemma isSome_findId? (h : r.Coherent) (document written : String) {short id : String}
    (hid : id ∈ r.candidates short) : (r.findId? document written id).isSome = true := by
  rw [findId?, Option.isSome_map]
  exact h.contains_long hid

/-- A short name that is not found has no candidates, or it leads to several things. -/
lemma findShort_eq_error (h : r.Coherent) {name : List Char} {e : LinkError}
    (he : r.findShort document written name = .error e) :
    (e = .unknown written ∧ r.candidates (String.ofList (Name.shortKey name)) = []) ∨
      ∃ candidates, e = .ambiguous written candidates ∧ 2 ≤ candidates.length ∧
        candidates.Nodup := by
  rw [findShort_eq] at he
  match hids : r.candidates (String.ofList (Name.shortKey name)) with
  | [] =>
    rw [hids] at he
    cases he
    exact .inl ⟨rfl, rfl⟩
  | [id] =>
    have hid : id ∈ r.candidates (String.ofList (Name.shortKey name)) := by simp [hids]
    obtain ⟨found, hfound⟩ :=
      Option.isSome_iff_exists.1 (h.isSome_findId? document written hid)
    rw [hids] at he
    simp only [hfound, Option.getD_some] at he
    rw [he] at hfound
    exact .inr (h.findId?_eq_error hfound)
  | id :: id' :: ids =>
    rw [hids] at he
    cases he
    refine .inr ⟨_, rfl, by simp, ?_⟩
    rw [← hids]
    exact r.nodup_candidates _

/-- A name that is not found has no candidates, or it leads to several things, or it is relative. -/
lemma lookup_eq_error (h : r.Coherent) {d : Document} {referrer : Nat} {name : List Char}
    {e : LinkError} (he : r.lookup d referrer name = .error e) :
    (e = .unknown (String.ofList name) ∧
      r.candidates (String.ofList (Name.shortKey ((owner? name).getD name))) = []) ∨
    (∃ candidates, e = .ambiguous (String.ofList name) candidates ∧ 2 ≤ candidates.length ∧
      candidates.Nodup) ∨
    ∃ written scope, e = .relativeNotFound written scope ∨ e = .relativeAmbiguous written scope := by
  cases hname : Name.relative? name with
  | some relative =>
    obtain ⟨relation, rest⟩ := relative
    have hrelative : r.lookup d referrer name = findRelative d referrer relation rest := by
      simp only [lookup, hname]
    exact .inr (.inr (findRelative_eq_error (hrelative.symm.trans he)))
  | none =>
    rcases lookup_cases hname r d referrer with ⟨id, hid⟩ | hshort
    · rw [he] at hid
      exact .inr (.inl (h.findId?_eq_error hid))
    · rcases h.findShort_eq_error (hshort.symm.trans he) with hunknown | hambiguous
      · exact .inl hunknown
      · exact .inr (.inl hambiguous)

/-- A name without a relative sigil leads into a registered document. -/
lemma isRegistered_of_lookup (h : r.Coherent) {d : Document} {referrer : Nat} {name : List Char}
    (hname : Name.relative? name = none) {dest : Destination}
    (hdest : r.lookup d referrer name = .ok dest) : r.isRegistered dest.document = true := by
  have hanchor : ∃ id, r.anchorIn? id dest.document = some dest.anchor := by
    rcases lookup_cases hname r d referrer with ⟨id, hid⟩ | hshort
    · rw [hdest] at hid
      exact ⟨id, anchorIn?_of_findId? hid⟩
    · exact exists_of_findShort (hshort.symm.trans hdest)
  obtain ⟨id, hid⟩ := hanchor
  exact h.isRegistered (Option.isSome_of_eq_some hid)

end Coherent

end Registry

/-- **The registry stays coherent, whatever is registered.** In a registry that is made by
registering documents, what a short name may stand for is an id, every id has documents that it leads
into, and all of these are registered. So, for a name in any comment of any document: it is unknown
only if nothing was registered for its short form; it is ambiguous only if it stands for at least two
different things; and if it has no relative sigil and is found, it leads into a registered document.

**Proof sketch.** A registration that comes from a document keeps the three properties, since it has
the id of every entity whose short names it has. A lookup without a relative sigil ends at an id or
with the candidates of a short name; one candidate is an id, and an id leads into one document or
into several. -/
theorem registry_stays_coherent {r : Registry} (h : r.Reached) :
    (∀ short ids, r.short.get? short = some ids → ∀ id ∈ ids.keys, r.long.contains id = true) ∧
    (∀ id entries, r.long.get? id = some entries → entries.keys ≠ [] ∧
      ∀ document ∈ entries.keys, r.isRegistered document = true) ∧
    ∀ d referrer name,
      (∀ written, r.lookup d referrer name = .error (.unknown written) →
        r.candidates (String.ofList (Name.shortKey ((Registry.owner? name).getD name))) = []) ∧
      (∀ written candidates, r.lookup d referrer name = .error (.ambiguous written candidates) →
        2 ≤ candidates.length ∧ candidates.Nodup) ∧
      ∀ dest, Name.relative? name = none → r.lookup d referrer name = .ok dest →
        r.isRegistered dest.document = true := by
  have hr := h.coherent
  refine ⟨fun short ids hshort id hid => ?_, fun id entries hid => ⟨hr.keys_ne_nil hid, ?_⟩,
    fun d referrer name => ⟨fun written hunknown => ?_, fun written candidates hambiguous => ?_,
      fun dest hname hdest => hr.isRegistered_of_lookup hname hdest⟩⟩
  · have hcandidate : id ∈ r.candidates short := by
      rw [Registry.candidates, hshort]
      exact hid
    exact hr.contains_long hcandidate
  · intro document hdocument
    have hanchor : (r.anchorIn? id document).isSome = true := by
      rw [Registry.anchorIn?, hid]
      exact Table.mem_keys.1 hdocument
    exact hr.isRegistered hanchor
  · rcases hr.lookup_eq_error hunknown with ⟨-, hnone⟩ | ⟨candidates, heq, -⟩ | ⟨w, scope, heq | heq⟩
    · exact hnone
    all_goals cases heq
  · rcases hr.lookup_eq_error hambiguous with
      ⟨heq, -⟩ | ⟨candidates, heq, hlength, hnodup⟩ | ⟨w, scope, heq | heq⟩
    · cases heq
    · cases heq
      exact ⟨hlength, hnodup⟩
    all_goals cases heq

/-- A file with a function `f` in a scope. -/
def scopedFile (scope : String) : Declaration :=
  { kind := .file, name := scope ++ ".hpp", qualifiedName := scope ++ ".hpp"
    signature := scope ++ ".hpp"
    children := [{
      kind := .function, name := "f", qualifiedName := scope ++ "::f"
      signature := scope ++ "::f()" }] }

/-- Two documents with a function `f`, each in a scope of its own. -/
def scopedDocuments : List Document :=
  [(assemble {} "a" (scopedFile "p")).1, (assemble {} "b" (scopedFile "q")).1]

/-- Both documents have a function `f`, so that name alone is ambiguous, and stands for two things. -/
theorem registry_stays_coherent_scopedDocuments :
    (Registry.registerAll {} scopedDocuments).1.Reached ∧
    ∃ candidates,
      (Registry.registerAll {} scopedDocuments).1.lookup (assemble {} "a" (scopedFile "p")).1 0
        ['f'] = .error (.ambiguous "f" candidates) ∧
      2 ≤ candidates.length ∧ candidates.Nodup := by
  have hreached := Registry.Reached.registerAll scopedDocuments .empty
  have hlookup : (Registry.registerAll {} scopedDocuments).1.lookup
      (assemble {} "a" (scopedFile "p")).1 0 ['f']
        = .error (.ambiguous "f" ["p::f", "q::f"]) := by
    decide +kernel
  obtain ⟨-, -, hlookups⟩ := registry_stays_coherent hreached
  exact ⟨hreached, _, hlookup, (hlookups _ 0 ['f']).2.1 _ _ hlookup⟩

end DocComments
