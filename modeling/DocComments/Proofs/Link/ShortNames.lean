import DocComments.Proofs.Link.Coherent
import DocComments.Proofs.Link.Resolution
import DocComments.Proofs.Run.Order

set_option autoImplicit false

/-!
# What a short name leads to

A name that is no id, also not without its member or its arguments, is looked for as a short name.
What it may stand for are the ids of exactly those registered entities that have the short name. If
there is none, the name is unknown; if there are several, it is ambiguous between them; and if there
is one, the name leads where that id leads.

## Main results

* `Registry.mem_candidates_registerAll` — the candidates for a short name are the ids of the entities
  that have it.
* `Registry.lookup_eq_findShort` — a name that is no id is looked for as a short name.
* `lookup_short_name` — what a short name leads to.
-/

namespace DocComments

namespace Registry

/-- A document without a collision registers something. -/
lemma exists_register_of_collision? {d : Document} (h : d.collision? = none) :
    ∃ x, d.register = .ok x := by
  unfold Document.collision? at h
  split at h
  · rename_i x hx
    exact ⟨x, hx⟩
  · cases h

/-- **The candidates for a short name are the ids of the entities that have it**, if all documents
could be registered. -/
lemma mem_candidates_registerAll {ds : List Document} (hds : ∀ d ∈ ds, d.Edited)
    (hok : (Registry.registerAll {} ds).2 = []) {short : List Char} {id : String} :
    id ∈ (Registry.registerAll {} ds).1.candidates (String.ofList short) ↔
      ∃ d ∈ ds, d.HasShortName short id := by
  have hregister : ∀ d ∈ ds, ∃ x, d.register = .ok x := by
    intro d hd
    rw [collisions_registerAll, List.filterMap_eq_nil_iff] at hok
    exact exists_register_of_collision? (hok d hd)
  have hshort : ∀ d ∈ ds, ∀ x, d.register = .ok x →
      ((String.ofList short, id) ∈ x.short ↔ d.HasShortName short id) := by
    intro d hd x hx
    rw [Document.mem_short_iff hx (hds d hd).wellMade.mem_preorder, String.toList_ofList]
  rw [registerAll_eq_foldl, mem_candidates_foldl_merge]
  constructor
  · rintro (⟨x, hx, hmem⟩ | hempty)
    · obtain ⟨d, hd, hok⟩ := mem_registrations_iff.1 hx
      exact ⟨d, hd, (hshort d hd x hok).1 hmem⟩
    · cases hempty
  · rintro ⟨d, hd, hname⟩
    obtain ⟨x, hx⟩ := hregister d hd
    exact .inl ⟨x, mem_registrations_iff.2 ⟨d, hd, hx⟩, (hshort d hd x hx).2 hname⟩

/-- **A name that is no id is looked for as a short name**, if it is none without its member or its
arguments either. -/
lemma lookup_eq_findShort {r : Registry} (d : Document) (referrer : Nat) {name : List Char}
    (hname : Name.relative? name = none)
    (hfree : ∀ id ∈ name :: fallbacks name, r.long.contains (String.ofList id) = false) :
    r.lookup d referrer name
      = r.findShort d.id (String.ofList name) ((owner? name).getD name) := by
  have hfind : ∀ id ∈ name :: fallbacks name,
      r.findId? d.id (String.ofList name) (String.ofList id) = none := by
    intro id hid
    rw [findId?, Option.map_eq_none_iff]
    simpa [Table.contains] using hfree id hid
  have hfallbacks : (fallbacks name).findSome?
      (fun id => r.findId? d.id (String.ofList name) (String.ofList id)) = none :=
    List.findSome?_eq_none_iff.2 fun id hid => hfind id (List.mem_cons_of_mem _ hid)
  simp only [lookup, hname, hfind name List.mem_cons_self, hfallbacks]

end Registry

/-- **What a short name leads to.** Let documents be assembled, each with any reader, possibly
changed, and registered without a collision; and let a name without a relative sigil be no id, also
not without its member, without its arguments or without both. Look at the ids of all entities of
these documents that are not excluded, have an anchor, and can be found under the short form of the
name, without its member if it has one. If there is none, the name is unknown. If there are several,
the name is ambiguous, and the candidates are these ids in increasing order. If there is one, the
name leads where this id leads: into the document of the link, if that has the id, else into the
only document that has it; and it is ambiguous if several others have it.

**Proof sketch.** None of the ids that the name may be read as is there, so it is looked for as a short
name. The candidates were registered by the documents, each of them for one of its entities; and a
single candidate is found as an id because the registry is coherent. -/
theorem lookup_short_name {ds : List Document} (hds : ∀ d ∈ ds, d.Edited)
    (hok : (Registry.registerAll {} ds).2 = []) (d : Document) (referrer : Nat) {name : List Char}
    (hname : Name.relative? name = none)
    (hfree : ∀ id ∈ name :: Registry.fallbacks name,
      (Registry.registerAll {} ds).1.long.contains (String.ofList id) = false) :
    let r := (Registry.registerAll {} ds).1
    ∃ ids : List String, ids.Pairwise (· < ·) ∧
      (∀ id, id ∈ ids ↔ ∃ d' ∈ ds,
        d'.HasShortName (Name.shortKey ((Registry.owner? name).getD name)) id) ∧
      (ids = [] → r.lookup d referrer name = .error (.unknown (String.ofList name))) ∧
      (2 ≤ ids.length →
        r.lookup d referrer name = .error (.ambiguous (String.ofList name) ids)) ∧
      ∀ id, ids = [id] →
        r.findId? d.id (String.ofList name) id = some (r.lookup d referrer name) ∧
        (∀ dest, r.lookup d referrer name = .ok dest ↔
          r.anchorIn? id dest.document = some dest.anchor ∧
            (dest.document = d.id ∨ r.anchorIn? id d.id = none ∧
              ∀ other, (r.anchorIn? id other).isSome = true → other = dest.document)) ∧
        ∀ e, r.lookup d referrer name = .error e → ∃ candidates,
          e = .ambiguous (String.ofList name) candidates ∧ 2 ≤ candidates.length ∧
            candidates.Nodup := by
  intro r
  have hcoherent : r.Coherent := (Registry.Reached.registerAll ds .empty).coherent
  have hlookup := Registry.lookup_eq_findShort (r := r) d referrer hname hfree
  rw [Registry.findShort_eq] at hlookup
  set key := Name.shortKey ((Registry.owner? name).getD name)
  refine ⟨r.candidates (String.ofList key), r.pairwise_candidates _,
    fun id => Registry.mem_candidates_registerAll hds hok, fun hids => ?_, fun hlength => ?_,
    fun id hids => ?_⟩
  · rw [hlookup, hids]
  · rw [hlookup]
    match r.candidates (String.ofList key), hlength with
    | _ :: _ :: _, _ => rfl
  · have hfound : r.findId? d.id (String.ofList name) id = some (r.lookup d referrer name) := by
      obtain ⟨found, hfound⟩ := Option.isSome_iff_exists.1 (hcoherent.isSome_findId? d.id
        (String.ofList name) (show id ∈ r.candidates (String.ofList key) by simp [hids]))
      rw [hlookup, hids]
      simp only [hfound, Option.getD_some]
    refine ⟨hfound, fun dest => ?_, fun e he => ?_⟩
    · rw [← Registry.findId?_eq_ok_iff, hfound, Option.some.injEq]
    · rw [he] at hfound
      exact hcoherent.findId?_eq_error hfound

/-- The name `f` alone is ambiguous between the entities that have it as a short name, and the
functions of both documents are among them. -/
theorem lookup_short_name_scopedDocuments :
    (Registry.registerAll {} scopedDocuments).2 = [] ∧
    ∃ ids, (∀ id, id ∈ ids ↔ ∃ d ∈ scopedDocuments, d.HasShortName ['f'] id) ∧
      ["p::f", "q::f"] ⊆ ids ∧
      (Registry.registerAll {} scopedDocuments).1.lookup (assemble {} "a" (scopedFile "p")).1 0 ['f']
        = .error (.ambiguous "f" ids) := by
  have hds : ∀ d ∈ scopedDocuments, d.Edited := by
    intro d hd
    rcases List.mem_pair.1 hd with rfl | rfl
    · exact .assembled _ _ _ _
    · exact .assembled _ _ _ _
  have hok : (Registry.registerAll {} scopedDocuments).2 = [] := by decide +kernel
  have hkey : Name.shortKey ((Registry.owner? ['f']).getD ['f']) = ['f'] := by decide +kernel
  have hcandidates : ["p::f", "q::f"] ⊆
      (Registry.registerAll {} scopedDocuments).1.candidates (String.ofList ['f']) := by
    decide +kernel
  obtain ⟨ids, -, hids, -, hseveral, -⟩ :=
    lookup_short_name hds hok (assemble {} "a" (scopedFile "p")).1 0
      (show Name.relative? ['f'] = none from rfl) (by decide +kernel)
  rw [hkey] at hids
  have hsubset : ["p::f", "q::f"] ⊆ ids := by
    intro id hid
    exact (hids id).2 ((Registry.mem_candidates_registerAll hds hok).1 (hcandidates hid))
  have hnodup : ["p::f", "q::f"].Nodup := by decide
  exact ⟨hok, ids, hids, hsubset, hseveral (hnodup.subperm hsubset).length_le⟩

end DocComments
