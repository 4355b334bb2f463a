import DocComments.Proofs.Link.Coherent

set_option autoImplicit false

/-!
# Ids stay where they lead

A run registers one document after the other. What a new document registers goes under that
document, so nothing changes for the documents that were registered before. An id that led into the
document of a link leads there for good. An id that led into the only other document that had it
leads there until a second one has it, and then it is ambiguous, for good.

## Main definitions

* `Registry.Widened` — a table of the documents that have an id, with documents added.

## Main results

* `Registry.anchorIn?_foldl_merge_of_ne` — registrations leave other documents alone.
* `Registry.exists_widened` — what new documents do to an id.
* `Registry.Widened.choose_eq_ok`, `Registry.Widened.choose_eq_ambiguous` — where the id leads then.
* `lookup_id_stable` — the lookup of an id as documents are added.
-/

namespace DocComments

namespace Registry

/-! ## New documents -/

/-- A registration leaves other documents alone. -/
lemma anchorIn?_merge_of_ne (r : Registry) {x : Registration} {document : String}
    (h : x.document ≠ document) (id : String) :
    (r.merge x).anchorIn? id document = r.anchorIn? id document := by
  apply List.foldlRecOn (motive := fun long : Table (Table String) =>
    (long.get? id).bind (fun entries => entries.get? document) = r.anchorIn? id document)
  · rfl
  · intro long hlong entry _
    rw [get?_addLong, if_neg fun heq => h heq.2.symm, hlong]

/-- **Registrations leave other documents alone.** -/
lemma anchorIn?_foldl_merge_of_ne {r : Registry} {xs : List Registration} {document : String}
    (h : ∀ x ∈ xs, x.document ≠ document) (id : String) :
    (xs.foldl merge r).anchorIn? id document = r.anchorIn? id document := by
  apply List.foldlRecOn (motive := fun r' : Registry =>
    r'.anchorIn? id document = r.anchorIn? id document)
  · rfl
  · intro r' hr' x hx
    rw [r'.anchorIn?_merge_of_ne (h x hx), hr']

/-- The second table has all entries of the first one, and the same for the given document. -/
structure Widened (document : String) (entries entries' : Table String) : Prop where
  retains : ∀ {other anchor}, entries.get? other = some anchor →
    entries'.get? other = some anchor
  own : entries'.get? document = entries.get? document

/-- **What new documents do to an id**: they join the documents that have it. -/
lemma exists_widened {r : Registry} (hr : r.Grounded) {ys : List Registration} {document : String}
    (hys : ∀ y ∈ ys, y.document ≠ document ∧ r.isRegistered y.document = false) {id : String}
    {entries : Table String} (hentries : r.long.get? id = some entries) :
    ∃ entries', (ys.foldl merge r).long.get? id = some entries' ∧
      Widened document entries entries' := by
  have hold : ∀ other, r.anchorIn? id other = entries.get? other := by
    intro other
    rw [anchorIn?, hentries, Option.bind_some]
  -- documents that have the id are registered, so they are not among the new ones
  have hretains : ∀ {other anchor}, entries.get? other = some anchor →
      (ys.foldl merge r).anchorIn? id other = some anchor := by
    intro other anchor hother
    rw [← hold] at hother
    have hregistered := hr.isRegistered (Option.isSome_of_eq_some hother)
    rw [anchorIn?_foldl_merge_of_ne, hother]
    rintro y hy rfl
    rw [(hys y hy).2] at hregistered
    cases hregistered
  have hown : (ys.foldl merge r).anchorIn? id document = entries.get? document := by
    rw [anchorIn?_foldl_merge_of_ne fun y hy => (hys y hy).1, hold]
  -- some document has the id, and still does
  obtain ⟨other, hother⟩ := List.exists_mem_of_ne_nil _ (hr.keys_ne_nil hentries)
  obtain ⟨anchor, hanchor⟩ := Option.isSome_iff_exists.1 (Table.mem_keys.1 hother)
  obtain ⟨entries', hentries', -⟩ := Option.bind_eq_some_iff.1 (hretains hanchor)
  have hnew : ∀ other, (ys.foldl merge r).anchorIn? id other = entries'.get? other := by
    intro other
    rw [anchorIn?, hentries', Option.bind_some]
  refine ⟨entries', hentries', fun {other anchor} hother => ?_, ?_⟩
  · rw [← hnew]
    exact hretains hother
  · rw [← hnew]
    exact hown

/-! ## Where the id leads -/

namespace Widened

variable {document written id : String} {entries entries' : Table String}

/-- The documents that have an id still have it. -/
lemma keys_subset (h : Widened document entries entries') : entries.keys ⊆ entries'.keys := by
  intro other hother
  obtain ⟨anchor, hanchor⟩ := Option.isSome_iff_exists.1 (Table.mem_keys.1 hother)
  exact Table.mem_keys.2 (Option.isSome_of_eq_some (h.retains hanchor))

/-- What led into the document of the link still does. -/
lemma choose_eq_own (h : Widened document entries entries') {dest : Destination}
    (hdest : choose entries document written id = .ok dest) (hown : dest.document = document) :
    choose entries' document written id = .ok dest :=
  choose_eq_ok_iff.2 ⟨h.retains (choose_eq_ok_iff.1 hdest).1, .inl hown⟩

/-- **What led somewhere leads nowhere else.** -/
lemma eq_of_choose (h : Widened document entries entries') {dest dest' : Destination}
    (hdest : choose entries document written id = .ok dest)
    (hdest' : choose entries' document written id = .ok dest') : dest' = dest := by
  have hanchor := h.retains (choose_eq_ok_iff.1 hdest).1
  by_cases hown : dest.document = document
  · exact Except.ok.inj (hdest'.symm.trans (h.choose_eq_own hdest hown))
  · -- the document of the link has the id no more than before, so the choice is the only document
    have hnone : entries'.get? document = none := by
      rcases (choose_eq_ok_iff.1 hdest).2 with hdocument | ⟨hnone, -⟩
      · exact absurd hdocument hown
      · exact h.own.trans hnone
    obtain ⟨hanchor', hdocument | ⟨-, honly⟩⟩ := choose_eq_ok_iff.1 hdest'
    · rw [hdocument, hnone] at hanchor'
      cases hanchor'
    · have hsame : dest.document = dest'.document :=
        honly _ (Table.mem_keys.2 (Option.isSome_of_eq_some hanchor))
      obtain ⟨other, anchor⟩ := dest
      obtain ⟨other', anchor'⟩ := dest'
      obtain rfl : other = other' := hsame
      obtain rfl : anchor = anchor' := Option.some.inj (hanchor.symm.trans hanchor')
      rfl

/-- **What led into another document still does, or it is ambiguous.** -/
lemma choose_eq_ok (h : Widened document entries entries') {dest : Destination}
    (hdest : choose entries document written id = .ok dest) :
    choose entries' document written id = .ok dest ∨
      ∃ candidates, choose entries' document written id
        = .error (.ambiguous written candidates) := by
  cases hnew : choose entries' document written id with
  | ok dest' => exact .inl (congrArg _ (h.eq_of_choose hdest hnew))
  | error e =>
    obtain ⟨-, rfl, -⟩ := choose_eq_error hnew
    exact .inr ⟨_, rfl⟩

/-- **What was ambiguous stays so**, with at least the same candidates. -/
lemma choose_eq_ambiguous (h : Widened document entries entries') (hne : entries.keys ≠ [])
    {e : LinkError} (he : choose entries document written id = .error e) :
    ∃ candidates candidates', e = .ambiguous written candidates ∧
      choose entries' document written id = .error (.ambiguous written candidates') ∧
      candidates ⊆ candidates' := by
  obtain ⟨hnone, rfl, hlength⟩ := choose_eq_error he
  refine ⟨_, entries'.keys.map fun other => other ++ ":" ++ id, rfl, ?_,
    List.map_subset _ h.keys_subset⟩
  cases hnew : choose entries' document written id with
  | error e' =>
    obtain ⟨-, rfl, -⟩ := choose_eq_error hnew
    rfl
  | ok dest =>
    obtain ⟨hanchor, hdocument | ⟨-, honly⟩⟩ := choose_eq_ok_iff.1 hnew
    · rw [hdocument, h.own, hnone] at hanchor
      cases hanchor
    · -- all documents that had the id would be the same one
      have hsame : entries.keys = List.replicate entries.keys.length dest.document :=
        List.eq_replicate_of_mem fun other hother => honly other (h.keys_subset hother)
      have hnodup := entries.nodup_keys
      rw [hsame, List.nodup_replicate] at hnodup
      have hpos : 0 < entries.keys.length := List.length_pos_of_ne_nil hne
      omega

end Widened

/-- A name that is an id leads where the id does. -/
lemma lookup_eq_choose {r : Registry} (d : Document) (referrer : Nat) {name : List Char}
    (hname : Name.relative? name = none) {entries : Table String}
    (hentries : r.long.get? (String.ofList name) = some entries) :
    r.lookup d referrer name
      = choose entries d.id (String.ofList name) (String.ofList name) := by
  simp only [lookup, hname, findId?, hentries, Option.map_some]

end Registry

/-- **Ids stay where they lead as a run grows.** Let a registry be made by any registrations, and let
a name without a relative sigil be an id in it. Then let any registrations of new documents be added:
neither of the document of the link, nor of one that is registered. If the name led into the document
of the link, it leads to the same place. If it led into another document, it leads to the same place
or is ambiguous. If it was ambiguous, it still is, with at least the same candidates. There are no
other outcomes, and at no time does the name lead to a different place.

**Proof sketch.** The documents that have the id are registered, so they keep their anchors, and new
documents join them; that of the link is none of these. With more documents to choose from, only the
choice of the only document can be lost. -/
theorem lookup_id_stable (xs ys : List Registration) (d : Document) (referrer : Nat)
    {name : List Char} (hname : Name.relative? name = none)
    (hid : (xs.foldl Registry.merge {}).long.contains (String.ofList name) = true)
    (hys : ∀ y ∈ ys, y.document ≠ d.id ∧
      (xs.foldl Registry.merge {}).isRegistered y.document = false) :
    let before := (xs.foldl Registry.merge {}).lookup d referrer name
    let after := (ys.foldl Registry.merge (xs.foldl Registry.merge {})).lookup d referrer name
    ((∃ dest, before = .ok dest) ∨
      ∃ candidates, before = .error (.ambiguous (String.ofList name) candidates)) ∧
    (∀ dest, before = .ok dest → dest.document = d.id → after = .ok dest) ∧
    (∀ dest, before = .ok dest → dest.document ≠ d.id → after = .ok dest ∨
      ∃ candidates, after = .error (.ambiguous (String.ofList name) candidates)) ∧
    (∀ written candidates, before = .error (.ambiguous written candidates) →
      ∃ candidates', after = .error (.ambiguous written candidates') ∧
        candidates ⊆ candidates') ∧
    ∀ dest dest', before = .ok dest → after = .ok dest' → dest' = dest := by
  intro before after
  have hgrounded := Registry.grounded_empty.foldl_merge xs
  obtain ⟨entries, hentries⟩ := Option.isSome_iff_exists.1 hid
  obtain ⟨entries', hentries', hwidened⟩ := Registry.exists_widened hgrounded hys hentries
  have hbefore : before = _ := Registry.lookup_eq_choose d referrer hname hentries
  have hafter : after = _ := Registry.lookup_eq_choose d referrer hname hentries'
  rw [hbefore, hafter]
  refine ⟨?_, fun dest hdest hown => hwidened.choose_eq_own hdest hown,
    fun dest hdest _ => hwidened.choose_eq_ok hdest, fun written candidates herror => ?_,
    fun dest dest' hdest hdest' => hwidened.eq_of_choose hdest hdest'⟩
  · cases hchoose : Registry.choose entries d.id (String.ofList name) (String.ofList name) with
    | ok dest => exact .inl ⟨dest, rfl⟩
    | error e =>
      obtain ⟨-, rfl, -⟩ := Registry.choose_eq_error hchoose
      exact .inr ⟨_, rfl⟩
  · obtain ⟨old, new, heq, hnew, hsubset⟩ :=
      hwidened.choose_eq_ambiguous (hgrounded.keys_ne_nil hentries) herror
    cases heq
    exact ⟨new, hnew, hsubset⟩

/-- An id of another document leads there. When a second document has it, it is ambiguous, and leads
nowhere else. -/
theorem lookup_id_stable_secondDocument :
    (Registry.merge {} ⟨"a", [("n", "n")], []⟩).lookup (assemble {} "d" namespaceFile).1 0 ['n']
      = .ok ⟨"a", "n"⟩ ∧
    ∃ candidates,
      ((Registry.merge {} ⟨"a", [("n", "n")], []⟩).merge ⟨"b", [("n", "m")], []⟩).lookup
        (assemble {} "d" namespaceFile).1 0 ['n'] = .error (.ambiguous "n" candidates) := by
  have hys : ∀ y ∈ [(⟨"b", [("n", "m")], []⟩ : Registration)], y.document ≠ "d" ∧
      ([(⟨"a", [("n", "n")], []⟩ : Registration)].foldl Registry.merge {}).isRegistered y.document
        = false := by
    intro y hy
    rw [List.mem_singleton.1 hy]
    decide
  have hstable := lookup_id_stable [⟨"a", [("n", "n")], []⟩] [⟨"b", [("n", "m")], []⟩]
    (assemble {} "d" namespaceFile).1 0 (show Name.relative? ['n'] = none from rfl) (by decide) hys
  have hbefore : (Registry.merge {} ⟨"a", [("n", "n")], []⟩).lookup
      (assemble {} "d" namespaceFile).1 0 ['n'] = .ok ⟨"a", "n"⟩ := by decide +kernel
  refine ⟨hbefore, ?_⟩
  rcases hstable.2.2.1 _ hbefore (by decide) with hsame | hambiguous
  · exact absurd hsame (by decide +kernel)
  · exact hambiguous

end DocComments
