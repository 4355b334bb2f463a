import DocComments.Proofs.Link.Coherent
import DocComments.Proofs.Name.Delimited

set_option autoImplicit false

/-!
# Links to members of an entity

A link may name a member of an entity, such as a parameter, by the id of the entity, a dot and the
name of the member. If nothing is registered under the whole text, the link leads where the id alone
would lead. For this the text is taken apart at its last member dot, and that is the one behind the
id, whatever the id looks like.

## Main results

* `Registry.lookup_of_owner` — a name that is no id is looked up as its owner, if that is one.
* `lookup_member_access` — a link to a member leads where a link to its owner does.
-/

namespace DocComments

namespace Registry

variable {r : Registry} {d : Document} {referrer : Nat}

/-- A name that is an id is looked up as such. -/
lemma lookup_of_findId? {name : List Char} (hname : Name.relative? name = none)
    {found : Except LinkError Destination}
    (hfound : r.findId? d.id (String.ofList name) (String.ofList name) = some found) :
    r.lookup d referrer name = found := by
  simp only [lookup, hname, hfound]

/-- **A name that is no id is looked up as its owner**, if that is one. The owner comes before all
other things that the name may stand for. -/
lemma lookup_of_owner {name owner : List Char} (hname : Name.relative? name = none)
    (hnew : r.long.get? (String.ofList name) = none) (howner : owner? name = some owner)
    (hne : owner ≠ name) (hempty : owner ≠ []) {found : Except LinkError Destination}
    (hfound : r.findId? d.id (String.ofList name) (String.ofList owner) = some found) :
    r.lookup d referrer name = found := by
  have hself : r.findId? d.id (String.ofList name) (String.ofList name) = none := by
    rw [findId?, hnew]
    rfl
  have hfirst : ∃ others, fallbacks name = owner :: others := by
    simp only [fallbacks, howner, Option.toList_some, List.cons_append]
    rw [List.filter_cons_of_pos (by simp [hne, hempty])]
    exact ⟨_, rfl⟩
  obtain ⟨others, hothers⟩ := hfirst
  simp only [lookup, hname, hself, hothers, List.findSome?_cons, hfound]

end Registry

/-- **A link to a member leads where a link to its owner does.** Let an id be registered that has no
relative sigil and is read to an end outside any template or argument list, and let a member be
written behind it that has no dot in its name. If the whole text is no id, looking it up gives the
destination that the id has; if the id is ambiguous, the text is, with the same candidates. This
holds in every registry, for links in any comment of any document.

**Proof sketch.** The text is split at its last member dot. The dot behind the id is one, because the
id is read there as it is read alone; and no dot follows it. So the owner is the id, and it is the
first thing that the text may stand for. -/
theorem lookup_member_access (r : Registry) (d : Document) (referrer : Nat) {id member : String}
    (hid : r.long.contains id = true) (hempty : id ≠ "")
    (hrelative : Name.relative? id.toList = none) (htop : Name.EndsAtTop id.toList)
    (hmember : member ≠ "") (hdots : '.' ∉ member.toList)
    (hnew : r.long.contains (id ++ "." ++ member) = false) :
    (∃ dest, r.lookup d referrer id.toList = .ok dest ∧
      r.lookup d referrer (id ++ "." ++ member).toList = .ok dest) ∨
    ∃ candidates, r.lookup d referrer id.toList = .error (.ambiguous id candidates) ∧
      r.lookup d referrer (id ++ "." ++ member).toList
        = .error (.ambiguous (id ++ "." ++ member) candidates) := by
  have hne : id.toList ≠ [] := by simpa using hempty
  have htext : (id ++ "." ++ member).toList = id.toList ++ '.' :: member.toList := by simp
  have hrelative' : Name.relative? (id ++ "." ++ member).toList = none := by
    rw [htext]
    cases hchars : id.toList with
    | nil => exact absurd hchars hne
    | cons c rest =>
      rw [hchars] at hrelative
      unfold Name.relative? at hrelative ⊢
      split at hrelative <;> simp_all
  obtain ⟨entries, hentries⟩ := Option.isSome_iff_exists.1 hid
  have hfind : ∀ written, r.findId? d.id written id
      = some (Registry.choose entries d.id written id) := by
    intro written
    rw [Registry.findId?, hentries]
    rfl
  have hlookup : r.lookup d referrer id.toList = Registry.choose entries d.id id id := by
    apply Registry.lookup_of_findId? hrelative
    rw [String.ofList_toList]
    exact hfind id
  have hlookup' : r.lookup d referrer (id ++ "." ++ member).toList
      = Registry.choose entries d.id (id ++ "." ++ member) id := by
    have hsplit := Name.splitMember?_append_dot hne htop (by simpa using hmember) hdots
    have howner : Registry.owner? (id ++ "." ++ member).toList = some id.toList := by
      rw [Registry.owner?, htext, hsplit]
      rfl
    refine Registry.lookup_of_owner hrelative' ?_ howner ?_ hne ?_
    · rw [String.ofList_toList]
      simpa [Table.contains] using hnew
    · rw [htext]
      simp
    · rw [String.ofList_toList, String.ofList_toList]
      exact hfind _
  rw [hlookup, hlookup']
  cases hchoose : Registry.choose entries d.id id id with
  | ok dest =>
    refine .inl ⟨dest, rfl, ?_⟩
    rwa [Registry.choose_eq_ok_iff] at hchoose ⊢
  | error e =>
    obtain ⟨-, rfl, -⟩ := Registry.choose_eq_error hchoose
    refine .inr ⟨_, rfl, ?_⟩
    cases hchoose' : Registry.choose entries d.id (id ++ "." ++ member) id with
    | ok dest =>
      -- the text as it is written has no part in the choice
      have hok : Registry.choose entries d.id id id = .ok dest := by
        rwa [Registry.choose_eq_ok_iff] at hchoose' ⊢
      rw [hok] at hchoose
      cases hchoose
    | error e => rw [(Registry.choose_eq_error hchoose').2.1]

/-- The id of a call operator with template arguments, dots of its own and an ellipsis. -/
def callOperatorId : String :=
  "v1.0::f<a.b>::operator()(int,...)"

/-- A parameter of the operator is looked up as the operator, in the document that has it. -/
theorem lookup_member_access_callOperator :
    let r := Registry.merge {} ⟨"a", [(callOperatorId, "x")], []⟩
    r.long.contains callOperatorId = true ∧
    r.long.contains (callOperatorId ++ "." ++ "p") = false ∧
    r.lookup (assemble {} "d" namespaceFile).1 0 (callOperatorId ++ "." ++ "p").toList
      = .ok ⟨"a", "x"⟩ := by
  intro r
  have hid : r.long.contains callOperatorId = true := by decide +kernel
  have hnew : r.long.contains (callOperatorId ++ "." ++ "p") = false := by decide +kernel
  have hown : r.lookup (assemble {} "d" namespaceFile).1 0 callOperatorId.toList
      = .ok ⟨"a", "x"⟩ := by decide +kernel
  refine ⟨hid, hnew, ?_⟩
  rcases lookup_member_access r (assemble {} "d" namespaceFile).1 0 hid (by decide) (by decide +kernel)
    (by decide +kernel) (by decide) (by decide) hnew with ⟨dest, hdest, hmember⟩ | ⟨_, herror, -⟩
  · rw [hown] at hdest
    rw [hmember, ← hdest]
  · rw [hown] at herror
    cases herror

end DocComments
