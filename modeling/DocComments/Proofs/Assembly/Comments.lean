import DocComments.Proofs.Assembly.Groups

set_option autoImplicit false

/-!
# What becomes of a comment in a document

Assembling a document reads a comment and then changes it in two ways only: a section with metadata
is taken out, and the name of a part is taken off the text that starts with it. This file follows
the comments of the declarations into the members of the entities. What reading gives and the two
changes keep holds of all comments of a document.

## Main definitions

* `Comment.Prepared` — a comment that was read and changed in these two ways.

## Main results

* `prepared_assemble` — the comments of an assembled document are prepared.
-/

namespace DocComments

open Markup (TextReader)

/-- A comment that was read, and from which sections and the names of parts were taken out. -/
inductive Comment.Prepared : Comment → Prop where
  | parse (settings : Settings) (reader : TextReader) (entity : String) (raw : List Char) :
    Prepared (parse settings entity raw reader).1
  | detach {c : Comment} (id : Nat) : Prepared c → Prepared (c.detach id)
  | setText {c : Comment} (id : Nat) (value : List Char) :
    Prepared c → Prepared (c.modifyNode id fun _ => .text value)

open Comment (Prepared)

/-- Taking metadata out of a comment. -/
lemma prepared_extractMetadata (settings : Settings) (entity : String) {c : Comment}
    (h : Prepared c) : Prepared (extractMetadata settings entity c).comment := by
  apply List.foldlRecOn (motive := fun x : Extraction => Prepared x.comment)
  · exact h
  · intro x hx id _
    unfold Extraction.take
    repeat' split
    all_goals first
      | exact hx
      | exact hx.detach id

/-- Taking the first word off a paragraph. -/
lemma prepared_takeWord? {c c' : Comment} {paragraph : Nat} {word : List Char} (h : Prepared c)
    (htake : takeWord? c paragraph = some (word, c')) : Prepared c' := by
  unfold takeWord? at htake
  split at htake
  · cases htake
  · split at htake
    · simp only at htake
      split at htake
      · cases htake
      · cases htake
        exact h.setText _ _
    · cases htake

/-- Reading the named parts of a comment. -/
lemma prepared_takeInlines (settings : Settings) (owner entity : String) (member : Nat)
    {c : Comment} (h : Prepared c) :
    Prepared (takeInlines settings owner entity member c).comment := by
  apply List.foldlRecOn (motive := fun x : InlineReading => Prepared x.comment)
  · exact h
  · intro x hx id _
    unfold InlineReading.take
    split
    · exact hx
    · split
      · exact hx
      · split
        · exact hx
        · rename_i word c' hword
          exact prepared_takeWord? hx hword

/-- The comment of a declaration is prepared when it has been read. -/
lemma prepared_readEntry {settings : Settings} {reader : TextReader} {scope : Option Scope}
    {d : Declaration}
    {c : Comment} (h : (readEntry settings reader scope d).1.comment = some c) : Prepared c := by
  unfold readEntry at h
  cases hraw : d.comment with
  | none =>
    rw [hraw] at h
    cases h
  | some raw =>
    have hparse := Prepared.parse settings reader d.qualifiedName raw.toList
    simp only [hraw] at h
    generalize Comment.parse settings d.qualifiedName raw.toList reader = read at h hparse
    split at h
    · cases h
    · rw [← Option.some.inj h]
      exact prepared_extractMetadata _ _ hparse

/-- The comments of all members are prepared. -/
def MembersPrepared (members : List Member) : Prop :=
  ∀ m ∈ members, ∀ c, m.comment = some c → Prepared c

/-- One more member with a prepared comment. -/
lemma MembersPrepared.add {x : MemberReading} (hx : MembersPrepared x.members) (settings : Settings)
    (owner : String) {entry : Entry} (hentry : ∀ c, entry.comment = some c → Prepared c) :
    MembersPrepared (x.add settings owner entry).members := by
  intro m hm c hc
  unfold MemberReading.add at hm
  cases hcomment : entry.comment with
  | none =>
    rw [hcomment] at hm
    rcases List.mem_append.1 hm with hm | hm
    · exact hx m hm c hc
    · rw [List.mem_singleton.1 hm] at hc
      cases hc
  | some old =>
    rw [hcomment] at hm
    rcases List.mem_append.1 hm with hm | hm
    · exact hx m hm c hc
    · rw [List.mem_singleton.1 hm] at hc
      cases hc
      exact prepared_takeInlines _ _ _ _ (hentry old hcomment)

/-- The comments of an entity are prepared if those of its group are. -/
lemma prepared_makeEntity {settings : Settings} {first : Entry} {rest : List Entry}
    (h : ∀ entry ∈ first :: rest, ∀ c, entry.comment = some c → Prepared c) :
    MembersPrepared (makeEntity settings first rest).1.members := by
  apply List.foldlRecOn (motive := fun x : MemberReading => MembersPrepared x.members)
  · simp [MembersPrepared]
  · intro x hx entry hentry
    exact hx.add settings first.uniqueId (h entry hentry)

/-- **The comments of an assembled document are prepared.** -/
theorem prepared_assemble (settings : Settings) (reader : TextReader) (id : String)
    (root : Declaration) {i : Nat}
    {e : Entity} (he : (assemble settings id root reader).1.get? i = some e) :
    MembersPrepared e.members := by
  refine forall_get?_assemble (P := fun e => MembersPrepared e.members) ?_ id root he
  intro first rest hread
  apply prepared_makeEntity
  intro entry hentry c hc
  obtain ⟨scope, d, rfl⟩ := hread entry hentry
  exact prepared_readEntry hc

end DocComments
