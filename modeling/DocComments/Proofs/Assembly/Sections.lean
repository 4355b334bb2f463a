import DocComments.Proofs.Assembly.Parts

set_option autoImplicit false

/-!
# What becomes of the sections of a comment

When a declaration is read, the sections with metadata are taken out of its comment; when it becomes
a member of an entity, the names of the parts are taken off. All other blocks stay, in their order
and as they were read. A section that lacks its argument is warned about once.

## Main definitions

* `Comment.givesMetadata`, `Comment.lacksArgument` — the sections that are taken out, and those of
  them that are warned about.
* `Comment.WithoutMetadata` — the sections that give metadata were taken out of a comment.
* `Declaration.commentProblems`, `Declaration.missingMetadata`, `Declaration.missingNames` — what is
  wrong with the comment of a declaration.
* `Entity.Accounts` — what is left of the comment of a member, and what the entity has of it.

## Main results

* `hasTaken_extractMetadata` — the sections with metadata are taken out, and nothing else.
* `diagnostics_readEntry`, `missingParts_readEntry` — the warnings for a declaration.
* `accounts_makeEntity` — the entity of a group accounts for every section of its members.
-/

namespace DocComments

open Markup (TextReader)
open Comment (sections sectionKind? firstLine Trimmed SameAt)

/-! ## Taking metadata out -/

namespace Comment

/-- The section gives metadata. -/
def givesMetadata (c : Comment) (id : Nat) : Bool :=
  (sectionKind? c id).any SectionKind.isMetadata

/-- The section gives metadata by an argument, and has none in its first line. -/
def lacksArgument (c : Comment) (kind : SectionKind) (id : Nat) : Bool :=
  match kind with
  | .module | .group | .uniqueName => (firstLine c id).isEmpty
  | _ => false

/-- Sections are gone when they have been taken out. -/
lemma sections_detach {c : Comment} (hc : c.Ordered) {id : Nat} (hid : id ≠ 0)
    (hparent : c.parent? id = none ∨ c.parent? id = some 0) :
    sections (c.detach id) = (sections c).filter (· != id) := by
  rcases hparent with hparent | hparent
  · have hmem : id ∉ sections c := fun h => by
      rw [sections, hc.mem_children_iff, hparent] at h
      cases h
    have hall : (sections c).filter (· != id) = sections c :=
      List.filter_eq_self.2 fun s hs => by
        simpa using fun heq : s = id => hmem (heq ▸ hs)
    rw [Arena.detach, hparent, hall]
  · rw [sections, Arena.children_detach hparent hid, if_pos rfl, sections]

/-- Sections below the root are as they were when others have been taken out. -/
lemma Trimmed.sameAt {c c' : Comment} (h : Trimmed c c') {id : Nat} (hid : id ≠ 0) :
    SameAt c c' id :=
  ⟨h.value? id, h.children id hid, fun i _ => h.value? i⟩

end Comment

/-- **A section with metadata says nothing exactly if it lacks its argument.** -/
lemma Metadata.add?_firstLine_eq_none_iff (c : Comment) (id : Nat) (m : Metadata)
    {kind : SectionKind} (h : kind.isMetadata = true) :
    m.add? kind (firstLine c id) = none ↔ c.lacksArgument kind id = true := by
  have hword : (Text.splitWord (firstLine c id)).1 = [] ↔ firstLine c id = [] :=
    splitWord_trim_eq_nil_iff _
  cases kind <;> simp [SectionKind.isMetadata] at h <;>
    simp [Metadata.add?, Comment.lacksArgument, hword]

/-- Those of some sections that give metadata have been taken out of a comment. -/
structure Extraction.HasTaken (settings : Settings) (entity : String) (c : Comment) (ids : List Nat)
    (x : Extraction) : Prop where
  trimmed : Trimmed c x.comment
  ordered : x.comment.Ordered
  sections : sections x.comment
    = (sections c).filter fun s => !(ids.contains s && c.givesMetadata s)
  diagnostics : x.diagnostics = c.missing settings entity c.lacksArgument ids

namespace Extraction.HasTaken

variable {settings : Settings} {entity : String} {c : Comment} {ids : List Nat} {x : Extraction}
  {id : Nat}

/-- A section that gives no metadata stays. -/
lemma skip (h : x.HasTaken settings entity c ids) (hid : c.givesMetadata id = false) :
    x.HasTaken settings entity c (ids ++ [id]) := by
  refine ⟨h.trimmed, h.ordered, ?_, ?_⟩
  · rw [h.sections]
    refine List.filter_congr fun s _ => ?_
    by_cases hs : s = id
    · subst hs
      simp [hid]
    · simp [hs]
  · have hnone : (sectionKind? c id).filter (c.lacksArgument · id) = none := by
      rw [Option.filter_eq_none_iff]
      intro kind hkind
      rw [Comment.givesMetadata, hkind, Option.any_some] at hid
      cases kind <;> simp [SectionKind.isMetadata] at hid <;> simp [Comment.lacksArgument]
    rw [h.diagnostics, Comment.missing, Comment.missing, List.filterMap_append]
    simp [hnone]

/-- A section that gives metadata is taken out, with a warning if it lacks its argument. -/
lemma detach (h : x.HasTaken settings entity c ids) (hc : c.Ordered)
    (hid : id ∈ Comment.sections c) {kind : SectionKind} (hkind : sectionKind? c id = some kind)
    (hmetadata : kind.isMetadata = true) (metadata : Metadata) :
    Extraction.HasTaken settings entity c (ids ++ [id])
      { comment := x.comment.detach id, metadata, diagnostics := x.diagnostics ++
          if c.lacksArgument kind id then [missingArgument settings entity c id kind] else [] } := by
  have hne : id ≠ 0 := Nat.ne_of_gt (Comment.pos_of_mem_sections hc hid)
  refine ⟨h.trimmed.detach hc hid, h.ordered.detach id, ?_, ?_⟩
  · rw [Comment.sections_detach h.ordered hne (h.trimmed.parent? id hid), h.sections,
      List.filter_filter]
    refine List.filter_congr fun s _ => ?_
    by_cases hs : s = id
    · subst hs
      simp [Comment.givesMetadata, hkind, hmetadata]
    · simp [hs]
  · rw [h.diagnostics, Comment.missing, Comment.missing, List.filterMap_append]
    by_cases hlacks : c.lacksArgument kind id = true
    · simp [hkind, hlacks, Option.filter_some]
    · simp [hkind, hlacks, Option.filter_some]

/-- One more section is looked at. -/
lemma take (h : x.HasTaken settings entity c ids) (hc : c.Ordered)
    (hid : id ∈ Comment.sections c) :
    (x.take settings entity id).HasTaken settings entity c (ids ++ [id]) := by
  have hne : id ≠ 0 := Nat.ne_of_gt (Comment.pos_of_mem_sections hc hid)
  have hsame := h.trimmed.sameAt hne
  unfold Extraction.take
  rw [hsame.sectionKind?_eq, h.trimmed.firstLine_eq hc hne, hsame.missingArgument_eq]
  cases hkind : sectionKind? c id with
  | none => exact h.skip (by simp [Comment.givesMetadata, hkind])
  | some kind =>
    by_cases hmetadata : kind.isMetadata = true
    · have hlacks := Metadata.add?_firstLine_eq_none_iff c id x.metadata hmetadata
      simp only [hmetadata, Bool.not_true, Bool.false_eq_true, if_false]
      split
      · rename_i metadata hadd
        have hargument : ¬c.lacksArgument kind id = true := fun hmissing => by
          rw [hlacks.2 hmissing] at hadd
          cases hadd
        have := h.detach hc hid hkind hmetadata metadata
        rwa [if_neg hargument, List.append_nil] at this
      · rename_i hadd
        have := h.detach hc hid hkind hmetadata x.metadata
        rwa [if_pos (hlacks.1 hadd)] at this
    · simp only [hmetadata, Bool.not_false, if_true]
      exact h.skip (by simpa [Comment.givesMetadata, hkind] using hmetadata)

end Extraction.HasTaken

/-- **The sections with metadata are taken out of a comment, and nothing else.** -/
lemma hasTaken_extractMetadata {c : Comment} (hc : c.Ordered) (settings : Settings)
    (entity : String) :
    (extractMetadata settings entity c).HasTaken settings entity c (sections c) := by
  have hfold : ∀ ids : List Nat, ids ⊆ sections c →
      (ids.foldl (Extraction.take settings entity) { comment := c }).HasTaken settings entity c
        ids := by
    intro ids
    induction ids using List.reverseRecOn with
    | nil => exact fun _ => ⟨Trimmed.refl hc, hc, by simp, rfl⟩
    | append_singleton ids id ih =>
      intro hids
      obtain ⟨hids, hid⟩ := List.append_subset.1 hids
      rw [List.foldl_append]
      exact (ih hids).take hc (hid (by simp))
  exact hfold (sections c) (List.Subset.refl _)

/-- The sections that give metadata were taken out of a comment. -/
structure Comment.WithoutMetadata (c c' : Comment) : Prop where
  ordered : c.Ordered
  trimmed : Trimmed c c'
  ordered' : c'.Ordered
  sections : sections c' = (sections c).filter fun s => !c.givesMetadata s

namespace Comment.WithoutMetadata

variable {c c' : Comment}

/-- The sections are the same as before metadata was taken out. -/
lemma sameAt (h : WithoutMetadata c c') {s : Nat} (hs : s ∈ Comment.sections c) : SameAt c c' s :=
  h.trimmed.sameAt (Nat.ne_of_gt (pos_of_mem_sections h.ordered hs))

/-- A section that is still there was there before, and gives no metadata. -/
lemma mem_of_mem (h : WithoutMetadata c c') {s : Nat} (hs : s ∈ Comment.sections c') :
    s ∈ Comment.sections c ∧ c.givesMetadata s = false := by
  rw [h.sections, List.mem_filter] at hs
  simpa using hs

/-- The roles of the sections are those they had when the comment was read. -/
lemma sectionKind?_withoutNames (h : WithoutMetadata c c') {s : Nat}
    (hs : s ∈ Comment.sections c') :
    sectionKind? (c'.withoutNames (Comment.sections c')) s = sectionKind? c s := by
  rw [← (h.sameAt (h.mem_of_mem hs).1).sectionKind?_eq, sectionKind?, sectionKind?, Arena.node?,
    Arena.node?, value?_withoutNames_section h.ordered' (List.Subset.refl _) hs]

/-- The texts with names are those of the comment that was read. -/
lemma mem_nameTexts (h : WithoutMetadata c c') {i : Nat} :
    i ∈ (Comment.sections c').filterMap c'.nameText? ↔
      ∃ s ∈ Comment.sections c', c.nameText? s = some i := by
  rw [List.mem_filterMap]
  refine exists_congr fun s => and_congr_right fun hs => ?_
  rw [(h.sameAt (h.mem_of_mem hs).1).nameText?_eq]

end Comment.WithoutMetadata

/-! ## Declarations -/

namespace Declaration

/-- The problems found when the comment of a declaration is read. -/
def commentProblems (settings : Settings) (reader : TextReader) (d : Declaration) :
    List Diagnostic :=
  d.comment.elim [] fun raw => (Comment.parse settings d.qualifiedName raw.toList reader).2

/-- The warnings for the sections with metadata that lack their argument. -/
def missingMetadata (settings : Settings) (reader : TextReader) (d : Declaration) :
    List Diagnostic :=
  (d.readComment? settings reader).elim [] fun c =>
    c.missing settings d.qualifiedName c.lacksArgument (sections c)

/-- The warnings for the sections about parts that have no name, unless the declaration is
excluded. -/
def missingNames (settings : Settings) (reader : TextReader) (d : Declaration) : List Diagnostic :=
  if d.isExcluded settings reader then []
  else (d.readComment? settings reader).elim [] fun c =>
    c.missing settings d.qualifiedName c.lacksPart (sections c)

end Declaration

section ReadEntry

variable (settings : Settings) (reader : TextReader) (scope : Option Scope) (d : Declaration)

/-- **The problems of a declaration that is read**: those of its comment, and the metadata sections
that lack their argument. -/
lemma diagnostics_readEntry : (readEntry settings reader scope d).2
    = d.commentProblems settings reader ++ d.missingMetadata settings reader := by
  unfold readEntry Declaration.commentProblems Declaration.missingMetadata Declaration.readComment?
  cases d.comment with
  | none => rfl
  | some raw =>
    have hordered : (Comment.parse settings d.qualifiedName raw.toList reader).1.Ordered :=
      (Comment.ordered_classify _ _).1
    have hmissing := (hasTaken_extractMetadata hordered settings d.qualifiedName).diagnostics
    simp only [Option.map_some, Option.elim_some]
    rw [← hmissing]

variable {settings reader scope d}

/-- **The comment of a declaration that is read** is its own without the sections with metadata. -/
lemma exists_of_comment_readEntry {c' : Comment}
    (h : (readEntry settings reader scope d).1.comment = some c') :
    d.isExcluded settings reader = false ∧
      ∃ c, d.readComment? settings reader = some c ∧ Comment.WithoutMetadata c c' := by
  have hsome := (comment_readEntry settings reader scope d).not.1 (by simp [h])
  obtain ⟨hcomment, hexcluded⟩ := not_or.1 hsome
  obtain ⟨raw, hraw⟩ := Option.ne_none_iff_exists'.1 hcomment
  obtain ⟨c, hread, hordered, hentry⟩ := exists_readEntry_of_some hraw settings reader scope
  have htaken := hasTaken_extractMetadata hordered settings d.qualifiedName
  rw [hentry, Extraction.toEntry] at h
  have hc' : (extractMetadata settings d.qualifiedName c).comment = c' := by
    simp only at h
    split at h
    · cases h
    · exact Option.some.inj h
  rw [← hc']
  refine ⟨by simpa using hexcluded, c, hread, hordered, htaken.trimmed, htaken.ordered, ?_⟩
  rw [htaken.sections]
  refine List.filter_congr fun s hs => ?_
  rw [List.contains_iff_mem.2 hs, Bool.true_and]

variable (settings reader scope d)

/-- The entry of a declaration has a comment with sound links. -/
lemma isOrdered_readEntry : (readEntry settings reader scope d).1.IsOrdered := by
  intro c hc
  obtain ⟨-, own, -, htaken⟩ := exists_of_comment_readEntry hc
  exact htaken.ordered'

/-- The sections of a declaration that is read lack the names that those of its own comment lack. -/
lemma missingParts_readEntry :
    (readEntry settings reader scope d).1.missingParts settings
      = d.missingNames settings reader := by
  unfold Entry.missingParts Declaration.missingNames
  rw [source_readEntry]
  cases hread : (readEntry settings reader scope d).1.comment with
  | none =>
    rcases (comment_readEntry settings reader scope d).1 hread with hnone | hexcluded
    · simp [Declaration.readComment?, hnone]
    · simp [hexcluded]
  | some c' =>
    obtain ⟨hexcluded, c, hc, htaken⟩ := exists_of_comment_readEntry hread
    rw [hexcluded, hc, if_neg Bool.false_ne_true, Option.elim_some, Option.elim_some,
      htaken.sections, Comment.missing, Comment.missing, List.filterMap_filter]
    refine List.filterMap_congr fun s hs => ?_
    have hsame := htaken.sameAt hs
    rw [hsame.sectionKind?_eq, hsame.missingArgument_eq, Comment.givesMetadata]
    cases hkind : sectionKind? c s with
    | none => simp
    | some kind =>
      -- a section about a part gives no metadata
      have hapart : kind.isMetadata = true → kind.isInline = false := by
        cases kind <;> simp [SectionKind.isMetadata, SectionKind.isInline]
      by_cases hmetadata : kind.isMetadata = true
      · simp [hmetadata, hapart hmetadata, Comment.lacksPart, Option.filter_some]
      · simp [hmetadata, Comment.lacksPart, hsame.lacksName_eq]

end ReadEntry

/-! ## Entities -/

/-- What an entity has of the comment `c` of the declaration that is its member `k`, when the comment
of the member is `c'`. -/
structure Entity.Accounts (e : Entity) (k : Nat) (c c' : Comment) : Prop where
  /-- The blocks are those that give no metadata, all of them and in their order. -/
  sections : sections c' = (sections c).filter fun s => !c.givesMetadata s
  noMetadata : ∀ s ∈ Comment.sections c', c'.givesMetadata s = false
  /-- Blocks are as they were read, but for the texts that names were taken off. -/
  children : ∀ i, i ≠ 0 → c'.children i = c.children i
  position : ∀ i, c'.position i = c.position i
  value? : ∀ i, (∀ s ∈ Comment.sections c', c.nameText? s ≠ some i) → c'.value? i = c.value? i
  /-- A section about a part that has a name is one part, and the text loses the name. -/
  named : ∀ s ∈ Comment.sections c', ∀ kind, sectionKind? c' s = some kind →
    kind.isInline = true → c.lacksName s = false →
    ∃ first value word rest, c.leadingText? s = some first ∧ c.node? first = some (.text value) ∧
      Text.LeadingWord value word rest ∧ c'.node? first = some (.text rest) ∧
      e.inlines.filter (InlineEntity.isOf k s) =
        [{ kind, name := String.ofList word, member := k, section_ := s,
           uniqueId := e.uniqueId ++ (if kind = .baseClass then "::" else ".")
             ++ String.ofList word }]
  /-- A section about a part that has no name is none. -/
  unnamed : ∀ s ∈ Comment.sections c', ∀ kind, sectionKind? c' s = some kind →
    kind.isInline = true → c.lacksName s = true → e.inlines.filter (InlineEntity.isOf k s) = []

/-- The comment of a member is that of its entry without the names of the parts. -/
lemma comment_member {entry : Entry} {c : Comment} (hc : entry.comment = some c) (h : c.Ordered)
    (settings : Settings) (owner : String) (k : Nat) :
    (entry.member settings owner k).comment = some (c.withoutNames (sections c)) := by
  rw [Entry.member, hc, Option.map_some, takeInlines_eq h]

/-- The part that a section with a name is. -/
lemma part?_of_leadingText? {c : Comment} {s first : Nat} {kind : SectionKind}
    (hkind : sectionKind? c s = some kind) (hinline : kind.isInline = true)
    (hname : c.lacksName s = false) (hfirst : c.leadingText? s = some first) (owner : String)
    (k : Nat) : c.part? owner k s = some
      { kind, name := String.ofList (Text.firstWord (c.textOf first)), member := k, section_ := s,
        uniqueId := owner ++ (if kind = .baseClass then "::" else ".")
          ++ String.ofList (Text.firstWord (c.textOf first)) } := by
  have hpart : c.isPart s = true := by rw [Comment.isPart, hkind, Option.any_some, hinline]
  rw [Comment.part?, Comment.nameText?_eq_some.2 ⟨hpart, hname, hfirst⟩, Option.bind_some, hkind,
    Option.map_some]
  unfold inlineId
  split <;> rfl

/-- **What is left of a comment whose metadata and names were taken out**, and the parts that were
made of it. -/
lemma Comment.WithoutMetadata.accounts {c c' : Comment} (h : WithoutMetadata c c') {e : Entity}
    {k : Nat} (hparts : ∀ s ∈ Comment.sections c',
      e.inlines.filter (InlineEntity.isOf k s) = (c'.part? e.uniqueId k s).toList) :
    e.Accounts k c (c'.withoutNames (Comment.sections c')) := by
  refine ⟨?_, fun s hs => ?_, fun i hi => ?_, fun i => ?_, fun i hi => ?_,
    fun s hs kind hkind hinline hname => ?_, fun s hs kind hkind hinline hname => ?_⟩
  · rw [sections_withoutNames, h.sections]
  · rw [sections_withoutNames] at hs
    rw [givesMetadata, h.sectionKind?_withoutNames hs]
    exact (h.mem_of_mem hs).2
  · rw [children_withoutNames, h.trimmed.children i hi]
  · rw [position_withoutNames, Arena.position, Arena.position, h.trimmed.value?]
  · rw [sections_withoutNames] at hi
    rw [value?_withoutNames, if_neg, h.trimmed.value?]
    rw [h.mem_nameTexts]
    rintro ⟨s, hs, hname⟩
    exact hi s hs hname
  · rw [sections_withoutNames] at hs
    rw [h.sectionKind?_withoutNames hs] at hkind
    have hsame := h.sameAt (h.mem_of_mem hs).1
    obtain ⟨first, hfirst⟩ := exists_leadingText? hname
    have hword : Text.firstWord (c.textOf first) ≠ [] := by
      rw [lacksName, hfirst, Option.all_some] at hname
      rw [Ne, Text.firstWord_eq_nil_iff, hname]
      exact Bool.false_ne_true
    have htext : c'.textOf first = c.textOf first :=
      hsame.textOf_eq (mem_children_of_leadingText? hfirst)
    refine ⟨first, c.textOf first, _, _, hfirst, (leadingText?_eq_some hfirst).2,
      Text.leadingWord_firstWord hword, ?_, ?_⟩
    · have hmem : first ∈ (Comment.sections c').filterMap c'.nameText? := by
        refine h.mem_nameTexts.2 ⟨s, hs, nameText?_eq_some.2 ⟨?_, hname, hfirst⟩⟩
        rw [isPart, hkind, Option.any_some, hinline]
      have hnode := hsame.node?_eq (mem_children_of_leadingText? hfirst)
      rw [(leadingText?_eq_some hfirst).2, Arena.node?, Option.map_eq_some_iff] at hnode
      obtain ⟨v, hv, -⟩ := hnode
      rw [Arena.node?, value?_withoutNames, if_pos hmem, hv, Option.map_some, Option.map_some,
        dropName, htext]
    · rw [hparts s hs, part?_of_leadingText? (hsame.sectionKind?_eq.trans hkind) hinline
        (hsame.lacksName_eq.trans hname) (hsame.leadingText?_eq.trans hfirst), htext]
      rfl
  · rw [sections_withoutNames] at hs
    have hsame := h.sameAt (h.mem_of_mem hs).1
    rw [hparts s hs, hsame.part?_eq, part?, nameText?, hname, Bool.not_true, Bool.and_false,
      if_neg Bool.false_ne_true]
    rfl

/-- **The entity of a group accounts for every section of its members.** -/
lemma accounts_makeEntity (settings : Settings) (reader : TextReader) (scope : Option Scope)
    {first : Entry}
    {rest : List Entry} (h : ∀ entry ∈ first :: rest, entry.IsOrdered) {k : Nat} {d : Declaration}
    (hd : (first :: rest)[k]? = some (readEntry settings reader scope d).1) {m : Member}
    (hm : (makeEntity settings first rest).1.members[k]? = some m) {c' : Comment}
    (hc' : m.comment = some c') :
    ∃ c, d.readComment? settings reader = some c ∧
      (makeEntity settings first rest).1.Accounts k c c' := by
  rw [members_makeEntity, List.getElem?_mapIdx, hd, Option.map_some, Option.some.injEq] at hm
  obtain ⟨read, hread⟩ : ∃ read, (readEntry settings reader scope d).1.comment = some read := by
    rw [← hm, Entry.member, Option.map_eq_some_iff] at hc'
    exact ⟨_, hc'.choose_spec.1⟩
  obtain ⟨-, c, hc, htaken⟩ := exists_of_comment_readEntry hread
  rw [← hm, comment_member hread htaken.ordered', Option.some.injEq] at hc'
  subst hc'
  exact ⟨c, hc, htaken.accounts fun s hs => filter_inlines_makeEntity settings h hd hread hs⟩

end DocComments
