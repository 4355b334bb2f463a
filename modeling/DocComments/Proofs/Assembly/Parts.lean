import DocComments.Proofs.Arena.Contents
import DocComments.Proofs.Assembly.Grouping

set_option autoImplicit false

/-!
# The named parts that a comment documents

A section about a parameter or a base class starts with the name of what it is about. When an entity
is made, the name is taken off the text that the section starts with, and the section becomes a part
of the entity. A section without a name becomes no part, and a warning is given. This file says what
becomes of each section without the order in which they are read.

## Main definitions

* `Text.LeadingWord` — a text starts with a word, and has something left without it.
* `Comment.leadingText?`, `Comment.lacksName` — the text that a section starts with, and that there
  is no name in it.
* `Comment.part?`, `Comment.missing` — the part that a section is, and the warnings for sections that
  lack something.
* `Comment.withoutNames` — a comment after the names of its parts have been taken off.

## Main results

* `takeInlines_eq` — reading the sections one after the other gives all of this.
* `filter_inlines_makeEntity` — the parts of an entity that a section documents.
-/

namespace DocComments

/-! ## The first word of a text -/

namespace Text

/-- The text starts with a word, and `rest` is the text without this word and the white space around
it. -/
structure LeadingWord (text word rest : List Char) : Prop where
  /-- White space surrounds the word, unless the text starts or ends there. -/
  split : ∃ before after, text = before ++ word ++ after ++ rest ∧
    (∀ c ∈ before, isSpace c = true) ∧ (∀ c ∈ after, isSpace c = true) ∧ (after = [] → rest = [])
  word_ne_nil : word ≠ []
  word : ∀ c ∈ word, isSpace c = false
  rest : ∀ c, rest.head? = some c → isSpace c = false

/-- What is left of a text without its first word and the white space around it. -/
def afterWord (text : List Char) : List Char :=
  trimStart (splitWord (trimStart text)).2

/-- The first word reaches from the first character that is no white space to the next white
space. -/
lemma firstWord_eq_takeWhile (text : List Char) :
    firstWord text = (text.dropWhile isSpace).takeWhile fun c => !isSpace c := by
  rw [firstWord, splitWord, List.span_eq_takeWhile_dropWhile, trimStart]

/-- What follows the first word starts behind the white space after it. -/
lemma afterWord_eq_dropWhile (text : List Char) : afterWord text
    = ((text.dropWhile isSpace).dropWhile fun c => !isSpace c).dropWhile isSpace := by
  rw [afterWord, splitWord, List.span_eq_takeWhile_dropWhile, trimStart, trimStart]

/-- Only white space has no first word. -/
lemma firstWord_eq_nil_iff (text : List Char) :
    firstWord text = [] ↔ text.all isSpace = true := by
  rw [firstWord_eq_takeWhile, List.all_eq_true, ← List.dropWhile_eq_nil_iff]
  have hhead := List.head?_dropWhile_not isSpace text
  cases htext : text.dropWhile isSpace with
  | nil => simp
  | cons c rest =>
    rw [htext] at hhead
    have hc : isSpace c = false := by simpa using hhead
    simp [hc]

/-- **A text that is not white space starts with its first word.** -/
lemma leadingWord_firstWord {text : List Char} (h : firstWord text ≠ []) :
    LeadingWord text (firstWord text) (afterWord text) := by
  set middle := text.dropWhile isSpace with hmiddle
  set tail := middle.dropWhile fun c => !isSpace c with htail
  have hword : firstWord text = middle.takeWhile fun c => !isSpace c := firstWord_eq_takeWhile text
  have hrest : afterWord text = tail.dropWhile isSpace := afterWord_eq_dropWhile text
  have hfirst : ∀ c, tail.head? = some c → isSpace c = true := by
    intro c hc
    have := List.head?_dropWhile_not (fun c => !isSpace c) middle
    rw [← htail, hc] at this
    simpa using this
  refine ⟨⟨text.takeWhile isSpace, tail.takeWhile isSpace, ?_, ?_, ?_, ?_⟩, h, ?_, ?_⟩
  · rw [hword, hrest, List.append_assoc, List.append_assoc, List.takeWhile_append_dropWhile, htail,
      List.takeWhile_append_dropWhile, hmiddle, List.takeWhile_append_dropWhile]
  · exact fun c => List.mem_takeWhile_imp
  · exact fun c => List.mem_takeWhile_imp
  · intro hempty
    rw [hrest]
    cases hcons : tail with
    | nil => rfl
    | cons c cs =>
      rw [hcons, List.takeWhile_cons_of_pos (hfirst c (by rw [hcons]; rfl))] at hempty
      cases hempty
  · intro c hc
    rw [hword] at hc
    simpa using List.mem_takeWhile_imp hc
  · intro c hc
    have := List.head?_dropWhile_not isSpace tail
    rw [← hrest, hc] at this
    simpa using this

end Text

/-! ## Sections about named parts -/

namespace Comment

/-- What a text node says. -/
def textOf (c : Comment) (id : Nat) : List Char :=
  match c.node? id with
  | some (.text value) => value
  | _ => []

/-- The text that a section starts with: its first child, if that is text. -/
def leadingText? (c : Comment) (id : Nat) : Option Nat :=
  (c.children id).head?.bind fun first =>
    match c.node? first with
    | some (.text _) => some first
    | _ => none

/-- The section does not start with a name: there is no text, or only white space in it. -/
def lacksName (c : Comment) (id : Nat) : Bool :=
  (c.leadingText? id).all fun first => (c.textOf first).all Text.isSpace

/-- The section documents a named part. -/
def isPart (c : Comment) (id : Nat) : Bool :=
  (sectionKind? c id).any SectionKind.isInline

/-- The text that a section has its name in, if it documents a part and has a name. -/
def nameText? (c : Comment) (id : Nat) : Option Nat :=
  if c.isPart id && !c.lacksName id then c.leadingText? id else none

/-- The part that a section documents. -/
def part? (c : Comment) (owner : String) (member : Nat) (id : Nat) : Option InlineEntity :=
  (c.nameText? id).bind fun first => (sectionKind? c id).map fun kind =>
    let name := String.ofList (Text.firstWord (c.textOf first))
    { kind, name, uniqueId := inlineId owner kind name, member, section_ := id }

/-- The warnings for those of some sections that lack something, one for each of them. -/
def missing (c : Comment) (settings : Settings) (entity : String)
    (lacks : SectionKind → Nat → Bool) (ids : List Nat) : List Diagnostic :=
  ids.filterMap fun id =>
    ((sectionKind? c id).filter (lacks · id)).map (missingArgument settings entity c id)

/-- A text node without the name it starts with. -/
def dropName (c : Comment) (id : Nat) (p : Placed Node) : Placed Node :=
  { p with value := .text (Text.afterWord (c.textOf id)) }

/-- The comment after the names of those of some sections that document a part have been taken
off. -/
def withoutNames (c : Comment) (ids : List Nat) : Comment :=
  (ids.filterMap c.nameText?).foldl (fun a id => a.modifyValue id (c.dropName id)) c

variable {c : Comment}

/-- The text with the name of a part is the one its section starts with, when that has a word. -/
lemma nameText?_eq_some {id first : Nat} :
    c.nameText? id = some first ↔
      c.isPart id = true ∧ c.lacksName id = false ∧ c.leadingText? id = some first := by
  unfold nameText?
  by_cases hpart : c.isPart id = true
  · by_cases hname : c.lacksName id = true
    · simp [hpart, hname]
    · simp [hpart, hname]
  · simp [hpart]

/-- The text that a section starts with is its first child, and says something. -/
lemma leadingText?_eq_some {id first : Nat} (h : c.leadingText? id = some first) :
    (c.children id).head? = some first ∧ c.node? first = some (.text (c.textOf first)) := by
  obtain ⟨head, hhead, htext⟩ := Option.bind_eq_some_iff.1 h
  split at htext
  · rename_i value hnode
    obtain rfl : head = first := Option.some.inj htext
    refine ⟨hhead, ?_⟩
    rw [textOf, hnode]
  · cases htext

/-- Taking the first word off a paragraph looks at the text that it starts with. -/
lemma takeWord?_eq (c : Comment) (id : Nat) :
    takeWord? c id = (c.leadingText? id).bind fun first =>
      if Text.firstWord (c.textOf first) = [] then none
      else some (Text.firstWord (c.textOf first), c.modifyValue first (c.dropName first)) := by
  unfold takeWord? leadingText?
  cases c.children id with
  | nil => rfl
  | cons first rest =>
    simp only [List.head?_cons, Option.bind_some]
    cases hnode : c.node? first with
    | none => rfl
    | some node =>
      cases node with
      | text value =>
        have htext : c.textOf first = value := by rw [textOf, hnode]
        have hdrop : c.dropName first
            = fun p => { p with value := .text (Text.afterWord value) } := by
          funext p
          rw [dropName, htext]
        simp [htext, hdrop, Text.firstWord, Text.afterWord, Arena.modifyNode]
      | _ => rfl

/-- A section without a name gives no word. -/
lemma takeWord?_of_lacksName {id : Nat} (h : c.lacksName id = true) : takeWord? c id = none := by
  rw [takeWord?_eq]
  cases hfirst : c.leadingText? id with
  | none => rfl
  | some first =>
    rw [lacksName, hfirst, Option.all_some, ← Text.firstWord_eq_nil_iff] at h
    rw [Option.bind_some, if_pos h]

/-- A section with a name gives it, and its text loses it. -/
lemma takeWord?_of_leadingText? {id first : Nat} (h : c.lacksName id = false)
    (hfirst : c.leadingText? id = some first) :
    takeWord? c id
      = some (Text.firstWord (c.textOf first), c.modifyValue first (c.dropName first)) := by
  have hword : ¬Text.firstWord (c.textOf first) = [] := by
    rw [lacksName, hfirst, Option.all_some] at h
    rw [Text.firstWord_eq_nil_iff, h]
    exact Bool.false_ne_true
  rw [takeWord?_eq, hfirst, Option.bind_some, if_neg hword]

/-- The text that a section starts with lies right below it. -/
lemma mem_children_of_leadingText? {id first : Nat} (h : c.leadingText? id = some first) :
    first ∈ c.children id :=
  List.mem_of_mem_head? (leadingText?_eq_some h).1

/-- The text with the name of a part lies right below its section. -/
lemma mem_children_of_nameText? {id first : Nat} (h : c.nameText? id = some first) :
    first ∈ c.children id :=
  mem_children_of_leadingText? (nameText?_eq_some.1 h).2.2

/-- A section with a name starts with text. -/
lemma exists_leadingText? {id : Nat} (h : c.lacksName id = false) :
    ∃ first, c.leadingText? id = some first := by
  unfold lacksName at h
  cases hfirst : c.leadingText? id with
  | none => simp [hfirst] at h
  | some first => exact ⟨first, rfl⟩

/-! ## Comments without names -/

section WithoutNames

variable (c) (ids : List Nat)

/-- Names are taken off section by section. -/
lemma withoutNames_append_singleton (id : Nat) :
    c.withoutNames (ids ++ [id]) = match c.nameText? id with
      | some first => (c.withoutNames ids).modifyValue first (c.dropName first)
      | none => c.withoutNames ids := by
  unfold withoutNames
  rw [List.filterMap_append, List.foldl_append]
  cases hname : c.nameText? id <;> simp [hname]

/-- Taking names off keeps the children. -/
@[simp]
lemma children_withoutNames (i : Nat) : (c.withoutNames ids).children i = c.children i :=
  Arena.children_foldl_modifyValue _ _ _ _

/-- Taking names off keeps the sections. -/
@[simp]
lemma sections_withoutNames : sections (c.withoutNames ids) = sections c :=
  children_withoutNames c ids 0

/-- The contents of a comment without names: only the texts with the names are changed. -/
lemma value?_withoutNames (i : Nat) : (c.withoutNames ids).value? i
    = if i ∈ ids.filterMap c.nameText? then (c.value? i).map (c.dropName i) else c.value? i :=
  Arena.value?_foldl_modifyValue (f := c.dropName) (fun _ _ => rfl) i

/-- Taking names off keeps all positions. -/
lemma position_withoutNames (i : Nat) : (c.withoutNames ids).position i = c.position i := by
  rw [Arena.position, Arena.position, value?_withoutNames]
  split
  · rw [Option.map_map]
    rfl
  · rfl

end WithoutNames

/-! ## Sections that are the same -/

/-- A node and the nodes right below it are the same in two comments. -/
structure SameAt (c c' : Comment) (id : Nat) : Prop where
  value? : c'.value? id = c.value? id
  children : c'.children id = c.children id
  below : ∀ i ∈ c.children id, c'.value? i = c.value? i

namespace SameAt

variable {c' : Comment} {id : Nat}

/-- The section has the same role. -/
lemma sectionKind?_eq (h : SameAt c c' id) : sectionKind? c' id = sectionKind? c id := by
  rw [sectionKind?, sectionKind?, Arena.node?, Arena.node?, h.value?]

/-- The section has the same position. -/
lemma position_eq (h : SameAt c c' id) : c'.position id = c.position id := by
  rw [Arena.position, Arena.position, h.value?]

/-- The nodes right below are the same. -/
lemma node?_eq (h : SameAt c c' id) {i : Nat} (hi : i ∈ c.children id) :
    c'.node? i = c.node? i := by
  rw [Arena.node?, Arena.node?, h.below i hi]

/-- The texts right below are the same. -/
lemma textOf_eq (h : SameAt c c' id) {i : Nat} (hi : i ∈ c.children id) :
    c'.textOf i = c.textOf i := by
  rw [textOf, textOf, h.node?_eq hi]

/-- The texts right below lose the same first word. -/
lemma dropName_eq (h : SameAt c c' id) {i : Nat} (hi : i ∈ c.children id) :
    c'.dropName i = c.dropName i := by
  funext p
  rw [dropName, dropName, h.textOf_eq hi]

/-- The section starts with the same text. -/
lemma leadingText?_eq (h : SameAt c c' id) : c'.leadingText? id = c.leadingText? id := by
  unfold leadingText?
  rw [h.children]
  cases hchildren : c.children id with
  | nil => rfl
  | cons first rest =>
    rw [List.head?_cons, Option.bind_some, Option.bind_some, h.node?_eq (by simp [hchildren])]

/-- The section has a name in both comments or in neither. -/
lemma lacksName_eq (h : SameAt c c' id) : c'.lacksName id = c.lacksName id := by
  rw [lacksName, lacksName, h.leadingText?_eq]
  cases hfirst : c.leadingText? id with
  | none => rfl
  | some first =>
    rw [Option.all_some, Option.all_some,
      h.textOf_eq (mem_children_of_leadingText? hfirst)]

/-- The name of the section is in the same text. -/
lemma nameText?_eq (h : SameAt c c' id) : c'.nameText? id = c.nameText? id := by
  rw [nameText?, nameText?, isPart, isPart, h.sectionKind?_eq, h.lacksName_eq, h.leadingText?_eq]

/-- The section documents the same part. -/
lemma part?_eq (h : SameAt c c' id) (owner : String) (member : Nat) :
    c'.part? owner member id = c.part? owner member id := by
  rw [part?, part?, h.nameText?_eq, h.sectionKind?_eq]
  cases hname : c.nameText? id with
  | none => rfl
  | some first =>
    rw [Option.bind_some, Option.bind_some, h.textOf_eq (mem_children_of_nameText? hname)]

/-- The warning about the section is the same. -/
lemma missingArgument_eq (h : SameAt c c' id) (settings : Settings) (entity : String) :
    missingArgument settings entity c' id = missingArgument settings entity c id := by
  funext kind
  rw [missingArgument, missingArgument, h.position_eq]

end SameAt

/-- The texts with names lie right below sections. -/
lemma exists_parent_of_mem_nameTexts (hc : c.Ordered) {ids : List Nat} {i : Nat}
    (hi : i ∈ ids.filterMap c.nameText?) : ∃ s ∈ ids, c.parent? i = some s := by
  obtain ⟨s, hs, hname⟩ := List.mem_filterMap.1 hi
  exact ⟨s, hs, hc.mem_children_iff.1 (mem_children_of_nameText? hname)⟩

/-- No section is a text with a name. -/
lemma value?_withoutNames_section (hc : c.Ordered) {ids : List Nat} (hids : ids ⊆ sections c)
    {id : Nat} (hid : id ∈ sections c) : (c.withoutNames ids).value? id = c.value? id := by
  rw [value?_withoutNames, if_neg]
  intro hname
  obtain ⟨s, hs, habove⟩ := exists_parent_of_mem_nameTexts hc hname
  -- the section lies below the root, which is no section
  obtain rfl : 0 = s := Option.some.inj ((hc.mem_children_iff.1 hid).symm.trans habove)
  exact absurd (pos_of_mem_sections hc (hids hs)) (Nat.lt_irrefl 0)

/-- **Names of other sections may be taken off before a section is looked at.** The section and its
children are not the texts with those names. -/
lemma sameAt_withoutNames (hc : c.Ordered) {ids : List Nat} (hids : ids ⊆ sections c) {id : Nat}
    (hid : id ∈ sections c) (hmem : id ∉ ids) : SameAt c (c.withoutNames ids) id := by
  refine ⟨value?_withoutNames_section hc hids hid, children_withoutNames c ids id, fun i hi => ?_⟩
  rw [value?_withoutNames, if_neg]
  intro hname
  obtain ⟨s, hs, habove⟩ := exists_parent_of_mem_nameTexts hc hname
  obtain rfl : id = s := Option.some.inj ((hc.mem_children_iff.1 hi).symm.trans habove)
  exact hmem hs

end Comment

/-! ## Reading the sections -/

open Comment (sections sectionKind? SameAt)

/-- The section documents a part and has no name. -/
def Comment.lacksPart (c : Comment) (kind : SectionKind) (id : Nat) : Bool :=
  kind.isInline && c.lacksName id

/-- **A section that is read becomes a part, or a warning is given**, if it documents a part. -/
lemma InlineReading.take_eq {c : Comment} (settings : Settings) (owner entity : String)
    (member : Nat) {x : InlineReading} {id : Nat} (hsame : SameAt c x.comment id) :
    x.take settings owner entity member id
      = { comment := match c.nameText? id with
            | some first => x.comment.modifyValue first (c.dropName first)
            | none => x.comment
          inlines := x.inlines ++ [id].filterMap (c.part? owner member)
          diagnostics := x.diagnostics ++ c.missing settings entity c.lacksPart [id] } := by
  unfold InlineReading.take Comment.missing Comment.part? Comment.nameText? Comment.isPart
  rw [hsame.sectionKind?_eq]
  cases hkind : sectionKind? c id with
  | none => simp [hkind]
  | some kind =>
    by_cases hinline : kind.isInline = true
    · by_cases hname : c.lacksName id = true
      · have hnone : takeWord? x.comment id = none :=
          Comment.takeWord?_of_lacksName (hsame.lacksName_eq.trans hname)
        simp [hkind, hinline, hname, hnone, Comment.lacksPart, hsame.missingArgument_eq]
      · obtain ⟨first, hfirst⟩ := Comment.exists_leadingText? (Bool.not_eq_true _ ▸ hname)
        have hword := Comment.takeWord?_of_leadingText?
          (hsame.lacksName_eq.trans (Bool.not_eq_true _ ▸ hname))
          (hsame.leadingText?_eq.trans hfirst)
        rw [hsame.textOf_eq (Comment.mem_children_of_leadingText? hfirst),
          hsame.dropName_eq (Comment.mem_children_of_leadingText? hfirst)] at hword
        simp [hkind, hinline, hname, hfirst, hword, Comment.lacksPart]
    · simp [hkind, hinline, Comment.lacksPart]

/-- **Reading the sections one after the other** looks at each of them as it stands in the whole
comment.

**Proof sketch.** Induction over the sections from the end on. Those before the last one have lost
their names, and none of these is in the last section or right below it. -/
lemma takeInlines_eq {c : Comment} (hc : c.Ordered) (settings : Settings) (owner entity : String)
    (member : Nat) : takeInlines settings owner entity member c
      = { comment := c.withoutNames (sections c)
          inlines := (sections c).filterMap (c.part? owner member)
          diagnostics := c.missing settings entity c.lacksPart (sections c) } := by
  have hfold : ∀ ids : List Nat, ids ⊆ sections c → ids.Nodup →
      ids.foldl (InlineReading.take settings owner entity member) { comment := c }
        = { comment := c.withoutNames ids
            inlines := ids.filterMap (c.part? owner member)
            diagnostics := c.missing settings entity c.lacksPart ids } := by
    intro ids
    induction ids using List.reverseRecOn with
    | nil => exact fun _ _ => rfl
    | append_singleton ids id ih =>
      intro hids hnodup
      obtain ⟨hids, hid⟩ := List.append_subset.1 hids
      obtain ⟨hnodup, -, hapart⟩ := List.nodup_append.1 hnodup
      have hmem : id ∉ ids := fun h => hapart id h id (by simp) rfl
      have hsame := Comment.sameAt_withoutNames hc hids (hid (by simp)) hmem
      rw [List.foldl_append, ih hids hnodup, List.foldl_cons, List.foldl_nil,
        InlineReading.take_eq settings owner entity member hsame]
      simp only [Comment.withoutNames_append_singleton, List.filterMap_append, Comment.missing]
  exact hfold (sections c) (List.Subset.refl _) (hc.nodup 0)

/-! ## Entities -/

/-- The parts that the comment of an entry documents, given its place in the group. -/
def Entry.parts (owner : String) (index : Nat) (entry : Entry) : List InlineEntity :=
  entry.comment.elim [] fun c => (sections c).filterMap (c.part? owner index)

/-- The warnings for the sections of an entry that have no name. -/
def Entry.missingParts (settings : Settings) (entry : Entry) : List Diagnostic :=
  entry.comment.elim [] fun c =>
    c.missing settings entry.source.qualifiedName c.lacksPart (sections c)

/-- The comment of the entry has sound links. -/
def Entry.IsOrdered (entry : Entry) : Prop :=
  ∀ c, entry.comment = some c → c.Ordered

/-- What reading an entry with sound links adds: its member, its parts and its warnings. -/
lemma MemberReading.add_eq (settings : Settings) (owner : String) (x : MemberReading) {entry : Entry}
    (h : entry.IsOrdered) : x.add settings owner entry
      = { members := x.members ++ [entry.member settings owner x.members.length]
          inlines := x.inlines ++ entry.parts owner x.members.length
          diagnostics := x.diagnostics ++ entry.missingParts settings } := by
  unfold MemberReading.add Entry.member Entry.parts Entry.missingParts
  cases hcomment : entry.comment with
  | none => simp
  | some c => simp [takeInlines_eq (h c hcomment)]

/-- **The members, parts and warnings of a group**, entry by entry. -/
lemma foldl_add_eq (settings : Settings) (owner : String) {entries : List Entry}
    (h : ∀ entry ∈ entries, entry.IsOrdered) :
    entries.foldl (MemberReading.add settings owner) {}
      = { members := entries.mapIdx (Entry.member settings owner)
          inlines := (entries.mapIdx (Entry.parts owner)).flatten
          diagnostics := entries.flatMap (Entry.missingParts settings) } := by
  induction entries using List.reverseRecOn with
  | nil => rfl
  | append_singleton entries entry ih =>
    rw [List.foldl_append, ih fun e he => h e (by simp [he]), List.foldl_cons, List.foldl_nil,
      MemberReading.add_eq settings owner _ (h entry (by simp))]
    simp

/-- Of lists that are put together, those elements that know which list they are from. -/
lemma filter_flatten_mapIdx {α β : Type} (f : Nat → α → List β) (index : β → Nat)
    (hindex : ∀ k x, ∀ y ∈ f k x, index y = k) (xs : List α) (k : Nat) :
    (xs.mapIdx f).flatten.filter (index · == k) = xs[k]?.elim [] (f k) := by
  induction xs using List.reverseRecOn with
  | nil => rfl
  | append_singleton xs x ih =>
    rw [List.mapIdx_concat, List.flatten_append, List.filter_append, ih]
    rcases Nat.lt_trichotomy k xs.length with hlt | rfl | hgt
    · have hnone : (f xs.length x).filter (index · == k) = [] :=
        List.filter_eq_nil_iff.2 fun y hy => by
          rw [hindex _ _ y hy]
          simpa using Nat.ne_of_gt hlt
      simp [List.getElem?_append_left hlt, hnone]
    · have hall : (f xs.length x).filter (index · == xs.length) = f xs.length x :=
        List.filter_eq_self.2 fun y hy => by simpa using hindex _ _ y hy
      simp [hall]
    · have hnone : (f xs.length x).filter (index · == k) = [] :=
        List.filter_eq_nil_iff.2 fun y hy => by
          rw [hindex _ _ y hy]
          simpa using Nat.ne_of_lt hgt
      have hlength : (xs ++ [x]).length ≤ k := by
        rw [List.length_append, List.length_singleton]
        omega
      rw [List.getElem?_eq_none hlength, List.getElem?_eq_none (Nat.le_of_lt hgt)]
      simp [hnone]

/-- The part is documented by a section of the comment of a member. -/
def InlineEntity.isOf (k s : Nat) (part : InlineEntity) : Bool :=
  part.member == k && part.section_ == s

/-- A part knows its member, its section and the role of that section. -/
lemma of_part?_eq_some {c : Comment} {owner : String} {k s : Nat} {part : InlineEntity}
    (h : c.part? owner k s = some part) :
    part.member = k ∧ part.section_ = s ∧ sectionKind? c s = some part.kind ∧ c.isPart s = true := by
  obtain ⟨first, hname, h⟩ := Option.bind_eq_some_iff.1 h
  obtain ⟨kind, hkind, rfl⟩ := Option.map_eq_some_iff.1 h
  exact ⟨rfl, rfl, hkind, (Comment.nameText?_eq_some.1 hname).1⟩

/-- A section documents the part that it is read as, and no other. -/
lemma filter_filterMap_part? {c : Comment} (owner : String) (k : Nat) {ids : List Nat} {s : Nat}
    (hnodup : ids.Nodup) (hs : s ∈ ids) :
    (ids.filterMap (c.part? owner k)).filter (·.section_ == s) = (c.part? owner k s).toList := by
  have hfilter : (ids.filterMap (c.part? owner k)).filter (·.section_ == s)
      = (ids.filter (· == s)).filterMap (c.part? owner k) := by
    rw [List.filter_filterMap, List.filterMap_filter]
    congr 1
    funext id
    cases hpart : c.part? owner k id with
    | none => simp
    | some part =>
      rw [Option.filter_some, (of_part?_eq_some hpart).2.1]
  rw [hfilter, List.filter_beq, List.count_eq_one_of_mem hnodup hs]
  cases hpart : c.part? owner k s <;> simp [hpart]

/-- A part of an entry is that of a section of its comment. -/
lemma Entry.mem_parts {owner : String} {k : Nat} {entry : Entry} {part : InlineEntity}
    (h : part ∈ entry.parts owner k) :
    ∃ c, entry.comment = some c ∧ ∃ s ∈ sections c, c.part? owner k s = some part := by
  unfold Entry.parts at h
  cases hcomment : entry.comment with
  | none => simp [hcomment] at h
  | some c =>
    rw [hcomment] at h
    exact ⟨c, rfl, List.mem_filterMap.1 h⟩

/-- The parts of an entry belong to the member that the entry becomes. -/
lemma Entry.member_of_mem_parts {owner : String} (k : Nat) (entry : Entry) (part : InlineEntity)
    (h : part ∈ entry.parts owner k) : part.member = k := by
  obtain ⟨c, -, s, -, hpart⟩ := Entry.mem_parts h
  exact (of_part?_eq_some hpart).1

section MakeEntity

variable (settings : Settings) {first : Entry} {rest : List Entry}
  (h : ∀ entry ∈ first :: rest, entry.IsOrdered)

include h

/-- The parts of a group, entry by entry. -/
lemma inlines_makeEntity : (makeEntity settings first rest).1.inlines
    = ((first :: rest).mapIdx (Entry.parts first.uniqueId)).flatten :=
  congrArg MemberReading.inlines (foldl_add_eq settings first.uniqueId h)

/-- The warnings of a group, entry by entry. -/
lemma diagnostics_makeEntity : (makeEntity settings first rest).2
    = (first :: rest).flatMap (Entry.missingParts settings) :=
  congrArg MemberReading.diagnostics (foldl_add_eq settings first.uniqueId h)

/-- Every part of an entity is that of a section of a member. -/
lemma exists_of_mem_inlines_makeEntity {part : InlineEntity}
    (hpart : part ∈ (makeEntity settings first rest).1.inlines) :
    ∃ entry c, (first :: rest)[part.member]? = some entry ∧ entry.comment = some c ∧
      part.section_ ∈ sections c ∧ sectionKind? c part.section_ = some part.kind ∧
      c.isPart part.section_ = true := by
  rw [inlines_makeEntity settings h] at hpart
  obtain ⟨parts, hparts, hpart⟩ := List.mem_flatten.1 hpart
  obtain ⟨k, hk, rfl⟩ := List.mem_mapIdx.1 hparts
  obtain ⟨c, hc, s, hs, hpart⟩ := Entry.mem_parts hpart
  obtain ⟨rfl, rfl, hkind, hisPart⟩ := of_part?_eq_some hpart
  exact ⟨_, c, List.getElem?_eq_getElem hk, hc, hs, hkind, hisPart⟩

/-- **The parts of an entity that a section documents.** -/
lemma filter_inlines_makeEntity {k : Nat} {entry : Entry}
    (hentry : (first :: rest)[k]? = some entry) {c : Comment} (hc : entry.comment = some c) {s : Nat}
    (hs : s ∈ sections c) :
    (makeEntity settings first rest).1.inlines.filter (InlineEntity.isOf k s)
      = (c.part? first.uniqueId k s).toList := by
  have hsplit : ∀ parts : List InlineEntity, parts.filter (InlineEntity.isOf k s)
      = (parts.filter (·.member == k)).filter (·.section_ == s) := by
    intro parts
    rw [List.filter_filter]
    simp only [Bool.and_comm]
    rfl
  rw [inlines_makeEntity settings h, hsplit,
    filter_flatten_mapIdx _ _ Entry.member_of_mem_parts, hentry, Option.elim_some, Entry.parts, hc,
    Option.elim_some]
  exact filter_filterMap_part? first.uniqueId k
    ((h entry (List.mem_of_getElem? hentry) c hc).nodup 0) hs

end MakeEntity

end DocComments
