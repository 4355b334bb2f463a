import DocComments.Assembly
import DocComments.Proofs.Comment.Sound
import Mathlib.Data.List.Induction
import Mathlib.Data.List.TakeDrop
import Mathlib.Data.List.TakeWhile

set_option autoImplicit false

/-!
# What a comment says about its declaration

A comment may say which group its declaration belongs to, which id and which module it has, and that
it is excluded. Of several sections of one role the last one with an argument counts, whatever stands
between them. This file states that without the order in which sections are taken out of a comment,
and shows that reading a declaration gives it.

## Main definitions

* `Comment.argument?` — the argument that counts for a role.
* `Declaration.groupTag?`, `Declaration.groupTitle?`, `Declaration.module?`,
  `Declaration.isExcluded`, `Declaration.ownId` — what the comment of a declaration says.

## Main results

* `metadata_extractMetadata` — taking the sections out one after the other gives what they say.
* `metadata_readEntry`, `uniqueId_readEntry`, `comment_readEntry` — a declaration as it is read.
-/

namespace DocComments

open Markup (TextReader)

/-! ## Arguments -/

/-- The arguments of those of some sections that have a role, in order; missing ones are left out. -/
def Comment.arguments (c : Comment) (ids : List Nat) (kind : SectionKind) : List (List Char) :=
  ((ids.filter fun id => sectionKind? c id == some kind).map (firstLine c)).filter (· ≠ [])

/-- The argument that counts for a role: the last one. -/
def Comment.argument? (c : Comment) (kind : SectionKind) : Option (List Char) :=
  (c.arguments (sections c) kind).getLast?

namespace Declaration

/-- The comment of a declaration as it is written. -/
def readComment? (settings : Settings) (reader : TextReader) (d : Declaration) : Option Comment :=
  d.comment.map fun raw => (Comment.parse settings d.qualifiedName raw.toList reader).1

/-- The argument that counts for a role in the comment of a declaration. -/
def argument? (settings : Settings) (reader : TextReader) (d : Declaration) (kind : SectionKind) :
    Option (List Char) :=
  (d.readComment? settings reader).bind fun c => Comment.argument? c kind

/-- The tag of the group that a declaration belongs to. -/
def groupTag? (settings : Settings) (reader : TextReader) (d : Declaration) : Option String :=
  (d.argument? settings reader .group).map fun argument => String.ofList (Text.splitWord argument).1

/-- The title that a declaration gives its group. -/
def groupTitle? (settings : Settings) (reader : TextReader) (d : Declaration) : Option String :=
  (d.argument? settings reader .group).bind fun argument =>
    let title := Text.trim (Text.splitWord argument).2
    if title = [] then none else some (String.ofList title)

/-- The module of a declaration. -/
def module? (settings : Settings) (reader : TextReader) (d : Declaration) : Option String :=
  (d.argument? settings reader .module).map String.ofList

/-- The declaration is excluded. -/
def isExcluded (settings : Settings) (reader : TextReader) (d : Declaration) : Bool :=
  (d.readComment? settings reader).any fun c => !(Comment.sectionsOf c .exclude).isEmpty

/-- The id of a declaration: the one its comment asks for, else its qualified name. -/
def ownId (settings : Settings) (reader : TextReader) (scope : Option Scope) (d : Declaration) :
    String :=
  match d.argument? settings reader .uniqueName with
  | some name => requestedId scope (String.ofList name)
  | none => d.qualifiedName

end Declaration

/-! ## Taking sections out -/

namespace Comment

/-- Sections were taken out of a comment: all nodes but the root still have their contents and
children, and a section that is still there lies below the root. -/
structure Trimmed (c c' : Comment) : Prop where
  size : c'.size = c.size
  value? : ∀ i, c'.value? i = c.value? i
  children : ∀ i, i ≠ 0 → c'.children i = c.children i
  parent? : ∀ i ∈ sections c, c'.parent? i = none ∨ c'.parent? i = some 0

variable {c c' : Comment}

/-- A section is not the root. -/
lemma pos_of_mem_sections (hc : c.Ordered) {id : Nat} (h : id ∈ sections c) : 0 < id :=
  hc.lt_of_parent (hc.mem_children_iff.1 h)

namespace Trimmed

/-- A comment from which nothing was taken out. -/
lemma refl (hc : c.Ordered) : Trimmed c c :=
  ⟨rfl, fun _ => rfl, fun _ _ => rfl, fun _ h => .inr (hc.mem_children_iff.1 h)⟩

/-- One more section is taken out. -/
lemma detach (h : Trimmed c c') (hc : c.Ordered) {id : Nat} (hid : id ∈ sections c) :
    Trimmed c (c'.detach id) := by
  have hpos := pos_of_mem_sections hc hid
  rcases h.parent? id hid with hparent | hparent
  · rw [Arena.detach, hparent]
    exact h
  · have hne : id ≠ 0 := by omega
    refine ⟨?_, fun i => ?_, fun i hi => ?_, fun i hi => ?_⟩
    · rw [Arena.size_detach, h.size]
    · rw [← h.value?, Arena.value?, Arena.value?, Arena.slots_detach c' hparent hne]
      cases c'.slots[i]? with
      | none => rfl
      | some slot =>
        simp only [Option.map_some]
        split_ifs <;> rfl
    · rw [Arena.children_detach hparent hne, if_neg hi, h.children i hi]
    · rw [Arena.parent?_detach hparent hne]
      split_ifs
      · exact .inl rfl
      · exact h.parent? i hi

/-- The sections keep their roles. -/
lemma sectionKind?_eq (h : Trimmed c c') (id : Nat) : sectionKind? c' id = sectionKind? c id := by
  rw [sectionKind?, sectionKind?, Arena.node?, Arena.node?, h.value?]

/-- Text is collected below the root, where nothing was taken out. -/
lemma gatherFrom_eq (h : Trimmed c c') (hc : c.Ordered) (text? : Placed Node → Option (List Char))
    (fuel : Nat) {ids : List Nat} (hids : 0 ∉ ids) :
    Arena.gatherFrom text? c' fuel ids = Arena.gatherFrom text? c fuel ids := by
  induction fuel generalizing ids with
  | zero => rw [Arena.gatherFrom, Arena.gatherFrom]
  | succ fuel ih =>
    cases ids with
    | nil => rw [Arena.gatherFrom, Arena.gatherFrom]
    | cons id ids =>
      obtain ⟨hid, hids⟩ : 0 ≠ id ∧ 0 ∉ ids := by simpa using hids
      have hbelow : 0 ∉ c.children id ++ ids := by
        rw [List.mem_append, not_or]
        refine ⟨fun hmem => ?_, hids⟩
        have := hc.lt_of_parent (hc.mem_children_iff.1 hmem)
        omega
      rw [Arena.gatherFrom, Arena.gatherFrom, h.value?, h.children id hid.symm, ih hids, ih hbelow]

/-- Every node but the root keeps its first line. -/
lemma firstLine_eq (h : Trimmed c c') (hc : c.Ordered) {id : Nat} (hid : id ≠ 0) :
    firstLine c' id = firstLine c id := by
  rw [firstLine, firstLine, text, text, Arena.gather, Arena.gather, h.size,
    h.gatherFrom_eq hc _ _ (by simpa using hid.symm)]

end Trimmed

end Comment

open Comment (sections sectionKind? firstLine Trimmed)

/-- The metadata with a section of a comment taken into account, if it says something. -/
def Metadata.take (c : Comment) (m : Metadata) (id : Nat) : Metadata :=
  ((sectionKind? c id).bind fun kind => m.add? kind (firstLine c id)).getD m

/-- Only the roles with metadata say something. -/
lemma Metadata.add?_eq_none {kind : SectionKind} (h : kind.isMetadata = false) (m : Metadata)
    (argument : List Char) : m.add? kind argument = none := by
  cases kind <;> first | rfl | cases h

/-- A section that is taken out says what it said in the whole comment. -/
lemma take_spec {c : Comment} (hc : c.Ordered) (settings : Settings) (entity : String)
    {x : Extraction} (hx : Trimmed c x.comment) {id : Nat} (hid : id ∈ sections c) :
    (x.take settings entity id).metadata = x.metadata.take c id ∧
      Trimmed c (x.take settings entity id).comment := by
  have hne : id ≠ 0 := Nat.ne_of_gt (Comment.pos_of_mem_sections hc hid)
  rw [Extraction.take, Metadata.take, hx.sectionKind?_eq, hx.firstLine_eq hc hne]
  cases hkind : sectionKind? c id with
  | none => exact ⟨rfl, hx⟩
  | some kind =>
    simp only [Option.bind_some]
    by_cases hmeta : kind.isMetadata = true
    · simp only [hmeta, Bool.not_true, Bool.false_eq_true, if_false]
      cases x.metadata.add? kind (firstLine c id) with
      | none => exact ⟨rfl, hx.detach hc hid⟩
      | some m => exact ⟨rfl, hx.detach hc hid⟩
    · rw [Bool.not_eq_true] at hmeta
      rw [Metadata.add?_eq_none hmeta]
      simp only [hmeta, Bool.not_false, if_true]
      exact ⟨rfl, hx⟩

/-- **Taking the sections out one after the other** reads each of them as it stands in the whole
comment. -/
lemma metadata_extractMetadata {c : Comment} (hc : c.Ordered) (settings : Settings)
    (entity : String) :
    (extractMetadata settings entity c).metadata = (sections c).foldl (Metadata.take c) {} := by
  have hfold : ∀ (ids : List Nat) (x : Extraction), ids ⊆ sections c → Trimmed c x.comment →
      (ids.foldl (Extraction.take settings entity) x).metadata
        = ids.foldl (Metadata.take c) x.metadata := by
    intro ids
    induction ids with
    | nil => exact fun x _ _ => rfl
    | cons id ids ih =>
      intro x hids hx
      obtain ⟨hid, hids⟩ := List.cons_subset.1 hids
      obtain ⟨hmetadata, htrimmed⟩ := take_spec hc settings entity hx hid
      rw [List.foldl_cons, List.foldl_cons, ih _ hids htrimmed, hmetadata]
  exact hfold (sections c) { comment := c } (List.Subset.refl _) (Trimmed.refl hc)

/-! ## The last argument counts -/

/-- A trimmed text that has something in it starts with a word. -/
lemma splitWord_trim_eq_nil_iff (text : List Char) :
    (Text.splitWord (Text.trim text)).1 = [] ↔ Text.trim text = [] := by
  cases hstart : Text.trimStart text with
  | nil => simp [Text.trim, hstart, Text.trimEnd, Text.splitWord, List.span_eq_takeWhile_dropWhile]
  | cons a rest =>
    have ha : Text.isSpace a = false := by
      have hhead := List.head?_dropWhile_not Text.isSpace text
      rw [Text.trimStart] at hstart
      simpa [hstart] using hhead
    have hend : Text.trim text = a :: (rest.reverse.dropWhile Text.isSpace).reverse := by
      rw [Text.trim, hstart, Text.trimEnd, List.reverse_cons, List.dropWhile_append]
      split
      · rename_i hempty
        rw [List.isEmpty_iff.1 hempty]
        simp [ha]
      · simp
    rw [hend, Text.splitWord, List.span_eq_takeWhile_dropWhile]
    simp [ha]

/-- The metadata that the arguments that count make. -/
def Metadata.of (argument? : SectionKind → Option (List Char)) (exclude : Bool) : Metadata where
  group := (argument? .group).map fun argument => String.ofList (Text.splitWord argument).1
  groupTitle := (argument? .group).bind fun argument =>
    let title := Text.trim (Text.splitWord argument).2
    if title = [] then none else some (String.ofList title)
  uniqueName := (argument? .uniqueName).map String.ofList
  module := (argument? .module).map String.ofList
  exclude

/-- One more section, with or without its argument. -/
lemma Metadata.add?_of (argument? : SectionKind → Option (List Char)) (exclude : Bool)
    (kind : SectionKind) {line : List Char} (hword : (Text.splitWord line).1 = [] ↔ line = []) :
    ((Metadata.of argument? exclude).add? kind line).getD (Metadata.of argument? exclude)
      = Metadata.of (fun other => if kind = other ∧ line ≠ [] then some line else argument? other)
          (exclude || kind == .exclude) := by
  by_cases hline : line = []
  · subst hline
    have hnil : Text.splitWord [] = ([], []) := rfl
    cases kind <;> simp [Metadata.add?, Metadata.of, hnil]
  · have hne : (Text.splitWord line).1 ≠ [] := by simp [hword, hline]
    cases kind <;> simp [Metadata.add?, Metadata.of, hne, hline]

/-- The last argument of a role: that of the last section if it has the role and an argument, else
that of the sections before. -/
lemma getLast?_arguments_append (c : Comment) (ids : List Nat) (id : Nat)
    (kind : SectionKind) :
    (c.arguments (ids ++ [id]) kind).getLast?
      = if sectionKind? c id = some kind ∧ firstLine c id ≠ [] then some (firstLine c id)
        else (c.arguments ids kind).getLast? := by
  by_cases hkind : sectionKind? c id = some kind
  · by_cases hline : firstLine c id = []
    · simp [Comment.arguments, hkind, hline]
    · simp [Comment.arguments, hkind, hline]
  · simp [Comment.arguments, hkind]

/-- **Of several sections of one role the last one with an argument counts.** -/
lemma foldl_take_eq_of (c : Comment) (ids : List Nat) :
    ids.foldl (Metadata.take c) {}
      = Metadata.of (fun kind => (c.arguments ids kind).getLast?)
          (ids.any fun id => sectionKind? c id == some .exclude) := by
  induction ids using List.reverseRecOn with
  | nil => rfl
  | append_singleton ids id ih =>
    rw [List.foldl_append, List.foldl_cons, List.foldl_nil, ih, Metadata.take]
    simp only [getLast?_arguments_append, List.any_append, List.any_cons, List.any_nil,
      Bool.or_false]
    cases hkind : sectionKind? c id with
    | none => simp
    | some kind =>
      have hword : (Text.splitWord (firstLine c id)).1 = [] ↔ firstLine c id = [] :=
        splitWord_trim_eq_nil_iff _
      rw [Option.bind_some, Metadata.add?_of _ _ kind hword]
      simp

/-! ## Declarations -/

/-- A declaration without a comment says nothing. -/
lemma readEntry_of_none {d : Declaration} (h : d.comment = none) (settings : Settings)
    (reader : TextReader)
    (scope : Option Scope) : (readEntry settings reader scope d).1
      = { source := d, comment := none, metadata := {}, uniqueId := d.qualifiedName } := by
  simp only [readEntry, h]

/-- The entry of a declaration whose comment has been taken apart. -/
def Extraction.toEntry (scope : Option Scope) (d : Declaration) (x : Extraction) : Entry where
  source := d
  comment := if x.metadata.exclude then none else some x.comment
  metadata := x.metadata
  uniqueId := (x.metadata.uniqueName.map (requestedId scope)).getD d.qualifiedName

/-- A declaration with a comment, as it is read. -/
lemma exists_readEntry_of_some {d : Declaration} {raw : String} (h : d.comment = some raw)
    (settings : Settings) (reader : TextReader) (scope : Option Scope) :
    ∃ c : Comment, d.readComment? settings reader = some c ∧ c.Ordered ∧
      (readEntry settings reader scope d).1
        = (extractMetadata settings d.qualifiedName c).toEntry scope d := by
  have hordered : (Comment.parse settings d.qualifiedName raw.toList reader).1.Ordered :=
    (Comment.ordered_classify _ _).1
  have hread : d.readComment? settings reader
      = some (Comment.parse settings d.qualifiedName raw.toList reader).1 := by
    rw [Declaration.readComment?, h]
    rfl
  refine ⟨_, hread, hordered, ?_⟩
  simp only [readEntry, h]
  generalize extractMetadata settings d.qualifiedName _ = x
  rw [Extraction.toEntry]
  cases x.metadata.uniqueName with
  | none => rfl
  | some name => rfl

/-- **What is read of a declaration is what its comment says.** -/
lemma metadata_readEntry (settings : Settings) (reader : TextReader) (scope : Option Scope)
    (d : Declaration) :
    (readEntry settings reader scope d).1.metadata
      = Metadata.of (d.argument? settings reader) (d.isExcluded settings reader) := by
  cases hraw : d.comment with
  | none =>
    have hargument : d.argument? settings reader = fun _ => none := by
      funext kind
      simp [Declaration.argument?, Declaration.readComment?, hraw]
    have hexcluded : d.isExcluded settings reader = false := by
      simp [Declaration.isExcluded, Declaration.readComment?, hraw]
    rw [readEntry_of_none hraw, hargument, hexcluded]
    rfl
  | some raw =>
    obtain ⟨c, hc, hordered, hread⟩ := exists_readEntry_of_some hraw settings reader scope
    have hargument : d.argument? settings reader
        = fun kind => (c.arguments (sections c) kind).getLast? := by
      funext kind
      rw [Declaration.argument?, hc]
      rfl
    have hexcluded : d.isExcluded settings reader
        = (sections c).any fun id => sectionKind? c id == some .exclude := by
      rw [Declaration.isExcluded, hc, Option.any_some, Comment.sectionsOf, Bool.eq_iff_iff]
      simp
    rw [hread, hargument, hexcluded, ← foldl_take_eq_of, ← metadata_extractMetadata hordered]
    rfl

/-- The id of a declaration is the one it asks for, or its qualified name. -/
lemma uniqueId_readEntry (settings : Settings) (reader : TextReader) (scope : Option Scope)
    (d : Declaration) :
    (readEntry settings reader scope d).1.uniqueId = d.ownId settings reader scope := by
  have hmetadata := metadata_readEntry settings reader scope d
  cases hraw : d.comment with
  | none =>
    have hargument : d.argument? settings reader .uniqueName = none := by
      simp [Declaration.argument?, Declaration.readComment?, hraw]
    rw [readEntry_of_none hraw, Declaration.ownId, hargument]
  | some raw =>
    obtain ⟨c, -, -, hread⟩ := exists_readEntry_of_some hraw settings reader scope
    rw [hread] at hmetadata ⊢
    simp only [Extraction.toEntry] at hmetadata ⊢
    rw [hmetadata, Metadata.of, Declaration.ownId]
    cases d.argument? settings reader .uniqueName with
    | none => rfl
    | some name => rfl

/-- A declaration has a comment when it is read unless it has none or is excluded. -/
lemma comment_readEntry (settings : Settings) (reader : TextReader) (scope : Option Scope)
    (d : Declaration) :
    (readEntry settings reader scope d).1.comment = none ↔
      d.comment = none ∨ d.isExcluded settings reader = true := by
  have hmetadata := metadata_readEntry settings reader scope d
  cases hraw : d.comment with
  | none => simp [readEntry_of_none hraw]
  | some raw =>
    obtain ⟨c, -, -, hread⟩ := exists_readEntry_of_some hraw settings reader scope
    rw [hread] at hmetadata ⊢
    simp only [Extraction.toEntry] at hmetadata ⊢
    rw [hmetadata, Metadata.of]
    by_cases hexcluded : d.isExcluded settings reader = true
    · simp [hexcluded]
    · simp [hexcluded]

end DocComments
