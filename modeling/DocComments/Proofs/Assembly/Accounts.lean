import DocComments.Proofs.Assembly.Sections

set_option autoImplicit false

/-!
# Every section of every comment is accounted for

Assembling a document reads every declaration once, at some level and in some group, and gives its
warnings there. Put together, the warnings are those of the declarations one by one. So what a
comment lacks is warned about once, and together with what becomes of the sections of the members
nothing that a comment says is lost without notice.

## Main definitions

* `Declaration.problems` — everything that is wrong with a declaration.
* `Declaration.all` — a declaration and everything inside it.

## Main results

* `message_ne_of_mem_commentProblems` — reading a comment never reports a missing argument.
* `problems_assemble_perm` — the problems of a document are those of its declarations.
* `assemble_accounts_for_sections` — what becomes of metadata, of named parts and of all other blocks.
-/

namespace DocComments

open Markup (TextReader)
open Comment (sections sectionKind?)

/-! ## Reading a comment -/

namespace Comment

/-- The text for an error of reading is not that for a missing argument. -/
lemma Error.message_ne_missingArgument {error : Error} (h : error.isOfReading = true)
    (command : String) : error.message ≠ (Error.missingArgument command).message := by
  have hstart : ∀ {start : String} {c : Char} (rest : String), start.toList.head? = some c →
      (start ++ rest).toList.head? = some c := by
    intro start c rest h
    rw [String.toList_append, List.head?_append, h, Option.some_or]
  have hmissing : (Error.missingArgument command).message.toList.head? = some 'C' :=
    hstart _ (hstart _ (by decide))
  have hreading : error.message.toList.head? = some 'U' := by
    cases error with
    | unknownCommand word => exact hstart _ (hstart _ (by decide))
    | unsupportedMarkup construct => exact hstart _ (by decide)
    | missingArgument command => cases h
  intro heq
  rw [heq, hmissing] at hreading
  exact absurd hreading (by decide)

/-- **Reading a comment reports errors of reading only.** -/
lemma exists_isOfReading_of_mem_classify (ctx : Context) (tree : Markup.Tree) :
    ∀ p ∈ (classify ctx tree).2, ∃ error : Error, error.isOfReading = true ∧
      p.message = error.message := by
  refine Classifier.run_induct ctx (s := { tree })
    (P := fun s => ∀ p ∈ s.diagnostics, ∃ error : Error, error.isOfReading = true ∧
      p.message = error.message) (by simp) (fun {s s'} hmove h => ?_) _ _
  cases hmove with
  | dropped id failure hfailure =>
    intro p hp
    rw [Classifier.diagnostics_recover] at hp
    rcases List.mem_append.1 hp with hp | hp
    · exact h p hp
    · rw [List.mem_singleton.1 hp]
      exact ⟨failure.error, hfailure, rfl⟩
  | _ => exact h

end Comment

/-- **Reading a comment never reports a missing argument.** -/
lemma message_ne_of_mem_commentProblems {settings : Settings} {reader : TextReader}
    {d : Declaration} {p : Diagnostic}
    (hp : p ∈ d.commentProblems settings reader) (command : String) :
    p.message ≠ (Comment.Error.missingArgument command).message := by
  unfold Declaration.commentProblems at hp
  cases hraw : d.comment with
  | none => simp [hraw] at hp
  | some raw =>
    rw [hraw] at hp
    obtain ⟨error, herror, hmessage⟩ := Comment.exists_isOfReading_of_mem_classify _ _ p hp
    rw [hmessage]
    exact Comment.Error.message_ne_missingArgument herror command

/-! ## The problems of a document -/

namespace Declaration

/-- The warnings for what the comment of a declaration lacks. -/
def missingArguments (settings : Settings) (reader : TextReader) (d : Declaration) :
    List Diagnostic :=
  d.missingMetadata settings reader ++ d.missingNames settings reader

/-- Everything that is wrong with a declaration. -/
def problems (settings : Settings) (reader : TextReader) (d : Declaration) : List Diagnostic :=
  d.commentProblems settings reader ++ d.missingArguments settings reader

/-- A declaration and everything inside it, in document order. -/
def all (d : Declaration) : List Declaration :=
  d.addresses.filterMap d.at?

end Declaration

/-- The problems of a group: those of its parts, and those of the level inside it. -/
def groupProblems (settings : Settings) (reader : TextReader) (n : Nat) :
    List Entry → List Diagnostic
  | [] => []
  | first :: rest =>
    let (entity, problems) := makeEntity settings first rest
    problems ++ (assembleLevel settings reader n entity.scope
      ((first :: rest).flatMap fun e => e.source.children)).2

/-- The problems of a level: those found when it is read, and then those of its groups. -/
lemma problems_assembleLevel_succ (settings : Settings) (reader : TextReader) (n : Nat)
    (scope : Scope)
    (sources : List Declaration) : (assembleLevel settings reader (n + 1) scope sources).2
      = sources.flatMap (fun d => (readEntry settings reader (some scope) d).2) ++
        (groupEntries (sources.map fun d => (readEntry settings reader (some scope) d).1)).flatMap
          (groupProblems settings reader n) := by
  simp only [assembleLevel, List.map_map, List.flatMap_map]
  congr 1
  refine List.flatMap_congr fun group _ => ?_
  cases group with
  | nil => rfl
  | cons first rest => rfl

section Sites

variable {root : Declaration} (settings : Settings) (reader : TextReader)

/-- The problems of a group of sites, given those of the level inside it. -/
lemma groupProblems_perm {n : Nat} (scope : Scope) (group : List (Site root))
    (hinside : ∀ inner : Scope, (assembleLevel settings reader n inner
        ((group.flatMap Site.children).map Site.source)).2.Perm
      (((group.flatMap Site.children).flatMap (Site.below n)).flatMap
        fun s => s.source.problems settings reader)) :
    (groupProblems settings reader n (group.map (Site.read settings reader (some scope)))).Perm
      (group.flatMap fun s => s.source.missingNames settings reader ++
        (s.children.flatMap (Site.below n)).flatMap fun t =>
          t.source.problems settings reader) := by
  cases group with
  | nil => rfl
  | cons s rest =>
    have hordered : ∀ entry ∈ (s :: rest).map (Site.read settings reader (some scope)),
        entry.IsOrdered := by
      intro entry hentry
      obtain ⟨t, -, rfl⟩ := List.mem_map.1 hentry
      exact isOrdered_readEntry settings reader (some scope) t.source
    have hsources : ((s :: rest).map (Site.read settings reader (some scope))).flatMap
        (fun e => e.source.children) = ((s :: rest).flatMap Site.children).map Site.source := by
      rw [List.flatMap_map, List.map_flatMap]
      simp [Site.read]
    have hnames : (s :: rest).flatMap
        (fun t => (t.read settings reader (some scope)).missingParts settings)
        = (s :: rest).flatMap fun t => t.source.missingNames settings reader :=
      List.flatMap_congr fun t _ => missingParts_readEntry settings reader (some scope) t.source
    have hproblems : groupProblems settings reader n
          ((s :: rest).map (Site.read settings reader (some scope)))
        = ((s :: rest).flatMap fun t => t.source.missingNames settings reader) ++
          (assembleLevel settings reader n
            (makeEntity settings (s.read settings reader (some scope))
              (rest.map (Site.read settings reader (some scope)))).1.scope
            (((s :: rest).flatMap Site.children).map Site.source)).2 := by
      rw [← hnames, ← hsources, ← List.flatMap_map]
      exact congrArg (· ++ _) (diagnostics_makeEntity settings hordered)
    rw [hproblems]
    refine ((hinside _).append_left _).trans ?_
    simp only [List.flatMap_assoc]
    exact List.flatMap_append_perm _ _ _

/-- **The problems of a level are those of its declarations** and of everything inside them, in some
order.

**Proof sketch.** Induction over the number of levels. The problems of the groups are those of the
parts of their entries and, by the induction hypothesis, those of what is declared inside; together
the groups are the level, and with the problems found when it is read nothing is left out. -/
lemma problems_assembleLevel_perm (n : Nat) (scope : Scope) (sites : List (Site root))
    (hdepth : ∀ s ∈ sites, s.source.depth ≤ n) :
    (assembleLevel settings reader n scope (sites.map Site.source)).2.Perm
      ((sites.flatMap (Site.below n)).flatMap fun s => s.source.problems settings reader) := by
  induction n generalizing scope sites with
  | zero =>
    cases sites with
    | nil => rfl
    | cons s sites =>
      have := hdepth s (by simp)
      have := s.source.depth_pos
      omega
  | succ n ih =>
    set read : Site root → Entry := Site.read settings reader (some scope)
    set inside : Site root → List Diagnostic := fun s => s.source.missingNames settings reader ++
      (s.children.flatMap (Site.below n)).flatMap fun t =>
        t.source.problems settings reader with hinside
    have hgroups : ((groupsOf read sites).flatMap fun g =>
        groupProblems settings reader n (g.map read)).Perm (sites.flatMap inside) := by
      have hflatten : (groupsOf read sites).flatMap (List.flatMap inside)
          = (groupsOf read sites).flatten.flatMap inside := by
        rw [List.flatten_eq_flatMap, List.flatMap_assoc]
        rfl
      refine (List.Perm.flatMap_left _ fun g hg => ?_).trans
        (hflatten ▸ (flatten_groupsOf_perm read sites).flatMap_right inside)
      refine groupProblems_perm settings reader scope g fun inner => ih inner _ fun t ht => ?_
      obtain ⟨r, hr, ht⟩ := List.mem_flatMap.1 ht
      have := hdepth r ((of_mem_groupsOf _ hg).2.subset hr)
      have := Site.depth_lt_of_mem_children ht
      omega
    have hentries : (sites.map Site.source).map
        (fun d => (readEntry settings reader (some scope) d).1)
        = sites.map read := by
      rw [List.map_map]
      rfl
    have hproblems : (sites.map Site.source).flatMap
        (fun d => (readEntry settings reader (some scope) d).2)
        = sites.flatMap fun s => s.source.commentProblems settings reader ++
            s.source.missingMetadata settings reader := by
      rw [List.flatMap_map]
      exact List.flatMap_congr fun s _ =>
        diagnostics_readEntry settings reader (some scope) s.source
    have hsite : ∀ s : Site root,
        (s.below (n + 1)).flatMap (fun t => t.source.problems settings reader)
        = s.source.commentProblems settings reader ++ s.source.missingMetadata settings reader ++
            inside s := by
      intro s
      simp only [Site.below, List.flatMap_cons, Declaration.problems, Declaration.missingArguments,
        hinside, List.append_assoc]
    rw [problems_assembleLevel_succ, hproblems, hentries, ← map_groupsOf, List.flatMap_map,
      List.flatMap_assoc]
    simp only [hsite]
    exact (hgroups.append_left _).trans (List.flatMap_append_perm _ _ _)

end Sites

/-- The declarations of a source are those at its sites. -/
lemma map_source_below_top (root : Declaration) :
    ((Site.top root).below (root.depth + 1)).map Site.source = root.all := by
  have hfound : (root.at? ∘ Site.address : Site root → Option Declaration)
      = fun s => some s.source := funext fun s => s.found
  rw [Declaration.all, ← Site.map_address_below_top, List.filterMap_map, hfound,
    List.filterMap_eq_map']

/-- **The problems of a document are those of its declarations**, in some order. -/
lemma problems_assemble_perm (settings : Settings) (reader : TextReader) (id : String)
    (root : Declaration) :
    (assemble settings id root reader).2.Perm
      (root.all.flatMap (Declaration.problems settings reader)) := by
  set entry := (readEntry settings reader none root).1 with hentry
  have hordered : ∀ e ∈ [entry], e.IsOrdered := by
    intro e he
    rw [List.mem_singleton.1 he]
    exact isOrdered_readEntry settings reader none root
  have hown : (readEntry settings reader none root).2 ++ (makeEntity settings entry []).2
      = root.problems settings reader := by
    rw [diagnostics_readEntry, diagnostics_makeEntity settings hordered, List.flatMap_singleton,
      hentry, missingParts_readEntry, Declaration.problems, Declaration.missingArguments,
      List.append_assoc]
  have hbelow := problems_assembleLevel_perm settings reader root.depth
    (makeEntity settings entry []).1.scope (Site.top root).children
    fun s hs => Nat.le_of_lt (Site.depth_lt_of_mem_children hs)
  have hall : root.all.flatMap (Declaration.problems settings reader)
      = root.problems settings reader ++
        (((Site.top root).children.flatMap (Site.below root.depth)).flatMap
          fun s => s.source.problems settings reader) := by
    rw [← map_source_below_top, List.flatMap_map, Site.below, List.flatMap_cons]
    rfl
  rw [Site.map_source_children] at hbelow
  rw [hall, ← hown]
  exact hbelow.append_left _

/-! ## Members -/

section Members

variable {settings : Settings} {reader : TextReader} {root : Declaration} {scope : Option Scope}
    {x : Housed root}

/-- An entity that is made of its declarations is made of entries whose links are sound. -/
lemma Housed.MadeIn.exists_entries (h : x.MadeIn settings reader scope) :
    ∃ first rest, first :: rest = x.sites.map (Site.read settings reader scope) ∧
      (∀ entry ∈ first :: rest, entry.IsOrdered) ∧
      x.entity = (makeEntity settings first rest).1 := by
  obtain ⟨s, rest, hsites, hentity⟩ := h
  have hentries : s.read settings reader scope :: rest.map (Site.read settings reader scope)
      = x.sites.map (Site.read settings reader scope) := by
    rw [hsites, List.map_cons]
  refine ⟨_, _, hentries, fun entry hentry => ?_, hentity⟩
  rw [hentries] at hentry
  obtain ⟨t, -, rfl⟩ := List.mem_map.1 hentry
  exact isOrdered_readEntry settings reader scope t.source

/-- **A member accounts for the comment of its declaration.** -/
lemma Housed.MadeIn.accounts (h : x.MadeIn settings reader scope) {k : Nat} {s : Site root}
    (hs : x.sites[k]? = some s) {m : Member} (hm : x.entity.members[k]? = some m) {c' : Comment}
    (hc' : m.comment = some c') :
    ∃ c, s.source.readComment? settings reader = some c ∧ x.entity.Accounts k c c' := by
  obtain ⟨first, rest, hentries, hordered, hentity⟩ := h.exists_entries
  have hentry : (first :: rest)[k]? = some (readEntry settings reader scope s.source).1 := by
    rw [hentries, List.getElem?_map, hs]
    rfl
  rw [hentity] at hm ⊢
  exact accounts_makeEntity settings reader scope hordered hentry hm hc'

/-- **Every part of an entity is documented by a section of a member.** -/
lemma Housed.MadeIn.exists_section (h : x.MadeIn settings reader scope) {part : InlineEntity}
    (hpart : part ∈ x.entity.inlines) :
    part.kind.isInline = true ∧ ∃ m c', x.entity.members[part.member]? = some m ∧
      m.comment = some c' ∧ part.section_ ∈ sections c' ∧
      sectionKind? c' part.section_ = some part.kind := by
  obtain ⟨first, rest, -, hordered, hentity⟩ := h.exists_entries
  rw [hentity] at hpart ⊢
  obtain ⟨entry, c, hentry, hc, hsection, hkind, hinline⟩ :=
    exists_of_mem_inlines_makeEntity settings hordered hpart
  have hsound : c.Ordered := hordered entry (List.mem_of_getElem? hentry) c hc
  refine ⟨?_, entry.member settings first.uniqueId part.member, _, ?_,
    comment_member hc hsound settings _ _, ?_, ?_⟩
  · rwa [Comment.isPart, hkind, Option.any_some] at hinline
  · rw [members_makeEntity, List.getElem?_mapIdx, hentry]
    rfl
  · rwa [Comment.sections_withoutNames]
  · rw [← hkind, sectionKind?, sectionKind?, Arena.node?, Arena.node?,
      Comment.value?_withoutNames_section hsound (List.Subset.refl _) hsection]

end Members

/-- **Every section of every comment is accounted for.** The members of every entity are given by the
addresses of their declarations, and every address belongs to one entity. The comment of a member is
that of its declaration without the sections that give metadata; all other blocks are there, in
their order. A section about a part is one part of the entity, with the name that the section starts
with, and its text loses the name; or it has no name and is no part. Every part is that of a section.
The warnings about missing arguments are one for each section that lacks its argument or its name,
in some order; all other problems are those of reading the comments. The text of the comments may be
read by any reader.

**Proof sketch.** Sections are looked at one after the other, first for metadata and then for names.
Taking one out, or a name off its text, changes no other section, so that each of them is looked at
as it was read. A declaration is read once and becomes one member, so the problems of a document are
those of its declarations. -/
theorem assemble_accounts_for_sections (settings : Settings) (reader : TextReader) (id : String)
    (root : Declaration) :
    (∃ members : Nat → List (List Nat),
      ((List.range (assemble settings id root reader).1.entities.size).flatMap members).Perm
        root.addresses ∧
      ∀ i e, (assemble settings id root reader).1.get? i = some e →
        (members i).length = e.members.length ∧
        (∀ k m, e.members[k]? = some m →
          ∃ p d, (members i)[k]? = some p ∧ root.at? p = some d ∧ m.StandsFor k d ∧
            (m.comment = none ↔ d.comment = none ∨ d.isExcluded settings reader = true) ∧
            ∀ c', m.comment = some c' →
              ∃ c, d.readComment? settings reader = some c ∧ e.Accounts k c c') ∧
        ∀ part ∈ e.inlines, part.kind.isInline = true ∧
          ∃ m c', e.members[part.member]? = some m ∧ m.comment = some c' ∧
            part.section_ ∈ sections c' ∧ sectionKind? c' part.section_ = some part.kind) ∧
    (assemble settings id root reader).2.Perm
      (root.all.flatMap (Declaration.commentProblems settings reader) ++
        root.all.flatMap (Declaration.missingArguments settings reader)) ∧
    ∀ p ∈ root.all.flatMap (Declaration.commentProblems settings reader), ∀ command,
      p.message ≠ (Comment.Error.missingArgument command).message := by
  have h := isHoused_assemble settings reader root id
  set t := Rose.node (houseTop settings reader root) (houseBelow settings reader root)
  refine ⟨⟨Housed.addresses t, h.addresses_perm, fun i e he => ?_⟩, ?_, fun p hp command => ?_⟩
  · rw [get?_eq_map_values h.entities, Option.map_eq_some_iff] at he
    obtain ⟨x, hx, rfl⟩ := he
    have hmade := h.madeIn_scope? hx
    have hmembers := (h.sound x (List.mem_of_getElem? hx)).members
    obtain ⟨first, rest, hsources, hgroup⟩ := hmade.isGroupOf
    rw [Housed.addresses_of_values hx]
    refine ⟨by rw [hmembers.1, List.length_map, List.length_map], fun k m hm => ?_,
      fun part hpart => hmade.exists_section hpart⟩
    obtain ⟨s, hs⟩ : ∃ s, x.sites[k]? = some s := by
      have hk := (List.getElem?_eq_some_iff.1 hm).1
      rw [hmembers.1, List.length_map] at hk
      exact ⟨_, List.getElem?_eq_getElem hk⟩
    have hsource : (x.sites.map Site.source)[k]? = some s.source := by
      rw [List.getElem?_map, hs, Option.map_some]
    refine ⟨s.address, s.source, by rw [List.getElem?_map, hs, Option.map_some], s.found,
      hmembers.2 k m _ hm hsource, (hgroup.member k m _ hm (hsources ▸ hsource)).2,
      fun c' hc' => hmade.accounts hs hm hc'⟩
  · refine (problems_assemble_perm settings reader id root).trans ?_
    exact (List.flatMap_append_perm _ _ _).symm
  · obtain ⟨d, -, hp⟩ := List.mem_flatMap.1 hp
    exact message_ne_of_mem_commentProblems hp command

end DocComments
