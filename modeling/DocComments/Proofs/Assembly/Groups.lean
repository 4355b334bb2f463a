import DocComments.Assembly
import DocComments.Proofs.Arena.Parents
import DocComments.Proofs.Assembly.Sites
import Mathlib.Data.List.Induction

set_option autoImplicit false

/-!
# What becomes of the declarations of a level

Siblings are put into groups and every group becomes an entity, whose members are the declarations
of the group. What is declared inside a group is the next level. This file follows the sites of a
level into the trees of entities that the level becomes.

## Main definitions

* `Member.StandsFor`, `MembersStandFor` — a member stands for a declaration, members for several.
* `groupsOf` — siblings put into groups, as their entries are.
* `assembleGroup` — the trees of entities that a group becomes.
* `Housed` — an entity with the sites of its members.
* `Covers` — trees of entities stand for given sites, and are nested as the sites are.
* `houseLevel` — the trees of entities that a level becomes, with the sites of their members.

## Main results

* `flatten_groupsOf_perm`, `of_mem_groupsOf` — grouping neither loses nor doubles anything, and keeps
  the order in each group.
* `membersStandFor_makeEntity` — the members of an entity are the declarations of its group.
* `forall_values_assembleLevel` — what holds of the entity of every group holds of all entities.
* `mapAll_houseLevel`, `covers_houseLevel` — a level of declarations becomes trees of entities that
  cover it.
-/

namespace DocComments

open Markup (TextReader)
open Rose (mapAll valuesAll LinkedAll)

/-! ## Grouping -/

section Grouping

variable {α : Type} (f : α → Entry)

/-- Adds something to the group that its entry belongs to, or starts a new one at the end. -/
def placeIn (groups : List (List α)) (x : α) : List (List α) :=
  match groups with
  | [] => [[x]]
  | group :: rest =>
    if (f x).joins (group.map f) then (group ++ [x]) :: rest else group :: placeIn rest x

/-- Things with the same tag put together. Their entries are grouped in the same way, but two things
may look alike when they have become entries. -/
def groupsOf (xs : List α) : List (List α) :=
  xs.foldl (placeIn f) []

/-- Something is placed in groups as its entry is placed in the groups of entries. -/
lemma map_placeIn (groups : List (List α)) (x : α) :
    (placeIn f groups x).map (List.map f) = addEntry (groups.map (List.map f)) (f x) := by
  induction groups with
  | nil => rfl
  | cons group groups ih =>
    rw [placeIn, List.map_cons, addEntry]
    split
    · simp
    · simp [ih]

/-- **Entries are grouped as the things they are made of.** -/
lemma map_groupsOf (xs : List α) :
    (groupsOf f xs).map (List.map f) = groupEntries (xs.map f) := by
  have hfold : ∀ groups : List (List α), (xs.foldl (placeIn f) groups).map (List.map f)
      = (xs.map f).foldl addEntry (groups.map (List.map f)) := by
    induction xs with
    | nil => exact fun groups => rfl
    | cons x xs ih =>
      intro groups
      rw [List.foldl_cons, ih, map_placeIn]
      rfl
  exact hfold []

/-- Grouping goes from left to right. -/
lemma groupsOf_append_singleton (xs : List α) (x : α) :
    groupsOf f (xs ++ [x]) = placeIn f (groupsOf f xs) x := by
  rw [groupsOf, List.foldl_append]
  rfl

/-- Placing something adds it, and nothing else. -/
lemma flatten_placeIn_perm (groups : List (List α)) (x : α) :
    (placeIn f groups x).flatten.Perm (groups.flatten ++ [x]) := by
  induction groups with
  | nil => simp [placeIn]
  | cons group groups ih =>
    rw [placeIn]
    split
    · rw [List.flatten_cons, List.flatten_cons, List.append_assoc, List.append_assoc]
      exact (List.perm_append_comm).append_left group
    · rw [List.flatten_cons, List.flatten_cons, List.append_assoc]
      exact ih.append_left group

/-- **Grouping neither loses nor doubles anything.** -/
lemma flatten_groupsOf_perm (xs : List α) : (groupsOf f xs).flatten.Perm xs := by
  induction xs using List.reverseRecOn with
  | nil => rfl
  | append_singleton xs x ih =>
    rw [groupsOf_append_singleton]
    exact (flatten_placeIn_perm f _ x).trans (ih.append_right [x])

/-- A group after something was placed is an old one, or the one it was placed in, or a new one. -/
lemma mem_placeIn {groups : List (List α)} {x : α} {g : List α} (hg : g ∈ placeIn f groups x) :
    g ∈ groups ∨ ∃ old, g = old ++ [x] ∧ (old = [] ∨ old ∈ groups) := by
  induction groups with
  | nil => exact .inr ⟨[], by simpa [placeIn] using hg, .inl rfl⟩
  | cons group groups ih =>
    rw [placeIn] at hg
    split at hg
    · rcases List.mem_cons.1 hg with rfl | hg
      · exact .inr ⟨group, rfl, .inr (by simp)⟩
      · exact .inl (by simp [hg])
    · rcases List.mem_cons.1 hg with rfl | hg
      · exact .inl (by simp)
      · rcases ih hg with hold | ⟨old, rfl, hold⟩
        · exact .inl (by simp [hold])
        · exact .inr ⟨old, rfl, hold.imp_right fun h => by simp [h]⟩

/-- **Grouping keeps the order in each group**, and makes no empty group.

**Proof sketch.** Induction over the list from its end on: adding one puts it at the end of a group,
whose members all came before it. -/
lemma of_mem_groupsOf {xs g : List α} (hg : g ∈ groupsOf f xs) : g ≠ [] ∧ g.Sublist xs := by
  induction xs using List.reverseRecOn generalizing g with
  | nil => cases hg
  | append_singleton xs x ih =>
    rw [groupsOf_append_singleton] at hg
    rcases mem_placeIn f hg with hold | ⟨old, rfl, hold⟩
    · exact ⟨(ih hold).1, (ih hold).2.trans (List.sublist_append_left xs [x])⟩
    · refine ⟨by simp, List.Sublist.append ?_ (List.Sublist.refl _)⟩
      rcases hold with rfl | hold
      · exact List.nil_sublist xs
      · exact (ih hold).2

end Grouping

/-- The entries of a group are among those that were grouped. -/
lemma mem_of_mem_groupEntries {entries group : List Entry} {entry : Entry}
    (hgroup : group ∈ groupEntries entries) (h : entry ∈ group) : entry ∈ entries := by
  have hmap := map_groupsOf (fun e : Entry => e) entries
  simp only [List.map_id_fun', List.map_id, id_eq] at hmap
  rw [← hmap] at hgroup
  exact (flatten_groupsOf_perm _ entries).subset (List.mem_flatten_of_mem hgroup h)

/-! ## Members -/

/-- The member at an index stands for a declaration. -/
structure Member.StandsFor (m : Member) (index : Nat) (d : Declaration) : Prop where
  number : m.number = index + 1
  qualifiedName : m.qualifiedName = d.qualifiedName
  signature : m.signature = d.signature
  position : m.position = d.position

/-- Members stand for declarations, one for each. -/
def MembersStandFor (members : List Member) (ds : List Declaration) : Prop :=
  members.length = ds.length ∧
    ∀ (k : Nat) (m : Member) (d : Declaration),
      members[k]? = some m → ds[k]? = some d → m.StandsFor k d

/-- One more entry makes one more member. -/
lemma MembersStandFor.add {x : MemberReading} {ds : List Declaration}
    (h : MembersStandFor x.members ds) (settings : Settings) (owner : String) (entry : Entry) :
    MembersStandFor (x.add settings owner entry).members (ds ++ [entry.source]) := by
  obtain ⟨hlength, hstands⟩ := h
  obtain ⟨m, hm, hnew⟩ : ∃ m : Member, (x.add settings owner entry).members = x.members ++ [m] ∧
      m.StandsFor x.members.length entry.source := by
    unfold MemberReading.add
    cases entry.comment with
    | none => exact ⟨_, rfl, rfl, rfl, rfl, rfl⟩
    | some c => exact ⟨_, rfl, rfl, rfl, rfl, rfl⟩
  rw [hm]
  refine ⟨by simp [hlength], fun k m' d hk hd => ?_⟩
  rcases Nat.lt_trichotomy k x.members.length with hlt | rfl | hgt
  · rw [List.getElem?_append_left hlt] at hk
    rw [List.getElem?_append_left (by omega)] at hd
    exact hstands k m' d hk hd
  · rw [List.getElem?_concat_length, Option.some.injEq] at hk
    rw [hlength, List.getElem?_concat_length, Option.some.injEq] at hd
    rwa [← hk, ← hd]
  · rw [List.getElem?_eq_none (by simp; omega)] at hk
    cases hk

/-- **The members of an entity are the declarations of its group**, in order. -/
lemma membersStandFor_makeEntity (settings : Settings) (first : Entry) (rest : List Entry) :
    MembersStandFor (makeEntity settings first rest).1.members
      ((first :: rest).map (·.source)) := by
  have hfold : ∀ (entries : List Entry) (x : MemberReading) (ds : List Declaration),
      MembersStandFor x.members ds →
      MembersStandFor (entries.foldl (MemberReading.add settings first.uniqueId) x).members
        (ds ++ entries.map (·.source)) := by
    intro entries
    induction entries with
    | nil =>
      intro x ds h
      simpa using h
    | cons entry entries ih =>
      intro x ds h
      have := ih _ _ (h.add settings first.uniqueId entry)
      rwa [List.append_assoc] at this
  have hempty : MembersStandFor ({} : MemberReading).members [] := ⟨rfl, by simp⟩
  exact hfold (first :: rest) {} [] hempty

/-! ## Levels -/

section Level

variable {root : Declaration}

/-- An entity with the sites of its members. -/
structure Housed (root : Declaration) where
  entity : Entity
  sites : List (Site root)

/-- The entity stands for its sites, which are in document order. -/
structure Housed.Sound (x : Housed root) : Prop where
  members : MembersStandFor x.entity.members (x.sites.map Site.source)
  level : Level x.sites

/-- All sites of an entity lie right below sites of another one. -/
def Housed.Inside (x y : Housed root) : Prop :=
  ∀ s ∈ y.sites, ∃ r ∈ x.sites, s ∈ r.children

/-- Trees of entities stand for the given sites, once for each, and are nested as the sites are; the
roots stand for sites of the level `top`. -/
structure Covers (top sites : List (Site root)) (ts : List (Rose (Housed root))) : Prop where
  perm : ((valuesAll ts).flatMap Housed.sites).Perm sites
  sound : ∀ x ∈ valuesAll ts, x.Sound
  linked : ∀ above : Housed root, (∀ s ∈ top, ∃ r ∈ above.sites, s ∈ r.children) →
    LinkedAll Housed.Inside above ts

/-- An empty list of trees stands for no sites. -/
lemma Covers.nil : Covers [] [] ([] : List (Rose (Housed root))) :=
  ⟨by simp [valuesAll], by simp [valuesAll], by simp⟩

/-- Trees that stand for some sites, followed by trees that stand for others. -/
lemma Covers.append {top₁ top₂ sites₁ sites₂ : List (Site root)} {ts us : List (Rose (Housed root))}
    (h₁ : Covers top₁ sites₁ ts) (h₂ : Covers top₂ sites₂ us) :
    Covers (top₁ ++ top₂) (sites₁ ++ sites₂) (ts ++ us) := by
  refine ⟨?_, fun x hx => ?_, fun above habove => ?_⟩
  · rw [Rose.valuesAll_append, List.flatMap_append]
    exact h₁.perm.append h₂.perm
  · rw [Rose.valuesAll_append, List.mem_append] at hx
    exact hx.elim (h₁.sound x) (h₂.sound x)
  · rw [Rose.linkedAll_append]
    exact ⟨h₁.linked above fun s hs => habove s (by simp [hs]),
      h₂.linked above fun s hs => habove s (by simp [hs])⟩

/-- The order of the sites does not matter. -/
lemma Covers.of_perm {top top' : List (Site root)} {f : Site root → List (Site root)}
    {ts : List (Rose (Housed root))} (h : Covers top (top.flatMap f) ts) (hperm : top.Perm top') :
    Covers top' (top'.flatMap f) ts :=
  ⟨h.perm.trans (hperm.flatMap_right f), h.sound, fun above habove =>
    h.linked above fun s hs => habove s (hperm.subset hs)⟩

/-- One more level around trees: an entity that stands for the sites right above theirs. -/
lemma Covers.node {entity : Entity} {n : Nat} {group : List (Site root)}
    {ts : List (Rose (Housed root))} (hentity : Housed.Sound ⟨entity, group⟩)
    (h : Covers (group.flatMap Site.children)
      ((group.flatMap Site.children).flatMap (Site.below n)) ts) :
    Covers group (group.flatMap (Site.below (n + 1))) [.node ⟨entity, group⟩ ts] := by
  refine ⟨?_, fun x hx => ?_, fun above habove => ?_⟩
  · have hsplit : (group ++ (group.flatMap Site.children).flatMap (Site.below n)).Perm
        (group.flatMap (Site.below (n + 1))) := by
      have := List.flatMap_append_perm group (fun s => [s])
        fun s => s.children.flatMap (Site.below n)
      rwa [List.flatMap_singleton', ← List.flatMap_assoc] at this
    simp only [valuesAll, Rose.values, List.append_nil, List.flatMap_cons]
    exact (h.perm.append_left group).trans hsplit
  · simp only [valuesAll, Rose.values, List.append_nil, List.mem_cons] at hx
    rcases hx with rfl | hx
    · exact hentity
    · exact h.sound x hx
  · rw [Rose.linkedAll_cons]
    refine ⟨habove, h.linked _ fun s hs => ?_, by simp⟩
    obtain ⟨r, hr, hs⟩ := List.mem_flatMap.1 hs
    exact ⟨r, hr, hs⟩

/-- The trees of entities that a group becomes; an empty group becomes none. -/
def assembleGroup (settings : Settings) (reader : TextReader) (n : Nat) : List Entry → List
    (Rose Entity)
  | [] => []
  | first :: rest =>
    let entity := (makeEntity settings first rest).1
    [.node entity (assembleLevel settings reader n ⟨entity.kind, entity.qualifiedName⟩
      ((first :: rest).flatMap fun e => e.source.children)).1]

/-- A level becomes what its groups become. -/
lemma assembleLevel_succ (settings : Settings) (reader : TextReader) (n : Nat) (scope : Scope)
    (sources : List Declaration) : (assembleLevel settings reader (n + 1) scope sources).1 =
      (groupEntries (sources.map fun d => (readEntry settings reader (some scope) d).1)).flatMap
        (assembleGroup settings reader n) := by
  simp only [assembleLevel, List.map_map, List.flatMap_map]
  refine List.flatMap_congr fun group _ => ?_
  cases group with
  | nil => rfl
  | cons first rest => rfl

/-- Reading the comment of a declaration does not change the declaration. -/
@[simp]
lemma source_readEntry (settings : Settings) (reader : TextReader) (scope : Option Scope)
    (d : Declaration) :
    (readEntry settings reader scope d).1.source = d := by
  unfold readEntry
  cases d.comment with
  | none => rfl
  | some raw => rfl

/-- **What holds of the entity of every group holds of all entities of a level** and below it. -/
lemma forall_values_assembleLevel {settings : Settings} {reader : TextReader} {P : Entity → Prop}
    (h : ∀ first rest, (∀ entry ∈ first :: rest, ∃ scope d,
      entry = (readEntry settings reader scope d).1) → P (makeEntity settings first rest).1)
    (n : Nat) (scope : Scope) (sources : List Declaration) {e : Entity}
    (he : e ∈ valuesAll (assembleLevel settings reader n scope sources).1) : P e := by
  induction n generalizing scope sources with
  | zero => simp [assembleLevel, valuesAll] at he
  | succ n ih =>
    rw [assembleLevel_succ, Rose.mem_valuesAll] at he
    obtain ⟨t, ht, he⟩ := he
    obtain ⟨group, hgroup, ht⟩ := List.mem_flatMap.1 ht
    cases group with
    | nil => simp [assembleGroup] at ht
    | cons first rest =>
      rw [assembleGroup, List.mem_singleton] at ht
      rw [ht, Rose.values, List.mem_cons] at he
      rcases he with rfl | he
      · apply h
        intro entry hentry
        obtain ⟨d, -, rfl⟩ := List.mem_map.1 (mem_of_mem_groupEntries hgroup hentry)
        exact ⟨some scope, d, rfl⟩
      · exact ih _ _ he

/-- What holds of the entity of every group holds of all entities of a document. -/
lemma forall_get?_assemble {settings : Settings} {reader : TextReader} {P : Entity → Prop}
    (h : ∀ first rest, (∀ entry ∈ first :: rest, ∃ scope d,
      entry = (readEntry settings reader scope d).1) → P (makeEntity settings first rest).1)
    (id : String) (root : Declaration) {i : Nat} {e : Entity}
    (he : (assemble settings id root reader).1.get? i = some e) : P e := by
  rw [Document.get?, assemble, Arena.value?_ofRose] at he
  have hmem := List.mem_of_getElem? he
  rw [Rose.values, List.mem_cons] at hmem
  rcases hmem with rfl | hmem
  · apply h
    intro entry hentry
    exact ⟨none, root, List.mem_singleton.1 hentry⟩
  · exact forall_values_assembleLevel h _ _ _ hmem

/-- The declaration at a site with its comment read. -/
def Site.read (settings : Settings) (reader : TextReader) (scope : Option Scope) (s : Site root) :
    Entry :=
  (readEntry settings reader scope s.source).1

/-- The scope that an entity is for what is declared inside it. -/
def Entity.scope (e : Entity) : Scope :=
  ⟨e.kind, e.qualifiedName⟩

/-- The tree that a group of sites becomes, given what the level inside it becomes; an empty group
becomes none. -/
def houseGroup (settings : Settings) (reader : TextReader) (scope : Scope)
    (inside : Scope → List (Site root) → List (Rose (Housed root))) :
    List (Site root) → List (Rose (Housed root))
  | [] => []
  | s :: rest =>
    let entity := (makeEntity settings (s.read settings reader (some scope))
      (rest.map (Site.read settings reader (some scope)))).1
    [.node ⟨entity, s :: rest⟩ (inside entity.scope ((s :: rest).flatMap Site.children))]

/-- The trees of entities that a level of sites becomes, with the sites of their members. The first
argument bounds the number of levels. -/
def houseLevel (settings : Settings) (reader : TextReader) (n : Nat) (scope : Scope)
    (sites : List (Site root)) :
    List (Rose (Housed root)) :=
  match n with
  | 0 => []
  | n + 1 =>
    (groupsOf (Site.read settings reader (some scope)) sites).flatMap
      (houseGroup settings reader scope (houseLevel settings reader n))

/-- A group of sites becomes the tree that its entries become. -/
lemma mapAll_houseGroup {settings : Settings} {reader : TextReader} {n : Nat} (scope : Scope)
    (group : List (Site root))
    (hinside : ∀ (inner : Scope) (sites : List (Site root)),
      mapAll Housed.entity (houseLevel settings reader n inner sites)
        = (assembleLevel settings reader n inner (sites.map Site.source)).1) :
    mapAll Housed.entity (houseGroup settings reader scope (houseLevel settings reader n) group)
      = assembleGroup settings reader n (group.map (Site.read settings reader (some scope))) := by
  cases group with
  | nil => simp [houseGroup, assembleGroup]
  | cons s rest =>
    have hsources : ((s :: rest).map (Site.read settings reader (some scope))).flatMap
        (fun e => e.source.children) = ((s :: rest).flatMap Site.children).map Site.source := by
      rw [List.flatMap_map, List.map_flatMap]
      simp [Site.read]
    rw [houseGroup, List.map_cons, assembleGroup, ← List.map_cons, hsources]
    simp only [Rose.mapAll_cons, Rose.mapAll_nil, Rose.map_node, hinside]
    rfl

/-- **A level of sites becomes the trees that its declarations become.** -/
lemma mapAll_houseLevel (settings : Settings) (reader : TextReader) (n : Nat) (scope : Scope)
    (sites : List (Site root)) :
    mapAll Housed.entity (houseLevel settings reader n scope sites)
      = (assembleLevel settings reader n scope (sites.map Site.source)).1 := by
  induction n generalizing scope sites with
  | zero => simp [houseLevel, assembleLevel]
  | succ n ih =>
    have hread : sites.map (Site.read settings reader (some scope))
        = (sites.map Site.source).map fun d => (readEntry settings reader (some scope) d).1 := by
      rw [List.map_map]
      rfl
    rw [houseLevel, assembleLevel_succ, ← hread, ← map_groupsOf, List.flatMap_map]
    induction groupsOf (Site.read settings reader (some scope)) sites with
    | nil => simp
    | cons group groups ihgroups =>
      rw [List.flatMap_cons, List.flatMap_cons, Rose.mapAll_append, ihgroups,
        mapAll_houseGroup scope group ih]

/-- The tree of a group covers it, if what lies inside it is covered. -/
lemma covers_houseGroup {settings : Settings} {reader : TextReader} {n : Nat} (scope : Scope)
    {inside : Scope → List (Site root) → List (Rose (Housed root))} {group : List (Site root)}
    (hlevel : Level group)
    (hinside : ∀ inner : Scope, Covers (group.flatMap Site.children)
      ((group.flatMap Site.children).flatMap (Site.below n))
      (inside inner (group.flatMap Site.children))) :
    Covers group (group.flatMap (Site.below (n + 1)))
      (houseGroup settings reader scope inside group) := by
  cases group with
  | nil => exact Covers.nil
  | cons s rest =>
    refine Covers.node ⟨?_, hlevel⟩ (hinside _)
    have hmembers := membersStandFor_makeEntity settings (s.read settings reader (some scope))
      (rest.map (Site.read settings reader (some scope)))
    rw [← List.map_cons, List.map_map] at hmembers
    simpa [Site.read, Function.comp_def] using hmembers

/-- Trees that cover each of some groups cover all of them. -/
lemma Covers.flatMap {f : Site root → List (Site root)}
    {house : List (Site root) → List (Rose (Housed root))} {groups : List (List (Site root))}
    (h : ∀ g ∈ groups, Covers g (g.flatMap f) (house g)) :
    Covers groups.flatten (groups.flatten.flatMap f) (groups.flatMap house) := by
  induction groups with
  | nil => exact Covers.nil
  | cons g groups ih =>
    rw [List.flatten_cons, List.flatMap_append, List.flatMap_cons]
    exact (h g (by simp)).append (ih fun g' hg' => h g' (by simp [hg']))

/-- **A level of declarations becomes trees of entities that cover it** and everything below it.

**Proof sketch.** Induction over the number of levels. The level is put into groups, which are lists
of sites in document order. The entity of a group stands for its sites, and the induction hypothesis
covers what lies inside them. The groups together are the level. -/
theorem covers_houseLevel (settings : Settings) (reader : TextReader) (n : Nat) (scope : Scope)
    (sites : List (Site root)) (hdepth : ∀ s ∈ sites, s.source.depth ≤ n) (hlevel : Level sites) :
    Covers sites (sites.flatMap (Site.below n)) (houseLevel settings reader n scope sites) := by
  induction n generalizing scope sites with
  | zero =>
    cases sites with
    | nil => exact Covers.nil
    | cons s sites =>
      have := hdepth s (by simp)
      have := s.source.depth_pos
      omega
  | succ n ih =>
    rw [houseLevel]
    refine (Covers.flatMap fun g hg => ?_).of_perm (flatten_groupsOf_perm _ sites)
    have hsub := (of_mem_groupsOf _ hg).2
    have hlevel' : Level g := hlevel.sublist hsub
    refine covers_houseGroup scope hlevel' fun inner => ih inner _ ?_ hlevel'.children
    intro t ht
    obtain ⟨r, hr, ht⟩ := List.mem_flatMap.1 ht
    have := hdepth r (hsub.subset hr)
    have := Site.depth_lt_of_mem_children ht
    omega

end Level

end DocComments
