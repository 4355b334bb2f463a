import DocComments.Proofs.Arena.Families
import DocComments.Proofs.Assembly.Conservation

set_option autoImplicit false

/-!
# Entities that stand side by side

The entities right below another one are made of the groups of what is declared inside it. The
declarations of a group have the same tag, those of different groups do not, and the groups are in
the order of their first declarations.

## Main definitions

* `Entry.SameTag` — two entries have the same tag.
* `Housed.MadeIn` — an entity is made of its declarations, as they are read in a scope.
* `Siblings` — entities are made of the groups of some sites.

## Main results

* `tagsApart_groupsOf` — things are in one group exactly if they have the same tag.
* `heads_groupsOf` — groups are in the order of their first elements.
* `families_assemble` — in a document, the entities right below another one are siblings.
-/

namespace DocComments

open Markup (TextReader)
open Rose (FamiliesAll)

/-! ## Tags -/

/-- Both entries have a tag, and it is the same. -/
def Entry.SameTag (e e' : Entry) : Prop :=
  ∃ tag, e.metadata.group = some tag ∧ e'.metadata.group = some tag

/-- Having the same tag is symmetric. -/
lemma Entry.SameTag.symm {e e' : Entry} (h : e.SameTag e') : e'.SameTag e := by
  obtain ⟨tag, h, h'⟩ := h
  exact ⟨tag, h', h⟩

/-- Having the same tag is transitive. -/
lemma Entry.SameTag.trans {e e' e'' : Entry} (h : e.SameTag e') (h' : e'.SameTag e'') :
    e.SameTag e'' := by
  obtain ⟨tag, he, he'⟩ := h
  obtain ⟨tag', he', he''⟩ := h'
  obtain rfl : tag = tag' := by simp_all
  exact ⟨tag, he, he''⟩

/-- An entry joins a group if it has the tag of the first entry. -/
lemma Entry.joins_cons {e first : Entry} {rest : List Entry} :
    e.joins (first :: rest) = true ↔ e.SameTag first := by
  unfold Entry.joins Entry.SameTag
  cases he : e.metadata.group with
  | none => simp
  | some tag =>
    cases hfirst : first.metadata.group with
    | none => simp [hfirst]
    | some other =>
      simp only [List.head?_cons, Option.bind_some, hfirst, beq_iff_eq, Option.some.injEq]
      exact ⟨fun h => ⟨tag, rfl, h.symm⟩, fun ⟨t, h, h'⟩ => h.trans h'.symm⟩

section Grouping

variable {α : Type} {f : α → Entry}

/-- No group is empty, the things in a group have the same tag, and those in different groups do
not. -/
structure TagsApart (f : α → Entry) (groups : List (List α)) : Prop where
  ne_nil : ∀ g ∈ groups, g ≠ []
  same : ∀ g ∈ groups, g.Pairwise fun a b => (f a).SameTag (f b)
  apart : groups.Pairwise fun g h => ∀ a ∈ g, ∀ b ∈ h, ¬(f a).SameTag (f b)

/-- A thing joins a group if it has the tag of any thing in it. -/
lemma joins_iff {g : List α} (hsame : g.Pairwise fun a b => (f a).SameTag (f b)) {a x : α}
    (ha : a ∈ g) : (f x).joins (g.map f) = true ↔ (f x).SameTag (f a) := by
  cases g with
  | nil => cases ha
  | cons first rest =>
    rw [List.map_cons, Entry.joins_cons]
    rcases List.mem_cons.1 ha with rfl | ha
    · rfl
    · have hfirst := (List.pairwise_cons.1 hsame).1 a ha
      exact ⟨fun h => h.trans hfirst, fun h => h.trans hfirst.symm⟩

/-- Groups are apart when the first one is not empty and of one tag, and no other one has this tag,
and the others are apart. -/
lemma tagsApart_cons {g : List α} {groups : List (List α)} :
    TagsApart f (g :: groups) ↔ g ≠ [] ∧ (g.Pairwise fun a b => (f a).SameTag (f b)) ∧
      (∀ h ∈ groups, ∀ a ∈ g, ∀ b ∈ h, ¬(f a).SameTag (f b)) ∧ TagsApart f groups := by
  constructor
  · rintro ⟨hnil, hsame, hapart⟩
    rw [List.forall_mem_cons] at hnil hsame
    rw [List.pairwise_cons] at hapart
    exact ⟨hnil.1, hsame.1, hapart.1, hnil.2, hsame.2, hapart.2⟩
  · rintro ⟨hg, hsame, hapart, hgroups⟩
    exact ⟨List.forall_mem_cons.2 ⟨hg, hgroups.ne_nil⟩, List.forall_mem_cons.2 ⟨hsame, hgroups.same⟩,
      List.pairwise_cons.2 ⟨hapart, hgroups.apart⟩⟩

/-- One more thing is put where its tag is, or apart from all others. -/
lemma tagsApart_placeIn {groups : List (List α)} (h : TagsApart f groups) (x : α) :
    TagsApart f (placeIn f groups x) := by
  induction groups with
  | nil => constructor <;> simp [placeIn]
  | cons group groups ih =>
    obtain ⟨hne, hsame, hapart, hgroups⟩ := tagsApart_cons.1 h
    rw [placeIn]
    split
    · rename_i hjoins
      have hx : ∀ a ∈ group, (f x).SameTag (f a) := fun a ha => (joins_iff hsame ha).1 hjoins
      refine tagsApart_cons.2 ⟨by simp, ?_, ?_, hgroups⟩
      · refine List.pairwise_append.2 ⟨hsame, List.pairwise_singleton _ _, fun a ha b hb => ?_⟩
        rw [List.mem_singleton.1 hb]
        exact (hx a ha).symm
      · intro g hg a ha b hb htag
        rcases List.mem_append.1 ha with ha | ha
        · exact hapart g hg a ha b hb htag
        · obtain ⟨c, hc⟩ := List.exists_mem_of_ne_nil group hne
          rw [List.mem_singleton.1 ha] at htag
          exact hapart g hg c hc b hb ((hx c hc).symm.trans htag)
    · rename_i hjoins
      refine tagsApart_cons.2 ⟨hne, hsame, fun g hg a ha b hb htag => ?_, ih hgroups⟩
      have hmem := (flatten_placeIn_perm f groups x).subset (List.mem_flatten_of_mem hg hb)
      rcases List.mem_append.1 hmem with hb | hb
      · obtain ⟨g', hg', hb⟩ := List.mem_flatten.1 hb
        exact hapart g' hg' a ha b hb htag
      · rw [List.mem_singleton.1 hb] at htag
        exact hjoins ((joins_iff hsame ha).2 htag.symm)

/-- **Things are in one group exactly if they have the same tag.** -/
lemma tagsApart_groupsOf (f : α → Entry) (xs : List α) : TagsApart f (groupsOf f xs) := by
  induction xs using List.reverseRecOn with
  | nil => constructor <;> simp [groupsOf]
  | append_singleton xs x ih =>
    rw [groupsOf_append_singleton]
    exact tagsApart_placeIn ih x

/-- A thing that is added is the first one of a group only if it starts one. -/
lemma heads_placeIn {groups : List (List α)} (hnil : ∀ g ∈ groups, g ≠ []) (x : α) :
    ((placeIn f groups x).filterMap List.head?).Sublist
      (groups.filterMap List.head? ++ [x]) := by
  induction groups with
  | nil => simp [placeIn]
  | cons group groups ih =>
    obtain ⟨a, rest, rfl⟩ := List.exists_cons_of_ne_nil (hnil group (by simp))
    rw [placeIn]
    split
    · simp
    · simpa using ih fun g hg => hnil g (by simp [hg])

/-- **Groups are in the order of their first elements.** -/
lemma heads_groupsOf (f : α → Entry) (xs : List α) :
    ((groupsOf f xs).filterMap List.head?).Sublist xs := by
  induction xs using List.reverseRecOn with
  | nil => simp [groupsOf]
  | append_singleton xs x ih =>
    rw [groupsOf_append_singleton]
    exact (heads_placeIn (tagsApart_groupsOf f xs).ne_nil x).trans
      (ih.append (List.Sublist.refl [x]))

end Grouping

/-! ## Siblings -/

section Siblings

variable {root : Declaration} (settings : Settings) (reader : TextReader)

/-- The entity is made of the declarations at its sites, as they are read in a scope. -/
def Housed.MadeIn (scope : Option Scope) (x : Housed root) : Prop :=
  ∃ s rest, x.sites = s :: rest ∧
    x.entity = (makeEntity settings (s.read settings reader scope)
      (rest.map (Site.read settings reader scope))).1

/-- The entities are made of the groups of some sites, in their order. -/
structure Siblings (scope : Scope) (sites : List (Site root))
    (xs : List (Housed root)) : Prop where
  groups : xs.map Housed.sites = groupsOf (Site.read settings reader (some scope)) sites
  made : ∀ x ∈ xs, x.MadeIn settings reader (some scope)

/-- What is right below an entity is made of what is declared inside it. -/
def IsFamily (x : Housed root) (below : List (Housed root)) : Prop :=
  Siblings settings reader x.entity.scope (x.sites.flatMap Site.children) below

/-- Groups become entities that are made of them, one of each. -/
lemma siblings_houseGroup (scope : Scope)
    (inside : Scope → List (Site root) → List (Rose (Housed root)))
    {groups : List (List (Site root))} (hnil : ∀ g ∈ groups, g ≠ []) :
    ((groups.flatMap (houseGroup settings reader scope inside)).map Rose.value).map Housed.sites
        = groups ∧
      ∀ x ∈ (groups.flatMap (houseGroup settings reader scope inside)).map Rose.value,
        x.MadeIn settings reader (some scope) := by
  induction groups with
  | nil => simp
  | cons group groups ih =>
    obtain ⟨s, rest, rfl⟩ := List.exists_cons_of_ne_nil (hnil group (by simp))
    obtain ⟨hgroups, hmade⟩ := ih fun g hg => hnil g (by simp [hg])
    rw [List.flatMap_cons, houseGroup, List.singleton_append, List.map_cons]
    refine ⟨?_, ?_⟩
    · rw [List.map_cons, hgroups]
      rfl
    · intro x hx
      rcases List.mem_cons.1 hx with rfl | hx
      · exact ⟨s, rest, rfl, rfl⟩
      · exact hmade x hx

/-- The roots of the trees that a level becomes. -/
lemma siblings_houseLevel (n : Nat) (scope : Scope) (sites : List (Site root))
    (hdepth : ∀ s ∈ sites, s.source.depth ≤ n) :
    Siblings settings reader scope sites
      ((houseLevel settings reader n scope sites).map Rose.value) := by
  cases n with
  | zero =>
    cases sites with
    | nil => exact ⟨rfl, by simp [houseLevel]⟩
    | cons s sites =>
      have := hdepth s (by simp)
      have := s.source.depth_pos
      omega
  | succ n =>
    rw [houseLevel]
    obtain ⟨hgroups, hmade⟩ := siblings_houseGroup settings reader scope
      (houseLevel settings reader n)
      (tagsApart_groupsOf (Site.read settings reader (some scope)) sites).ne_nil
    exact ⟨hgroups, hmade⟩

/-- **The trees that a level becomes are families all the way down.**

**Proof sketch.** Induction over the number of levels: the level inside a group has the entity of the
group as its scope. -/
lemma families_houseLevel (n : Nat) (scope : Scope) (sites : List (Site root))
    (hdepth : ∀ s ∈ sites, s.source.depth ≤ n) :
    FamiliesAll (IsFamily settings reader) (houseLevel settings reader n scope sites) := by
  induction n generalizing scope sites with
  | zero => simp [houseLevel]
  | succ n ih =>
    rw [houseLevel, Rose.familiesAll_flatMap]
    intro g hg
    have hdepth' : ∀ t ∈ g.flatMap Site.children, t.source.depth ≤ n := by
      intro t ht
      obtain ⟨r, hr, ht⟩ := List.mem_flatMap.1 ht
      have := hdepth r ((of_mem_groupsOf _ hg).2.subset hr)
      have := Site.depth_lt_of_mem_children ht
      omega
    cases g with
    | nil => simp [houseGroup]
    | cons s rest =>
      rw [houseGroup, Rose.familiesAll_cons]
      exact ⟨siblings_houseLevel settings reader n _ _ hdepth', ih _ _ hdepth', by simp⟩

/-- **In a document, the entities right below another one are siblings.** -/
lemma families_assemble (root : Declaration) :
    FamiliesAll (IsFamily settings reader)
      [.node (houseTop settings reader root) (houseBelow settings reader root)] := by
  have hdepth : ∀ s ∈ (Site.top root).children, s.source.depth ≤ root.depth := by
    intro s hs
    exact Nat.le_of_lt (Site.depth_lt_of_mem_children hs)
  rw [Rose.familiesAll_cons]
  refine ⟨?_, families_houseLevel settings reader _ _ _ hdepth, by simp⟩
  have hsiblings := siblings_houseLevel settings reader root.depth
    (houseTop settings reader root).entity.scope (Site.top root).children hdepth
  simpa [IsFamily, houseTop, houseBelow] using hsiblings

end Siblings

end DocComments
