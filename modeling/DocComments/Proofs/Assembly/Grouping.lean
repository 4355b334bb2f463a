import DocComments.Proofs.Assembly.Metadata
import DocComments.Proofs.Assembly.Siblings
import DocComments.Proofs.Arena.Ordered
import Mathlib.Data.List.Pairwise

set_option autoImplicit false

/-!
# Declarations with the same tag share an entity

Two declarations become members of one entity exactly if the declarations around them do and both
have the same group tag. An entity takes its names and its id from its first member, its title and
its module from the first member that gives one, and is excluded if all of its members are.

## Main definitions

* `Entity.IsGroupOf` — an entity stands for a group of declarations.
* `Document.scope?` — the scope that an entity is in.
* `Document.Joined` — declarations at two addresses are members of one entity.

## Main results

* `isGroupOf_makeEntity` — the entity that is made of a group stands for it.
* `assemble_groups_by_tag` — the entities of a document are given by the tags of its declarations.
-/

namespace DocComments

open Markup (TextReader)
open Rose (FamiliesAll)

/-! ## Members -/

/-- The member that an entry becomes, given its place in the group. -/
def Entry.member (settings : Settings) (owner : String) (index : Nat) (entry : Entry) : Member where
  number := index + 1
  qualifiedName := entry.source.qualifiedName
  uniqueId := entry.uniqueId
  signature := entry.source.signature
  position := entry.source.position
  comment := entry.comment.map fun c =>
    (takeInlines settings owner entry.source.qualifiedName index c).comment

/-- Reading an entry adds one member, behind the others. -/
lemma members_add (settings : Settings) (owner : String) (x : MemberReading) (entry : Entry) :
    (x.add settings owner entry).members
      = x.members ++ [entry.member settings owner x.members.length] := by
  unfold MemberReading.add Entry.member
  cases entry.comment with
  | none => rfl
  | some c => rfl

/-- **The members of an entity are the entries of its group**, one by one. -/
lemma members_makeEntity (settings : Settings) (first : Entry) (rest : List Entry) :
    (makeEntity settings first rest).1.members
      = (first :: rest).mapIdx (Entry.member settings first.uniqueId) := by
  have hfold : ∀ (entries : List Entry) (x : MemberReading),
      (entries.foldl (MemberReading.add settings first.uniqueId) x).members
        = x.members ++ entries.mapIdx fun k entry =>
            entry.member settings first.uniqueId (x.members.length + k) := by
    intro entries
    induction entries with
    | nil => simp
    | cons entry entries ih =>
      intro x
      rw [List.foldl_cons, ih, members_add, List.mapIdx_cons]
      simp [Nat.add_assoc, Nat.add_comm 1]
  refine (hfold (first :: rest) {}).trans ?_
  simp

/-! ## Entities -/

/-- The heading of an entity without a title. -/
def Declaration.defaultHeading (d : Declaration) : String :=
  d.kind.displayName ++ " " ++ d.name

/-- The entity stands for a group of declarations, which are read in a scope. -/
structure Entity.IsGroupOf (settings : Settings) (reader : TextReader) (scope : Option Scope)
    (e : Entity)
    (first : Declaration) (rest : List Declaration) : Prop where
  uniqueId : e.uniqueId = first.ownId settings reader scope
  kind : e.kind = first.kind
  name : e.name = first.name
  qualifiedName : e.qualifiedName = first.qualifiedName
  group : e.group = first.groupTag? settings reader
  /-- The heading is the first title that a member gives. -/
  heading : e.heading = ((first :: rest).findSome? (Declaration.groupTitle? settings reader)).getD
    first.defaultHeading
  module : e.module = (first :: rest).findSome? (Declaration.module? settings reader)
  excluded : e.excluded = true ↔ ∀ d ∈ first :: rest, d.isExcluded settings reader = true
  members : MembersStandFor e.members (first :: rest)
  /-- Every member has its own id, and its comment unless there is none or it is excluded. -/
  member : ∀ (k : Nat) (m : Member) (d : Declaration),
    e.members[k]? = some m → (first :: rest)[k]? = some d →
      m.uniqueId = d.ownId settings reader scope ∧
        (m.comment = none ↔ d.comment = none ∨ d.isExcluded settings reader = true)

/-- **The entity that is made of a group stands for it.** -/
lemma isGroupOf_makeEntity (settings : Settings) (reader : TextReader) (scope : Option Scope)
    (first : Declaration)
    (rest : List Declaration) :
    (makeEntity settings (readEntry settings reader scope first).1
      (rest.map fun d => (readEntry settings reader scope d).1)).1.IsGroupOf
        settings reader scope first rest := by
  set read := fun d => (readEntry settings reader scope d).1 with hread
  have hsource : ∀ d, (read d).source = d := source_readEntry settings reader scope
  have hmetadata : ∀ d, (read d).metadata = Metadata.of (d.argument? settings reader)
    (d.isExcluded settings reader) := metadata_readEntry settings reader scope
  constructor
  · exact uniqueId_readEntry settings reader scope first
  · show (read first).source.kind = first.kind
    rw [hsource]
  · show (read first).source.name = first.name
    rw [hsource]
  · show (read first).source.qualifiedName = first.qualifiedName
    rw [hsource]
  · show (read first).metadata.group = first.groupTag? settings reader
    rw [hmetadata]
    rfl
  · show (((first :: rest).map read).findSome? (·.metadata.groupTitle)).getD
      ((read first).source.kind.displayName ++ " " ++ (read first).source.name) = _
    rw [List.findSome?_map, hsource]
    simp only [Function.comp_def, hmetadata]
    rfl
  · show ((first :: rest).map read).findSome? (·.metadata.module) = _
    rw [List.findSome?_map]
    simp only [Function.comp_def, hmetadata]
    rfl
  · show ((first :: rest).map read).all (·.metadata.exclude) = true ↔ _
    rw [List.all_map, List.all_eq_true]
    simp only [Function.comp_def, hmetadata]
    rfl
  · have hmembers := membersStandFor_makeEntity settings (read first) (rest.map read)
    rw [← List.map_cons, List.map_map] at hmembers
    simpa [Function.comp_def, hsource] using hmembers
  · intro k m d hm hd
    rw [members_makeEntity, show (readEntry settings reader scope first).1 :: rest.map read
      = (first :: rest).map read from rfl, List.getElem?_mapIdx, List.getElem?_map, hd] at hm
    obtain rfl : (read d).member settings (read first).uniqueId k = m := by simpa using hm
    refine ⟨uniqueId_readEntry settings reader scope d, ?_⟩
    rw [← comment_readEntry settings reader scope d]
    simp [Entry.member, hread]

/-! ## Documents -/

/-- The scope that an entity is in. -/
def Document.scope? (d : Document) (i : Nat) : Option Scope :=
  ((d.entities.parent? i).bind d.get?).map Entity.scope

/-- What holds between any two contents of some nodes holds between those of two different nodes. -/
lemma pairwise_contents {α β : Type} {R : β → β → Prop} [Std.Symm R] {ids : List α}
    {content? : α → Option β} {ys : List β} (hys : ids.map content? = ys.map some)
    (h : ys.Pairwise R) {i i' : α} (hi : i ∈ ids) (hi' : i' ∈ ids) (hne : i ≠ i') {x x' : β}
    (hx : content? i = some x) (hx' : content? i' = some x') : R x x' := by
  have hsome : (ys.map some).Pairwise fun o o' => ∀ x x', o = some x → o' = some x' → R x x' := by
    rw [List.pairwise_map]
    refine h.imp fun {y z} hyz x x' hx hx' => ?_
    rwa [← Option.some.inj hx, ← Option.some.inj hx']
  have : Std.Symm fun i i' : α => ∀ x x', content? i = some x → content? i' = some x' → R x x' :=
    ⟨fun _ _ h x x' hx hx' => symm (h x' x hx' hx)⟩
  rw [← hys, List.pairwise_map] at hsome
  exact hsome.forall hi hi' hne x x' hx hx'

section Families

variable {settings : Settings} {reader : TextReader} {root : Declaration} {t : Rose (Housed root)}

/-- The entities right below another one, in their order. -/
lemma exists_isFamily (hall : FamiliesAll (IsFamily settings reader) [t]) {i : Nat}
    {x : Housed root}
    (hx : t.values[i]? = some x) :
    ∃ ys, (((Arena.ofRose t).children i).map fun c => t.values[c]?) = ys.map some ∧
      IsFamily settings reader x ys := by
  obtain ⟨ys, hys, hfamily⟩ := Arena.exists_family_ofRose hall hx
  refine ⟨ys, ?_, hfamily⟩
  rw [← hys]
  exact List.map_congr_left fun c _ => (Arena.value?_ofRose t c).symm

/-- An entity right below another one is one of its family. -/
lemma mem_family {i j : Nat} {x : Housed root} {ys : List (Housed root)}
    (hys : (((Arena.ofRose t).children j).map fun c => t.values[c]?) = ys.map some)
    (hparent : (Arena.ofRose t).parent? i = some j) (hx : t.values[i]? = some x) : x ∈ ys := by
  have hmem := List.mem_map_of_mem (f := fun c => t.values[c]?)
    ((Arena.ordered_ofRose t).mem_children_iff.2 hparent)
  rw [hys, hx] at hmem
  simpa using hmem

/-- Two entries have the same tag if their declarations do. -/
lemma sameTag_read (scope : Option Scope) (s s' : Site root) :
    (s.read settings reader scope).SameTag (s'.read settings reader scope) ↔
      ∃ tag, s.source.groupTag? settings reader = some tag ∧
        s'.source.groupTag? settings reader = some tag := by
  unfold Entry.SameTag Site.read
  rw [metadata_readEntry, metadata_readEntry]
  rfl

/-- **Among the entities right below another one, two sites are in one entity exactly if they have
the same tag.** -/
lemma eq_iff_sameTag_of_parent (hall : FamiliesAll (IsFamily settings reader) [t]) {i i' j : Nat}
    {x x' above : Housed root} (habove : t.values[j]? = some above)
    (hparent : (Arena.ofRose t).parent? i = some j) (hx : t.values[i]? = some x)
    (hparent' : (Arena.ofRose t).parent? i' = some j) (hx' : t.values[i']? = some x')
    {s s' : Site root} (hs : s ∈ x.sites) (hs' : s' ∈ x'.sites) (hne : s ≠ s') :
    i = i' ↔ ∃ tag, s.source.groupTag? settings reader = some tag ∧
      s'.source.groupTag? settings reader = some tag := by
  obtain ⟨ys, hys, hgroups, -⟩ := exists_isFamily hall habove
  set read : Site root → Entry := Site.read settings reader (some above.entity.scope)
  have htags := tagsApart_groupsOf read (above.sites.flatMap Site.children)
  rw [← hgroups] at htags
  rw [← sameTag_read (some above.entity.scope)]
  constructor
  · rintro rfl
    obtain rfl : x = x' := by simpa [hx] using hx'
    have : Std.Symm fun s s' => (read s).SameTag (read s') := ⟨fun _ _ h => h.symm⟩
    exact (htags.same x.sites (List.mem_map_of_mem (mem_family hys hparent hx))).forall hs hs' hne
  · intro htag
    by_contra hij
    have : Std.Symm fun y z : Housed root => ∀ s ∈ y.sites, ∀ s' ∈ z.sites,
        ¬(read s).SameTag (read s') := ⟨fun _ _ h s hs s' hs' htag => h s' hs' s hs htag.symm⟩
    have hordered := Arena.ordered_ofRose t
    exact pairwise_contents hys (List.pairwise_map.1 htags.apart)
      (hordered.mem_children_iff.2 hparent) (hordered.mem_children_iff.2 hparent') hij hx hx'
        s hs s' hs' htag

/-- Entities right below another one are in the order of their first sites. -/
lemma heads_family (hall : FamiliesAll (IsFamily settings reader) [t]) {i : Nat} {x : Housed root}
    (hx : t.values[i]? = some x) :
    (((Arena.ofRose t).children i).filterMap fun c =>
      (t.values[c]?).bind fun y => y.sites.head?).Sublist (x.sites.flatMap Site.children) := by
  obtain ⟨ys, hys, hgroups, -⟩ := exists_isFamily hall hx
  have heads : (((Arena.ofRose t).children i).filterMap fun c =>
      (t.values[c]?).bind fun y => y.sites.head?) = (ys.map Housed.sites).filterMap List.head? := by
    have hmap : (((Arena.ofRose t).children i).map fun c => t.values[c]?).filterMap
        (fun o => o.bind fun y => y.sites.head?)
        = (ys.map some).filterMap fun o => o.bind fun y => y.sites.head? := by
      rw [hys]
    simpa [List.filterMap_map, Function.comp_def] using hmap
  rw [heads, hgroups]
  exact heads_groupsOf _ _

end Families

section Housed

variable {settings : Settings} {reader : TextReader} {root : Declaration}

/-- The addresses of the declarations of an entity. -/
def Housed.addresses (t : Rose (Housed root)) (i : Nat) : List (List Nat) :=
  (t.values[i]?.map fun x => x.sites.map Site.address).getD []

/-- The addresses of the declarations of an entity that is there. -/
lemma Housed.addresses_of_values {t : Rose (Housed root)} {i : Nat} {x : Housed root}
    (hx : t.values[i]? = some x) : Housed.addresses t i = x.sites.map Site.address := by
  simp [Housed.addresses, hx]

/-- An address belongs to an entity when it is that of one of its declarations. -/
lemma Housed.mem_addresses {t : Rose (Housed root)} {i : Nat} {p : List Nat} :
    p ∈ Housed.addresses t i ↔ ∃ x s, t.values[i]? = some x ∧ s ∈ x.sites ∧ s.address = p := by
  cases hx : t.values[i]? with
  | none => simp [Housed.addresses, hx]
  | some x => simp [Housed.addresses, hx]

/-- The declarations of all entities, one entity after the other. -/
lemma Housed.flatMap_addresses (t : Rose (Housed root)) :
    (List.range t.values.length).flatMap (Housed.addresses t)
      = (t.values.flatMap Housed.sites).map Site.address := by
  have hrange : (List.range t.values.length).map (fun i => t.values[i]?) = t.values.map some :=
    List.ext_getElem (by simp) fun k h₁ h₂ => by simp
  have hmap := congrArg (List.flatMap fun o : Option (Housed root) =>
    (o.map fun x => x.sites.map Site.address).getD []) hrange
  rw [List.flatMap_map, List.flatMap_map] at hmap
  rw [List.map_flatMap]
  exact hmap

/-- An entity that is made of its declarations stands for them. -/
lemma Housed.MadeIn.isGroupOf {scope : Option Scope} {x : Housed root}
    (h : x.MadeIn settings reader scope) :
    ∃ first rest, x.sites.map Site.source = first :: rest ∧
      x.entity.IsGroupOf settings reader scope first rest := by
  obtain ⟨s, rest, hsites, hentity⟩ := h
  refine ⟨s.source, rest.map Site.source, by rw [hsites, List.map_cons], ?_⟩
  have hgroup := isGroupOf_makeEntity settings reader scope s.source (rest.map Site.source)
  rw [List.map_map] at hgroup
  rw [hentity]
  exact hgroup

/-- The entities of a document, given with their sites: every site belongs to one entity, the
entities are nested as the sites are, and those right below another one are siblings. -/
structure Document.IsHoused (settings : Settings) (reader : TextReader) (d : Document)
    (top : Housed root)
    (ts : List (Rose (Housed root))) : Prop where
  entities : d.entities = Arena.ofRose ((Rose.node top ts).map Housed.entity)
  made : top.MadeIn settings reader none
  single : top.sites = [Site.top root]
  linked : Rose.LinkedAll Housed.Inside top ts
  families : FamiliesAll (IsFamily settings reader) [.node top ts]
  sound : ∀ x ∈ (Rose.node top ts).values, x.Sound
  perm : (((Rose.node top ts).values.flatMap Housed.sites).map Site.address).Perm root.addresses

variable (settings reader root) in
/-- **The assembled document consists of its entities**, each with the declarations it stands
for. -/
lemma isHoused_assemble (id : String) :
    (assemble settings id root reader).1.IsHoused settings reader (houseTop settings reader root)
      (houseBelow settings reader root) := by
  obtain ⟨hentities, hlinked, hsound, hperm⟩ := housed_assemble settings reader id root
  exact ⟨hentities, ⟨_, [], rfl, rfl⟩, rfl, hlinked, families_assemble settings reader root, hsound,
    hperm⟩

/-- The declarations at two addresses are members of one entity, given the addresses of the members
of each. -/
def Document.Joins (d : Document) (members : Nat → List (List Nat)) (p q : List Nat) : Prop :=
  ∃ i, (d.get? i).isSome = true ∧ p ∈ members i ∧ q ∈ members i

namespace Document.IsHoused

variable {d : Document} {top : Housed root} {ts : List (Rose (Housed root))}

/-- Every entity but the first one lies right below the one around it. -/
lemma exists_above (h : d.IsHoused settings reader top ts) {i : Nat} {x : Housed root}
    (hx : (Rose.node top ts).values[i]? = some x) (hi : i ≠ 0) :
    ∃ j above, (Arena.ofRose (.node top ts)).parent? i = some j ∧
      (Rose.node top ts).values[j]? = some above ∧ above.Inside x := by
  have hlt : i < (Arena.ofRose (.node top ts)).size := by
    rw [← Arena.value?_ofRose] at hx
    obtain ⟨slot, hslot, -⟩ := Option.map_eq_some_iff.1 hx
    exact Arena.lt_size_of_slots hslot
  obtain ⟨j, above, y, -, hparent, habove, hy, hinside⟩ :=
    Arena.exists_parent_ofRose h.linked hi hlt
  rw [Arena.value?_ofRose] at habove hy
  obtain rfl : x = y := by simpa [hx] using hy
  exact ⟨j, above, hparent, habove, hinside⟩

/-- **Every entity is made of its declarations**, as they are read in the scope it is in. -/
lemma madeIn_scope? (h : d.IsHoused settings reader top ts) {i : Nat} {x : Housed root}
    (hx : (Rose.node top ts).values[i]? = some x) : x.MadeIn settings reader (d.scope? i) := by
  rw [Document.scope?, h.entities, Arena.parent?_ofRose_map]
  by_cases hi : i = 0
  · subst hi
    obtain rfl : top = x := by simpa [Rose.values] using hx
    rw [Arena.parent?_ofRose_zero]
    exact h.made
  · obtain ⟨j, above, hparent, habove, -⟩ := h.exists_above hx hi
    obtain ⟨ys, hys, -, hmade⟩ := exists_isFamily h.families habove
    rw [hparent, Option.bind_some, get?_eq_map_values h.entities, habove]
    exact hmade x (mem_family hys hparent hx)

/-- Two addresses are joined when declarations of one entity are at them. -/
lemma joins_iff (h : d.IsHoused settings reader top ts) {p q : List Nat} :
    d.Joins (Housed.addresses (.node top ts)) p q ↔
      ∃ (i : Nat) (x : Housed root) (s s' : Site root), (Rose.node top ts).values[i]? = some x ∧
        s ∈ x.sites ∧ s' ∈ x.sites ∧ s.address = p ∧ s'.address = q := by
  simp only [Document.Joins, Housed.mem_addresses, get?_eq_map_values h.entities]
  constructor
  · rintro ⟨i, -, ⟨x, s, hx, hs, hp⟩, y, s', hy, hs', hq⟩
    obtain rfl : x = y := by simpa [hx] using hy
    exact ⟨i, x, s, s', hx, hs, hs', hp, hq⟩
  · rintro ⟨i, x, s, s', hx, hs, hs', hp, hq⟩
    exact ⟨i, by simp [hx], ⟨x, s, hx, hs, hp⟩, x, s', hx, hs', hq⟩

/-- Different declarations of one entity lie inside declarations of one entity, and have the same
tag. -/
lemma of_joins (h : d.IsHoused settings reader top ts) {p q : List Nat} (hne : p ≠ q)
    {c c' : Declaration} (hp : root.at? p = some c) (hq : root.at? q = some c')
    (hjoins : d.Joins (Housed.addresses (.node top ts)) p q) :
    (∃ p' m q' n, p = p' ++ [m] ∧ q = q' ++ [n] ∧
      d.Joins (Housed.addresses (.node top ts)) p' q') ∧
      ∃ tag, c.groupTag? settings reader = some tag ∧ c'.groupTag? settings reader = some tag := by
  obtain ⟨i, x, s, s', hx, hs, hs', rfl, rfl⟩ := h.joins_iff.1 hjoins
  obtain rfl : s.source = c := by simpa [s.found] using hp
  obtain rfl : s'.source = c' := by simpa [s'.found] using hq
  have hss : s ≠ s' := fun heq => hne (by rw [heq])
  have hi : i ≠ 0 := by
    rintro rfl
    obtain rfl : top = x := by simpa [Rose.values] using hx
    rw [h.single, List.mem_singleton] at hs hs'
    exact hss (hs.trans hs'.symm)
  obtain ⟨j, above, hparent, habove, hinside⟩ := h.exists_above hx hi
  refine ⟨?_, (eq_iff_sameTag_of_parent h.families habove hparent hx hparent hx hs hs' hss).1 rfl⟩
  obtain ⟨r, hr, hsr⟩ := hinside s hs
  obtain ⟨r', hr', hsr'⟩ := hinside s' hs'
  obtain ⟨m, hm⟩ := Site.address_of_mem_children hsr
  obtain ⟨n, hn⟩ := Site.address_of_mem_children hsr'
  exact ⟨r.address, m, r'.address, n, hm, hn,
    h.joins_iff.2 ⟨j, above, r, r', habove, hr, hr', rfl, rfl⟩⟩

/-- Every declaration is in an entity, right below the one that has the declaration around it. -/
lemma exists_entity (h : d.IsHoused settings reader top ts) {j m : Nat} {above : Housed root}
    {r : Site root} {c : Declaration} (habove : (Rose.node top ts).values[j]? = some above)
    (hr : r ∈ above.sites) (hc : root.at? (r.address ++ [m]) = some c) :
    ∃ (i : Nat) (x : Housed root) (s : Site root), (Rose.node top ts).values[i]? = some x ∧
      s ∈ x.sites ∧ s.address = r.address ++ [m] ∧
      (Arena.ofRose (.node top ts)).parent? i = some j := by
  have hmem : r.address ++ [m] ∈ root.addresses := by
    rw [Declaration.mem_addresses, hc]
    rfl
  obtain ⟨s, hs, haddress⟩ := List.mem_map.1 (h.perm.mem_iff.2 hmem)
  obtain ⟨x, hx, hs⟩ := List.mem_flatMap.1 hs
  obtain ⟨i, hi⟩ := List.getElem?_of_mem hx
  obtain ⟨k, hk⟩ := List.getElem?_of_mem hs
  obtain ⟨l, hl⟩ := List.getElem?_of_mem hr
  have hnodup : (((Rose.node top ts).values.flatMap Housed.sites).map Site.address).Nodup := by
    rw [h.perm.nodup_iff]
    exact root.pairwise_addresses.nodup
  have hparent := parent?_of_site? h.entities h.single h.linked hnodup
    (Housed.site?_eq_some.2 ⟨x, hi, hk⟩) (Housed.site?_eq_some.2 ⟨above, habove, hl⟩) haddress
  rw [h.entities, Arena.parent?_ofRose_map] at hparent
  exact ⟨i, x, s, hi, hs, haddress, hparent⟩

/-- Declarations with the same tag are in one entity if those around them are. -/
lemma joins_of_sameTag (h : d.IsHoused settings reader top ts) {p q : List Nat} {m n : Nat}
    {tag : String}
    (hne : p ++ [m] ≠ q ++ [n]) {c c' : Declaration} (hp : root.at? (p ++ [m]) = some c)
    (hq : root.at? (q ++ [n]) = some c')
    (hjoins : d.Joins (Housed.addresses (.node top ts)) p q)
    (htag : c.groupTag? settings reader = some tag)
    (htag' : c'.groupTag? settings reader = some tag) :
    d.Joins (Housed.addresses (.node top ts)) (p ++ [m]) (q ++ [n]) := by
  obtain ⟨j, above, r, r', habove, hr, hr', rfl, rfl⟩ := h.joins_iff.1 hjoins
  obtain ⟨i, x, s, hx, hs, haddress, hparent⟩ := h.exists_entity habove hr hp
  obtain ⟨i', x', s', hx', hs', haddress', hparent'⟩ := h.exists_entity habove hr' hq
  obtain rfl : s.source = c := by simpa [← haddress, s.found] using hp
  obtain rfl : s'.source = c' := by simpa [← haddress', s'.found] using hq
  have hss : s ≠ s' := by
    rintro rfl
    exact hne (haddress.symm.trans haddress')
  obtain rfl := (eq_iff_sameTag_of_parent h.families habove hparent hx hparent' hx' hs hs' hss).2
    ⟨tag, htag, htag'⟩
  obtain rfl : x = x' := by simpa [hx] using hx'
  exact h.joins_iff.2 ⟨i, x, s, s', hx, hs, hs', haddress, haddress'⟩

/-- Entities right below one are in the order of their first declarations. -/
lemma sublist_firsts (h : d.IsHoused settings reader top ts) (i : Nat) :
    ((d.entities.children i).filterMap fun c =>
      (Housed.addresses (.node top ts) c).head?).Sublist root.addresses := by
  rw [h.entities, Arena.children_ofRose_map]
  cases hx : (Rose.node top ts).values[i]? with
  | none =>
    rw [← Arena.value?_ofRose, Arena.value?, Option.map_eq_none_iff] at hx
    simp [Arena.children, hx]
  | some x =>
    have hlevel : Level (x.sites.flatMap Site.children) :=
      (h.sound x (List.mem_of_getElem? hx)).level.children
    have hheads := ((heads_family h.families hx).map Site.address).trans
      (sublist_addresses (x := ⟨x.entity, x.sites.flatMap Site.children⟩) hlevel)
    rw [List.map_filterMap] at hheads
    convert hheads using 3 with c
    cases hy : (Rose.node top ts).values[c]? with
    | none => simp [Housed.addresses, hy]
    | some y => simp [Housed.addresses_of_values hy]

/-- Every declaration is a member of one entity. -/
lemma addresses_perm (h : d.IsHoused settings reader top ts) :
    ((List.range d.entities.size).flatMap (Housed.addresses (.node top ts))).Perm
      root.addresses := by
  have hsize : d.entities.size = (Rose.node top ts).values.length := by
    rw [h.entities, Arena.size_ofRose, Rose.size_map, Rose.values, List.length_cons,
      Rose.length_valuesAll, Rose.size_node]
  rw [hsize, Housed.flatMap_addresses]
  exact h.perm

end Document.IsHoused

end Housed

/-- **Declarations with the same tag share an entity.** The members of every entity of a document are
given by their addresses in the source, and every address belongs to one entity. Two different
declarations are members of one entity exactly if the declarations around them are and both have the
same tag. An entity has the id, the kind and the names of its first member, the first title and the
first module that a member gives, and is excluded if all of its members are; a member has a comment
unless its declaration has none or is excluded. The members of an entity are in document order, and
the entities right below another one are in the order of their first members. The text of the
comments may be read by any reader.

**Proof sketch.** The assembled tree carries the sites of the members along. What lies right below an
entity is made of the groups of the sites inside its own, and things are in one group exactly if they
have the same tag. The tag of a declaration is what reading its comment gives, because a section that
is taken out leaves all others as they are. -/
theorem assemble_groups_by_tag (settings : Settings) (reader : TextReader) (id : String)
    (root : Declaration) :
    ∃ members : Nat → List (List Nat),
      ((List.range (assemble settings id root reader).1.entities.size).flatMap members).Perm
        root.addresses ∧
      (∀ i e, (assemble settings id root reader).1.get? i = some e →
        (members i).Sublist root.addresses ∧
        ∃ first rest, (members i).map root.at? = (first :: rest).map some ∧
          e.IsGroupOf settings reader ((assemble settings id root reader).1.scope? i) first rest) ∧
      (∀ p q d d', p ≠ q → root.at? p = some d → root.at? q = some d' →
        ((assemble settings id root reader).1.Joins members p q ↔
          (∃ p' m q' n, p = p' ++ [m] ∧ q = q' ++ [n] ∧
            (assemble settings id root reader).1.Joins members p' q') ∧
          ∃ tag, d.groupTag? settings reader = some tag ∧
            d'.groupTag? settings reader = some tag)) ∧
      ∀ i, (((assemble settings id root reader).1.entities.children i).filterMap fun c =>
        (members c).head?).Sublist root.addresses := by
  have h := isHoused_assemble settings reader root id
  set d := (assemble settings id root reader).1
  set t := Rose.node (houseTop settings reader root) (houseBelow settings reader root)
  refine ⟨Housed.addresses t, h.addresses_perm, ?_, ?_, h.sublist_firsts⟩
  · intro i e he
    rw [get?_eq_map_values h.entities, Option.map_eq_some_iff] at he
    obtain ⟨x, hx, rfl⟩ := he
    rw [Housed.addresses_of_values hx]
    refine ⟨sublist_addresses (h.sound x (List.mem_of_getElem? hx)).level, ?_⟩
    obtain ⟨first, rest, hsources, hgroup⟩ := (h.madeIn_scope? hx).isGroupOf
    refine ⟨first, rest, ?_, hgroup⟩
    rw [← hsources, List.map_map, List.map_map]
    exact List.map_congr_left fun s _ => s.found
  · intro p q c c' hne hp hq
    constructor
    · exact h.of_joins hne hp hq
    · rintro ⟨⟨p', m, q', n, rfl, rfl, hjoins⟩, tag, htag, htag'⟩
      exact h.joins_of_sameTag hne hp hq hjoins htag htag'

end DocComments
