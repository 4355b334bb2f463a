import DocComments.Proofs.Assembly.Groups
import Mathlib.Data.List.Sort
import Mathlib.Data.Set.Function

set_option autoImplicit false

/-!
# Assembling loses and doubles no declaration

Every declaration of a source becomes a member of exactly one entity of the assembled document. The
members of an entity are in document order, and the entities are nested as the declarations are,
although groups may put declarations together that stand at different places.

## Main definitions

* `Document.member?` — the member of an entity with a given index.
* `houseTop`, `houseBelow` — the entities of a document, with the sites of their members.

## Main results

* `housed_assemble` — the entities of a document stand for every site of the source exactly once.
* `assemble_members_bijective` — members and declarations correspond to each other.
-/

namespace DocComments

open Markup (TextReader)
open Rose (mapAll valuesAll LinkedAll)

/-- The member of an entity with a given index. -/
def Document.member? (d : Document) (i k : Nat) : Option Member :=
  (d.get? i).bind fun e => e.members[k]?

/-- Where lists have no element in common and none twice, an element determines its list and its
index. -/
lemma eq_of_nodup_flatMap {α β : Type} {f : α → List β} {xs : List α} (h : (xs.flatMap f).Nodup)
    {i j k l : Nat} {x y : α} {b : β} (hi : xs[i]? = some x) (hj : xs[j]? = some y)
    (hk : (f x)[k]? = some b) (hl : (f y)[l]? = some b) : i = j ∧ k = l := by
  obtain ⟨hnodup, hdisjoint⟩ := List.nodup_flatMap.1 h
  obtain ⟨hi', rfl⟩ := List.getElem?_eq_some_iff.1 hi
  obtain ⟨hj', rfl⟩ := List.getElem?_eq_some_iff.1 hj
  rw [List.pairwise_iff_getElem] at hdisjoint
  rcases Nat.lt_trichotomy i j with hij | rfl | hij
  · exact absurd (List.mem_of_getElem? hl) (hdisjoint i j hi' hj' hij (List.mem_of_getElem? hk))
  · refine ⟨rfl, ?_⟩
    have hk' := (List.getElem?_eq_some_iff.1 hk).1
    exact (List.getElem?_inj hk' (hnodup _ (List.getElem_mem hi'))).1 (hk.trans hl.symm)
  · exact absurd (List.mem_of_getElem? hk) (hdisjoint j i hj' hi' hij (List.mem_of_getElem? hl))

/-- The entity of a document's root, with its site. -/
def houseTop (settings : Settings) (reader : TextReader) (root : Declaration) : Housed root :=
  ⟨(makeEntity settings (readEntry settings reader none root).1 []).1, [Site.top root]⟩

/-- The trees of entities right below a document's root, with the sites of their members. -/
def houseBelow (settings : Settings) (reader : TextReader) (root : Declaration) : List
    (Rose (Housed root)) :=
  houseLevel settings reader root.depth (houseTop settings reader root).entity.scope
    (Site.top root).children

/-- **The entities of a document, with the sites of their members**: a tree that stands for every
site of the source exactly once. -/
lemma housed_assemble (settings : Settings) (reader : TextReader) (id : String)
    (root : Declaration) :
    (assemble settings id root reader).1.entities = Arena.ofRose ((Rose.node
        (houseTop settings reader root) (houseBelow settings reader root)).map Housed.entity) ∧
      LinkedAll Housed.Inside (houseTop settings reader root) (houseBelow settings reader root) ∧
      (∀ x ∈ (Rose.node (houseTop settings reader root) (houseBelow settings reader root)).values,
        x.Sound) ∧
      (((Rose.node (houseTop settings reader root) (houseBelow settings reader root)).values.flatMap
        Housed.sites).map Site.address).Perm root.addresses := by
  have htop : (Site.top root).source = root := rfl
  have hlevel : Level (Site.top root).children := by
    have hone : Level [Site.top root] := List.pairwise_singleton _ _
    simpa using hone.children
  have hcovers := covers_houseLevel settings reader root.depth
    (houseTop settings reader root).entity.scope (Site.top root).children (fun s hs => by
      have := Site.depth_lt_of_mem_children hs
      rw [htop] at this
      omega) hlevel
  have hsound : (houseTop settings reader root).Sound := by
    refine ⟨?_, List.pairwise_singleton _ _⟩
    have := membersStandFor_makeEntity settings (readEntry settings reader none root).1 []
    simpa [houseTop, htop] using this
  have hall := Covers.node hsound (by simpa [houseTop] using hcovers)
  refine ⟨?_, ?_, ?_, ?_⟩
  · have hmap := mapAll_houseLevel settings reader root.depth
      (houseTop settings reader root).entity.scope (Site.top root).children
    rw [Site.map_source_children, htop] at hmap
    rw [Rose.map_node, houseBelow, hmap]
    rfl
  · exact hcovers.linked _ fun s hs => ⟨Site.top root, by simp [houseTop], hs⟩
  · simpa [valuesAll, houseBelow, houseTop] using hall.sound
  · have hperm := hall.perm.map Site.address
    simpa [valuesAll, houseBelow, houseTop, Site.map_address_below_top root] using hperm

/-- The entities of a document are those of a tree that stands for every site of the source exactly
once. -/
lemma exists_housed_assemble (settings : Settings) (reader : TextReader) (id : String)
    (root : Declaration) :
    ∃ (top : Housed root) (ts : List (Rose (Housed root))),
      (assemble settings id root reader).1.entities
        = Arena.ofRose ((Rose.node top ts).map Housed.entity) ∧
      top.sites = [Site.top root] ∧ LinkedAll Housed.Inside top ts ∧
      (∀ x ∈ (Rose.node top ts).values, x.Sound) ∧
      (((Rose.node top ts).values.flatMap Housed.sites).map Site.address).Perm root.addresses := by
  obtain ⟨hentities, hlinked, hsound, hperm⟩ := housed_assemble settings reader id root
  exact ⟨houseTop settings reader root, houseBelow settings reader root, hentities, rfl, hlinked,
    hsound, hperm⟩

/-! ## Sites of members -/

section Sites

variable {root : Declaration} {d : Document} {t : Rose (Housed root)}

/-- The site of a member, given the index of its entity and its own. -/
def Housed.site? (t : Rose (Housed root)) (i k : Nat) : Option (Site root) :=
  t.values[i]?.bind fun x => x.sites[k]?

/-- The site of a member is one of the sites of its entity. -/
lemma Housed.site?_eq_some {i k : Nat} {s : Site root} :
    Housed.site? t i k = some s ↔ ∃ x, t.values[i]? = some x ∧ x.sites[k]? = some s := by
  rw [Housed.site?, Option.bind_eq_some_iff]

/-- The entities of a document in their order. -/
lemma get?_eq_map_values (h : d.entities = Arena.ofRose (t.map Housed.entity)) (i : Nat) :
    d.get? i = t.values[i]?.map Housed.entity := by
  rw [Document.get?, h, Arena.value?, Arena.slots_ofRose_map, ← Arena.value?_ofRose, Arena.value?,
    Option.map_map, Option.map_map]
  rfl

/-- Every member has a site, and stands for its declaration. -/
lemma exists_site_of_member? (h : d.entities = Arena.ofRose (t.map Housed.entity))
    (hsound : ∀ x ∈ t.values, x.Sound) {i k : Nat} {m : Member} (hm : d.member? i k = some m) :
    ∃ s, Housed.site? t i k = some s ∧ m.StandsFor k s.source := by
  rw [Document.member?, get?_eq_map_values h, Option.bind_map, Option.bind_eq_some_iff] at hm
  obtain ⟨x, hx, hm⟩ := hm
  obtain ⟨hlength, hstands⟩ := (hsound x (List.mem_of_getElem? hx)).members
  have hk : k < x.sites.length := by
    have := (List.getElem?_eq_some_iff.1 hm).1
    rwa [hlength, List.length_map] at this
  have hs : x.sites[k]? = some x.sites[k] := List.getElem?_eq_getElem hk
  exact ⟨x.sites[k], Housed.site?_eq_some.2 ⟨x, hx, hs⟩, hstands k m _ hm (by simp [hs])⟩

/-- Every site is that of a member. -/
lemma isSome_member?_of_site? (h : d.entities = Arena.ofRose (t.map Housed.entity))
    (hsound : ∀ x ∈ t.values, x.Sound) {i k : Nat} {s : Site root}
    (hs : Housed.site? t i k = some s) : (d.member? i k).isSome = true := by
  obtain ⟨x, hx, hs⟩ := Housed.site?_eq_some.1 hs
  have hk := (List.getElem?_eq_some_iff.1 hs).1
  have hlength := (hsound x (List.mem_of_getElem? hx)).members.1
  rw [List.length_map] at hlength
  rw [Document.member?, get?_eq_map_values h, hx]
  simp [hlength, hk]

/-- An address belongs to one member only. -/
lemma eq_of_site?_of_address_eq
    (hnodup : ((t.values.flatMap Housed.sites).map Site.address).Nodup) {i k j l : Nat}
    {s r : Site root} (hs : Housed.site? t i k = some s) (hr : Housed.site? t j l = some r)
    (haddress : s.address = r.address) : i = j ∧ k = l := by
  obtain ⟨x, hx, hs⟩ := Housed.site?_eq_some.1 hs
  obtain ⟨y, hy, hr⟩ := Housed.site?_eq_some.1 hr
  rw [← Site.ext_address haddress] at hr
  exact eq_of_nodup_flatMap hnodup.of_map hx hy hs hr

/-- The sites of an entity are in document order. -/
lemma sublist_addresses {x : Housed root} (hlevel : Level x.sites) :
    (x.sites.map Site.address).Sublist root.addresses := by
  have hlt : (x.sites.map Site.address).Pairwise (· < ·) :=
    List.pairwise_map.2 (hlevel.imp fun h => h.1)
  refine List.sublist_of_subperm_of_pairwise ?_ hlt root.pairwise_addresses
  apply List.subperm_of_subset hlt.nodup
  intro p hp
  obtain ⟨s, -, rfl⟩ := List.mem_map.1 hp
  rw [Declaration.mem_addresses, s.found]
  rfl

/-- The entity of a site lies right below that of the site around it. -/
lemma parent?_of_site? {top : Housed root} {ts : List (Rose (Housed root))}
    (h : d.entities = Arena.ofRose ((Rose.node top ts).map Housed.entity))
    (htop : top.sites = [Site.top root]) (hlinked : LinkedAll Housed.Inside top ts)
    (hnodup : (((Rose.node top ts).values.flatMap Housed.sites).map Site.address).Nodup)
    {i k j l n : Nat} {s r : Site root} (hs : Housed.site? (.node top ts) i k = some s)
    (hr : Housed.site? (.node top ts) j l = some r) (haddress : s.address = r.address ++ [n]) :
    d.entities.parent? i = some j := by
  obtain ⟨y, hy, hsy⟩ := Housed.site?_eq_some.1 hs
  have hpos : i ≠ 0 := by
    rintro rfl
    rw [Rose.values, List.getElem?_cons_zero, Option.some.injEq] at hy
    have hmem := List.mem_of_getElem? hsy
    rw [← hy, htop, List.mem_singleton] at hmem
    rw [hmem] at haddress
    simp [Site.top] at haddress
  have hi : i < (Arena.ofRose (Rose.node top ts)).size := by
    have := (List.getElem?_eq_some_iff.1 hy).1
    rwa [Rose.values, List.length_cons, Rose.length_valuesAll, ← Rose.size_node top,
      ← Arena.size_ofRose] at this
  obtain ⟨j', x, y', -, hparent, hx, hy', hinside⟩ :=
    Arena.exists_parent_ofRose hlinked hpos hi
  rw [Arena.value?_ofRose] at hx hy'
  obtain rfl : y = y' := by simpa [hy] using hy'
  -- the site right above lies in the entity above, and is the given one
  obtain ⟨r', hr', hsr'⟩ := hinside s (List.mem_of_getElem? hsy)
  obtain ⟨n', hn'⟩ := Site.address_of_mem_children hsr'
  obtain ⟨l', hl'⟩ := List.getElem?_of_mem hr'
  have hsame : r'.address = r.address := by
    rw [hn'] at haddress
    exact (List.append_inj' haddress rfl).1
  obtain ⟨rfl, -⟩ := eq_of_site?_of_address_eq hnodup
    (Housed.site?_eq_some.2 ⟨x, hx, hl'⟩) hr hsame
  rw [← hparent, h, Arena.parent?, Arena.slots_ofRose_map, Arena.parent?]
  cases (Arena.ofRose (Rose.node top ts)).slots[i]? <;> rfl

end Sites

/-! ## The correspondence -/

/-- **Assembling loses and doubles no declaration.** The members of the entities of a document and
the declarations of its source correspond to each other: `origin` takes the index of an entity and
the index of one of its members to the address of a declaration. A member has the names, the
signature and the position of its declaration, and counts the members up to it. The members of an
entity are in document order. An entity lies right below the one that has the declaration around one
of its own. The text of the comments may be read by any reader.

**Proof sketch.** The assembled tree carries the sites of the members along, every site of the
source once. So the address of a site is a bijection. If the declaration of a member lies inside
that of another one, the site of the first one lies right below a site of the parent of its entity;
that site is the one of the second, and belongs to one entity only. -/
theorem assemble_members_bijective (settings : Settings) (reader : TextReader) (id : String)
    (root : Declaration) :
    ∃ origin : Nat × Nat → List Nat,
      Set.BijOn origin
        {x | ((assemble settings id root reader).1.member? x.1 x.2).isSome = true}
        {p | (root.at? p).isSome = true} ∧
      (∀ i k m, (assemble settings id root reader).1.member? i k = some m →
        ∃ d, root.at? (origin (i, k)) = some d ∧ m.StandsFor k d) ∧
      (∀ i e, (assemble settings id root reader).1.get? i = some e →
        ((List.range e.members.length).map fun k => origin (i, k)).Sublist root.addresses) ∧
      ∀ i k j l n, ((assemble settings id root reader).1.member? i k).isSome = true →
        ((assemble settings id root reader).1.member? j l).isSome = true →
        origin (i, k) = origin (j, l) ++ [n] →
        (assemble settings id root reader).1.entities.parent? i = some j := by
  obtain ⟨top, ts, hentities, htop, hlinked, hsound, hperm⟩ :=
    exists_housed_assemble settings reader id root
  set d := (assemble settings id root reader).1
  have hnodup : (((Rose.node top ts).values.flatMap Housed.sites).map Site.address).Nodup := by
    rw [hperm.nodup_iff]
    exact root.pairwise_addresses.nodup
  have horigin : ∀ {i k : Nat} {s : Site root}, Housed.site? (.node top ts) i k = some s →
      ((Housed.site? (.node top ts) i k).elim [] Site.address) = s.address := by
    intro i k s hs
    rw [hs]
    rfl
  have hsite : ∀ {i k : Nat}, (d.member? i k).isSome = true →
      ∃ s, Housed.site? (.node top ts) i k = some s := by
    intro i k hm
    obtain ⟨m, hm⟩ := Option.isSome_iff_exists.1 hm
    obtain ⟨s, hs, -⟩ := exists_site_of_member? hentities hsound hm
    exact ⟨s, hs⟩
  refine ⟨fun x => (Housed.site? (.node top ts) x.1 x.2).elim [] Site.address, ⟨?_, ?_, ?_⟩, ?_, ?_,
    ?_⟩
  · -- every member has a declaration
    rintro ⟨i, k⟩ hm
    obtain ⟨s, hs⟩ := hsite hm
    simp [horigin hs, s.found]
  · -- no two members have the same
    rintro ⟨i, k⟩ hi ⟨j, l⟩ hj heq
    obtain ⟨s, hs⟩ := hsite hi
    obtain ⟨r, hr⟩ := hsite hj
    simp only [horigin hs, horigin hr] at heq
    obtain ⟨rfl, rfl⟩ := eq_of_site?_of_address_eq hnodup hs hr heq
    rfl
  · -- every declaration has a member
    intro p hp
    obtain ⟨s, hs, rfl⟩ := List.mem_map.1 (hperm.mem_iff.2 (Declaration.mem_addresses.2 hp))
    obtain ⟨x, hx, hs⟩ := List.mem_flatMap.1 hs
    obtain ⟨i, hi⟩ := List.getElem?_of_mem hx
    obtain ⟨k, hk⟩ := List.getElem?_of_mem hs
    have hik := Housed.site?_eq_some.2 ⟨x, hi, hk⟩
    exact ⟨(i, k), isSome_member?_of_site? hentities hsound hik, horigin hik⟩
  · intro i k m hm
    obtain ⟨s, hs, hstands⟩ := exists_site_of_member? hentities hsound hm
    exact ⟨s.source, by simp [horigin hs, s.found], hstands⟩
  · intro i e he
    rw [get?_eq_map_values hentities, Option.map_eq_some_iff] at he
    obtain ⟨x, hx, rfl⟩ := he
    have hx' := hsound x (List.mem_of_getElem? hx)
    have hlist : ((List.range x.entity.members.length).map fun k =>
        (Housed.site? (.node top ts) i k).elim [] Site.address) = x.sites.map Site.address := by
      refine List.ext_getElem (by simp [hx'.members.1]) fun k h₁ h₂ => ?_
      have hk : k < x.sites.length := by simpa using h₂
      simp [Housed.site?, hx, hk]
    rw [hlist]
    exact sublist_addresses hx'.level
  · intro i k j l n hi hj heq
    obtain ⟨s, hs⟩ := hsite hi
    obtain ⟨r, hr⟩ := hsite hj
    simp only [horigin hs, horigin hr] at heq
    exact parent?_of_site? hentities htop hlinked hnodup hs hr heq

end DocComments
