import DocComments.Declaration
import Mathlib.Data.List.Perm.Basic

set_option autoImplicit false

/-!
# Places in a tree of declarations

A declaration inside another one has an address: the indices to follow from the root down to it. The
addresses in document order are in lexicographic order. A site is a declaration together with its
address, so that two declarations that look alike are still told apart.

## Main definitions

* `Declaration.at?` — the declaration at an address.
* `Declaration.addresses` — all addresses, in document order.
* `Site` — a declaration with its address in a tree.
* `Site.children`, `Site.below` — the sites right below a site, and all of them down to a level.
* `Level` — sites of one level, in document order.

## Main results

* `Declaration.mem_addresses` — the addresses are those with a declaration.
* `Declaration.pairwise_addresses` — document order is lexicographic order.
* `Site.map_address_below` — the sites below a site, level by level, are all there are.
* `Level.children` — the sites right below the sites of a level make a level.
-/

namespace DocComments

namespace Declaration

/-- The declaration at an address. -/
def at? : Declaration → List Nat → Option Declaration
  | d, [] => some d
  | d, k :: p => d.children[k]?.bind fun c => c.at? p

mutual

/-- The addresses of a declaration and of everything inside it, in document order. -/
def addresses : Declaration → List (List Nat)
  | ⟨_, _, _, _, _, _, children⟩ => [] :: addressesFrom 0 children

/-- The addresses of declarations that stand side by side, the first of which has a given index, and
of everything inside them. -/
def addressesFrom (k : Nat) : List Declaration → List (List Nat)
  | [] => []
  | d :: ds => d.addresses.map (k :: ·) ++ addressesFrom (k + 1) ds

end

/-- Induction over declarations that stand side by side. -/
@[elab_as_elim]
theorem forest_induct {motive : List Declaration → Prop} (nil : motive [])
    (cons : ∀ d ds, motive d.children → motive ds → motive (d :: ds)) : ∀ ds, motive ds
  | [] => nil
  | ⟨_, _, _, _, _, _, children⟩ :: ds =>
    cons _ ds (forest_induct nil cons children) (forest_induct nil cons ds)

/-- The address of the root, then the addresses below it. -/
lemma addresses_eq (d : Declaration) : d.addresses = [] :: addressesFrom 0 d.children := by
  obtain ⟨kind, name, qualifiedName, signature, position, comment, children⟩ := d
  rw [addresses]

/-- An empty list of declarations has no addresses. -/
@[simp]
lemma addressesFrom_nil (k : Nat) : addressesFrom k [] = [] := by
  rw [addressesFrom]

/-- The addresses below the first declaration, and those below the next ones. -/
lemma addressesFrom_cons (k : Nat) (d : Declaration) (ds : List Declaration) :
    addressesFrom k (d :: ds) = d.addresses.map (k :: ·) ++ addressesFrom (k + 1) ds := by
  rw [addressesFrom]

/-- An address may be followed in two goes. -/
lemma at?_append (d : Declaration) (p q : List Nat) :
    d.at? (p ++ q) = (d.at? p).bind fun c => c.at? q := by
  induction p generalizing d with
  | nil => simp [at?]
  | cons k p ih =>
    rw [List.cons_append, at?, at?, Option.bind_assoc]
    congr 1
    funext c
    exact ih c

/-- Where the addresses of declarations that stand side by side lead. -/
lemma mem_addressesFrom {k : Nat} {ds : List Declaration} {p : List Nat} :
    p ∈ addressesFrom k ds ↔
      ∃ j q, p = (k + j) :: q ∧ (ds[j]?.bind fun c => c.at? q).isSome = true := by
  induction ds using forest_induct generalizing k p with
  | nil => simp
  | cons d ds ihb iht =>
    rw [addressesFrom_cons, List.mem_append, List.mem_map, iht]
    constructor
    · rintro (⟨q, hq, rfl⟩ | ⟨j, q, rfl, h⟩)
      · refine ⟨0, q, by simp, ?_⟩
        rw [addresses_eq, List.mem_cons, ihb] at hq
        rcases hq with rfl | ⟨j, q, rfl, h⟩
        · simp [at?]
        · simpa [at?] using h
      · exact ⟨j + 1, q, by rw [Nat.add_assoc, Nat.add_comm 1], by simpa using h⟩
    · rintro ⟨j, q, rfl, h⟩
      cases j with
      | zero =>
        refine .inl ⟨q, ?_, by simp⟩
        rw [addresses_eq, List.mem_cons, ihb]
        cases q with
        | nil => exact .inl rfl
        | cons i q => exact .inr ⟨i, q, by simp, by simpa [at?] using h⟩
      | succ j => exact .inr ⟨j, q, by rw [Nat.add_assoc, Nat.add_comm 1], by simpa using h⟩

/-- **The addresses are those with a declaration.** -/
lemma mem_addresses {d : Declaration} {p : List Nat} :
    p ∈ d.addresses ↔ (d.at? p).isSome = true := by
  rw [addresses_eq, List.mem_cons, mem_addressesFrom]
  cases p with
  | nil => simp [at?]
  | cons k p => simp [at?]

/-- Addresses of declarations that stand side by side, in lexicographic order. -/
lemma pairwise_addressesFrom (k : Nat) (ds : List Declaration) :
    (addressesFrom k ds).Pairwise (· < ·) := by
  induction ds using forest_induct generalizing k with
  | nil => simp
  | cons d ds ihb iht =>
    rw [addressesFrom_cons, List.pairwise_append, List.pairwise_map]
    refine ⟨?_, iht (k + 1), ?_⟩
    · simp only [List.cons_lt_cons_self]
      rw [addresses_eq, List.pairwise_cons]
      refine ⟨fun p hp => ?_, ihb 0⟩
      obtain ⟨j, q, rfl, -⟩ := mem_addressesFrom.1 hp
      exact List.nil_lt_cons _ _
    · intro p hp q hq
      obtain ⟨p, -, rfl⟩ := List.mem_map.1 hp
      obtain ⟨j, q, rfl, -⟩ := mem_addressesFrom.1 hq
      exact List.cons_lt_cons_iff.2 (.inl (by omega))

/-- **Document order is lexicographic order.** -/
lemma pairwise_addresses (d : Declaration) : d.addresses.Pairwise (· < ·) := by
  rw [addresses_eq, List.pairwise_cons]
  refine ⟨fun p hp => ?_, pairwise_addressesFrom 0 d.children⟩
  obtain ⟨j, q, rfl, -⟩ := mem_addressesFrom.1 hp
  exact List.nil_lt_cons _ _

/-- The addresses of declarations that stand side by side, put together from those of each. -/
lemma addressesFrom_eq_flatMap (k : Nat) (ds : List Declaration) :
    addressesFrom k ds = (List.finRange ds.length).flatMap fun i : Fin ds.length =>
      (ds.get i).addresses.map ((k + i) :: ·) := by
  induction ds generalizing k with
  | nil => simp
  | cons d ds ih =>
    rw [addressesFrom_cons, ih]
    simp [List.finRange_succ, List.flatMap_map, Nat.add_assoc, Nat.add_comm 1]

/-- What is inside a declaration is less deeply nested. -/
lemma depth_lt_of_mem {c d : Declaration} (h : c ∈ d.children) : c.depth < d.depth := by
  have hlist : ∀ ds : List Declaration, c ∈ ds → c.depth ≤ depthList ds := by
    intro ds hc
    induction ds with
    | nil => simp at hc
    | cons e ds ih =>
      rw [depthList]
      rcases List.mem_cons.1 hc with rfl | hc
      · omega
      · have := ih hc
        omega
  obtain ⟨kind, name, qualifiedName, signature, position, comment, children⟩ := d
  have := hlist children h
  rw [depth]
  omega

/-- A declaration is nested at least once. -/
lemma depth_pos (d : Declaration) : 0 < d.depth := by
  obtain ⟨kind, name, qualifiedName, signature, position, comment, children⟩ := d
  rw [depth]
  omega

end Declaration

/-! ## Sites -/

/-- A declaration with its address in a tree of declarations. -/
structure Site (root : Declaration) where
  address : List Nat
  source : Declaration
  found : root.at? address = some source

namespace Site

variable {root : Declaration}

/-- The address determines the site. -/
lemma ext_address {s t : Site root} (h : s.address = t.address) : s = t := by
  obtain ⟨p, c, hc⟩ := s
  obtain ⟨q, d, hd⟩ := t
  simp only at h
  subst h
  have : c = d := by simpa [hc] using hd
  subst this
  rfl

/-- The site of the root. -/
def top (root : Declaration) : Site root :=
  ⟨[], root, rfl⟩

/-- The sites right below a site, in order. -/
def children (s : Site root) : List (Site root) :=
  (List.finRange s.source.children.length).map fun k =>
    ⟨s.address ++ [k.val], s.source.children.get k, by
      rw [Declaration.at?_append, s.found]
      simp [Declaration.at?]⟩

/-- A site and the sites below it, down to a number of levels. -/
def below : Nat → Site root → List (Site root)
  | 0, _ => []
  | n + 1, s => s :: s.children.flatMap (below n)

/-- The sites right below a site are those of the declarations inside it. -/
@[simp]
lemma map_source_children (s : Site root) : s.children.map source = s.source.children := by
  rw [children, List.map_map]
  exact List.map_get_finRange _

/-- The address of a site right below another one. -/
lemma address_of_mem_children {s t : Site root} (h : t ∈ s.children) :
    ∃ k, t.address = s.address ++ [k] := by
  obtain ⟨k, -, rfl⟩ := List.mem_map.1 h
  exact ⟨k, rfl⟩

/-- What is right below a site is less deeply nested. -/
lemma depth_lt_of_mem_children {s t : Site root} (h : t ∈ s.children) :
    t.source.depth < s.source.depth := by
  apply Declaration.depth_lt_of_mem
  rw [← map_source_children]
  exact List.mem_map_of_mem h

/-- **The sites below a site, down to its depth, are all there are**, in document order. -/
lemma map_address_below {n : Nat} {s : Site root} (h : s.source.depth ≤ n) :
    (s.below n).map address = s.source.addresses.map (s.address ++ ·) := by
  induction n generalizing s with
  | zero =>
    have := s.source.depth_pos
    omega
  | succ n ih =>
    have hbelow : (s.children.flatMap (below n)).map address
        = s.children.flatMap fun t => t.source.addresses.map (t.address ++ ·) := by
      rw [List.map_flatMap]
      refine List.flatMap_congr fun t ht => ih ?_
      have := depth_lt_of_mem_children ht
      omega
    rw [below, List.map_cons, hbelow, Declaration.addresses_eq, List.map_cons, List.append_nil,
      Declaration.addressesFrom_eq_flatMap, List.map_flatMap, children, List.flatMap_map]
    simp [Function.comp_def]

/-- The sites of a tree, down to its depth, have all addresses. -/
lemma map_address_below_top (root : Declaration) :
    ((top root).below (root.depth + 1)).map address = root.addresses := by
  have htop : (top root).source = root := rfl
  rw [map_address_below (by rw [htop]; omega), htop]
  simp [top]

end Site

/-! ## Levels -/

/-- Sites of one level, in document order. -/
def Level {root : Declaration} (sites : List (Site root)) : Prop :=
  sites.Pairwise fun s t => s.address < t.address ∧ s.address.length = t.address.length

/-- What follows different addresses of one length does not matter for their order. -/
lemma append_lt_append {p q : List Nat} (h : p < q) (hlength : p.length = q.length)
    (r s : List Nat) : p ++ r < q ++ s := by
  induction p generalizing q with
  | nil =>
    cases q with
    | nil => exact absurd h (List.lt_irrefl _)
    | cons b q => simp at hlength
  | cons a p ih =>
    cases q with
    | nil => simp at hlength
    | cons b q =>
      rw [List.cons_append, List.cons_append, List.cons_lt_cons_iff]
      rcases List.cons_lt_cons_iff.1 h with hab | ⟨hab, hpq⟩
      · exact .inl hab
      · exact .inr ⟨hab, ih hpq (by simpa using hlength)⟩

/-- **The sites right below the sites of a level make a level.** -/
lemma Level.children {root : Declaration} {sites : List (Site root)} (h : Level sites) :
    Level (sites.flatMap Site.children) := by
  rw [Level, List.pairwise_flatMap]
  constructor
  · intro s _
    rw [Site.children, List.pairwise_map]
    refine (List.pairwise_lt_finRange _).imp fun {i j} hij => ⟨?_, by simp⟩
    refine List.append_left_lt ?_
    exact List.cons_lt_cons_iff.2 (.inl hij)
  · refine h.imp fun {s t} hst x hx y hy => ?_
    obtain ⟨i, hi⟩ := Site.address_of_mem_children hx
    obtain ⟨j, hj⟩ := Site.address_of_mem_children hy
    rw [hi, hj]
    exact ⟨append_lt_append hst.1 hst.2 _ _, by simp [hst.2]⟩

end DocComments
