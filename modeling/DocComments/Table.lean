set_option autoImplicit false

/-!
# Sorted tables

Finite maps from names, kept in increasing order of their keys, so that two tables with the same
content are equal and are listed in the same order.

## Main definitions

* `Table` — a finite map from names.
* `Table.get?`, `Table.contains`, `Table.keys` — what a table holds.
* `Table.alter`, `Table.insert` — a table with one entry changed.

## Main statements

* `Table.get?_alter` — a change is seen under its own key only.
* `Table.get?_alter_insert` — the same for a table of tables.
* `Table.mem_keys`, `Table.pairwise_keys` — the keys, and their order.
* `Table.ext_get?` — a table is determined by what it holds.
-/

namespace DocComments

variable {β : Type}

/-- A finite map from names, in increasing order of its keys. -/
structure Table (β : Type) where
  entries : List (String × β)
  sorted : entries.Pairwise fun a b => a.1 < b.1
  deriving Repr, DecidableEq

namespace Table

/-! ## Lists of entries -/

/-- The value of a key in a list of entries. -/
def lookup (key : String) : List (String × β) → Option β
  | [] => none
  | (k, v) :: rest => if key = k then some v else lookup key rest

/-- Changes the value of a key in a sorted list of entries, or adds one in its place. -/
def alterEntries (key : String) (f : Option β → β) : List (String × β) → List (String × β)
  | [] => [(key, f none)]
  | (k, v) :: rest =>
    if key < k then (key, f none) :: (k, v) :: rest
    else if key = k then (k, f (some v)) :: rest
    else (k, v) :: alterEntries key f rest

/-- A change brings in no key but its own. -/
theorem mem_alterEntries {key : String} {f : Option β → β} {l : List (String × β)}
    {e : String × β} (h : e ∈ alterEntries key f l) : e.1 = key ∨ ∃ e' ∈ l, e'.1 = e.1 := by
  induction l with
  | nil =>
    rw [alterEntries, List.mem_singleton] at h
    exact Or.inl (by rw [h])
  | cons a rest ih =>
    obtain ⟨k, v⟩ := a
    rw [alterEntries] at h
    split at h
    · rcases List.mem_cons.1 h with rfl | h
      · exact Or.inl rfl
      · exact Or.inr ⟨e, h, rfl⟩
    · split at h
      · rcases List.mem_cons.1 h with rfl | h
        · exact Or.inr ⟨(k, v), List.mem_cons_self, rfl⟩
        · exact Or.inr ⟨e, List.mem_cons_of_mem _ h, rfl⟩
      · rcases List.mem_cons.1 h with rfl | h
        · exact Or.inr ⟨(k, v), List.mem_cons_self, rfl⟩
        · rcases ih h with h | ⟨e', he', h⟩
          · exact Or.inl h
          · exact Or.inr ⟨e', List.mem_cons_of_mem _ he', h⟩

/-- A change keeps the order. -/
theorem sorted_alterEntries {key : String} {f : Option β → β} {l : List (String × β)}
    (h : l.Pairwise fun a b => a.1 < b.1) :
    (alterEntries key f l).Pairwise fun a b => a.1 < b.1 := by
  induction l with
  | nil => exact List.pairwise_singleton _ _
  | cons a rest ih =>
    obtain ⟨k, v⟩ := a
    obtain ⟨hk, hrest⟩ := List.pairwise_cons.1 h
    rw [alterEntries]
    split
    next hlt =>
      refine List.pairwise_cons.2 ⟨fun e he => ?_, h⟩
      rcases List.mem_cons.1 he with rfl | he
      · exact hlt
      · exact String.lt_trans hlt (hk e he)
    next hlt =>
      split
      next => exact List.pairwise_cons.2 ⟨hk, hrest⟩
      next hne =>
        refine List.pairwise_cons.2 ⟨fun e he => ?_, ih hrest⟩
        rcases mem_alterEntries he with heq | ⟨e', he', heq⟩
        · rw [heq]
          exact Std.lt_of_le_of_ne (String.not_lt.1 hlt) (Ne.symm hne)
        · rw [← heq]
          exact hk e' he'

/-- Keys that are all greater than a key do not include it. -/
theorem lookup_eq_none_of_lt {key : String} {l : List (String × β)} (h : ∀ e ∈ l, key < e.1) :
    lookup key l = none := by
  induction l with
  | nil => rfl
  | cons a rest ih =>
    obtain ⟨k, v⟩ := a
    have hk : key < k := h _ List.mem_cons_self
    have hne : key ≠ k := fun heq => String.lt_irrefl k (heq ▸ hk)
    rw [lookup, if_neg hne]
    exact ih fun e he => h e (List.mem_cons_of_mem _ he)

/-- A change is seen under its own key only. -/
theorem lookup_alterEntries {key other : String} {f : Option β → β} {l : List (String × β)}
    (h : l.Pairwise fun a b => a.1 < b.1) :
    lookup other (alterEntries key f l)
      = if other = key then some (f (lookup key l)) else lookup other l := by
  induction l with
  | nil => rfl
  | cons a rest ih =>
    obtain ⟨k, v⟩ := a
    obtain ⟨hk, hrest⟩ := List.pairwise_cons.1 h
    rw [alterEntries]
    split
    next hlt =>
      have hnone : lookup key ((k, v) :: rest) = none := by
        refine lookup_eq_none_of_lt fun e he => ?_
        rcases List.mem_cons.1 he with rfl | he
        · exact hlt
        · exact String.lt_trans hlt (hk e he)
      rw [hnone, lookup]
    next hlt =>
      split
      next heq =>
        subst heq
        simp only [lookup, if_true]
        split <;> rfl
      next hne =>
        simp only [lookup, ih hrest, if_neg hne]
        by_cases h1 : other = k
        · simp [h1, Ne.symm hne]
        · simp [h1]

/-- The keys with a value are those that are listed. -/
theorem isSome_lookup {key : String} {l : List (String × β)} :
    (lookup key l).isSome = true ↔ key ∈ l.map (·.1) := by
  induction l with
  | nil => simp [lookup]
  | cons a rest ih =>
    obtain ⟨k, v⟩ := a
    rw [lookup, List.map_cons, List.mem_cons, ← ih]
    by_cases hkey : key = k
    · simp [hkey]
    · simp [hkey]

/-- Sorted lists of entries are equal if they hold the same. -/
theorem entries_ext {l l' : List (String × β)} (h : l.Pairwise fun a b => a.1 < b.1)
    (h' : l'.Pairwise fun a b => a.1 < b.1) (heq : ∀ key, lookup key l = lookup key l') :
    l = l' := by
  induction l generalizing l' with
  | nil =>
    cases l' with
    | nil => rfl
    | cons b rest' => have hb := heq b.1; simp [lookup] at hb
  | cons a rest ih =>
    obtain ⟨k, v⟩ := a
    obtain ⟨hk, hrest⟩ := List.pairwise_cons.1 h
    cases l' with
    | nil => have ha := heq k; simp [lookup] at ha
    | cons b rest' =>
      obtain ⟨k', v'⟩ := b
      obtain ⟨hk', hrest'⟩ := List.pairwise_cons.1 h'
      have hkk : k = k' := by
        by_cases h1 : k < k'
        · have hn : lookup k ((k', v') :: rest') = none := by
            refine lookup_eq_none_of_lt fun e he => ?_
            rcases List.mem_cons.1 he with rfl | he
            · exact h1
            · exact String.lt_trans h1 (hk' e he)
          have := heq k
          rw [hn] at this
          simp [lookup] at this
        · by_cases h2 : k' < k
          · have hn : lookup k' ((k, v) :: rest) = none := by
              refine lookup_eq_none_of_lt fun e he => ?_
              rcases List.mem_cons.1 he with rfl | he
              · exact h2
              · exact String.lt_trans h2 (hk e he)
            have := heq k'
            rw [hn] at this
            simp [lookup] at this
          · exact String.le_antisymm (String.not_lt.1 h2) (String.not_lt.1 h1)
      subst hkk
      have hv : v = v' := by
        have := heq k
        simpa [lookup] using this
      subst hv
      have hrests : rest = rest' := by
        refine ih hrest hrest' fun key => ?_
        by_cases hkey : key = k
        · subst hkey
          rw [lookup_eq_none_of_lt hk, lookup_eq_none_of_lt hk']
        · have := heq key
          simpa [lookup, hkey] using this
      rw [hrests]

/-! ## Tables -/

/-- The table without entries. -/
def empty : Table β :=
  { entries := [], sorted := List.Pairwise.nil }

/-- The empty table. -/
instance : Inhabited (Table β) :=
  ⟨empty⟩

/-- The value of a key. -/
def get? (t : Table β) (key : String) : Option β :=
  lookup key t.entries

/-- The key has a value. -/
def contains (t : Table β) (key : String) : Bool :=
  (t.get? key).isSome

/-- The keys, in increasing order. -/
def keys (t : Table β) : List String :=
  t.entries.map (·.1)

/-- Changes the value of a key, which may have none yet. -/
def alter (t : Table β) (key : String) (f : Option β → β) : Table β :=
  { entries := alterEntries key f t.entries, sorted := sorted_alterEntries t.sorted }

/-- Sets the value of a key. -/
def insert (t : Table β) (key : String) (value : β) : Table β :=
  t.alter key fun _ => value

/-- No key of the empty table has a value. -/
@[simp]
theorem get?_empty (key : String) : (empty : Table β).get? key = none := rfl

/-- A change is seen under its own key only. -/
theorem get?_alter (t : Table β) (key other : String) (f : Option β → β) :
    (t.alter key f).get? other = if other = key then some (f (t.get? key)) else t.get? other :=
  lookup_alterEntries t.sorted

/-- A value is seen under its own key only. -/
theorem get?_insert (t : Table β) (key other : String) (value : β) :
    (t.insert key value).get? other = if other = key then some value else t.get? other :=
  get?_alter t key other fun _ => value

/-- A value that is set in a table of tables is seen under its own two keys only. -/
theorem get?_alter_insert (t : Table (Table β)) (key inner : String) (value : β)
    (other otherInner : String) :
    ((t.alter key fun old => (old.getD empty).insert inner value).get? other).bind
        (·.get? otherInner)
      = if other = key ∧ otherInner = inner then some value
        else (t.get? other).bind (·.get? otherInner) := by
  rw [get?_alter]
  by_cases hkey : other = key
  · subst hkey
    rw [if_pos rfl, Option.bind_some, get?_insert]
    by_cases hinner : otherInner = inner
    · simp [hinner]
    · rw [if_neg hinner, if_neg fun h => hinner h.2]
      cases t.get? other <;> rfl
  · rw [if_neg hkey, if_neg fun h => hkey h.1]

/-- The keys are those with a value. -/
theorem mem_keys {t : Table β} {key : String} : key ∈ t.keys ↔ (t.get? key).isSome = true :=
  isSome_lookup.symm

/-- The keys are in increasing order. -/
theorem pairwise_keys (t : Table β) : t.keys.Pairwise (· < ·) :=
  List.pairwise_map.2 t.sorted

/-- No key is listed twice. -/
theorem nodup_keys (t : Table β) : t.keys.Nodup := by
  refine List.Pairwise.imp ?_ t.pairwise_keys
  rintro key _ hlt rfl
  exact String.lt_irrefl key hlt

/-- A table has a single entry if it has no other key. -/
theorem entries_eq_singleton_iff {t : Table β} {key : String} {value : β} :
    t.entries = [(key, value)] ↔ t.get? key = some value ∧ ∀ other ∈ t.keys, other = key := by
  obtain ⟨l, hl⟩ := t
  constructor
  · rintro rfl
    simp [get?, keys, lookup]
  · rintro ⟨hvalue, hkeys⟩
    match l, hl, hvalue, hkeys with
    | [(k, v)], _, hvalue, hkeys =>
      obtain rfl : k = key := hkeys k (by simp [keys])
      simpa [get?, lookup] using hvalue
    | (k, v) :: (k', v') :: rest, hl, _, hkeys =>
      -- two keys that are both `key` cannot be in increasing order
      have hlt : k < k' := (List.pairwise_cons.1 hl).1 _ List.mem_cons_self
      rw [hkeys k (by simp [keys]), hkeys k' (by simp [keys])] at hlt
      exact absurd hlt (String.lt_irrefl key)

/-- A table is determined by what it holds. -/
theorem ext_get? {t t' : Table β} (h : ∀ key, t.get? key = t'.get? key) : t = t' := by
  obtain ⟨l, hl⟩ := t
  obtain ⟨l', hl'⟩ := t'
  congr
  exact entries_ext hl hl' h

end Table

/-- A finite set of names, in increasing order. -/
abbrev NameSet := Table Unit

end DocComments
