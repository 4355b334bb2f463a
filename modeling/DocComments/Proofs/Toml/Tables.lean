import DocComments.Toml.Document
import Mathlib.Data.List.Basic

set_option autoImplicit false

/-!
# Tables are filled by their lines

Headers and assignments under new names only add at the end of a table. A table that is still open is
the last one of the table around it, so what is around it is given by the entries in front of it, on
every level.

## Main definitions

* `Adds` — lines turn one document into another.
* `IsPlace` — a path leads to an open table, whatever is in it.

## Main results

* `IsPlace.adds_header` — a header opens an empty table.
* `IsPlace.adds_assignments`, `IsPlace.adds_entries` — assignments under new names are added in their
  order, and fill an empty table.
-/

namespace DocComments.Toml

namespace Entries

/-- The names in a table. -/
def keys (entries : Entries) : List Key :=
  entries.map (·.1)

/-- The keys of two lists of entries. -/
lemma keys_append (entries entries' : Entries) :
    keys (entries ++ entries') = entries.keys ++ entries'.keys :=
  List.map_append

/-- A key that is not there has no value. -/
lemma get?_eq_none {entries : Entries} {key : Key} (h : key ∉ entries.keys) :
    entries.get? key = none := by
  simp only [get?, Option.map_eq_none_iff, List.find?_eq_none, beq_iff_eq]
  rintro entry hentry rfl
  exact h (List.mem_map_of_mem hentry)

/-- An entry that is added under a new key is found. -/
lemma get?_append_singleton {front : Entries} {key : Key} (h : key ∉ front.keys) (value : Value) :
    get? (front ++ [(key, value)]) key = some value := by
  have hnone : (front.find? fun e => e.1 == key) = none := by
    simpa [get?] using get?_eq_none h
  simp [get?, List.find?_append, hnone]

/-- An entry at the end gets another value. -/
lemma set_append_singleton {front : Entries} {key : Key} (h : key ∉ front.keys)
    (value value' : Value) :
    set (front ++ [(key, value)]) key value' = front ++ [(key, value')] := by
  have hfront : set front key value' = front := by
    rw [set, List.map_congr_left (g := id), List.map_id]
    intro e he
    rw [if_neg, id]
    intro heq
    exact h (List.mem_map.2 ⟨e, he, by simpa using heq⟩)
  rw [set, List.map_append, ← set, hfront]
  simp

end Entries

/-- The lines turn one document into another. -/
def Adds (lines : List Line) (d d' : Draft) : Prop :=
  lines.foldlM Draft.add d = some d'

namespace Adds

/-- Without lines a document stays as it is. -/
lemma nil (d : Draft) : Adds [] d d := rfl

/-- A single line turns a document into what it adds to it. -/
lemma single {line : Line} {d d' : Draft} (h : d.add line = some d') : Adds [line] d d' := by
  simp [Adds, h]

/-- Lines after lines. -/
lemma append {lines lines' : List Line} {d d' d'' : Draft} (h : Adds lines d d')
    (h' : Adds lines' d' d'') : Adds (lines ++ lines') d d'' := by
  simp only [Adds] at h h' ⊢
  rw [List.foldlM_append, h]
  exact h'

/-- The table of the document that the lines make. -/
lemma build_eq {lines : List Line} {d : Draft} (h : Adds lines {} d) : build lines = some d.root := by
  rw [build, h]
  rfl

end Adds

/-- The path leads to an open table, whatever is in it: `put` gives what is around it. -/
def IsPlace (path : List Key) (put : Entries → Entries) : Prop :=
  ∀ (change : Entries → Option Entries) (inner : Entries),
    descend change path (put inner) = (change inner).map put

/-- A path is followed in two goes. -/
lemma descend_append (change : Entries → Option Entries) (path path' : List Key)
    (entries : Entries) :
    descend change (path ++ path') entries = descend (descend change path') path entries := by
  induction path generalizing entries with
  | nil => rfl
  | cons k path ih => simp only [List.cons_append, descend, ih]

namespace IsPlace

variable {path : List Key} {put : Entries → Entries}

/-- The document is an open table. -/
lemma root : IsPlace [] id := by
  intro change inner
  simp [descend]

/-- The last table of an open table is open. -/
lemma last (h : IsPlace path put) {front : Entries} {key : Key} (hkey : key ∉ front.keys) :
    IsPlace (path ++ [key]) fun inner => put (front ++ [(key, .table .header inner)]) := by
  intro change inner
  rw [descend_append, h]
  simp only [descend, Entries.get?_append_singleton hkey, reduceCtorEq, if_false,
    Entries.set_append_singleton hkey, Option.map_map]
  rfl

/-- The only table of a document. -/
lemma only (key : Key) : IsPlace [key] fun inner => [(key, .table .header inner)] :=
  root.last (show key ∉ Entries.keys [] from List.not_mem_nil)

/-- **A header opens an empty table** at the end of an open one. -/
lemma adds_header (h : IsPlace path put) {inner : Entries} {key : Key} (hkey : key ∉ inner.keys)
    (current : List Key) :
    Adds [.header false path key] { root := put inner, current }
      { root := put (inner ++ [(key, .table .header [])]), current := path ++ [key] } := by
  have hopen : openTable key inner = some (inner ++ [(key, .table .header [])]) := by
    simp [openTable, Entries.get?_eq_none hkey]
  apply Adds.single
  show (descend (openTable key) path (put inner)).map _ = _
  rw [h, hopen]
  rfl

/-- An assignment adds an entry to the table it is made in, under a new key. -/
lemma adds_assignment (h : IsPlace path put) {inner : Entries} {key : Key}
    (hkey : key ∉ inner.keys) (value : Value) :
    Adds [.assignment [] key value] { root := put inner, current := path }
      { root := put (inner ++ [(key, value)]), current := path } := by
  have hassign : assign key value [] inner = some (inner ++ [(key, value)]) := by
    simp [assign, Entries.add?, Entries.get?_eq_none hkey]
  apply Adds.single
  rw [Draft.add, h, hassign]
  rfl

/-- **Assignments under new names are added in their order.** -/
lemma adds_assignments (h : IsPlace path put) {inner entries : Entries}
    (hkeys : (inner ++ entries).keys.Nodup) :
    Adds (entries.map fun e => .assignment [] e.1 e.2) { root := put inner, current := path }
      { root := put (inner ++ entries), current := path } := by
  induction entries generalizing inner with
  | nil =>
    rw [List.append_nil]
    exact Adds.nil _
  | cons e entries ih =>
    have hnew : e.1 ∉ inner.keys := by
      rw [Entries.keys_append, List.nodup_append] at hkeys
      intro hmem
      exact hkeys.2.2 _ hmem _ (by simp [Entries.keys]) rfl
    have hrest := ih (show ((inner ++ [e]) ++ entries).keys.Nodup by rwa [List.append_assoc])
    rw [List.append_assoc] at hrest
    exact (h.adds_assignment hnew e.2).append hrest

/-- An empty table is filled. -/
lemma adds_entries (h : IsPlace path put) {entries : Entries} (hkeys : entries.keys.Nodup) :
    Adds (entries.map fun e => .assignment [] e.1 e.2) { root := put [], current := path }
      { root := put entries, current := path } :=
  h.adds_assignments (show (Entries.keys ([] ++ entries)).Nodup from hkeys)

end IsPlace

end DocComments.Toml
