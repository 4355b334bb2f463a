import DocComments.Link.Registry
import Mathlib.Data.List.Nodup

set_option autoImplicit false

/-!
# Registrations of different documents commute

An entry of the registry is filed under its id and, below that, under its document. Entries of
different documents therefore never meet, and short names and documents are kept as sets. So it does
not matter in which order documents with different ids are registered.

## Main results

* `Table.alter_comm` — two changes of a table commute if they do so on a single value.
* `Registry.merge_comm` — registrations of different documents commute.
* `Registry.foldl_merge_perm` — the order of the registrations does not matter.
-/

namespace DocComments

/-! ## Tables -/

namespace Table

variable {β : Type}

/-- **Two changes of a table commute** if they have different keys or commute on the value of their
key. -/
lemma alter_comm (t : Table β) {key key' : String} {f g : Option β → β}
    (h : key = key' → ∀ old, f (some (g old)) = g (some (f old))) :
    (t.alter key f).alter key' g = (t.alter key' g).alter key f := by
  apply ext_get?
  intro other
  simp only [get?_alter]
  by_cases hkeys : key = key'
  · subst hkeys
    simp only [if_true, h rfl]
    split <;> rfl
  · rw [if_neg hkeys, if_neg (Ne.symm hkeys)]
    by_cases hother : other = key
    · have hne : other ≠ key' := fun heq => hkeys (hother.symm.trans heq)
      rw [if_pos hother, if_pos hother, if_neg hne]
    · rw [if_neg hother, if_neg hother]

/-- Values of different keys may be set in either order. -/
lemma insert_comm (t : Table β) {key key' : String} (h : key ≠ key') (value value' : β) :
    (t.insert key value).insert key' value' = (t.insert key' value').insert key value :=
  t.alter_comm fun heq => absurd heq h

end Table

/-- Names may be added to a set in either order. -/
lemma NameSet.insert_comm (names : NameSet) (name name' : String) :
    (Table.insert names name ()).insert name' () = (Table.insert names name' ()).insert name () :=
  Table.alter_comm names fun _ _ => rfl

/-! ## Registrations -/

namespace Registry

/-- Two loops over one state commute if any two of their steps do. -/
lemma foldl_foldl_comm {σ α β : Type} {step : σ → α → σ} {step' : σ → β → σ}
    (h : ∀ s a b, step (step' s b) a = step' (step s a) b) (s : σ) (as : List α) (bs : List β) :
    as.foldl step (bs.foldl step' s) = bs.foldl step' (as.foldl step s) := by
  induction as generalizing s with
  | nil => rfl
  | cons a as ih =>
    have hfront : step (bs.foldl step' s) a = bs.foldl step' (step s a) :=
      (List.foldl_hom (fun s => step s a) fun s b => (h s a b).symm).symm
    rw [List.foldl_cons, List.foldl_cons, hfront, ih]

/-- Ids of different documents may be added in either order. -/
lemma addLong_comm {document document' : String} (h : document ≠ document')
    (long : Table (Table String)) (entry entry' : String × String) :
    addLong document (addLong document' long entry') entry
      = addLong document' (addLong document long entry) entry' := by
  apply Table.alter_comm
  intro _ old
  exact Table.insert_comm _ h _ _

/-- Ids that short names stand for may be added in either order. -/
lemma addShort_comm (short : Table NameSet) (entry entry' : String × String) :
    addShort (addShort short entry') entry = addShort (addShort short entry) entry' := by
  apply Table.alter_comm
  intro _ old
  exact NameSet.insert_comm _ _ _

/-- **Registrations of different documents commute.** -/
lemma merge_comm (r : Registry) {x y : Registration} (h : x.document ≠ y.document) :
    (r.merge x).merge y = (r.merge y).merge x := by
  unfold merge
  congr 1
  · exact foldl_foldl_comm (fun long entry entry' => addLong_comm h.symm long entry entry') _ _ _
  · exact foldl_foldl_comm addShort_comm _ _ _
  · exact NameSet.insert_comm _ _ _

/-- **The order of the registrations does not matter** if they are those of different documents. -/
lemma foldl_merge_perm {xs ys : List Registration} (hperm : xs.Perm ys)
    (hdocuments : (xs.map (·.document)).Nodup) (r : Registry) :
    xs.foldl merge r = ys.foldl merge r := by
  apply hperm.foldl_eq'
  intro x hx y hy r
  by_cases hxy : x.document = y.document
  · rw [List.inj_on_of_nodup_map hdocuments hx hy hxy]
  · exact r.merge_comm hxy

end Registry

end DocComments
