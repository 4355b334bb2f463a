set_option autoImplicit false

/-!
# Sets of code points

A class of characters is given by the places where membership changes: the increasing list
`[a, b, c, d, …]` stands for the code points from `a` up to but not including `b`, from `c` up to
but not including `d`, and so on. A code point belongs to the class when an odd number of changes
lies at or before it.

## Main definitions

* `CodeSet` — a set of code points, as its list of changes.
* `CodeSet.contains` — membership.
-/

namespace DocComments.Text

/-- A set of code points, as the increasing list of the places where membership changes. -/
structure CodeSet where
  changes : List Nat

/-- A code point belongs to the set when an odd number of changes lies at or before it. -/
def CodeSet.contains (s : CodeSet) (n : Nat) : Bool :=
  s.changes.countP (· ≤ n) % 2 == 1

/-- Without changes nothing belongs to the set. -/
@[simp]
theorem CodeSet.contains_empty (n : Nat) : CodeSet.contains ⟨[]⟩ n = false := rfl

/-- A single range holds exactly the code points from its start up to its end. -/
theorem CodeSet.contains_range {a b : Nat} (h : a ≤ b) (n : Nat) :
    CodeSet.contains ⟨[a, b]⟩ n = true ↔ a ≤ n ∧ n < b := by
  by_cases ha : a ≤ n <;> by_cases hb : b ≤ n <;>
    simp [CodeSet.contains, ha, hb] <;> omega

end DocComments.Text
