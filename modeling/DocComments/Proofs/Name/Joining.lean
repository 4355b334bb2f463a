import DocComments.Proofs.Name.Scopes
import Mathlib.Algebra.Group.Nat.Even
import Mathlib.Data.List.DropRight

set_option autoImplicit false

/-!
# Splitting a name and joining it again

Splitting a name at its scopes and joining the components with `::` undo each other. The cursor behind
a separator stands outside any list and looks back at a colon, so it reads on as if the name started
there: the components from any place on are those of their own join. For the other direction the text
in front of a separator has to be read to an end outside any list and must not end in a colon, since
the colons of a run are taken in pairs from the left. This says exactly which `::` are separators.

## Main definitions

* `trailingColons` — the number of colons at the end of a text.
* `SeparatesBehind` — a separator of a name stands behind a text.

## Main results

* `exists_of_splitScopes_eq` — what the first separator of a name has before and behind it.
* `splitScopes_joinScopes_drop` — the components from a place on.
* `splitScopes_joinScopes` — texts that are joined are split again.
* `separatesBehind_iff` — which `::` are separators.
* `splitScopes_inverse_joinScopes` — splitting and joining undo each other.
-/

namespace DocComments.Name

/-! ## Colons -/

/-- An operator name has no colon in it. -/
lemma colon_not_mem_of_readOperator? {before : Option Char} {text token rest : List Char}
    (h : readOperator? before text = some (token, rest)) : ':' ∉ token := by
  obtain ⟨-, blanks, tail, -, -, rfl, -⟩ := readOperator?_cases h
  simp only [List.mem_append, List.mem_replicate, not_or]
  refine ⟨by decide, by simp, fun hmem => ?_⟩
  rcases isSymbol_readSymbol tail with hpair | hpair | hrun
  · rw [hpair] at hmem
    exact absurd hmem (by decide)
  · rw [hpair] at hmem
    exact absurd hmem (by decide)
  · exact absurd (hrun ':' hmem) (by decide)

/-- Colons are delimiters. -/
lemma delimits_colon (front back : List Char) : Delimits front (':' :: back) := by
  refine .inr fun x hx => ?_
  cases hx
  decide +kernel

/-- The number of colons at the end of a text. -/
def trailingColons (text : List Char) : Nat :=
  (text.rtakeWhile (· == ':')).length

/-- A text that does not end in a colon has none at its end. -/
lemma trailingColons_of_getLast?_ne {text : List Char} (h : text.getLast? ≠ some ':') :
    trailingColons text = 0 := by
  have hnil : text.rtakeWhile (· == ':') = [] := by
    rw [List.rtakeWhile_eq_nil_iff]
    intro hne hcolon
    rw [List.getLast?_eq_some_getLast hne] at h
    exact h (congrArg some (by simpa using hcolon))
  rw [trailingColons, hnil, List.length_nil]

/-- One more colon at the end. -/
@[simp]
lemma trailingColons_append_colon (text : List Char) :
    trailingColons (text ++ [':']) = trailingColons text + 1 := by
  rw [trailingColons, List.rtakeWhile_concat_pos _ _ _ (by rfl), List.length_append,
    List.length_singleton, trailingColons]

/-- The colons at the end of a text are those of its last part, unless that consists of colons. -/
lemma trailingColons_append (front back : List Char) : trailingColons (front ++ back)
    = trailingColons back + if back.all (· == ':') then trailingColons front else 0 := by
  induction back using List.reverseRecOn with
  | nil => simp [trailingColons]
  | append_singleton back c ih =>
    rw [← List.append_assoc]
    by_cases hc : c = ':'
    · subst hc
      have hall : (back ++ [':']).all (· == ':') = back.all (· == ':') := by simp
      rw [trailingColons_append_colon, trailingColons_append_colon, ih, hall]
      omega
    · have hlast : ∀ text : List Char, (text ++ [c]).getLast? ≠ some ':' := by simp [hc]
      have hall : (back ++ [c]).all (· == ':') = false := by simp [hc]
      rw [trailingColons_of_getLast?_ne (hlast _), trailingColons_of_getLast?_ne (hlast _), hall]
      rfl

/-- A text is a text that does not end in a colon, and colons. -/
lemma exists_eq_append_colons (text : List Char) : ∃ front : List Char,
    front.getLast? ≠ some ':' ∧ text = front ++ List.replicate (trailingColons text) ':' := by
  induction text using List.reverseRecOn with
  | nil => exact ⟨[], by simp, rfl⟩
  | append_singleton text c ih =>
    by_cases hc : c = ':'
    · subst hc
      obtain ⟨front, hfront, htext⟩ := ih
      refine ⟨front, hfront, ?_⟩
      rw [trailingColons_append_colon, List.replicate_succ', ← List.append_assoc, ← htext]
    · refine ⟨text ++ [c], by simp [hc], ?_⟩
      rw [trailingColons_of_getLast?_ne (by simp [hc]), List.replicate_zero, List.append_nil]

/-! ## The nesting behind a separator -/

/-- A colon leaves the nesting as it is. -/
lemma endsAtTop_append_colon (text : List Char) : EndsAtTop (text ++ [':']) ↔ EndsAtTop text := by
  set last := (Cursor.start text).finish.followedBy [':'] with hlast
  have hrest : last.rest = [':'] := by
    rw [hlast, Cursor.followedBy, Cursor.rest_finish]
    rfl
  have hfinish : (Cursor.start (text ++ [':'])).finish
      = { last with before := some ':', rest := [] } := by
    rw [← Cursor.finish_of_nil (c := { last with before := some ':', rest := [] }) rfl,
      ← Cursor.finish_of_bump? (Cursor.bump?_of_colon hrest)]
    exact Cursor.finish_followedBy (c := Cursor.start text) (delimits_colon _ _)
  rw [EndsAtTop, hfinish]
  rfl

/-- Colons leave the nesting as it is. -/
lemma endsAtTop_append_colons (text : List Char) (n : Nat) :
    EndsAtTop (text ++ List.replicate n ':') ↔ EndsAtTop text := by
  induction n with
  | zero => rw [List.replicate_zero, List.append_nil]
  | succ n ih => rw [List.replicate_succ', ← List.append_assoc, endsAtTop_append_colon, ih]

/-- Behind a separator a name is read as if it stood alone. -/
lemma endsAtTop_append {front : List Char} (htop : EndsAtTop front) (back : List Char) :
    EndsAtTop (front ++ ':' :: ':' :: back) ↔ EndsAtTop back := by
  set last := (Cursor.start front).finish.followedBy (':' :: ':' :: back) with hlast
  have hrest : last.rest = ':' :: ':' :: back := by
    rw [hlast, Cursor.followedBy, Cursor.rest_finish]
    rfl
  have hfinish : (Cursor.start (front ++ ':' :: ':' :: back)).finish
      = ({ last with before := some ':', rest := back } : Cursor).finish := by
    rw [← Cursor.finish_of_colons hrest]
    exact Cursor.finish_followedBy (c := Cursor.start front) (delimits_colon _ _)
  obtain ⟨hangle, hparen⟩ : last.angle = 0 ∧ last.paren = 0 := by
    have htop' : (last.angle == 0 && last.paren == 0) = true := htop
    simpa using htop'
  have hstart : ({ last with before := some ':', rest := back } : Cursor)
      = { Cursor.start back with before := some ':' } := by
    simp [Cursor.start, hangle, hparen]
  rw [EndsAtTop, hfinish, hstart, Cursor.atTop_finish_before (by rfl), EndsAtTop]

/-! ## The first separator -/

/-- A token is read in the same way if the text ends before a colon that stands behind it. -/
lemma Cursor.bump?_of_followedBy {c next : Cursor} {token front back : List Char}
    (hrest : c.rest = token ++ front ++ ':' :: back) (h : c.bump? = some (token, next)) :
    ({ c with rest := token ++ front } : Cursor).bump?
      = some (token, { next with rest := front }) := by
  have hne : token ++ front ≠ [] := by simp [bump?_token_ne_nil h]
  cases hbump : ({ c with rest := token ++ front } : Cursor).bump? with
  | none => exact absurd (bump?_eq_none_iff.1 hbump) hne
  | some read =>
    obtain ⟨token', next'⟩ := read
    have happend : token' ++ next'.rest = token ++ front := bump?_append hbump
    have hlong := bump?_followedBy (delimits_colon (token ++ front) back) hbump
    have hsame : ({ c with rest := token ++ front } : Cursor).followedBy (':' :: back) = c := by
      rw [followedBy, ← hrest]
    rw [hsame, h] at hlong
    obtain ⟨rfl, rfl⟩ : token = token' ∧ next = next'.followedBy (':' :: back) := by
      simpa using hlong
    rw [← List.append_cancel_left happend]
    rfl

/-- **What the first separator has before and behind it**, from a cursor on: the first component, which
is read to an end outside any list and does not end in a colon, and a name with the other components.

**Proof sketch.** Induction along the tokens. Those of the first component are read in the same way
without the separator behind it. If the component ended in a colon, the separator would have started
there. -/
lemma Cursor.exists_of_components_eq {c : Cursor} {first next : List Char}
    {others : List (List Char)} (h : components c.steps = first :: next :: others) :
    ∃ back, c.rest = first ++ ':' :: ':' :: back ∧ splitScopes back = next :: others ∧
      ({ c with rest := first } : Cursor).finish.atTop = true ∧ first.getLast? ≠ some ':' := by
  induction hlength : c.rest.length using Nat.strong_induction_on generalizing c first with
  | _ n ih =>
    cases hbump : c.bump? with
    | none =>
      rw [steps_of_nil (bump?_eq_none_iff.1 hbump)] at h
      cases h
    | some read =>
      obtain ⟨token, after⟩ := read
      cases hsep : Step.isSeparator ⟨c, token⟩ with
      | true =>
        obtain ⟨htop, back, hrest⟩ := Step.isSeparator_iff.1 hsep
        have hcolons : c.rest = ':' :: ':' :: back := hrest
        have hatTop : c.atTop = true := htop
        obtain ⟨hangle, hparen⟩ : c.angle = 0 ∧ c.paren = 0 := by simpa [atTop] using hatTop
        have hback : components ({ Cursor.start back with before := some ':' } : Cursor).steps
            = splitScopes back := components_before rfl
        rw [components_of_colons htop hcolons] at h
        obtain ⟨rfl, hothers⟩ := List.cons.inj h
        refine ⟨back, hcolons, ?_, ?_, by simp⟩
        · rw [← hback, ← hothers]
          simp [Cursor.start, hangle, hparen]
        · rw [finish_of_nil (c := { c with rest := [] }) rfl]
          exact htop
      | false =>
        rw [steps_of_bump? hbump, components_cons hsep] at h
        cases hparts : components after.steps with
        | nil => exact absurd hparts (components_ne_nil _)
        | cons piece pieces =>
          rw [hparts] at h
          obtain ⟨rfl, rfl⟩ : token ++ piece = first ∧ pieces = next :: others := List.cons.inj h
          obtain ⟨back, hrest, hback, htop, hcolon⟩ :=
            ih _ (hlength ▸ bump?_length hbump) hparts rfl
          have hwhole : c.rest = token ++ piece ++ ':' :: ':' :: back := by
            rw [← bump?_append hbump, hrest, List.append_assoc]
          refine ⟨back, hwhole, hback, ?_, ?_⟩
          · rwa [finish_of_bump? (bump?_of_followedBy hwhole hbump)]
          · intro hlast
            rw [List.getLast?_append] at hlast
            rcases List.eq_nil_or_concat piece with rfl | ⟨start, x, rfl⟩
            · -- the separator would start at the colon that ends the token
              have hmem : ':' ∈ token := List.mem_of_getLast? hlast
              rcases bump?_cases hbump with ⟨rest, hread, -⟩ | ⟨char, rest, -, -, rfl, rfl⟩
              · exact colon_not_mem_of_readOperator? hread hmem
              · obtain rfl : ':' = char := List.mem_singleton.1 hmem
                have hatTop : c.atTop = true := by
                  rw [finish_of_nil (c := { c.pass ':' rest with rest := [] }) rfl] at htop
                  exact htop
                have hsep' : Step.isSeparator ⟨c, [':']⟩ = true :=
                  Step.isSeparator_iff.2 ⟨hatTop, ':' :: back, by simpa using hwhole⟩
                rw [hsep] at hsep'
                cases hsep'
            · simp at hcolon hlast
              exact hcolon hlast

/-- What the first separator of a name has before and behind it. -/
lemma exists_of_splitScopes_eq {name first next : List Char} {others : List (List Char)}
    (h : splitScopes name = first :: next :: others) :
    ∃ back, name = first ++ ':' :: ':' :: back ∧ splitScopes back = next :: others ∧
      EndsAtTop first ∧ first.getLast? ≠ some ':' :=
  Cursor.exists_of_components_eq h

/-! ## Joining -/

/-- The first component is followed by a separator if there are others. -/
lemma joinScopes_cons {parts : List (List Char)} (hne : parts ≠ []) (first : List Char) :
    joinScopes (first :: parts) = first ++ ':' :: ':' :: joinScopes parts := by
  obtain ⟨next, others, rfl⟩ := List.exists_cons_of_ne_nil hne
  rw [joinScopes, Text.join_cons_cons, joinScopes]
  simp

/-- Two lists of components are joined with a separator between them. -/
lemma joinScopes_append {left right : List (List Char)} (hleft : left ≠ []) (hright : right ≠ []) :
    joinScopes (left ++ right) = joinScopes left ++ ':' :: ':' :: joinScopes right := by
  induction left with
  | nil => exact absurd rfl hleft
  | cons first left ih =>
    cases left with
    | nil => exact joinScopes_cons hright first
    | cons next left =>
      have hnext : joinScopes (first :: next :: left)
          = first ++ ':' :: ':' :: joinScopes (next :: left) := joinScopes_cons (by simp) first
      rw [List.cons_append, joinScopes_cons (by simp), ih (by simp), hnext, List.append_assoc,
        List.cons_append, List.cons_append]

/-- A name has at least one component. -/
lemma splitScopes_ne_nil (name : List Char) : splitScopes name ≠ [] :=
  components_ne_nil _

/-- **The components of a name from a place on** are those of their own join. -/
lemma splitScopes_joinScopes_drop {name : List Char} {k : Nat}
    (hk : k < (splitScopes name).length) :
    splitScopes (joinScopes ((splitScopes name).drop k)) = (splitScopes name).drop k := by
  induction k generalizing name with
  | zero => rw [List.drop_zero, joinScopes_splitScopes]
  | succ k ih =>
    match hparts : splitScopes name with
    | [] => exact absurd hparts (splitScopes_ne_nil name)
    | [first] =>
      rw [hparts, List.length_singleton] at hk
      omega
    | first :: next :: others =>
      obtain ⟨back, -, hback, -, -⟩ := exists_of_splitScopes_eq hparts
      rw [List.drop_succ_cons, ← hback]
      refine ih ?_
      rw [hback]
      simpa [hparts] using hk

/-- **Texts that are joined are split again**, if each is a single component, and each but the last is
read to an end outside any list and does not end in a colon. -/
lemma splitScopes_joinScopes {parts : List (List Char)} (hne : parts ≠ [])
    (hsingle : ∀ part ∈ parts, splitScopes part = [part])
    (hends : ∀ part ∈ parts.dropLast, part.getLast? ≠ some ':' ∧ EndsAtTop part) :
    splitScopes (joinScopes parts) = parts := by
  induction parts with
  | nil => exact absurd rfl hne
  | cons first parts ih =>
    obtain ⟨hfirst, hrest⟩ := List.forall_mem_cons.1 hsingle
    cases parts with
    | nil => exact hfirst
    | cons next others =>
      rw [List.dropLast_cons_cons] at hends
      obtain ⟨⟨hcolon, htop⟩, hends'⟩ := List.forall_mem_cons.1 hends
      rw [joinScopes_cons (by simp), splitScopes_append htop hcolon, hfirst,
        ih (by simp) hrest hends', List.singleton_append]

/-! ## Separators -/

/-- A separator of the name stands behind the given text: this is what the components in front of the
separator make up. -/
def SeparatesBehind (name front : List Char) : Prop :=
  ∃ left right, left ≠ [] ∧ right ≠ [] ∧ splitScopes name = left ++ right ∧ joinScopes left = front

/-- What stands in front of a separator is read to an end outside any list, and ends in an even number
of colons. -/
lemma SeparatesBehind.endsAtTop {name front : List Char} (h : SeparatesBehind name front) :
    EndsAtTop front ∧ Even (trailingColons front) := by
  obtain ⟨left, right, hleft, hright, hsplit, rfl⟩ := h
  induction left generalizing name with
  | nil => exact absurd rfl hleft
  | cons first left ih =>
    obtain ⟨next, others, hothers⟩ := List.exists_cons_of_ne_nil
      (List.append_ne_nil_of_right_ne_nil left hright)
    rw [List.cons_append, hothers] at hsplit
    obtain ⟨back, -, hback, htop, hcolon⟩ := exists_of_splitScopes_eq hsplit
    cases left with
    | nil =>
      refine ⟨htop, ?_⟩
      rw [show joinScopes [first] = first from rfl, trailingColons_of_getLast?_ne hcolon]
      exact Even.zero
    | cons second left =>
      obtain ⟨htop', heven⟩ := ih (by simp) (hback.trans hothers.symm)
      have hcolons : trailingColons (first ++ [':', ':']) = 2 := by
        have hassoc : first ++ [':', ':'] = first ++ [':'] ++ [':'] := by simp
        rw [hassoc, trailingColons_append_colon, trailingColons_append_colon,
          trailingColons_of_getLast?_ne hcolon]
      have happend : first ++ ':' :: ':' :: joinScopes (second :: left)
          = first ++ [':', ':'] ++ joinScopes (second :: left) := by simp
      rw [joinScopes_cons (by simp), endsAtTop_append htop, happend, trailingColons_append, hcolons]
      refine ⟨htop', heven.add ?_⟩
      split
      · exact ⟨1, rfl⟩
      · exact Even.zero

/-- Colons in pairs are empty components. -/
lemma splitScopes_colons (n : Nat) (back : List Char) :
    splitScopes (List.replicate (2 * n) ':' ++ ':' :: ':' :: back)
      = List.replicate (n + 1) [] ++ splitScopes back := by
  have hpair : ∀ back, splitScopes (':' :: ':' :: back) = [] :: splitScopes back := by
    intro back
    have hback : components ({ Cursor.start back with before := some ':' } : Cursor).steps
        = splitScopes back := Cursor.components_before rfl
    rw [← hback]
    exact Cursor.components_of_colons (c := Cursor.start (':' :: ':' :: back)) rfl rfl
  induction n with
  | zero => exact hpair back
  | succ n ih =>
    have htwo : List.replicate (2 * (n + 1)) ':' = ':' :: ':' :: List.replicate (2 * n) ':' := rfl
    rw [htwo, List.cons_append, List.cons_append, hpair, ih, List.replicate_succ (n := n + 1),
      List.cons_append]

/-- **Which `::` are separators**: those in front of which the name is read to an end outside any list
with an even number of colons. -/
lemma separatesBehind_iff (front back : List Char) :
    SeparatesBehind (front ++ ':' :: ':' :: back) front
      ↔ EndsAtTop front ∧ Even (trailingColons front) := by
  refine ⟨SeparatesBehind.endsAtTop, ?_⟩
  rintro ⟨htop, heven⟩
  obtain ⟨start, hstart, hfront⟩ := exists_eq_append_colons front
  obtain ⟨n, hn⟩ := heven
  rw [show trailingColons front = 2 * n by omega] at hfront
  rw [hfront, endsAtTop_append_colons] at htop
  have hsplit : splitScopes (front ++ ':' :: ':' :: back)
      = splitScopes start ++ List.replicate n [] ++ splitScopes back := by
    cases n with
    | zero =>
      have hself : front = start := by simpa using hfront
      rw [hself, splitScopes_append htop hstart]
      simp
    | succ n =>
      have hassoc : front ++ ':' :: ':' :: back
          = start ++ ':' :: ':' :: (List.replicate (2 * n) ':' ++ ':' :: ':' :: back) := by
        have htwo : List.replicate (2 * (n + 1)) ':' = ':' :: ':' :: List.replicate (2 * n) ':' := rfl
        rw [hfront, htwo]
        simp
      rw [hassoc, splitScopes_append htop hstart, splitScopes_colons, List.append_assoc]
  have hleft : splitScopes start ++ List.replicate n [] ≠ [] :=
    List.append_ne_nil_of_left_ne_nil (splitScopes_ne_nil start) _
  refine ⟨_, _, hleft, splitScopes_ne_nil back, hsplit, ?_⟩
  -- what is in front of the separator is what is left of the whole name
  have hjoin := joinScopes_splitScopes (front ++ ':' :: ':' :: back)
  rw [hsplit, joinScopes_append hleft (splitScopes_ne_nil back), joinScopes_splitScopes back] at hjoin
  exact List.append_cancel_right hjoin

/-- **Splitting and joining undo each other.** A name has at least one component, its components joined
are the name, and those from any place on are the components of their own join. Conversely, take texts
each of which is a single component, and each of which but the last is read to an end outside any list
and does not end in a colon: joined they are split into the same texts. So a `::` in or behind an open
list is never a separator, and every other one is, where the colons of a run are taken in pairs from the
left.

**Proof sketch.** The tokens of the first component are the same without the separator behind it, and
behind a separator the cursor reads on as at the start of a name. Both directions follow by induction on
the components. A text in front of a separator is what some components make up, so it is read to an end
outside any list, and each empty component at its end is a pair of colons. -/
theorem splitScopes_inverse_joinScopes (name : List Char) :
    splitScopes name ≠ [] ∧ joinScopes (splitScopes name) = name ∧
    (∀ k < (splitScopes name).length,
      splitScopes (joinScopes ((splitScopes name).drop k)) = (splitScopes name).drop k) ∧
    (∀ parts : List (List Char), parts ≠ [] → (∀ part ∈ parts, splitScopes part = [part]) →
      (∀ part ∈ parts.dropLast, part.getLast? ≠ some ':' ∧ EndsAtTop part) →
      splitScopes (joinScopes parts) = parts) ∧
    ∀ front back, name = front ++ ':' :: ':' :: back →
      (SeparatesBehind name front ↔ EndsAtTop front ∧ Even (trailingColons front)) := by
  refine ⟨splitScopes_ne_nil name, joinScopes_splitScopes name,
    fun k hk => splitScopes_joinScopes_drop hk, fun parts => splitScopes_joinScopes, ?_⟩
  rintro front back rfl
  exact separatesBehind_iff front back

/-- A name with a `::` in a template list, an operator name, and a run of five colons. -/
theorem splitScopes_inverse_joinScopes_colons :
    splitScopes (joinScopes ["ns".toList, "v<a::b>".toList, "operator<".toList, ":f".toList])
      = ["ns".toList, "v<a::b>".toList, "operator<".toList, ":f".toList] ∧
    splitScopes "operator<:::::f".toList = ["operator<".toList, [], ":f".toList] ∧
    SeparatesBehind "operator<:::::f".toList "operator<::".toList ∧
    ¬SeparatesBehind "operator<:::::f".toList "operator<:".toList := by
  have h := splitScopes_inverse_joinScopes "operator<:::::f".toList
  refine ⟨?_, by decide +kernel, ?_, ?_⟩
  · exact h.2.2.2.1 _ (by decide) (by decide +kernel) (by decide +kernel)
  · exact (h.2.2.2.2 "operator<::".toList ":f".toList (by decide)).2
      ⟨by decide +kernel, by decide +kernel⟩
  · intro hsep
    exact absurd ((h.2.2.2.2 "operator<:".toList "::f".toList (by decide)).1 hsep).2
      (by decide +kernel)

end DocComments.Name
