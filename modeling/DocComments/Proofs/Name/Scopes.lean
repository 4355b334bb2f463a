import DocComments.Proofs.Name.Delimited

set_option autoImplicit false

/-!
# Scopes in front of a name

A scope prefix is empty or ends in `::`. If it is read to an end outside any list, what follows it is
read as if it stood alone: the colon before it belongs to no identifier, and a cursor looks at the
character before it only to see whether it does. So the components of a scoped name are those of the
scope and those of the name behind it, provided that the scope does not end in a colon itself.

## Main definitions

* `IsScope` — the text is empty or ends in `::`.

## Main results

* `Cursor.bump?_before` — a cursor depends on the character before it only as one of an identifier.
* `IsScope.steps_append` — the tokens of a name in a scope.
* `IsScope.stripTemplates` — a scope is one without its template arguments as well.
* `splitScopes_append` — the components of a name in a scope.
-/

namespace DocComments.Name

/-! ## The character before -/

/-- Of the character before an operator name only counts whether it belongs to an identifier. -/
lemma readOperator?_before {before before' : Option Char}
    (h : before'.any isIdentifier = before.any isIdentifier) (text : List Char) :
    readOperator? before' text = readOperator? before text := by
  rw [readOperator?, readOperator?, h]

namespace Cursor

/-- A cursor depends on the character before it only as one of an identifier. -/
lemma bump?_before {c : Cursor} {before : Option Char}
    (h : before.any isIdentifier = c.before.any isIdentifier) :
    ({ c with before } : Cursor).bump? = c.bump? := by
  have hread : readOperator? before c.rest = readOperator? c.before c.rest :=
    readOperator?_before h c.rest
  cases hbump : c.bump? with
  | none =>
    have hrest : c.rest = [] := bump?_eq_none_iff.1 hbump
    exact bump?_eq_none_iff.2 hrest
  | some read =>
    obtain ⟨token, next⟩ := read
    rcases bump?_cases hbump with ⟨rest, hoperator, rfl⟩ | ⟨char, rest, hoperator, hrest, rfl, rfl⟩
    · exact bump?_of_operator (c := { c with before }) (hread.trans hoperator)
    · have hpass : ({ c with before } : Cursor).pass char rest = c.pass char rest := by
        unfold pass
        split <;> rfl
      rw [← hpass]
      exact bump?_of_char (c := { c with before }) (hread.trans hoperator) hrest

/-- Cursors that differ in the character before them only read the same tokens, and differ at the
first one only. -/
lemma steps_before {c : Cursor} {before : Option Char}
    (h : before.any isIdentifier = c.before.any isIdentifier) :
    (c.rest = [] ∧ ({ c with before } : Cursor).steps = [] ∧ c.steps = []) ∨
      ∃ (token : List Char) (next : Cursor), ({ c with before } : Cursor).steps
          = ⟨{ c with before }, token⟩ :: next.steps ∧ c.steps = ⟨c, token⟩ :: next.steps ∧
        ({ c with before } : Cursor).finish = next.finish ∧ c.finish = next.finish := by
  have hsame := bump?_before h
  cases hbump : c.bump? with
  | none =>
    have hrest := bump?_eq_none_iff.1 hbump
    exact .inl ⟨hrest, steps_of_nil (c := { c with before }) hrest, steps_of_nil hrest⟩
  | some read =>
    obtain ⟨token, next⟩ := read
    have hbump' := hsame.trans hbump
    exact .inr ⟨token, next, steps_of_bump? hbump', steps_of_bump? hbump, finish_of_bump? hbump',
      finish_of_bump? hbump⟩

/-- The components do not depend on which character stands before. -/
lemma components_before {c : Cursor} {before : Option Char}
    (h : before.any isIdentifier = c.before.any isIdentifier) :
    components ({ c with before } : Cursor).steps = components c.steps := by
  rcases steps_before h with ⟨-, hleft, hright⟩ | ⟨token, next, hleft, hright, -, -⟩
  · rw [hleft, hright]
  · -- separators are told by the nesting and what is to be read
    rw [hleft, hright]
    cases next.steps with
    | nil => rfl
    | cons s rest => rfl

/-- What is kept does not depend on which character stands before. -/
lemma text_filter_kept_before {c : Cursor} {before : Option Char}
    (h : before.any isIdentifier = c.before.any isIdentifier) :
    text (({ c with before } : Cursor).steps.filter Step.kept) = text (c.steps.filter Step.kept) := by
  rcases steps_before h with ⟨-, hleft, hright⟩ | ⟨token, next, hleft, hright, -, -⟩
  · rw [hleft, hright]
  · have hkept : Step.kept ⟨{ c with before }, token⟩ = Step.kept ⟨c, token⟩ := rfl
    rw [hleft, hright, List.filter_cons, List.filter_cons, hkept]
    split <;> rfl

/-- The nesting at the end does not depend on which character stands before. -/
lemma atTop_finish_before {c : Cursor} {before : Option Char}
    (h : before.any isIdentifier = c.before.any isIdentifier) :
    ({ c with before } : Cursor).finish.atTop = c.finish.atTop := by
  rcases steps_before h with ⟨hrest, -, -⟩ | ⟨token, next, -, -, hleft, hright⟩
  · rw [finish_of_nil hrest, finish_of_nil (c := { c with before }) hrest]
    rfl
  · rw [hleft, hright]

/-- A cursor that opens no list reaches the end outside any. -/
lemma atTop_finish {c : Cursor} (hc : c.atTop = true) (h : ∀ s ∈ c.steps, s.opens = false) :
    c.finish.atTop = true := by
  fun_induction finish c with
  | case1 c hbump => exact hc
  | case2 c token next hbump ih =>
    rw [steps_of_bump? hbump] at h
    obtain ⟨hopens, hnext⟩ := List.forall_mem_cons.1 h
    exact ih (atTop_next hc hbump hopens) hnext

/-- Two colons are passed on the way to the end. -/
lemma finish_of_colons {c : Cursor} {rest : List Char} (h : c.rest = ':' :: ':' :: rest) :
    c.finish = ({ c with before := some ':', rest } : Cursor).finish := by
  have hsecond : ({ c with before := some ':', rest := ':' :: rest } : Cursor).bump?
      = some ([':'], { c with before := some ':', rest }) := bump?_of_colon rfl
  rw [finish_of_bump? (bump?_of_colon h), finish_of_bump? hsecond]

end Cursor

/-! ## Scope prefixes -/

/-- The text is empty or ends in `::`. -/
def IsScope (scope : List Char) : Prop :=
  scope = [] ∨ [':', ':'] <:+ scope

/-- Whether a text is a scope is decided by its end. -/
instance (scope : List Char) : Decidable (IsScope scope) :=
  inferInstanceAs (Decidable (_ ∨ _))

namespace IsScope

variable {scope : List Char}

/-- A scope is empty or ends in a colon. -/
lemma getLast? (h : IsScope scope) : scope.getLast? = none ∨ scope.getLast? = some ':' := by
  rcases h with rfl | ⟨front, rfl⟩
  · exact .inl rfl
  · exact .inr (by simp)

/-- A scope is delimited from whatever follows. -/
lemma delimits (h : IsScope scope) (name : List Char) : Delimits scope name := by
  refine .inl fun x hx => ?_
  rcases h.getLast? with hlast | hlast
  · rw [hlast] at hx
    cases hx
  · rw [hlast] at hx
    cases hx
    decide +kernel

/-- **The tokens of a name in a scope**: those of the scope, and those of the name behind it, which is
reached outside any list. -/
lemma steps_append (h : IsScope scope) (htop : EndsAtTop scope) (name : List Char) :
    ∃ before : Option Char, before.any isIdentifier = false ∧ before ≠ some '>' ∧
      steps (scope ++ name) = (steps scope).map (Step.followedBy name)
        ++ ({ before, rest := name } : Cursor).steps := by
  have hsteps := Cursor.steps_followedBy (c := Cursor.start scope) (h.delimits name)
  have hbefore : (Cursor.start scope).finish.before = scope.getLast? := by
    rw [Cursor.before_finish]
    exact Option.or_none
  have hrest := Cursor.rest_finish (Cursor.start scope)
  unfold EndsAtTop at htop
  generalize (Cursor.start scope).finish = last at hsteps hbefore hrest htop
  obtain ⟨before, angle, paren, rest⟩ := last
  obtain ⟨rfl, rfl⟩ : angle = 0 ∧ paren = 0 := by simpa [Cursor.atTop] using htop
  subst hrest
  refine ⟨before, ?_, ?_, hsteps⟩
  · rcases h.getLast? with hlast | hlast <;> rw [hlast] at hbefore <;> subst hbefore <;> decide
  · rcases h.getLast? with hlast | hlast <;> rw [hlast] at hbefore <;> subst hbefore <;> decide

end IsScope

/-- A scope is one without its template arguments as well. -/
lemma IsScope.stripTemplates {scope : List Char} (h : IsScope scope) (htop : EndsAtTop scope) :
    IsScope (stripTemplates scope) := by
  rcases h with rfl | ⟨front, rfl⟩
  · exact .inl (by decide +kernel)
  have hd : Delimits (Cursor.start front).rest [':', ':'] := .inr fun x hx => by
    cases hx
    decide +kernel
  set last := (Cursor.start front).finish.followedBy [':', ':'] with hlast
  have hrest : last.rest = [':', ':'] := by
    rw [hlast, Cursor.followedBy, Cursor.rest_finish]
    rfl
  have hsteps : steps (front ++ [':', ':'])
      = (steps front).map (Step.followedBy [':', ':']) ++ last.steps := Cursor.steps_followedBy hd
  have hangle : last.angle = 0 := by
    have hfinish : (Cursor.start (front ++ [':', ':'])).finish
        = { last with before := some ':', rest := [] } := by
      rw [← Cursor.finish_of_nil (c := { last with before := some ':', rest := [] }) rfl,
        ← Cursor.finish_of_colons hrest]
      exact Cursor.finish_followedBy hd
    rw [EndsAtTop, hfinish] at htop
    simp only [Cursor.atTop, Bool.and_eq_true, beq_iff_eq] at htop
    exact htop.1
  have hsecond : ({ last with before := some ':', rest := [':'] } : Cursor).bump?
      = some ([':'], { last with before := some ':', rest := [] }) := Cursor.bump?_of_colon rfl
  have hcolons : text (last.steps.filter Step.kept) = [':', ':'] := by
    rw [Cursor.steps_of_bump? (Cursor.bump?_of_colon hrest), Cursor.steps_of_bump? hsecond,
      Cursor.steps_of_nil rfl]
    simp [Step.kept, hangle, text]
  refine .inr ⟨Name.stripTemplates front, ?_⟩
  rw [stripTemplates_eq (front ++ _), hsteps, List.filter_append, text_append, text_filter_followedBy,
    hcolons, ← stripTemplates_eq]

/-- A scope is still one without white space at its start. -/
lemma IsScope.trimStart {scope : List Char} (h : IsScope scope) : IsScope (Text.trimStart scope) := by
  rcases h with rfl | ⟨front, rfl⟩
  · exact .inl rfl
  · have hcolon : Option.any Text.isSpace [':', ':'].head? = false := by decide +kernel
    exact .inr ⟨Text.trimStart front, (Text.trimStart_append hcolon front).symm⟩

/-! ## Components -/

/-- A text that does not end in a colon gets no separator by going on with one. -/
lemma Step.isSeparator_followedBy {c : Cursor} {token : List Char} (hne : c.rest ≠ [])
    (hcolon : c.rest.getLast? ≠ some ':') (back : List Char) :
    isSeparator ⟨c.followedBy (':' :: ':' :: back), token⟩ = isSeparator ⟨c, token⟩ := by
  rw [Bool.eq_iff_iff, isSeparator_iff, isSeparator_iff]
  refine and_congr_right fun _ => ?_
  match hrest : c.rest with
  | [] => exact absurd hrest hne
  | [x] =>
    have hx : x ≠ ':' := by simpa [hrest] using hcolon
    simp [Cursor.followedBy, hrest, hx]
  | x :: y :: rest => simp [Cursor.followedBy, hrest]

/-- **The components of a name in a scope**, from a cursor on.

**Proof sketch.** Induction along the tokens. A token is at a separator of the scope just if it is at
one of the whole name: otherwise the scope would end in a single colon. -/
lemma Cursor.components_followedBy {c : Cursor} (htop : c.finish.atTop = true)
    (hcolon : c.rest.getLast? ≠ some ':') (back : List Char) :
    components (c.followedBy (':' :: ':' :: back)).steps
      = components c.steps ++ splitScopes back := by
  induction hlength : c.rest.length using Nat.strong_induction_on generalizing c with
  | _ n ih =>
    have hlast : ∀ token rest, token ++ rest = c.rest → rest.getLast? ≠ some ':' := by
      intro token rest heq hrest
      rw [← heq, List.getLast?_append, hrest] at hcolon
      exact hcolon rfl
    cases hbump : c.bump? with
    | none =>
      have hrest := bump?_eq_none_iff.1 hbump
      have hcolons : (c.followedBy (':' :: ':' :: back)).rest = ':' :: ':' :: back := by
        rw [followedBy, hrest]
        rfl
      rw [finish_of_nil hrest] at htop
      have htop' : (c.followedBy (':' :: ':' :: back)).atTop = true := htop
      obtain ⟨hangle, hparen⟩ : c.angle = 0 ∧ c.paren = 0 := by simpa [atTop] using htop
      have hback : components ({ Cursor.start back with before := some ':' } : Cursor).steps
          = splitScopes back := components_before rfl
      rw [steps_of_nil hrest, components_of_colons htop' hcolons]
      simpa [followedBy, hangle, hparen, components, Cursor.start] using hback
    | some read =>
      obtain ⟨token, next⟩ := read
      have happend := bump?_append hbump
      cases hsep : Step.isSeparator ⟨c, token⟩ with
      | true =>
        obtain ⟨hc, rest, hrest⟩ := Step.isSeparator_iff.1 hsep
        have hcolons : c.rest = ':' :: ':' :: rest := hrest
        have hshorter : rest.length < n := by
          rw [← hlength, hcolons, List.length_cons, List.length_cons]
          omega
        have hcolons' : (c.followedBy (':' :: ':' :: back)).rest
            = ':' :: ':' :: (rest ++ ':' :: ':' :: back) := by
          rw [followedBy, hcolons]
          rfl
        have hc' : (c.followedBy (':' :: ':' :: back)).atTop = true := hc
        have hafter := ih rest.length hshorter (c := { c with before := some ':', rest })
          (finish_of_colons hcolons ▸ htop) (hlast [':', ':'] rest hcolons.symm) rfl
        rw [components_of_colons hc hcolons, components_of_colons hc' hcolons', List.cons_append,
          ← hafter]
        rfl
      | false =>
        have hd : Delimits c.rest (':' :: ':' :: back) := .inr fun x hx => by
          cases hx
          decide +kernel
        have hne : c.rest ≠ [] := fun hnil => by
          rw [bump?_eq_none_iff.2 hnil] at hbump
          cases hbump
        have hsep' : Step.isSeparator ⟨c.followedBy (':' :: ':' :: back), token⟩ = false := by
          rw [Step.isSeparator_followedBy hne hcolon, hsep]
        have hnext := ih _ (hlength ▸ bump?_length hbump) (finish_of_bump? hbump ▸ htop)
          (hlast token next.rest happend) rfl
        rw [steps_of_bump? (bump?_followedBy hd hbump), steps_of_bump? hbump, components_cons hsep,
          components_cons hsep', hnext]
        cases hparts : components next.steps with
        | nil => exact absurd hparts (components_ne_nil _)
        | cons first others => rfl

/-- **The components of a name in a scope** are those of the scope and those of the name. -/
theorem splitScopes_append {scope : List Char} (htop : EndsAtTop scope)
    (hcolon : scope.getLast? ≠ some ':') (name : List Char) :
    splitScopes (scope ++ ':' :: ':' :: name) = splitScopes scope ++ splitScopes name :=
  Cursor.components_followedBy (c := Cursor.start scope) htop hcolon name

end DocComments.Name
