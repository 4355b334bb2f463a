import DocComments.Proofs.Name.Delimited

set_option autoImplicit false

/-!
# Cutting off the argument list

The argument list of a name is cut off at the first bracket that opens one outside any list. The text in
front of it is read as before: an operator name that ends there has ended at its last symbol, which the
bracket does not belong to, and whether the word `operator` stands alone does not depend on the bracket,
which is no part of an identifier. So no other bracket opens an argument list once the first one is gone.

## Main results

* `readOperator?_eq_some_iff` — when an operator name is read, and which one.
* `readOperator?_cut`, `readOperator?_cut_none` — operator names in front of a cut.
* `Cursor.bump?_cut` — tokens in front of a cut.
* `text_takeWhile_append` — the text in front of the first token with some property.
* `stripSignature_prefix_self`, `stripSignature_stripSignature` — cutting off the argument list gives the
  front of the name, and does nothing the second time.
-/

namespace DocComments.Name

/-! ## Operator names -/

/-- **When an operator name is read, and which one**: behind no identifier, at the word with no identifier
going on, with the blanks and the symbol behind it. -/
lemma readOperator?_eq_some_iff {before : Option Char} {text token rest : List Char} :
    readOperator? before text = some (token, rest) ↔
      before.any isIdentifier = false ∧ ∃ tail, text = operatorWord ++ tail ∧
        tail.head?.any isIdentifier = false ∧
        token = operatorWord ++ (tail.takeWhile (· == ' ') ++ (readSymbol (tail.dropWhile (· == ' '))).1) ∧
        rest = (readSymbol (tail.dropWhile (· == ' '))).2 := by
  constructor
  · intro h
    rw [readOperator?] at h
    split at h
    · cases h
    rename_i hstart
    simp only [Bool.or_eq_true, Bool.not_eq_true', not_or, Bool.not_eq_false, Bool.not_eq_true]
      at hstart
    obtain ⟨tail, rfl⟩ := List.isPrefixOf_iff_prefix.1 hstart.1
    simp only [List.drop_left] at h
    split at h
    · cases h
    rename_i hident
    simp only [Option.some.injEq, Prod.mk.injEq] at h
    exact ⟨hstart.2, tail, rfl, Bool.not_eq_true _ ▸ hident, by rw [← h.1, List.append_assoc], h.2.symm⟩
  · rintro ⟨hbefore, tail, rfl, hident, rfl, rfl⟩
    have hword : operatorWord.isPrefixOf (operatorWord ++ tail) = true :=
      List.isPrefixOf_iff_prefix.2 (List.prefix_append _ _)
    simp only [readOperator?, hword, hbefore, List.drop_left, hident, List.append_assoc]
    rfl

/-- No operator name is empty. -/
lemma readOperator?_token_ne_nil {before : Option Char} {text token rest : List Char}
    (h : readOperator? before text = some (token, rest)) : token ≠ [] := by
  obtain ⟨-, tail, -, -, rfl, -⟩ := readOperator?_eq_some_iff.1 h
  simp [operatorWord]

/-- A symbol that ends in front of a bracket is read in the same way without the bracket. -/
lemma readSymbol_cut {symbol front back : List Char}
    (h : readSymbol (symbol ++ (front ++ '(' :: back)) = (symbol, front ++ '(' :: back)) :
    readSymbol (symbol ++ front) = (symbol, front) := by
  generalize htext : symbol ++ (front ++ '(' :: back) = text at h
  fun_cases readSymbol text with
  | case1 rest =>
    obtain ⟨rfl, rfl⟩ := Prod.mk.inj h
    rfl
  | case2 rest =>
    obtain ⟨rfl, rfl⟩ := Prod.mk.inj h
    rfl
  | case3 text hround hsquare =>
    rw [readSymbol.eq_3 _ hround hsquare] at h
    obtain ⟨htake, hdrop⟩ := Prod.mk.inj h
    have hround' : ∀ rest, symbol ++ front = '(' :: ')' :: rest → False := fun rest heq =>
      hround (rest ++ '(' :: back) (by rw [← htext, ← List.append_assoc, heq]; rfl)
    have hsquare' : ∀ rest, symbol ++ front = '[' :: ']' :: rest → False := fun rest heq =>
      hsquare (rest ++ '(' :: back) (by rw [← htext, ← List.append_assoc, heq]; rfl)
    have hsymbol : ∀ c ∈ symbol, operatorSymbols.contains c = true := fun c hc =>
      List.mem_takeWhile_imp (htake ▸ hc)
    have hfront : front.takeWhile operatorSymbols.contains = [] ∧
        front.dropWhile operatorSymbols.contains = front := by
      cases front with
      | nil => exact ⟨rfl, rfl⟩
      | cons a front =>
        have hhead := List.head?_dropWhile_not operatorSymbols.contains text
        rw [hdrop] at hhead
        have ha : ¬operatorSymbols.contains a = true := by simpa using hhead
        exact ⟨List.takeWhile_cons_of_neg ha, List.dropWhile_cons_of_neg ha⟩
    rw [readSymbol.eq_3 _ hround' hsquare', List.takeWhile_append_of_pos hsymbol,
      List.dropWhile_append_of_pos hsymbol, hfront.1, hfront.2, List.append_nil]

/-- What stands behind the word is no identifier, with and without a bracket behind it. -/
lemma head?_append_bracket (tail back : List Char) :
    (tail ++ '(' :: back).head?.any isIdentifier = tail.head?.any isIdentifier := by
  cases tail with
  | nil => rfl
  | cons a tail => rfl

/-- **An operator name in front of a bracket is read in the same way without the bracket.** -/
lemma readOperator?_cut {before : Option Char} {token front back : List Char}
    (h : readOperator? before (token ++ (front ++ '(' :: back)) = some (token, front ++ '(' :: back)) :
    readOperator? before (token ++ front) = some (token, front) := by
  obtain ⟨hbefore, tail, htext, hident, htoken, hrest⟩ := readOperator?_eq_some_iff.1 h
  set blanks := tail.takeWhile (· == ' ') with hblanks
  set symbol := (readSymbol (tail.dropWhile (· == ' '))).1 with hsymbol
  have htail : tail = blanks ++ (symbol ++ front) ++ '(' :: back := by
    rw [htoken] at htext
    simpa [List.append_assoc] using htext.symm
  have hparts : blanks = (blanks ++ (symbol ++ front)).takeWhile (· == ' ') ∧
      symbol ++ front = (blanks ++ (symbol ++ front)).dropWhile (· == ' ') := by
    have htake : blanks = (blanks ++ (symbol ++ front)).takeWhile (· == ' ') := by
      conv_lhs => rw [hblanks, htail, takeWhile_append_stop (by decide)]
    refine ⟨htake, ?_⟩
    have happend := List.takeWhile_append_dropWhile (p := (· == ' ')) (l := blanks ++ (symbol ++ front))
    rw [← htake] at happend
    exact (List.append_cancel_left happend).symm
  have hread : readSymbol (symbol ++ (front ++ '(' :: back)) = (symbol, front ++ '(' :: back) := by
    have hdrop : tail.dropWhile (· == ' ') = symbol ++ (front ++ '(' :: back) := by
      rw [htail, dropWhile_append_stop (by decide), ← hparts.2, List.append_assoc]
    rw [← hdrop]
    exact Prod.ext hsymbol.symm hrest.symm
  refine readOperator?_eq_some_iff.2 ⟨hbefore, blanks ++ (symbol ++ front), ?_, ?_, ?_, ?_⟩
  · rw [htoken, List.append_assoc, List.append_assoc]
  · rw [← head?_append_bracket _ back, ← htail, hident]
  · rw [← hparts.1, ← hparts.2, readSymbol_cut hread, htoken]
  · rw [← hparts.2, readSymbol_cut hread]

/-- No operator name is read in front of a bracket that is not read with the bracket. -/
lemma readOperator?_cut_none {before : Option Char} {front back : List Char}
    (h : readOperator? before (front ++ '(' :: back) = none) : readOperator? before front = none := by
  rw [Option.eq_none_iff_forall_ne_some]
  rintro ⟨token, rest⟩ hread
  obtain ⟨hbefore, tail, rfl, hident, -, -⟩ := readOperator?_eq_some_iff.1 hread
  have hlong := readOperator?_eq_some_iff.2 ⟨hbefore, tail ++ '(' :: back, rfl,
    (head?_append_bracket tail back).trans hident, rfl, rfl⟩
  rw [← List.append_assoc, h] at hlong
  cases hlong

/-! ## Tokens -/

namespace Cursor

/-- **A token in front of a bracket is read in the same way without the bracket.** -/
lemma bump?_cut {c next : Cursor} {token front back : List Char}
    (hrest : next.rest = front ++ '(' :: back) (h : c.bump? = some (token, next)) :
    ({ c with rest := token ++ front } : Cursor).bump?
      = some (token, { next with rest := front }) := by
  have happend := bump?_append h
  rcases bump?_cases h with ⟨rest, hread, rfl⟩ | ⟨char, rest, hread, hchar, rfl, rfl⟩
  · obtain rfl : rest = front ++ '(' :: back := hrest
    rw [← happend] at hread
    exact bump?_of_operator (c := { c with rest := token ++ front }) (readOperator?_cut hread)
  · rw [pass_rest] at hrest
    subst hrest
    rw [hchar] at hread
    have hpass : ({ c with rest := [char] ++ front } : Cursor).pass char front
        = { c.pass char (front ++ '(' :: back) with rest := front } := by
      unfold pass
      split <;> rfl
    have hshort : readOperator? c.before ([char] ++ front) = none := readOperator?_cut_none hread
    rw [← hpass]
    exact bump?_of_char hshort rfl

end Cursor

/-- **The text in front of the first token with some property**, and what is read from there on. -/
lemma Cursor.text_takeWhile_append {p : Step → Bool} {c : Cursor} {s : Step}
    (h : c.steps.find? p = some s) : text (c.steps.takeWhile (!p ·)) ++ s.cursor.rest = c.rest := by
  fun_induction Cursor.steps c with
  | case1 c hbump => cases h
  | case2 c token next hbump ih =>
    rw [List.find?_cons] at h
    cases hp : p ⟨c, token⟩ with
    | true =>
      rw [hp] at h
      cases h
      rw [List.takeWhile_cons_of_neg (by simp [hp]), text_nil, List.nil_append]
    | false =>
      rw [hp] at h
      rw [List.takeWhile_cons_of_pos (by simp [hp]), text_cons, List.append_assoc, ih h,
        bump?_append hbump]

/-! ## Argument lists -/

/-- The argument list starts with a bracket, or there is none. -/
lemma Cursor.text_takeWhile_opensArguments (c : Cursor) :
    (c.steps.find? Step.opensArguments = none ∧
        text (c.steps.takeWhile (!·.opensArguments)) = c.rest) ∨
      ∃ back, c.rest = text (c.steps.takeWhile (!·.opensArguments)) ++ '(' :: back := by
  cases hfind : c.steps.find? Step.opensArguments with
  | none =>
    refine .inl ⟨rfl, ?_⟩
    rw [List.takeWhile_eq_self_iff.2 fun s hs => by simp [List.find?_eq_none.1 hfind s hs],
      text_steps]
  | some s =>
    have happend := text_takeWhile_append hfind
    have hopens := List.find?_some hfind
    simp only [Step.opensArguments, Bool.and_eq_true, beq_iff_eq] at hopens
    obtain ⟨back, hback⟩ := List.head?_eq_some_iff.1 hopens.2
    exact .inr ⟨back, by rw [← happend, hback]⟩

/-- **No bracket opens an argument list in front of the first one that does.**

**Proof sketch.** Induction along the tokens. One that is in front of the bracket is read in the same way
without it, at the same nesting. -/
lemma Cursor.opensArguments_cut (c : Cursor) :
    ∀ s ∈ ({ c with rest := text (c.steps.takeWhile (!·.opensArguments)) } : Cursor).steps,
      s.opensArguments = false := by
  fun_induction Cursor.steps c with
  | case1 c h => simp [steps_of_nil]
  | case2 c token next h ih =>
    cases hopens : Step.opensArguments ⟨c, token⟩ with
    | true =>
      rw [List.takeWhile_cons_of_neg (by simp [hopens]), text_nil]
      simp [steps_of_nil]
    | false =>
      rw [List.takeWhile_cons_of_pos (by simp [hopens]), text_cons]
      have hbump : ({ c with rest := token ++ text (next.steps.takeWhile (!·.opensArguments)) } :
          Cursor).bump?
          = some (token, { next with rest := text (next.steps.takeWhile (!·.opensArguments)) }) := by
        rcases text_takeWhile_opensArguments next with ⟨-, hall⟩ | ⟨back, hback⟩
        · rw [hall, bump?_append h]
          exact h
        · exact bump?_cut hback h
      rw [steps_of_bump? hbump, List.forall_mem_cons]
      refine ⟨?_, ih⟩
      -- the first character and the nesting are those of the whole name
      obtain ⟨char, others, rfl⟩ := List.exists_cons_of_ne_nil (bump?_token_ne_nil h)
      rw [Step.opensArguments, ← bump?_append h] at hopens
      exact hopens

/-- **Cutting off the argument list gives the front of the name.** -/
lemma stripSignature_prefix_self (name : List Char) : stripSignature name <+: name := by
  rcases (Cursor.start name).text_takeWhile_opensArguments with ⟨-, hall⟩ | ⟨back, hback⟩
  · exact ⟨[], by rw [List.append_nil]; exact hall⟩
  · exact ⟨'(' :: back, hback.symm⟩

/-- **Cutting off the argument list does nothing the second time.** -/
lemma stripSignature_stripSignature (name : List Char) :
    stripSignature (stripSignature name) = stripSignature name := by
  have hnone : ∀ s ∈ steps (stripSignature name), s.opensArguments = false :=
    (Cursor.start name).opensArguments_cut
  rw [stripSignature, List.takeWhile_eq_self_iff.2 fun s hs => by simp [hnone s hs], text_steps]

end DocComments.Name
