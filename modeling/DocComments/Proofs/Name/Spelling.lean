import DocComments.Proofs.Name.Reading

set_option autoImplicit false

/-!
# Texts whose brackets belong to operator names

A short key is made from a name by leaving out its lists and squeezing its white space, and is then
read as a name of its own. What was one token of the name need not be one of the key: leaving out a
list puts characters next to each other that were apart. This file gives the condition under which
the key opens no list. The brackets that are left in it are those of operator names, and such a
bracket is read as part of its operator name as long as no identifier character comes to stand before
the word. The condition is stated as a relation, `Spelled`, that follows the text from the front; it
says which operator names there are to be, but not how the text is cut into tokens, so that it is
kept by squeezing and by passing to the text behind a colon.

## Main definitions

* `Spelled` — every opening bracket belongs to an operator name.
* `Regular` — no argument list is opened behind a template list and no operator name follows one
  directly.

## Main results

* `Spelled.opens_eq_false` — such a text opens no list.
* `Spelled.squeeze` — it keeps the property with single blanks between its words.
* `Spelled.of_suffix` — and so does what follows a colon in it.
* `Regular.opensArguments` — a regular name has no argument list.
* `Regular.spelled_stripTemplates` — a regular name has the property without its template arguments.
-/

namespace DocComments.Name

/-- The text, read behind a given character, has opening brackets only in operator names. -/
inductive Spelled : Option Char → List Char → Prop
  | nil (before : Option Char) : Spelled before []
  | char {before : Option Char} {c : Char} {rest : List Char} (hangle : c ≠ '<') (hparen : c ≠ '(')
      (h : Spelled (some c) rest) : Spelled before (c :: rest)
  | operator {before : Option Char} {symbol rest : List Char}
      (hbefore : before.any isIdentifier = false) (blanks : Nat) (hne : symbol ≠ [])
      (hsymbol : IsSymbol symbol) (h : Spelled symbol.getLast? rest) :
      Spelled before (operatorWord ++ (List.replicate blanks ' ' ++ (symbol ++ rest)))

/-! ## Symbols -/

namespace IsSymbol

variable {symbol : List Char}

/-- The characters of a symbol are neither white space nor part of an identifier. -/
lemma of_mem (h : IsSymbol symbol) {c : Char} (hc : c ∈ symbol) :
    Text.isSpace c = false ∧ isIdentifier c = false ∧ c ≠ ':' := by
  have hall : (operatorSymbols ++ ['(', ')', '[', ']']).all
      (fun c => !Text.isSpace c && !isIdentifier c && c != ':') = true := by decide +kernel
  suffices hmem : c ∈ operatorSymbols ++ ['(', ')', '[', ']'] by
    simpa [and_assoc] using List.all_eq_true.1 hall c hmem
  refine List.mem_append.2 ?_
  rcases h with rfl | rfl | h
  · exact .inr (List.mem_append_left ['[', ']'] hc)
  · exact .inr (List.mem_append_right ['(', ')'] hc)
  · exact .inl (h c hc)

/-- No symbol character can start an operator name. -/
lemma ne_of_mem (h : IsSymbol symbol) {c : Char} (hc : c ∈ symbol) : c ≠ 'o' := by
  rintro rfl
  exact absurd (h.of_mem hc).2.1 (by decide)

/-- What is read as a symbol where one stands goes on with symbol characters at most. -/
lemma readSymbol_append (h : IsSymbol symbol) (hne : symbol ≠ []) (rest : List Char) :
    ∃ more, (readSymbol (symbol ++ rest)).1 = symbol ++ more ∧ ∀ c ∈ more, c ∈ operatorSymbols := by
  rcases h with rfl | rfl | h
  · exact ⟨[], rfl, by simp⟩
  · exact ⟨[], rfl, by simp⟩
  · refine ⟨rest.takeWhile operatorSymbols.contains, ?_, fun c hc => ?_⟩
    · obtain ⟨c, symbol, rfl⟩ := List.exists_cons_of_ne_nil hne
      have hc := h c List.mem_cons_self
      have hround : ∀ tail, c :: symbol ++ rest = '(' :: ')' :: tail → False := by
        intro tail heq
        rw [List.cons_append, List.cons.injEq] at heq
        exact absurd (heq.1 ▸ hc) (by decide)
      have hsquare : ∀ tail, c :: symbol ++ rest = '[' :: ']' :: tail → False := by
        intro tail heq
        rw [List.cons_append, List.cons.injEq] at heq
        exact absurd (heq.1 ▸ hc) (by decide)
      rw [readSymbol.eq_3 _ hround hsquare]
      exact List.takeWhile_append_of_pos fun d hd => by simpa using h d hd
    · simpa using List.mem_takeWhile_imp hc

/-- A symbol starts with a character that is neither a blank nor part of an identifier. -/
lemma head_append (h : IsSymbol symbol) (hne : symbol ≠ []) (rest : List Char) :
    (symbol ++ rest).head? ≠ some ' ' ∧ (symbol ++ rest).head?.any isIdentifier = false := by
  obtain ⟨c, symbol, rfl⟩ := List.exists_cons_of_ne_nil hne
  obtain ⟨hspace, hident, -⟩ := h.of_mem List.mem_cons_self
  refine ⟨?_, hident⟩
  intro heq
  obtain rfl : c = ' ' := by simpa using heq
  exact absurd hspace (by decide +kernel)

end IsSymbol

/-- The blanks in front of a text that starts with none are determined. -/
lemma replicate_append_inj {blanks blanks' : Nat} {tail tail' : List Char}
    (h : List.replicate blanks ' ' ++ tail = List.replicate blanks' ' ' ++ tail')
    (htail : tail.head? ≠ some ' ') (htail' : tail'.head? ≠ some ' ') :
    blanks = blanks' ∧ tail = tail' := by
  induction blanks generalizing blanks' with
  | zero =>
    cases blanks' with
    | zero => exact ⟨rfl, h⟩
    | succ n =>
      rw [List.replicate_zero, List.nil_append] at h
      exact absurd (by rw [h]; rfl) htail
  | succ m ih =>
    cases blanks' with
    | zero =>
      rw [List.replicate_zero, List.nil_append] at h
      exact absurd (by rw [← h]; rfl) htail'
    | succ n =>
      rw [List.replicate_succ, List.replicate_succ, List.cons_append, List.cons_append,
        List.cons.injEq] at h
      obtain ⟨rfl, rfl⟩ := ih h.2
      exact ⟨rfl, rfl⟩

/-- An end piece that starts with a character that a run does not have lies behind the run. -/
lemma suffix_of_suffix_append {c : Char} {run text rest : List Char} (hc : c ∉ run)
    (h : c :: rest <:+ run ++ text) : c :: rest <:+ text := by
  induction run with
  | nil => exact h
  | cons d run ih =>
    rw [List.mem_cons, not_or] at hc
    rcases List.suffix_cons_iff.1 h with heq | h
    · exact absurd (List.cons.inj heq).1 hc.1
    · exact ih hc.2 h

/-- The word of operator names opens no list. -/
lemma operatorWord_ne : ∀ c ∈ operatorWord, c ≠ '<' ∧ c ≠ '(' := by
  intro c hc
  have hident := isIdentifier_operatorWord c hc
  constructor <;> rintro rfl <;> exact absurd hident (by decide)

/-! ## Reading a spelled text -/

namespace Spelled

variable {before : Option Char} {rest : List Char}

/-- A character that cannot start an operator name is no bracket. -/
lemma tail {c : Char} (h : Spelled before (c :: rest))
    (hc : before.any isIdentifier = true ∨ c ≠ 'o') : c ≠ '<' ∧ c ≠ '(' ∧ Spelled (some c) rest := by
  generalize htext : c :: rest = text at h
  cases h with
  | nil => cases htext
  | char hangle hparen h =>
    cases htext
    exact ⟨hangle, hparen, h⟩
  | operator hbefore blanks hne hsymbol h =>
    rw [operatorWord, List.cons_append, List.cons.injEq] at htext
    rcases hc with hc | hc
    · rw [hbefore] at hc
      cases hc
    · exact absurd htext.1 hc

/-- A run without the first letter of the word holds no operator name. -/
lemma skip {run : List Char} (h : Spelled before (run ++ rest)) (hrun : ∀ c ∈ run, c ≠ 'o') :
    Spelled (run.getLast?.or before) rest := by
  induction run generalizing before with
  | nil => exact h
  | cons c run ih =>
    have hnext := (h.tail (.inr (hrun c List.mem_cons_self))).2.2
    rw [getLast?_cons_or]
    exact ih hnext fun d hd => hrun d (List.mem_cons_of_mem _ hd)

/-- Inside an identifier no operator name starts. -/
lemma skip_identifier {c : Char} {run : List Char} (h : Spelled (some c) (run ++ rest))
    (hrun : ∀ d ∈ c :: run, isIdentifier d = true) : Spelled (c :: run).getLast? rest := by
  induction run generalizing c with
  | nil => exact h
  | cons d run ih =>
    rw [List.getLast?_cons_cons]
    have hc : (some c).any isIdentifier = true := hrun c List.mem_cons_self
    exact ih (h.tail (.inl hc)).2.2 fun e he => hrun e (List.mem_cons_of_mem _ he)

/-- **An operator name may be read where none was meant**, and also further than it was meant: what
follows is spelled all the same. -/
lemma of_operator {blanks : Nat} {tail : List Char}
    (h : Spelled before (operatorWord ++ (List.replicate blanks ' ' ++ tail)))
    (htail : tail.head? ≠ some ' ') :
    Spelled (operatorWord ++ (List.replicate blanks ' ' ++ (readSymbol tail).1)).getLast?
      (readSymbol tail).2 := by
  have happend := readSymbol_append tail
  rw [List.getLast?_append, List.getLast?_append]
  generalize htext : operatorWord ++ (List.replicate blanks ' ' ++ tail) = text at h
  cases h with
  | nil => simp [operatorWord] at htext
  | @char _ c text hangle hparen h =>
    -- letter by letter through the word, then through the blanks and the symbol
    obtain ⟨rfl, rfl⟩ : 'o' = c ∧ operatorWord.tail ++ (List.replicate blanks ' ' ++ tail) = text := by
      simpa [operatorWord] using htext
    have hword : Spelled operatorWord.getLast? (List.replicate blanks ' ' ++ tail) :=
      h.skip_identifier isIdentifier_operatorWord
    have hblanks := hword.skip fun c hc => by
      rw [(List.mem_replicate.1 hc).2]
      decide
    rw [← happend] at hblanks
    rw [Option.or_assoc]
    exact hblanks.skip fun c hc => (isSymbol_readSymbol tail).ne_of_mem hc
  | @operator _ symbol after hbefore blanks' hne hsymbol h =>
    obtain ⟨rfl, rfl⟩ : blanks = blanks' ∧ tail = symbol ++ after :=
      replicate_append_inj (List.append_cancel_left htext) htail (hsymbol.head_append hne after).1
    obtain ⟨more, hmore, hsymbols⟩ := hsymbol.readSymbol_append hne after
    have hafter : after = more ++ (readSymbol (symbol ++ after)).2 := by
      rw [hmore, List.append_assoc] at happend
      exact (List.append_cancel_left happend).symm
    rw [hafter] at h
    have hrest := h.skip fun c hc => IsSymbol.ne_of_mem (.inr (.inr hsymbols)) hc
    have hlast := List.getLast?_eq_some_getLast hne
    rw [hmore, List.getLast?_append, hlast, Option.or_assoc, Option.or_assoc,
      Option.some_or]
    rwa [hlast] at hrest

/-- A token of a spelled text opens no list, and what follows it is spelled again. -/
lemma next {c next : Cursor} {token : List Char} (h : Spelled c.before c.rest)
    (hbump : c.bump? = some (token, next)) :
    Step.opens ⟨c, token⟩ = false ∧ Spelled next.before next.rest := by
  rcases Cursor.bump?_cases hbump with ⟨rest, hread, rfl⟩ | ⟨char, rest, hread, hrest, rfl, rfl⟩
  · obtain ⟨-, blanks, tail, htext, htail, rfl, rfl⟩ := readOperator?_cases hread
    rw [htext] at h
    exact ⟨by simp [Step.opens, operatorWord], h.of_operator htail⟩
  · rw [Cursor.pass_before, Cursor.pass_rest]
    generalize htext : c.rest = text at h
    cases h with
    | nil =>
      rw [hrest] at htext
      cases htext
    | char hangle hparen h =>
      rw [hrest, List.cons.injEq] at htext
      obtain ⟨rfl, rfl⟩ := htext
      exact ⟨by simp [Step.opens, hangle, hparen], h⟩
    | @operator _ symbol after hbefore blanks hne hsymbol h =>
      -- the cursor would have read the operator name
      obtain ⟨hblank, hident⟩ := hsymbol.head_append hne after
      rw [htext, readOperator?_word hbefore blanks hblank hident] at hread
      cases hread

/-- **A spelled text opens no list.** -/
lemma opens_eq_false {c : Cursor} (h : Spelled c.before c.rest) :
    ∀ s ∈ c.steps, s.opens = false := by
  fun_induction Cursor.steps c with
  | case1 c hbump => simp
  | case2 c token next hbump ih =>
    obtain ⟨hopens, hnext⟩ := h.next hbump
    exact List.forall_mem_cons.2 ⟨hopens, ih hnext⟩

/-! ## What keeps a text spelled -/

/-- The character before matters only as one of an identifier. -/
lemma of_before {before' : Option Char} {text : List Char} (h : Spelled before text)
    (hbefore : before'.any isIdentifier = true → before.any isIdentifier = true) :
    Spelled before' text := by
  cases h with
  | nil => exact .nil _
  | char hangle hparen h => exact .char hangle hparen h
  | operator hfree blanks hne hsymbol h =>
    refine .operator ?_ blanks hne hsymbol h
    rw [← Bool.not_eq_true]
    intro hident
    rw [hbefore hident] at hfree
    cases hfree

/-- Characters that are no opening brackets may stand anywhere. -/
lemma append {run : List Char} (h : Spelled (run.getLast?.or before) rest)
    (hrun : ∀ c ∈ run, c ≠ '<' ∧ c ≠ '(') : Spelled before (run ++ rest) := by
  induction run generalizing before with
  | nil => exact h
  | cons c run ih =>
    rw [getLast?_cons_or] at h
    obtain ⟨hangle, hparen⟩ := hrun c List.mem_cons_self
    exact .char hangle hparen (ih h fun d hd => hrun d (List.mem_cons_of_mem _ hd))

/-- An operator name may stand where no identifier goes on. -/
lemma of_token {before' : Option Char} {text token after : List Char}
    (hread : readOperator? before' text = some (token, after))
    (hbefore : before.any isIdentifier = false) (h : Spelled token.getLast? rest) :
    Spelled before (token ++ rest) := by
  obtain ⟨-, blanks, tail, -, -, rfl, -⟩ := readOperator?_cases hread
  rcases eq_or_ne (readSymbol tail).1 [] with hnil | hne
  · -- without a symbol the name is made of letters and blanks
    refine append ?_ fun c hc => ?_
    · have htoken : operatorWord ++ (List.replicate blanks ' ' ++ (readSymbol tail).1) ≠ [] := by
        simp [operatorWord]
      rw [List.getLast?_eq_some_getLast htoken] at h ⊢
      exact h
    · rw [hnil, List.append_nil, List.mem_append, List.mem_replicate] at hc
      rcases hc with hc | ⟨-, rfl⟩
      · exact operatorWord_ne c hc
      · decide
  · rw [List.append_assoc, List.append_assoc]
    refine .operator hbefore blanks hne (isSymbol_readSymbol tail) ?_
    have hlast := List.getLast?_eq_some_getLast hne
    rw [List.getLast?_append, List.getLast?_append, hlast, Option.some_or, Option.some_or] at h
    rwa [hlast]

/-- What follows a colon is spelled: a colon belongs to no operator name. -/
lemma of_suffix {text : List Char} (h : Spelled before text) (hsuffix : ':' :: rest <:+ text) :
    Spelled (some ':') rest := by
  induction h with
  | nil => simp at hsuffix
  | @char before c text hangle hparen h ih =>
    rcases List.suffix_cons_iff.1 hsuffix with heq | hsuffix
    · obtain ⟨rfl, rfl⟩ := List.cons.inj heq
      exact h
    · exact ih hsuffix
  | @operator before symbol text hbefore blanks hne hsymbol h ih =>
    refine ih ?_
    have hnot : ':' ∉ operatorWord ++ (List.replicate blanks ' ' ++ symbol) := by
      simp only [List.mem_append, List.mem_replicate, not_or]
      exact ⟨by decide, by simp, fun hmem => (hsymbol.of_mem hmem).2.2 rfl⟩
    have htext : operatorWord ++ (List.replicate blanks ' ' ++ (symbol ++ text))
        = operatorWord ++ (List.replicate blanks ' ' ++ symbol) ++ text := by
      simp only [List.append_assoc]
    rw [htext] at hsuffix
    exact suffix_of_suffix_append hnot hsuffix

/-- The blank between a character and the words behind it does no harm. -/
lemma gap_append {text : List Char}
    (h : ∀ before' : Option Char, (before'.any isIdentifier = true → before.any isIdentifier = true ∧
      text.head?.any Text.isSpace = false) → Spelled before' (Text.squeeze text)) :
    Spelled before (Text.gap text ++ Text.squeeze text) := by
  rw [Text.gap]
  split
  · exact .char (by decide) (by decide) (h (some ' ') fun hident => absurd hident (by decide))
  · rename_i hgap
    rw [List.nil_append]
    rcases Bool.eq_false_or_eq_true (text.head?.any Text.isSpace) with hspace | hspace
    · -- only white space is left
      have hwords : Text.words text = [] := by simpa [hspace] using hgap
      rw [Text.squeeze, hwords]
      exact .nil _
    · exact h before fun hident => ⟨hident, hspace⟩

/-- **Squeezing white space keeps a text spelled.** The character before it may change as well,
provided that none of an identifier comes to stand before a word that stood behind white space.

**Proof sketch.** Induction on the spelling. A character is kept or dropped on its own. The blanks in
an operator name become one, and the text behind it is read behind the same symbol. -/
lemma squeeze {text : List Char} (h : Spelled before text) {before' : Option Char}
    (hbefore : before'.any isIdentifier = true → before.any isIdentifier = true ∧
      text.head?.any Text.isSpace = false) : Spelled before' (Text.squeeze text) := by
  induction h generalizing before' with
  | nil => exact .nil _
  | @char before c text hangle hparen h ih =>
    cases hc : Text.isSpace c with
    | true =>
      rw [Text.squeeze_cons_space hc]
      refine ih fun hident => ?_
      have hhead : ((c :: text).head?.any Text.isSpace) = true := hc
      rw [(hbefore hident).2] at hhead
      cases hhead
    | false =>
      rw [Text.squeeze_cons hc]
      exact .char hangle hparen (gap_append fun _ => ih)
  | @operator before symbol text hfree blanks hne hsymbol h ih =>
    have hsymbols : ∀ c ∈ symbol, Text.isSpace c = false := fun c hc => (hsymbol.of_mem hc).1
    have hblanks : ∀ c ∈ List.replicate blanks ' ', Text.isSpace c = true := by
      intro c hc
      rw [(List.mem_replicate.1 hc).2]
      decide +kernel
    have hgap : ∃ blanks', Text.gap (List.replicate blanks ' ' ++ (symbol ++ text))
        = List.replicate blanks' ' ' := by
      rw [Text.gap]
      split
      · exact ⟨1, rfl⟩
      · exact ⟨0, rfl⟩
    obtain ⟨blanks', hgap⟩ := hgap
    rw [Text.squeeze_append (by decide) isSpace_operatorWord, hgap, Text.squeeze_append_space hblanks,
      Text.squeeze_append hne hsymbols]
    refine .operator ?_ blanks' hne hsymbol (gap_append fun _ => ih)
    rw [← Bool.not_eq_true]
    intro hident
    rw [(hbefore hident).1] at hfree
    cases hfree

end Spelled

/-! ## Regular names -/

/-- The token is an operator name. -/
def Step.isOperator (s : Step) : Bool :=
  operatorWord.isPrefixOf s.token

/-- What is read as an operator name is one. -/
lemma Step.isOperator_of_readOperator? {c : Cursor} {before : Option Char}
    {name token rest : List Char} (h : readOperator? before name = some (token, rest)) :
    isOperator ⟨c, token⟩ = true := by
  obtain ⟨-, blanks, tail, -, -, rfl, -⟩ := readOperator?_cases h
  exact List.isPrefixOf_iff_prefix.2 (List.prefix_append _ _)

/-- The step opens an argument list outside any template list, or it is an operator name directly
behind a template list. -/
def Step.irregular (s : Step) : Bool :=
  s.cursor.angle == 0 && (s.token == ['('] || s.isOperator && s.cursor.before == some '>')

/-- No argument list is opened outside a template list, and no operator name directly follows a
template list. -/
def Regular (name : List Char) : Prop :=
  ∀ s ∈ steps name, s.irregular = false

/-- Whether a name is regular is decided token by token. -/
instance (name : List Char) : Decidable (Regular name) :=
  inferInstanceAs (Decidable (∀ s ∈ steps name, _))

/-- A regular name has no argument list. -/
lemma Regular.opensArguments {name : List Char} (h : Regular name) :
    ∀ s ∈ steps name, s.opensArguments = false := by
  intro s hs
  rw [← Bool.not_eq_true]
  intro hopens
  simp only [Step.opensArguments, Bool.and_eq_true, beq_iff_eq] at hopens
  obtain ⟨rest, hrest⟩ := List.head?_eq_some_iff.1 hopens.2
  have hread : readOperator? s.cursor.before s.cursor.rest = none := by
    rw [hrest]
    exact readOperator?_of_head (by decide) rest
  obtain ⟨next, hbump⟩ := Cursor.exists_bump?_of_mem hs
  rw [Cursor.bump?_of_char hread hrest] at hbump
  obtain ⟨htoken, -⟩ : ['('] = s.token ∧ _ := by simpa using hbump
  have hangle : s.cursor.angle = 0 := by
    have htop := hopens.1
    simp only [Cursor.atTop, Bool.and_eq_true, beq_iff_eq] at htop
    exact htop.1
  have hirregular := h s hs
  simp [Step.irregular, hangle, ← htoken] at hirregular

/-- What a regular name keeps of its tokens is spelled. The character before it is the one before the
cursor, unless a template list has just been left out: then it is the one before the list. -/
lemma Cursor.spelled_kept {c : Cursor} (h : ∀ s ∈ c.steps, s.irregular = false)
    {before : Option Char} (hbefore : c.angle = 0 → before.any isIdentifier = true →
      c.before.any isIdentifier = true ∨ c.before = some '>') :
    Spelled before (text (c.steps.filter Step.kept)) := by
  fun_induction Cursor.steps c generalizing before with
  | case1 c hbump => exact .nil _
  | case2 c token next hbump ih =>
    obtain ⟨hstep, hnext⟩ := List.forall_mem_cons.1 h
    rw [List.filter_cons]
    rcases bump?_cases hbump with ⟨rest, hread, rfl⟩ | ⟨char, rest, hread, hrest, rfl, rfl⟩
    · have hfree := (readOperator?_cases hread).1
      rw [Step.kept_of_operator hread]
      split
      · rename_i hangle
        have hangle : c.angle = 0 := by simpa using hangle
        have hclose : c.before ≠ some '>' := by
          have hboth : token ≠ ['('] ∧ c.before ≠ some '>' := by
            simpa [Step.irregular, hangle, Step.isOperator_of_readOperator? hread] using hstep
          exact hboth.2
        have hfree' : before.any isIdentifier = false := by
          rw [← Bool.not_eq_true]
          intro hident
          rcases hbefore hangle hident with hident | hgt
          · rw [hfree] at hident
            cases hident
          · exact hclose hgt
        exact Spelled.of_token hread hfree' (ih hnext fun _ hident => .inl hident)
      · rename_i hangle
        refine ih hnext fun hzero => ?_
        exact absurd (by simpa using hzero) hangle
    · rw [Step.kept_singleton]
      split
      · rename_i hkeep
        obtain ⟨hangle, hopen⟩ : c.angle = 0 ∧ char ≠ '<' := by simpa using hkeep
        have hparen : char ≠ '(' := by
          rintro rfl
          simp [Step.irregular, hangle] at hstep
        refine .char hopen hparen (ih hnext fun _ hident => .inl ?_)
        rwa [pass_before]
      · rename_i hkeep
        refine ih hnext fun hzero _ => .inr ?_
        rw [pass_angle] at hzero
        rw [pass_before]
        -- the list can only have ended here
        by_contra hchar
        have hclose : char ≠ '>' := fun heq => hchar (congrArg some heq)
        rw [if_neg hclose] at hzero
        split at hzero
        · cases hzero
        · rename_i hopen
          exact hkeep (by simp [hzero, hopen])

/-- **Without its template arguments a regular name is spelled.** -/
theorem Regular.spelled_stripTemplates {name : List Char} (h : Regular name) :
    Spelled none (stripTemplates name) := by
  rw [stripTemplates_eq]
  exact Cursor.spelled_kept h fun _ hident => by cases hident

end DocComments.Name
