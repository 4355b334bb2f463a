import DocComments.Name.Forms
import DocComments.Proofs.Text.Words
import Mathlib.Data.List.TakeWhile

set_option autoImplicit false

/-!
# What a cursor reads

Every form of a name comes from its tokens. This file says once what a token can be, namely an operator
name or a single character, and derives the forms from it: the argument list is cut off by a
`takeWhile` on the tokens, the template arguments are left out by a `filter`, and the components
joined again are the tokens in order. The forms only ever leave tokens out, so a form that is as long
as the name has left none out.

## Main definitions

* `IsSymbol` — what an operator name may end with.
* `Step.kept` — the tokens that are outside any template list.
* `Step.opens` — the tokens that open a template or argument list.

## Main results

* `readOperator?_cases`, `readOperator?_word` — what an operator name is.
* `Cursor.bump?_cases` — what a token is.
* `stripTemplates_eq` — the name without its template arguments, as a `filter` on its tokens.
* `forall_opens_iff` — a name of which nothing can be stripped opens no list.
* `joinScopes_splitScopes` — the components of a name, joined again, are the name.
-/

namespace DocComments.Name

/-! ## Operator names -/

/-- What an operator name may end with: a bracket pair, or symbol characters. -/
def IsSymbol (symbol : List Char) : Prop :=
  symbol = ['(', ')'] ∨ symbol = ['[', ']'] ∨ ∀ c ∈ symbol, c ∈ operatorSymbols

/-- What is read as a symbol is one. -/
lemma isSymbol_readSymbol (text : List Char) : IsSymbol (readSymbol text).1 := by
  fun_cases readSymbol text with
  | case1 rest => exact .inl rfl
  | case2 rest => exact .inr (.inl rfl)
  | case3 text =>
    refine .inr (.inr fun c hc => ?_)
    simpa using List.mem_takeWhile_imp hc

/-- The word of operator names is an identifier. -/
lemma isIdentifier_operatorWord : ∀ c ∈ operatorWord, isIdentifier c = true :=
  List.all_eq_true.1 (by decide +kernel)

/-- The word of operator names has no white space. -/
lemma isSpace_operatorWord : ∀ c ∈ operatorWord, Text.isSpace c = false := by
  have hall : operatorWord.all (!Text.isSpace ·) = true := by decide +kernel
  exact fun c hc => by simpa using List.all_eq_true.1 hall c hc

/-- What does not belong to identifiers is not in the word of operator names. -/
lemma not_mem_operatorWord {c : Char} (hc : isIdentifier c = false) : c ∉ operatorWord := by
  intro hmem
  rw [isIdentifier_operatorWord c hmem] at hc
  cases hc

/-- **What an operator name is**: the word, blanks, and the symbol behind them. -/
lemma readOperator?_cases {before : Option Char} {text token rest : List Char}
    (h : readOperator? before text = some (token, rest)) :
    before.any isIdentifier = false ∧ ∃ (blanks : Nat) (tail : List Char),
      text = operatorWord ++ (List.replicate blanks ' ' ++ tail) ∧ tail.head? ≠ some ' ' ∧
      token = operatorWord ++ (List.replicate blanks ' ' ++ (readSymbol tail).1) ∧
      rest = (readSymbol tail).2 := by
  unfold readOperator? at h
  split at h
  · cases h
  rename_i hstart
  simp only [Bool.or_eq_true, Bool.not_eq_true', not_or, Bool.not_eq_false, Bool.not_eq_true]
    at hstart
  obtain ⟨tail, rfl⟩ := List.isPrefixOf_iff_prefix.1 hstart.1
  simp only [List.drop_left] at h
  split at h
  · cases h
  simp only [Option.some.injEq, Prod.mk.injEq] at h
  obtain ⟨rfl, rfl⟩ := h
  have hblanks : tail.takeWhile (· == ' ')
      = List.replicate (tail.takeWhile (· == ' ')).length ' ' := by
    refine List.eq_replicate_iff.2 ⟨rfl, fun c hc => ?_⟩
    simpa using List.mem_takeWhile_imp hc
  refine ⟨hstart.2, (tail.takeWhile (· == ' ')).length, tail.dropWhile (· == ' '), ?_, ?_, ?_, rfl⟩
  · rw [← hblanks, List.takeWhile_append_dropWhile]
  · intro hhead
    have := List.head?_dropWhile_not (· == ' ') tail
    simp [hhead] at this
  · rw [← hblanks, List.append_assoc]

/-- An operator name is read wherever one stands. -/
lemma readOperator?_word {before : Option Char} (hbefore : before.any isIdentifier = false)
    (blanks : Nat) {tail : List Char} (htail : tail.head? ≠ some ' ')
    (hident : tail.head?.any isIdentifier = false) :
    readOperator? before (operatorWord ++ (List.replicate blanks ' ' ++ tail))
      = some (operatorWord ++ (List.replicate blanks ' ' ++ (readSymbol tail).1),
        (readSymbol tail).2) := by
  have htake : tail.takeWhile (· == ' ') = [] := by
    cases tail with
    | nil => rfl
    | cons c tail =>
      have hc : c ≠ ' ' := by simpa using htail
      simp [hc]
  have hdrop : tail.dropWhile (· == ' ') = tail := by
    cases tail with
    | nil => rfl
    | cons c tail =>
      have hc : c ≠ ' ' := by simpa using htail
      simp [hc]
  have hhead : ((List.replicate blanks ' ' ++ tail).head?.any isIdentifier) = false := by
    cases blanks with
    | zero => simpa using hident
    | succ n =>
      rw [List.replicate_succ]
      rfl
  have hblank : ∀ c ∈ List.replicate blanks ' ', (c == ' ') = true := by
    intro c hc
    simp [(List.mem_replicate.1 hc).2]
  have hword : operatorWord.isPrefixOf (operatorWord ++ (List.replicate blanks ' ' ++ tail)) = true :=
    List.isPrefixOf_iff_prefix.2 (List.prefix_append _ _)
  rw [readOperator?, hword, hbefore]
  simp only [List.drop_left, hhead, List.takeWhile_append_of_pos hblank,
    List.dropWhile_append_of_pos hblank, htake, hdrop, List.append_nil, List.append_assoc]
  rfl

/-- A text that does not start with the word starts with no operator name. -/
lemma readOperator?_of_head {before : Option Char} {c : Char} (hc : c ≠ 'o') (rest : List Char) :
    readOperator? before (c :: rest) = none := by
  simp [readOperator?, operatorWord, List.isPrefixOf, Ne.symm hc]

/-- The last character of a text that one more character was put in front of. -/
lemma getLast?_cons_or (c : Char) (run : List Char) (before : Option Char) :
    (c :: run).getLast?.or before = run.getLast?.or (some c) := by
  rw [List.getLast?_cons]
  cases run.getLast? <;> rfl

/-! ## Tokens -/

namespace Cursor

/-- **What a token is**: an operator name, which leaves the nesting as it is, or else a single
character. -/
lemma bump?_cases {c next : Cursor} {token : List Char} (h : c.bump? = some (token, next)) :
    (∃ rest, readOperator? c.before c.rest = some (token, rest) ∧
        next = { c with before := token.getLast?, rest }) ∨
      ∃ char rest, readOperator? c.before c.rest = none ∧ c.rest = char :: rest ∧
        token = [char] ∧ next = c.pass char rest := by
  unfold bump? at h
  split at h
  · rename_i rest hread
    simp only [Option.some.injEq, Prod.mk.injEq] at h
    obtain ⟨rfl, rfl⟩ := h
    exact .inl ⟨rest, hread, rfl⟩
  · rename_i hread
    split at h
    · cases h
    · rename_i char rest hrest
      simp only [Option.some.injEq, Prod.mk.injEq] at h
      obtain ⟨rfl, rfl⟩ := h
      exact .inr ⟨char, rest, hread, hrest, rfl, rfl⟩

/-- A cursor stops at the end of the text only. -/
lemma bump?_eq_none_iff {c : Cursor} : c.bump? = none ↔ c.rest = [] := by
  unfold bump?
  constructor
  · intro h
    split at h
    · cases h
    · split at h
      · assumption
      · cases h
  · intro h
    have hread : readOperator? c.before [] = none := by simp [readOperator?, operatorWord]
    rw [h, hread]

/-- An operator name is a token. -/
lemma bump?_of_operator {c : Cursor} {token rest : List Char}
    (h : readOperator? c.before c.rest = some (token, rest)) :
    c.bump? = some (token, { c with before := token.getLast?, rest }) := by
  rw [bump?, h]

/-- A character that starts no operator name is a token of its own. -/
lemma bump?_of_char {c : Cursor} {char : Char} {rest : List Char}
    (h : readOperator? c.before c.rest = none) (hrest : c.rest = char :: rest) :
    c.bump? = some ([char], c.pass char rest) := by
  rw [hrest] at h
  rw [bump?, hrest, h]

/-- The tokens of a text are the first one and those behind it. -/
lemma steps_of_bump? {c next : Cursor} {token : List Char} (h : c.bump? = some (token, next)) :
    c.steps = ⟨c, token⟩ :: next.steps := by
  rw [steps]
  split
  · rename_i hnone
    rw [h] at hnone
    cases hnone
  · rename_i hsome
    rw [h] at hsome
    cases hsome
    rfl

/-- At the end of the text there are no tokens. -/
lemma steps_of_nil {c : Cursor} (h : c.rest = []) : c.steps = [] := by
  rw [steps]
  split
  · rfl
  · rename_i hsome
    rw [bump?_eq_none_iff.2 h] at hsome
    cases hsome

/-- A character that was passed is the one before. -/
@[simp]
lemma pass_before (c : Cursor) (char : Char) (rest : List Char) :
    (c.pass char rest).before = some char := by
  unfold pass
  split <;> rfl

/-- How a character changes the nesting of angle brackets. -/
lemma pass_angle (c : Cursor) (char : Char) (rest : List Char) :
    (c.pass char rest).angle
      = if char = '<' then c.angle + 1 else if char = '>' then c.angle - 1 else c.angle := by
  unfold pass
  split <;> simp_all

/-- How a character changes the nesting of parentheses. -/
lemma pass_paren (c : Cursor) (char : Char) (rest : List Char) :
    (c.pass char rest).paren
      = if char = '(' then c.paren + 1 else if char = ')' then c.paren - 1 else c.paren := by
  unfold pass
  split <;> simp_all

/-- A cursor outside any list stays there as long as no list is opened. -/
lemma atTop_pass {c : Cursor} (h : c.atTop = true) {char : Char} (hangle : char ≠ '<')
    (hparen : char ≠ '(') (rest : List Char) : (c.pass char rest).atTop = true := by
  simp only [atTop, Bool.and_eq_true, beq_iff_eq] at h ⊢
  rw [pass_angle, pass_paren, if_neg hangle, if_neg hparen, h.1, h.2]
  simp

end Cursor

/-- An operator name is longer than a single character. -/
lemma readOperator?_ne_singleton {before : Option Char} {text rest : List Char} {char : Char} :
    readOperator? before text ≠ some ([char], rest) := by
  intro h
  obtain ⟨-, blanks, tail, -, -, htoken, -⟩ := readOperator?_cases h
  simpa [operatorWord] using congrArg List.length htoken

/-! ## Leaving tokens out -/

/-- The text of no tokens is empty. -/
@[simp]
lemma text_nil : text [] = [] := rfl

/-- The text of some tokens starts with that of the first one. -/
@[simp]
lemma text_cons (s : Step) (rest : List Step) : text (s :: rest) = s.token ++ text rest := rfl

/-- The text of two lists of tokens. -/
@[simp]
lemma text_append (front back : List Step) : text (front ++ back) = text front ++ text back := by
  simp [text]

/-- No token is empty. -/
lemma Cursor.bump?_token_ne_nil {c next : Cursor} {token : List Char}
    (h : c.bump? = some (token, next)) : token ≠ [] := by
  rintro rfl
  have hlength := Cursor.bump?_length h
  rw [← Cursor.bump?_append h, List.nil_append] at hlength
  exact absurd hlength (Nat.lt_irrefl _)

/-- None of the tokens of a text is empty. -/
lemma Cursor.token_ne_nil {c : Cursor} {s : Step} (h : s ∈ c.steps) : s.token ≠ [] := by
  fun_induction Cursor.steps c with
  | case1 c hbump => cases h
  | case2 c token next hbump ih =>
    rcases List.mem_cons.1 h with rfl | h
    · exact bump?_token_ne_nil hbump
    · exact ih h

/-- Every token was read at its cursor. -/
lemma Cursor.exists_bump?_of_mem {c : Cursor} {s : Step} (h : s ∈ c.steps) :
    ∃ next, s.cursor.bump? = some (s.token, next) := by
  fun_induction Cursor.steps c with
  | case1 c hbump => cases h
  | case2 c token next hbump ih =>
    rcases List.mem_cons.1 h with rfl | h
    · exact ⟨next, hbump⟩
    · exact ih h

/-- A text does not get longer when tokens are left out. -/
lemma length_text_le {front all : List Step} (h : front.Sublist all) :
    (text front).length ≤ (text all).length := by
  induction h with
  | slnil => exact Nat.le_refl _
  | cons s h ih =>
    rw [text_cons, List.length_append]
    omega
  | cons_cons s h ih =>
    rw [text_cons, text_cons, List.length_append, List.length_append]
    omega

/-- **Nothing is left out of a text that does not get shorter.** -/
lemma eq_of_length_text_le {front all : List Step} (h : front.Sublist all)
    (htoken : ∀ s ∈ all, s.token ≠ []) (hlength : (text all).length ≤ (text front).length) :
    front = all := by
  induction h with
  | slnil => rfl
  | cons s h ih =>
    -- a token that was left out would have to be empty
    have hle := length_text_le h
    have hpos : 0 < s.token.length := List.length_pos_iff.2 (htoken s List.mem_cons_self)
    rw [text_cons, List.length_append] at hlength
    omega
  | cons_cons s h ih =>
    rw [text_cons, text_cons, List.length_append, List.length_append] at hlength
    rw [ih (fun t ht => htoken t (List.mem_cons_of_mem _ ht)) (by omega)]

/-! ## Template arguments -/

/-- The step is outside any template list and does not open one. -/
def Step.kept (s : Step) : Bool :=
  s.cursor.angle == 0 && s.token != ['<']

/-- An operator name is kept outside any template list. -/
lemma Step.kept_of_operator {c : Cursor} {token rest : List Char}
    (h : readOperator? c.before c.rest = some (token, rest)) : kept ⟨c, token⟩ = (c.angle == 0) := by
  have hne : token ≠ ['<'] := fun heq => readOperator?_ne_singleton (heq ▸ h)
  simp [kept, hne]

/-- A single character is kept outside any template list, unless it opens one. -/
lemma Step.kept_singleton (c : Cursor) (char : Char) :
    kept ⟨c, [char]⟩ = (c.angle == 0 && char != '<') := by
  simp [kept, bne]

/-- An operator name is passed as a whole, and kept outside any template list. -/
lemma stripTemplatesFrom_operator {before : Option Char} {name token rest : List Char}
    (h : readOperator? before name = some (token, rest)) (depth : Nat) :
    stripTemplatesFrom before depth name
      = (if depth == 0 then token else []) ++ stripTemplatesFrom token.getLast? depth rest := by
  rw [stripTemplatesFrom]
  split
  · rename_i hread
    rw [h] at hread
    cases hread
    rfl
  · rename_i hread
    rw [h] at hread
    cases hread

/-- A character that starts no operator name is passed, and kept outside any template list if it
opens none. -/
lemma stripTemplatesFrom_char {before : Option Char} {char : Char} {rest : List Char}
    (h : readOperator? before (char :: rest) = none) (depth : Nat) :
    stripTemplatesFrom before depth (char :: rest)
      = (if depth == 0 && char != '<' then [char] else []) ++ stripTemplatesFrom (some char)
        (if char = '<' then depth + 1 else if char = '>' then depth - 1 else depth) rest := by
  rw [stripTemplatesFrom]
  split
  · rename_i hread
    rw [h] at hread
    cases hread
  · by_cases hopen : char = '<'
    · simp [hopen]
    · by_cases hclose : char = '>'
      · -- outside any template list a closing bracket is a character like any other
        cases depth <;> simp [hclose]
      · cases depth <;> simp [hopen, hclose]

/-- Removing the template arguments keeps the tokens that are read outside any template list. -/
lemma stripTemplatesFrom_eq (c : Cursor) :
    stripTemplatesFrom c.before c.angle c.rest = text (c.steps.filter Step.kept) := by
  fun_induction Cursor.steps c with
  | case1 c h =>
    rw [Cursor.bump?_eq_none_iff.1 h, stripTemplatesFrom]
    simp [readOperator?, operatorWord]
  | case2 c token next h ih =>
    have hfilter : text (List.filter Step.kept (⟨c, token⟩ :: next.steps))
        = (if Step.kept ⟨c, token⟩ then token else []) ++ text (next.steps.filter Step.kept) := by
      rw [List.filter_cons]
      split <;> rfl
    rw [hfilter, ← ih]
    rcases Cursor.bump?_cases h with ⟨rest, hread, rfl⟩ | ⟨char, rest, hread, hrest, rfl, rfl⟩
    · rw [stripTemplatesFrom_operator hread, Step.kept_of_operator hread]
    · rw [hrest] at hread ⊢
      rw [stripTemplatesFrom_char hread, Step.kept_singleton, Cursor.pass_before,
        Cursor.pass_angle, Cursor.pass_rest]

/-- **The name without its template arguments, token by token.** -/
theorem stripTemplates_eq (name : List Char) :
    stripTemplates name = text ((steps name).filter Step.kept) :=
  stripTemplatesFrom_eq (Cursor.start name)

/-! ## Names of which nothing is stripped -/

/-- The token opens a template or argument list. -/
def Step.opens (s : Step) : Bool :=
  s.token == ['<'] || s.token == ['(']

/-- A cursor outside any list stays there as long as no token opens one. -/
lemma Cursor.atTop_next {c next : Cursor} {token : List Char} (hc : c.atTop = true)
    (h : c.bump? = some (token, next)) (hopens : Step.opens ⟨c, token⟩ = false) :
    next.atTop = true := by
  rcases bump?_cases h with ⟨rest, -, rfl⟩ | ⟨char, rest, -, -, rfl, rfl⟩
  · exact hc
  · obtain ⟨hangle, hparen⟩ : char ≠ '<' ∧ char ≠ '(' := by simpa [Step.opens] using hopens
    exact atTop_pass hc hangle hparen rest

/-- Outside any list, a token opens one just if it is left out or ends the name. -/
lemma Cursor.opens_eq {c next : Cursor} {token : List Char} (hc : c.atTop = true)
    (h : c.bump? = some (token, next)) :
    Step.opens ⟨c, token⟩ = (!Step.kept ⟨c, token⟩ || Step.opensArguments ⟨c, token⟩) := by
  have hangle : c.angle = 0 := by
    simp only [atTop, Bool.and_eq_true, beq_iff_eq] at hc
    exact hc.1
  rcases bump?_cases h with ⟨rest, hread, -⟩ | ⟨char, rest, -, hrest, rfl, -⟩
  · obtain ⟨-, blanks, tail, htext, -, htoken, -⟩ := readOperator?_cases hread
    rw [htoken]
    simp [Step.opens, Step.kept, Step.opensArguments, htext, hangle, operatorWord]
  · simp [Step.opens, Step.kept, Step.opensArguments, hrest, hc, hangle, bne]

/-- **A name opens no list** just if none of its tokens is left out with the template arguments and
none ends it as the start of an argument list. -/
lemma Cursor.forall_opens_iff {c : Cursor} (hc : c.atTop = true) :
    (∀ s ∈ c.steps, s.opens = false)
      ↔ ∀ s ∈ c.steps, s.kept = true ∧ s.opensArguments = false := by
  fun_induction Cursor.steps c with
  | case1 c h => simp
  | case2 c token next h ih =>
    have hstep : Step.opens ⟨c, token⟩ = false
        ↔ Step.kept ⟨c, token⟩ = true ∧ Step.opensArguments ⟨c, token⟩ = false := by
      rw [opens_eq hc h]
      simp
    rw [List.forall_mem_cons, List.forall_mem_cons, ← hstep]
    exact and_congr_right fun hopens => ih (atTop_next hc h hopens)

/-- A name that opens no list has neither arguments nor template arguments. -/
lemma strip_eq_self {name : List Char} (h : ∀ s ∈ steps name, s.opens = false) :
    stripSignature name = name ∧ stripTemplates name = name := by
  have hall : ∀ s ∈ steps name, s.kept = true ∧ s.opensArguments = false :=
    (Cursor.forall_opens_iff rfl).1 h
  constructor
  · rw [stripSignature, List.takeWhile_eq_self_iff.2 fun s hs => by simp [(hall s hs).2],
      text_steps]
  · rw [stripTemplates_eq, List.filter_eq_self.2 fun s hs => (hall s hs).1, text_steps]

/-- A name does not get longer without its template arguments. -/
lemma length_stripTemplates_le (name : List Char) : (stripTemplates name).length ≤ name.length := by
  have h := length_text_le (List.filter_sublist (p := Step.kept) (l := steps name))
  rwa [text_steps, ← stripTemplates_eq] at h

/-- A name does not get longer without its arguments. -/
lemma length_stripSignature_le (name : List Char) : (stripSignature name).length ≤ name.length := by
  have h := length_text_le (List.takeWhile_sublist (l := steps name) fun s => !s.opensArguments)
  rwa [text_steps] at h

/-- **A name that does not get shorter without its arguments and template arguments opens no list.** -/
lemma opens_of_length_le {name : List Char}
    (h : name.length ≤ (stripTemplates (stripSignature name)).length) :
    ∀ s ∈ steps name, s.opens = false := by
  have hle := length_stripTemplates_le (stripSignature name)
  have hsignature : (steps name).takeWhile (fun s => !s.opensArguments) = steps name := by
    refine eq_of_length_text_le (List.takeWhile_sublist _) (fun s hs => Cursor.token_ne_nil hs) ?_
    rw [text_steps]
    exact Nat.le_trans h hle
  have hself : stripSignature name = name := by
    rw [stripSignature, hsignature, text_steps]
  have htemplates : (steps name).filter Step.kept = steps name := by
    refine eq_of_length_text_le List.filter_sublist (fun s hs => Cursor.token_ne_nil hs) ?_
    rw [text_steps, ← stripTemplates_eq]
    rwa [hself] at h
  refine (Cursor.forall_opens_iff (c := Cursor.start name) rfl).2 fun s hs => ⟨?_, ?_⟩
  · exact List.filter_eq_self.1 htemplates s hs
  · simpa using List.takeWhile_eq_self_iff.1 hsignature s hs

/-! ## Components -/

/-- A separator: two colons outside any list. -/
lemma Step.isSeparator_iff {s : Step} : s.isSeparator = true
    ↔ s.cursor.atTop = true ∧ ∃ rest, s.cursor.rest = ':' :: ':' :: rest := by
  rw [isSeparator, Bool.and_eq_true, List.isPrefixOf_iff_prefix]
  exact and_congr_right fun _ => ⟨fun ⟨rest, h⟩ => ⟨rest, h.symm⟩, fun ⟨rest, h⟩ => ⟨rest, h.symm⟩⟩

/-- A colon is a token of its own and leaves the nesting as it is. -/
lemma Cursor.bump?_of_colon {c : Cursor} {rest : List Char} (h : c.rest = ':' :: rest) :
    c.bump? = some ([':'], { c with before := some ':', rest }) := by
  have hread : readOperator? c.before c.rest = none := by
    rw [h]
    exact readOperator?_of_head (by decide) rest
  exact bump?_of_char hread h

/-- Any tokens have at least one component. -/
lemma components_ne_nil (steps : List Step) : components steps ≠ [] := by
  fun_cases components steps <;> simp

/-- A token that is at no separator belongs to the first component. -/
lemma components_cons {s : Step} (h : s.isSeparator = false) (rest : List Step) :
    components (s :: rest) = (components rest).modifyHead (s.token ++ ·) := by
  cases rest with
  | nil => simp [components]
  | cons t rest =>
    rw [components, h]
    cases hparts : components (t :: rest) with
    | nil => exact absurd hparts (components_ne_nil _)
    | cons first others => rfl

/-- A separator ends the first component; its two colons are two tokens. -/
lemma Cursor.components_of_colons {c : Cursor} {rest : List Char} (htop : c.atTop = true)
    (hrest : c.rest = ':' :: ':' :: rest) :
    components c.steps = [] :: components ({ c with before := some ':', rest } : Cursor).steps := by
  have hsecond : ({ c with before := some ':', rest := ':' :: rest } : Cursor).bump?
      = some ([':'], { c with before := some ':', rest }) := bump?_of_colon rfl
  have hsep : Step.isSeparator ⟨c, [':']⟩ = true := Step.isSeparator_iff.2 ⟨htop, rest, hrest⟩
  rw [steps_of_bump? (bump?_of_colon hrest), steps_of_bump? hsecond, components, if_pos hsep]

/-- The components from a cursor on, joined again, are what it has to read. -/
lemma Cursor.joinScopes_components (c : Cursor) : joinScopes (components c.steps) = c.rest := by
  induction hlength : c.rest.length using Nat.strong_induction_on generalizing c with
  | _ n ih =>
    cases hbump : c.bump? with
    | none =>
      rw [steps_of_nil (bump?_eq_none_iff.1 hbump), bump?_eq_none_iff.1 hbump]
      rfl
    | some read =>
      obtain ⟨token, next⟩ := read
      cases hsep : Step.isSeparator ⟨c, token⟩ with
      | true =>
        -- the two colons of the separator come back with the join
        obtain ⟨htop, rest, hrest⟩ := Step.isSeparator_iff.1 hsep
        have hcolons : c.rest = ':' :: ':' :: rest := hrest
        have hshorter : rest.length < n := by
          rw [← hlength, hcolons, List.length_cons, List.length_cons]
          omega
        have hafter := ih rest.length hshorter { c with before := some ':', rest } rfl
        rw [components_of_colons htop hcolons, hcolons]
        cases hparts : components ({ c with before := some ':', rest } : Cursor).steps with
        | nil => exact absurd hparts (components_ne_nil _)
        | cons first others =>
          rw [hparts] at hafter
          rw [joinScopes, Text.join_cons_cons]
          exact congrArg (fun text => ':' :: ':' :: text) hafter
      | false =>
        have hnext := ih _ (hlength ▸ bump?_length hbump) next rfl
        rw [steps_of_bump? hbump, components_cons hsep, ← bump?_append hbump]
        cases hparts : components next.steps with
        | nil => exact absurd hparts (components_ne_nil _)
        | cons first others =>
          rw [hparts] at hnext
          rw [← hnext]
          exact Text.join_append_cons ..

/-- **The components of a name, joined again, are the name.** -/
theorem joinScopes_splitScopes (name : List Char) : joinScopes (splitScopes name) = name :=
  Cursor.joinScopes_components _

end DocComments.Name
