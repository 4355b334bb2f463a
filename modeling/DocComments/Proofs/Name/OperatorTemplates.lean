import DocComments.Proofs.Name.Aliases
import DocComments.Proofs.Name.Nesting

set_option autoImplicit false

/-!
# Template arguments of operators

The symbol of an operator name is a bracket pair or the longest run of symbol characters, and the
bracket that opens a template list is such a character. So the template arguments of a call or index
operator are removed like those of any other name, and the operator is filed under its own name. The
symbol of any other operator takes the opening bracket, and the arguments stay.

For the operators of the first kind the name is followed through all the forms: the argument list is
cut off behind the template list, the template list is left out, and what is left is the scope without
its template arguments and the operator name, which becomes the last component of the short key.

## Main definitions

* `IsPair` — the operators that are a bracket pair.
* `operatorTemplate` — an operator name with template arguments and what follows them.

## Main results

* `IsScope.steps_operatorTemplate` — the tokens of an operator with template arguments.
* `stripTemplates_pair`, `stripTemplates_run` — what is left of its template arguments.
* `mem_shortAliases_pair` — a bracket pair is filed under its own name.
* `stripTemplates_operator` — which operators lose their template arguments.
-/

namespace DocComments.Name

/-- The operator symbols that are a bracket pair. -/
def IsPair (symbol : List Char) : Prop :=
  symbol = ['(', ')'] ∨ symbol = ['[', ']']

/-- Whether a symbol is a bracket pair is decided by comparing it with both. -/
instance (symbol : List Char) : Decidable (IsPair symbol) :=
  inferInstanceAs (Decidable (_ ∨ _))

/-- A bracket pair is an operator symbol. -/
lemma IsPair.isSymbol {symbol : List Char} (h : IsPair symbol) : IsSymbol symbol :=
  h.imp_right .inl

/-- The operator with the given symbol and template arguments, and what follows them. -/
def operatorTemplate (symbol args tail : List Char) : List Char :=
  operatorWord ++ (symbol ++ '<' :: (args ++ '>' :: tail))

/-- What follows the template arguments is written behind them. -/
lemma operatorTemplate_append (symbol args tail : List Char) :
    operatorTemplate symbol args tail = operatorTemplate symbol args [] ++ tail := by
  simp [operatorTemplate]

/-- An operator name starts with a letter. -/
lemma operatorTemplate_head (symbol args tail : List Char) :
    (operatorTemplate symbol args tail).head?.any Text.isSpace = false := by
  have hletter : Text.isSpace 'o' = false := by decide +kernel
  exact hletter

/-- A token that starts with the word is kept outside any template list. -/
lemma Step.kept_operator {c : Cursor} (hc : c.angle = 0) (symbol : List Char) :
    Step.kept ⟨c, operatorWord ++ symbol⟩ = true := by
  simp [Step.kept, hc, operatorWord]

/-! ## Symbols that are no bracket pair -/

/-- **The symbol takes the bracket that opens the template arguments.** -/
lemma stripTemplates_run {scope symbol : List Char} (hscope : IsScope scope)
    (htop : EndsAtTop scope) (hsymbol : ∀ c ∈ symbol, c ∈ operatorSymbols) (tail : List Char) :
    stripTemplates scope ++ (operatorWord ++ (symbol ++ ['<']))
      <+: stripTemplates (scope ++ (operatorWord ++ (symbol ++ '<' :: tail))) := by
  obtain ⟨before, hfree, -, hsteps⟩ :=
    hscope.steps_append htop (operatorWord ++ (symbol ++ '<' :: tail))
  have hrun : IsSymbol (symbol ++ ['<']) := by
    refine .inr (.inr fun c hc => ?_)
    rcases List.mem_append.1 hc with hc | hc
    · exact hsymbol c hc
    · rw [List.mem_singleton.1 hc]
      decide
  have hne : symbol ++ ['<'] ≠ [] := by simp
  have hassoc : symbol ++ '<' :: tail = symbol ++ ['<'] ++ tail := by simp
  obtain ⟨more, hmore, -⟩ := hrun.readSymbol_append hne tail
  obtain ⟨hblank, hident⟩ := hrun.head_append hne tail
  have hread := readOperator?_word hfree 0 hblank hident
  rw [List.replicate_zero, List.nil_append, List.nil_append, hmore, ← hassoc] at hread
  have hbump := Cursor.bump?_of_operator
    (c := { before, rest := operatorWord ++ (symbol ++ '<' :: tail) }) hread
  rw [stripTemplates_eq (scope ++ _), hsteps, Cursor.steps_of_bump? hbump, List.filter_append,
    text_append, text_filter_followedBy, ← stripTemplates_eq,
    List.filter_cons_of_pos (Step.kept_operator rfl _), text_cons]
  rw [List.append_assoc operatorWord, List.append_assoc (symbol ++ ['<']),
    List.prefix_append_right_inj, List.prefix_append_right_inj]
  exact List.prefix_append _ _

/-! ## Bracket pairs -/

section Pairs

variable {scope symbol args : List Char} (hscope : IsScope scope) (htop : EndsAtTop scope)
  (hsymbol : IsPair symbol) (hargs : Bracketed args)
  (hnamed : ∀ s ∈ steps args, s.isOperator = false)

include hscope htop hsymbol hargs hnamed

/-- **The tokens of an operator with template arguments in a scope**: those of the scope, the operator
name, and those of the template list. -/
lemma IsScope.steps_operatorTemplate (tail : List Char) :
    ∃ (before : Option Char) (inside : List Step), before ≠ some '>' ∧
      (∀ s ∈ inside, s.kept = false ∧ s.opensArguments = false) ∧
      steps (scope ++ operatorTemplate symbol args tail)
        = (steps scope).map (Step.followedBy (operatorTemplate symbol args tail)) ++
          ⟨{ before, rest := operatorTemplate symbol args tail }, operatorWord ++ symbol⟩ ::
          (inside ++ ({ before := some '>', rest := tail } : Cursor).steps) := by
  obtain ⟨before, hfree, hclose, hsteps⟩ :=
    hscope.steps_append htop (operatorTemplate symbol args tail)
  have hread : readOperator? before (operatorTemplate symbol args tail)
      = some (operatorWord ++ symbol, '<' :: (args ++ '>' :: tail)) := by
    rcases hsymbol with rfl | rfl
    · exact readOperator?_word hfree 0 (by simp) (by rfl)
    · exact readOperator?_word hfree 0 (by simp) (by rfl)
  have hbump := Cursor.bump?_of_operator
    (c := { before, rest := operatorTemplate symbol args tail }) hread
  obtain ⟨inside, ⟨hinside, -⟩, hlists⟩ := passes_templates
    (c := { before := (operatorWord ++ symbol).getLast?, rest := '<' :: (args ++ '>' :: tail) })
    hargs hnamed rfl
  refine ⟨before, inside, hclose, hlists, ?_⟩
  rw [hsteps, Cursor.steps_of_bump? hbump, hinside]

/-- The template arguments are left out. -/
lemma stripTemplates_pair : stripTemplates (scope ++ operatorTemplate symbol args [])
    = stripTemplates scope ++ (operatorWord ++ symbol) := by
  obtain ⟨before, inside, -, hlists, hsteps⟩ :=
    hscope.steps_operatorTemplate htop hsymbol hargs hnamed []
  have hinside : inside.filter Step.kept = [] :=
    List.filter_eq_nil_iff.2 fun s hs => by simp [(hlists s hs).1]
  have hnil : ({ before := some '>', rest := [] } : Cursor).steps = [] := Cursor.steps_of_nil rfl
  rw [stripTemplates_eq, hsteps, List.filter_append, text_append, text_filter_followedBy,
    List.filter_cons_of_pos (Step.kept_operator rfl _), List.filter_append, hinside, hnil,
    ← stripTemplates_eq]
  simp

variable (hregular : Regular scope)

include hregular

/-- The argument list behind the template arguments is cut off. -/
lemma stripSignature_pair (arguments : List Char) :
    stripSignature (scope ++ operatorTemplate symbol args ('(' :: arguments))
      = scope ++ operatorTemplate symbol args [] := by
  obtain ⟨before, inside, -, hlists, hsteps⟩ :=
    hscope.steps_operatorTemplate htop hsymbol hargs hnamed ('(' :: arguments)
  set tail := operatorTemplate symbol args ('(' :: arguments) with htail
  set front := (steps scope).map (Step.followedBy tail)
    ++ ⟨{ before, rest := tail }, operatorWord ++ symbol⟩ :: inside with hfront
  set last : Cursor := { before := some '>', rest := '(' :: arguments } with hlast
  have hall : steps (scope ++ tail) = front ++ last.steps := by
    rw [hsteps, hfront, List.append_assoc, List.cons_append]
  have hkeep : ∀ s ∈ front, (!s.opensArguments) = true := by
    intro s hs
    rw [Bool.not_eq_true']
    rcases List.mem_append.1 hs with hs | hs
    · obtain ⟨t, ht, rfl⟩ := List.mem_map.1 hs
      rw [Step.opensArguments_followedBy ht, hregular.opensArguments t ht]
    rcases List.mem_cons.1 hs with rfl | hs
    · rw [htail]
      simp [Step.opensArguments, operatorTemplate, operatorWord]
    · exact (hlists s hs).2
  have hcut : last.steps.takeWhile (fun s => !s.opensArguments) = [] := by
    rw [Cursor.steps_of_bump? (Cursor.bump?_of_char (readOperator?_of_head (by decide) arguments) rfl)]
    rfl
  have htext : text front ++ '(' :: arguments
      = scope ++ operatorTemplate symbol args [] ++ '(' :: arguments := by
    have happend := text_steps (scope ++ tail)
    rw [hall, text_append, Cursor.text_steps, htail, operatorTemplate_append, ← List.append_assoc]
      at happend
    exact happend
  rw [stripSignature, hall, List.takeWhile_append_of_pos hkeep, hcut, List.append_nil]
  exact List.append_cancel_right htext

/-- In a regular scope the operator is regular. -/
lemma regular_pair : Regular (scope ++ operatorTemplate symbol args []) := by
  obtain ⟨before, inside, hclose, hlists, hsteps⟩ :=
    hscope.steps_operatorTemplate htop hsymbol hargs hnamed []
  have hnil : ({ before := some '>', rest := [] } : Cursor).steps = [] := Cursor.steps_of_nil rfl
  intro s hs
  rw [hsteps, hnil, List.append_nil] at hs
  rcases List.mem_append.1 hs with hs | hs
  · obtain ⟨t, ht, rfl⟩ := List.mem_map.1 hs
    exact hregular t ht
  rcases List.mem_cons.1 hs with rfl | hs
  · have hne : operatorWord ++ symbol ≠ ['('] := by
      simp [operatorWord]
    simp [Step.irregular, hne, hclose]
  · -- inside the template list only its own bracket stands at the top
    have hkept := (hlists s hs).1
    rcases eq_or_ne s.cursor.angle 0 with hangle | hangle
    · have htoken : s.token = ['<'] := by simpa [Step.kept, hangle] using hkept
      simp [Step.irregular, Step.isOperator, htoken, operatorWord, List.isPrefixOf]
    · simp [Step.irregular, hangle]

/-- The short key of the operator with an argument list. -/
lemma shortKey_pair (hstart : scope.head?.any Text.isSpace = false) (arguments : List Char) :
    shortKey (scope ++ operatorTemplate symbol args ('(' :: (arguments ++ [')'])))
      = Text.squeeze (stripTemplates scope ++ (operatorWord ++ symbol)) := by
  have htrim : Text.trim (scope ++ operatorTemplate symbol args ('(' :: (arguments ++ [')'])))
      = scope ++ operatorTemplate symbol args ('(' :: (arguments ++ [')'])) := by
    have hhead : (scope ++ operatorTemplate symbol args ('(' :: (arguments ++ [')']))).head?.any
        Text.isSpace = false := by
      cases scope with
      | nil => exact operatorTemplate_head ..
      | cons c scope => exact hstart
    have hlast : scope ++ operatorTemplate symbol args ('(' :: (arguments ++ [')']))
        = scope ++ operatorTemplate symbol args ('(' :: arguments) ++ [')'] := by
      simp [operatorTemplate]
    rw [Text.trim, Text.trimStart_of_not_space hhead, hlast,
      Text.trimEnd_append_singleton (by decide +kernel)]
  rw [shortKey, htrim, stripSignature_pair hscope htop hsymbol hargs hnamed hregular,
    stripTemplates_pair hscope htop hsymbol hargs hnamed]
  rfl

/-- **The operator with an argument list is filed under its own name.**

**Proof sketch.** The short key is the scope without its template arguments, squeezed, and the operator
name behind it. It opens no list since the scope is regular, so its last component is the operator
name. -/
lemma mem_shortAliases_pair (hstart : scope.head?.any Text.isSpace = false)
    (hcolons : ¬[':', ':', ':'] <:+ stripTemplates scope) (arguments : List Char) :
    operatorWord ++ symbol
      ∈ shortAliases (scope ++ operatorTemplate symbol args ('(' :: (arguments ++ [')']))) := by
  have hkey := shortKey_pair hscope htop hsymbol hargs hnamed hregular hstart arguments
  have hopens : ∀ s ∈ steps (Text.squeeze (stripTemplates scope ++ (operatorWord ++ symbol))),
      s.opens = false := by
    have hspelled := (regular_pair hscope htop hsymbol hargs hnamed hregular).spelled_stripTemplates
    rw [stripTemplates_pair hscope htop hsymbol hargs hnamed] at hspelled
    exact Spelled.opens_eq_false (c := Cursor.start _) (hspelled.squeeze fun hident => by cases hident)
  have hrun : ∀ c ∈ operatorWord ++ symbol, Text.isSpace c = false := by
    intro c hc
    rcases List.mem_append.1 hc with hc | hc
    · exact isSpace_operatorWord c hc
    · exact (hsymbol.isSymbol.of_mem hc).1
  have hlast : splitScopes (operatorWord ++ symbol) = [operatorWord ++ symbol] := by
    rcases hsymbol with rfl | rfl <;> decide +kernel
  obtain ⟨front, hfront⟩ := (hscope.stripTemplates htop).exists_splitScopes_squeeze hcolons
    (by simp [operatorWord]) hrun hlast hopens
  exact last_mem_shortAliases (by rw [hkey, hfront]) (by simp [operatorWord]) (by simp [operatorWord])

end Pairs

/-! ## Operators with template arguments -/

/-- **Which operators lose their template arguments.** In a scope that is read to an end outside any
list, the template arguments of an operator are removed just if its symbol is a bracket pair. The symbol
of any other operator takes the bracket that opens them. And if the scope is regular and ends in exactly
one separator, a bracket pair is filed under its own name. -/
theorem stripTemplates_operator {scope symbol args : List Char} (hscope : IsScope scope)
    (htop : EndsAtTop scope) (hsymbol : IsSymbol symbol) (hargs : Bracketed args)
    (hnamed : ∀ s ∈ steps args, s.isOperator = false) :
    (stripTemplates (scope ++ operatorTemplate symbol args [])
        = stripTemplates scope ++ (operatorWord ++ symbol) ↔ IsPair symbol) ∧
    (¬IsPair symbol → stripTemplates scope ++ (operatorWord ++ (symbol ++ ['<']))
      <+: stripTemplates (scope ++ operatorTemplate symbol args [])) ∧
    (IsPair symbol → Regular scope → ¬[':', ':', ':'] <:+ stripTemplates scope → ∀ arguments,
      operatorWord ++ symbol
        ∈ shortAliases (scope ++ operatorTemplate symbol args ('(' :: (arguments ++ [')'])))) := by
  have hrun : ¬IsPair symbol → stripTemplates scope ++ (operatorWord ++ (symbol ++ ['<']))
      <+: stripTemplates (scope ++ operatorTemplate symbol args []) := by
    intro hpair
    rcases hsymbol with hround | hsquare | hrun
    · exact absurd (.inl hround) hpair
    · exact absurd (.inr hsquare) hpair
    · exact stripTemplates_run hscope htop hrun _
  refine ⟨⟨fun hstrip => ?_, fun hpair => stripTemplates_pair hscope htop hpair hargs hnamed⟩, hrun,
    fun hpair hregular hcolons arguments => ?_⟩
  · -- the bracket that the symbol took makes the result too long
    by_contra hpair
    have hlength := (hrun hpair).length_le
    rw [hstrip] at hlength
    simp only [List.length_append, List.length_singleton] at hlength
    omega
  · -- white space in front of the scope is not part of the key
    obtain ⟨-, -, -, -, hends⟩ := exists_steps_trimStart scope
    have hcolons' : ¬[':', ':', ':'] <:+ stripTemplates (Text.trimStart scope) := fun hsuffix =>
      hcolons (hsuffix.trans (stripTemplates_trimStart_suffix scope))
    rw [← shortAliases_trimStart scope (operatorTemplate_head ..)]
    exact mem_shortAliases_pair hscope.trimStart (hends.1 htop) hpair hargs hnamed hregular.trimStart
      (Text.trimStart_head scope) hcolons' arguments

/-- A call operator with template arguments in a scope with template arguments. -/
theorem stripTemplates_callOperator :
    stripTemplates "ns::v<T>::operator()<map<int>(x)>".toList = "ns::v::operator()".toList ∧
      "operator()".toList ∈ shortAliases "ns::v<T>::operator()<map<int>(x)>(int a)".toList := by
  have hargs : Bracketed "map<int>(x)".toList :=
    .char (by decide) (.char (by decide) (.char (by decide)
      (@Bracketed.angle "int".toList "(x)".toList
        (.char (by decide) (.char (by decide) (.char (by decide) .nil)))
        (@Bracketed.paren "x".toList [] (.char (by decide) .nil) .nil))))
  have h := @stripTemplates_operator "ns::v<T>::".toList "()".toList "map<int>(x)".toList
    (.inr (by decide +kernel)) (by decide +kernel) (.inl (by decide)) hargs (by decide +kernel)
  exact ⟨(h.1.2 (by decide)).trans (by decide +kernel),
    h.2.2 (by decide) (by decide +kernel) (by decide +kernel) "int a".toList⟩

/-- **The symbols `==` and `+` take the bracket that opens the template arguments**, and the operator
is filed under names that include them. -/
theorem stripTemplates_operator_ne :
    stripTemplates "operator==<int>".toList ≠ "operator==".toList ∧
      shortAliases "ns::v::operator+<int>(a,b)".toList = ["ns::v::operator+<int>".toList,
        "v::operator+<int>".toList, "operator+<int>".toList] := by
  decide +kernel

end DocComments.Name
