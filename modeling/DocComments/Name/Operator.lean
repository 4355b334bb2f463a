import DocComments.Text.Blank

set_option autoImplicit false

/-!
# Operator names

The name of an operator, such as `operator<` or `operator ()`, is one token: its symbol never opens
or closes a template or argument list. A token starts at the word `operator`, provided that no
identifier character stands on either side of the word, and takes the blanks and the symbol that
follow.

## Main definitions

* `isIdentifier` — the characters of an identifier.
* `readOperator?` — the operator token at the head of a text and what follows it.

## Main results

* `readOperator?_append` — a token and what follows it make up the text that was read.
* `readOperator?_length` — a token is not empty.
-/

namespace DocComments.Name

/-- The word every operator name starts with. -/
def operatorWord : List Char :=
  ['o', 'p', 'e', 'r', 'a', 't', 'o', 'r']

/-- The characters an operator symbol is spelled with, the two bracket pairs apart. -/
def operatorSymbols : List Char :=
  ['<', '>', '=', '!', '+', '-', '*', '/', '%', '^', '&', '|', '~', ',']

/-- The characters of an identifier. -/
def isIdentifier (c : Char) : Bool :=
  Text.isAsciiLetter c || Text.isAsciiDigit c || c == '_'

/-- Splits the symbol off the text after `operator` and its blanks: a bracket pair, or else the
longest run of symbol characters, possibly empty. -/
def readSymbol : List Char → List Char × List Char
  | '(' :: ')' :: rest => (['(', ')'], rest)
  | '[' :: ']' :: rest => (['[', ']'], rest)
  | text => (text.takeWhile operatorSymbols.contains, text.dropWhile operatorSymbols.contains)

/-- The operator token at the head of a text, given the character before it, and what follows. -/
def readOperator? (before : Option Char) (text : List Char) : Option (List Char × List Char) :=
  if !operatorWord.isPrefixOf text || before.any isIdentifier then none
  else
    let rest := text.drop operatorWord.length
    if rest.head?.any isIdentifier then none
    else
      let symbol := readSymbol (rest.dropWhile (· == ' '))
      some (operatorWord ++ rest.takeWhile (· == ' ') ++ symbol.1, symbol.2)

/-! ## What is read is what stood there -/

/-- A symbol and what follows it make up the text that was read. -/
theorem readSymbol_append (text : List Char) : (readSymbol text).1 ++ (readSymbol text).2 = text := by
  unfold readSymbol
  split <;> simp [List.takeWhile_append_dropWhile]

/-- A token and what follows it make up the text that was read. -/
theorem readOperator?_append {before : Option Char} {text token rest : List Char}
    (h : readOperator? before text = some (token, rest)) : token ++ rest = text := by
  unfold readOperator? at h
  split at h
  · cases h
  · rename_i hword
    simp only at h
    split at h
    · cases h
    · simp only [Option.some.injEq, Prod.mk.injEq] at h
      obtain ⟨rfl, rfl⟩ := h
      have hp : operatorWord.isPrefixOf text = true := by
        simp only [Bool.or_eq_true, Bool.not_eq_true', not_or, Bool.not_eq_false] at hword
        exact hword.1
      obtain ⟨tail, rfl⟩ := List.isPrefixOf_iff_prefix.1 hp
      simp [List.append_assoc, readSymbol_append, List.takeWhile_append_dropWhile]

/-- A token is not empty: what follows it is shorter than what was read. -/
theorem readOperator?_length {before : Option Char} {text token rest : List Char}
    (h : readOperator? before text = some (token, rest)) : rest.length < text.length := by
  have happ := readOperator?_append h
  have hpos : 0 < token.length := by
    unfold readOperator? at h
    split at h
    · cases h
    · simp only at h
      split at h
      · cases h
      · simp only [Option.some.injEq, Prod.mk.injEq] at h
        rw [← h.1]
        simp [operatorWord]
  rw [← happ, List.length_append]
  omega

end DocComments.Name
