import DocComments.Name.Operator

set_option autoImplicit false

/-!
# Reading a qualified name token by token

A cursor moves over a name such as `ns::foo<T>::bar(int)const` one token at a time, a token being a
single character or a whole operator name, and keeps the nesting of the template and argument lists
that it is inside of. What stands at nesting zero is *at the top*.

## Main definitions

* `Cursor` — the place in a name, with its nesting.
* `Cursor.bump?` — the token at the cursor and the cursor after it.
* `Step`, `steps` — the tokens of a name, each with the cursor it was read at.

## Main results

* `steps_tokens` — the tokens of a name, put together, are the name.
-/

namespace DocComments.Name

/-- A place in a name: the character before it, the nesting of template lists (`angle`) and of
argument lists (`paren`), and what is still to be read. -/
structure Cursor where
  before : Option Char := none
  angle : Nat := 0
  paren : Nat := 0
  rest : List Char
  deriving Repr, DecidableEq

/-- The cursor at the start of a name. -/
def Cursor.start (name : List Char) : Cursor :=
  { rest := name }

/-- The cursor is outside any template or argument list. -/
def Cursor.atTop (c : Cursor) : Bool :=
  c.angle == 0 && c.paren == 0

/-- The cursor after a single character. A closing bracket without an opening one is ignored. -/
def Cursor.pass (c : Cursor) (char : Char) (rest : List Char) : Cursor :=
  match char with
  | '<' => { c with before := some char, angle := c.angle + 1, rest }
  | '>' => { c with before := some char, angle := c.angle - 1, rest }
  | '(' => { c with before := some char, paren := c.paren + 1, rest }
  | ')' => { c with before := some char, paren := c.paren - 1, rest }
  | _ => { c with before := some char, rest }

/-- The token at the cursor and the cursor after it. -/
def Cursor.bump? (c : Cursor) : Option (List Char × Cursor) :=
  match readOperator? c.before c.rest with
  | some (token, rest) => some (token, { c with before := token.getLast?, rest })
  | none =>
    match c.rest with
    | [] => none
    | char :: rest => some ([char], c.pass char rest)

/-- A token together with the cursor it was read at. -/
structure Step where
  cursor : Cursor
  token : List Char
  deriving Repr, DecidableEq

/-- Behind a character that was passed comes what follows it. -/
@[simp]
theorem Cursor.pass_rest (c : Cursor) (char : Char) (rest : List Char) :
    (c.pass char rest).rest = rest := by
  unfold Cursor.pass
  split <;> rfl

/-- The token and what the next cursor has to read make up what this one had. -/
theorem Cursor.bump?_append {c d : Cursor} {token : List Char} (h : c.bump? = some (token, d)) :
    token ++ d.rest = c.rest := by
  unfold Cursor.bump? at h
  split at h
  · rename_i hop
    simp only [Option.some.injEq, Prod.mk.injEq] at h
    obtain ⟨rfl, rfl⟩ := h
    exact readOperator?_append hop
  · split at h
    · cases h
    · rename_i hrest
      simp only [Option.some.injEq, Prod.mk.injEq] at h
      obtain ⟨rfl, rfl⟩ := h
      simp [hrest]

/-- Every token takes at least one character. -/
theorem Cursor.bump?_length {c d : Cursor} {token : List Char} (h : c.bump? = some (token, d)) :
    d.rest.length < c.rest.length := by
  unfold Cursor.bump? at h
  split at h
  · rename_i hop
    simp only [Option.some.injEq, Prod.mk.injEq] at h
    obtain ⟨rfl, rfl⟩ := h
    exact readOperator?_length hop
  · split at h
    · cases h
    · rename_i hrest
      simp only [Option.some.injEq, Prod.mk.injEq] at h
      obtain ⟨rfl, rfl⟩ := h
      simp [hrest]

/-- The tokens from a cursor on, each with the cursor it was read at. -/
def Cursor.steps (c : Cursor) : List Step :=
  match _h : c.bump? with
  | none => []
  | some (token, next) => ⟨c, token⟩ :: next.steps
termination_by c.rest.length
decreasing_by exact Cursor.bump?_length _h

/-- The tokens of a name, each with the cursor it was read at. -/
def steps (name : List Char) : List Step :=
  (Cursor.start name).steps

/-- The tokens of some steps, put together. -/
def text (steps : List Step) : List Char :=
  steps.flatMap (·.token)

/-- The tokens from a cursor on, put together, are what it has to read. -/
theorem Cursor.text_steps (c : Cursor) : text c.steps = c.rest := by
  fun_induction Cursor.steps c with
  | case1 c h =>
    unfold Cursor.bump? at h
    split at h
    · cases h
    · split at h
      · rename_i hrest; simp [text, hrest]
      · cases h
  | case2 c token next h ih =>
    have := Cursor.bump?_append h
    simp only [text, List.flatMap_cons] at ih ⊢
    rw [ih, this]

/-- The tokens of a name, put together, are the name. -/
theorem text_steps (name : List Char) : text (steps name) = name :=
  Cursor.text_steps _

end DocComments.Name
