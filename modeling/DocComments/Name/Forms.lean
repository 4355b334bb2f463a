import DocComments.Name.Cursor

set_option autoImplicit false

/-!
# The forms of a name

Links may name an entity in several ways: relative to the scope they are written in, without its
argument list, by a member of it, or by a suffix of its scopes without any template arguments.

## Main definitions

* `relative?` — a name with a relative sigil.
* `stripSignature` — a name without its argument list.
* `splitMember?` — a name split at its last member dot.
* `stripTemplates` — a name without its template arguments.
* `splitScopes` — the components of a name between `::`.
* `shortKey`, `shortAliases`, `lastComponent` — the short names an entity can be found under.
-/

namespace DocComments.Name

/-- How a relative name is to be read. -/
inductive Relation where
  /-- `*name`: a child of the referring scope. -/
  | child
  /-- `?name`: a child of the parent of the referring scope. -/
  | sibling
  deriving Repr, DecidableEq

/-- The relation and the name after a relative sigil. -/
def relative? : List Char → Option (Relation × List Char)
  | '*' :: name => some (.child, name)
  | '?' :: name => some (.sibling, name)
  | _ => none

/-! ## Argument lists and members -/

/-- The step opens an argument list at the top. -/
def Step.opensArguments (s : Step) : Bool :=
  s.cursor.atTop && s.cursor.rest.head? == some '('

/-- The name up to its argument list: `ns::f(int)const` becomes `ns::f`. -/
def stripSignature (name : List Char) : List Char :=
  text ((steps name).takeWhile fun s => !s.opensArguments)

/-- The step is at a dot outside any list that does not start an ellipsis. -/
def Step.isMemberDot (s : Step) : Bool :=
  s.cursor.atTop && s.cursor.rest.head? == some '.' &&
    !(['.', '.', '.'].isPrefixOf s.cursor.rest)

/-- The name split at its last member dot, if both sides have something: `func(int).a` becomes
`func(int)` and `a`. -/
def splitMember? (name : List Char) : Option (List Char × List Char) :=
  match (steps name).reverse.find? (·.isMemberDot) with
  | none => none
  | some s =>
    let owner := name.take (name.length - s.cursor.rest.length)
    let member := s.cursor.rest.drop 1
    if owner.isEmpty || member.isEmpty then none else some (owner, member)

/-! ## Templates and scopes -/

/-- Removes template arguments, given the character before the text and how many template lists are
open. Operator names outside such lists are kept whole. -/
def stripTemplatesFrom (before : Option Char) (depth : Nat) (name : List Char) : List Char :=
  match h : readOperator? before name with
  | some (token, rest) =>
    (if depth == 0 then token else []) ++ stripTemplatesFrom token.getLast? depth rest
  | none =>
    match name with
    | [] => []
    | c :: rest =>
      if c == '<' then stripTemplatesFrom (some c) (depth + 1) rest
      else if c == '>' && depth > 0 then stripTemplatesFrom (some c) (depth - 1) rest
      else if depth == 0 then c :: stripTemplatesFrom (some c) depth rest
      else stripTemplatesFrom (some c) depth rest
termination_by name.length
decreasing_by
  · exact readOperator?_length h
  all_goals simp

/-- The name without its template argument lists: `foo<T>::bar` becomes `foo::bar`. -/
def stripTemplates (name : List Char) : List Char :=
  stripTemplatesFrom none 0 name

/-- The step is at a `::` outside any list. -/
def Step.isSeparator (s : Step) : Bool :=
  s.cursor.atTop && [':', ':'].isPrefixOf s.cursor.rest

/-- Collects the components of a name from its steps; a separator takes two of them. -/
def components : List Step → List (List Char)
  | [] => [[]]
  | [s] => [s.token]
  | s :: t :: rest =>
    if s.isSeparator then [] :: components rest
    else
      match components (t :: rest) with
      | [] => [s.token]
      | first :: others => (s.token ++ first) :: others

/-- The components of a name between the `::` outside template and argument lists. -/
def splitScopes (name : List Char) : List (List Char) :=
  components (steps name)

/-- Components put together with `::` between them. -/
def joinScopes (parts : List (List Char)) : List Char :=
  Text.join [':', ':'] parts

/-! ## Short names -/

/-- The key a name is filed under among the short names: without arguments and template arguments,
and with single blanks between its words. -/
def shortKey (name : List Char) : List Char :=
  Text.join [' '] (Text.words (stripTemplates (stripSignature (Text.trim name))))

/-- The scope suffixes of a name's short key, longest first: `ns::bar::f2()const` gives
`ns::bar::f2`, `bar::f2` and `f2`. A suffix that starts with a separator is no name. -/
def shortAliases (name : List Char) : List (List Char) :=
  let parts := splitScopes (shortKey name)
  ((List.range parts.length).map fun k => joinScopes (parts.drop k)).filter fun short =>
    !short.isEmpty && !([':', ':'].isPrefixOf short)

/-- The last scope component of a name's short key. -/
def lastComponent (name : List Char) : List Char :=
  (splitScopes (shortKey name)).getLast?.getD []

end DocComments.Name
