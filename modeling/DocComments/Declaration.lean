import DocComments.Position

set_option autoImplicit false

/-!
# Declarations

What a language front end hands over: a tree of declarations with their names, signatures and
positions, and the raw comments that belong to them.

## Main definitions

* `EntityKind` — what is declared.
* `EntityKind.displayName`, `EntityKind.isScope` — how a kind is called, and whether it has members.
* `Declaration` — a declaration with everything declared inside it.
-/

namespace DocComments

/-- What is declared. -/
inductive EntityKind where
  | file
  | nameSpace
  | classType
  | structType
  | unionType
  | enumType
  | enumerator
  | function
  | memberFunction
  | constructor
  | destructor
  | globalVariable
  | memberVariable
  | typeAlias
  | preprocessorMacro
  deriving Repr, DecidableEq, Inhabited

namespace EntityKind

/-- All kinds, in their order. -/
def all : List EntityKind :=
  [file, nameSpace, classType, structType, unionType, enumType, enumerator, function,
    memberFunction, constructor, destructor, globalVariable, memberVariable, typeAlias,
    preprocessorMacro]

/-- The identifier of a kind in reports. -/
def id : EntityKind → String
  | file => "file"
  | nameSpace => "namespace"
  | classType => "class"
  | structType => "struct"
  | unionType => "union"
  | enumType => "enum"
  | enumerator => "enumerator"
  | function => "function"
  | memberFunction => "member_function"
  | constructor => "constructor"
  | destructor => "destructor"
  | globalVariable => "variable"
  | memberVariable => "member_variable"
  | typeAlias => "typedef"
  | preprocessorMacro => "macro"

/-- The kind with a given identifier. -/
def ofId? (word : String) : Option EntityKind :=
  all.find? (·.id == word)

/-- How a kind is called in headings. -/
def displayName : EntityKind → String
  | file => "Header file"
  | nameSpace => "Namespace"
  | classType => "Class"
  | structType => "Struct"
  | unionType => "Union"
  | enumType => "Enumeration"
  | enumerator => "Enumeration constant"
  | function | memberFunction => "Function"
  | constructor => "Constructor"
  | destructor => "Destructor"
  | globalVariable | memberVariable => "Variable"
  | typeAlias => "Type alias"
  | preprocessorMacro => "Macro"

/-- Entities of these kinds have named members. A relative link in the comment of any other entity
is looked up from its parent. -/
def isScope : EntityKind → Bool
  | file | nameSpace | classType | structType | unionType | enumType => true
  | _ => false

end EntityKind

/-- A declaration with everything declared inside it. -/
structure Declaration where
  kind : EntityKind
  /-- The name without its scopes. -/
  name : String
  /-- The name with its scopes and arguments, which tells it from every other. -/
  qualifiedName : String
  /-- The declaration as it is written. -/
  signature : String
  position : Position := {}
  /-- The raw comment, with its decoration. -/
  comment : Option String := none
  children : List Declaration := []

mutual

/-- How deeply declarations are nested. -/
def Declaration.depth : Declaration → Nat
  | ⟨_, _, _, _, _, _, children⟩ => depthList children + 1

/-- How deeply some declarations are nested. -/
def Declaration.depthList : List Declaration → Nat
  | [] => 0
  | d :: rest => max d.depth (depthList rest)

end

end DocComments
