set_option autoImplicit false

/-!
# Sections of a comment

Every top-level paragraph of a documentation comment plays a role: it is the brief description, a
detail, the description of a parameter, and so on. Most roles are chosen by a command word at the
start of the paragraph.

## Main definitions

* `SectionKind` — the roles, in their order.
* `SectionKind.all` — the list of them.
* `SectionKind.defaultTitle`, `SectionKind.defaultCommand` — title and command word of a role,
  unless the settings rename them.
* `SectionKind.isMetadata`, `SectionKind.isInline` — the roles that configure the documented entity
  and those that document a named part of it.
-/

namespace DocComments

/-- The role of a top-level paragraph of a comment. -/
inductive SectionKind where
  | brief
  | details
  | parameter
  | templateParameter
  | baseClass
  | returns
  | effects
  | notes
  | requires
  | see
  | module
  | group
  | exclude
  | uniqueName
  | outputSection
  | invalid
  deriving Repr, DecidableEq, Inhabited

namespace SectionKind

/-- All roles, in their order. -/
def all : List SectionKind :=
  [brief, details, parameter, templateParameter, baseClass, returns, effects, notes, requires, see,
    module, group, exclude, uniqueName, outputSection, invalid]

/-- The identifier of a role in settings and reports. -/
def id : SectionKind → String
  | brief => "brief"
  | details => "details"
  | parameter => "parameter"
  | templateParameter => "template_parameter"
  | baseClass => "base_class"
  | returns => "return"
  | effects => "effects"
  | notes => "notes"
  | requires => "requires"
  | see => "see"
  | module => "module"
  | group => "group"
  | exclude => "exclude"
  | uniqueName => "unique_name"
  | outputSection => "output_section"
  | invalid => "invalid"

/-- The role with a given identifier. -/
def ofId? (word : String) : Option SectionKind :=
  all.find? (·.id == word)

/-- The title shown for a role unless the settings rename it. -/
def defaultTitle : SectionKind → String
  | brief | details | invalid => ""
  | parameter => "Parameters"
  | templateParameter => "Template parameters"
  | baseClass => "Base classes"
  | returns => "Return values"
  | effects => "Effects"
  | notes => "Notes"
  | requires => "Requires"
  | see => "See also"
  | module => "Module"
  | group => "Group"
  | exclude => "Exclude"
  | uniqueName => "Unique name"
  | outputSection => "Output section"

/-- The command word that selects a role; the roles given by position have none. -/
def defaultCommand : SectionKind → Option String
  | brief | details | outputSection | invalid => none
  | parameter => some "param"
  | templateParameter => some "tparam"
  | baseClass => some "base"
  | returns => some "return"
  | effects => some "effects"
  | notes => some "notes"
  | requires => some "requires"
  | see => some "see"
  | module => some "module"
  | group => some "group"
  | exclude => some "exclude"
  | uniqueName => some "unique_name"

/-- The roles that configure the documented entity instead of showing text. -/
def isMetadata : SectionKind → Bool
  | module | group | exclude | uniqueName => true
  | _ => false

/-- The roles that document a named part of the entity, with an anchor of its own. -/
def isInline : SectionKind → Bool
  | parameter | templateParameter | baseClass => true
  | _ => false

/-- Every role is in the list of all roles. -/
theorem mem_all (kind : SectionKind) : kind ∈ all := by
  cases kind <;> decide

/-- A role is found by its identifier. -/
@[simp]
theorem ofId?_id (kind : SectionKind) : ofId? kind.id = some kind := by
  cases kind <;> decide

end SectionKind

end DocComments
