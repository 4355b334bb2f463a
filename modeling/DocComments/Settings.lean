import DocComments.Section

set_option autoImplicit false

/-!
# Settings of a run

The settings say which character introduces a command, whether every comment line is a paragraph of
its own, and how titles and command words are renamed. They are the same for every comment of a run.

## Main definitions

* `Renaming` — new texts for some of the section roles.
* `Settings` — the settings.
* `Settings.title` — the title shown for a role.
* `Settings.commandWord?` — the word that selects a role.
* `Settings.sectionFor` — the role a command word selects.
-/

namespace DocComments

/-- New texts for some of the section roles. -/
abbrev Renaming := SectionKind → Option String

namespace Renaming

/-- Nothing is renamed. -/
def none : Renaming := fun _ => Option.none

/-- The renaming with a new text for one role. -/
def insert (r : Renaming) (kind : SectionKind) (text : String) : Renaming :=
  fun other => if other = kind then some text else r other

/-- The renamed roles with their texts, in the order of the roles. -/
def toList (r : Renaming) : List (SectionKind × String) :=
  SectionKind.all.filterMap fun kind => (r kind).map fun text => (kind, text)

/-- A renamed role has its new text. -/
@[simp]
theorem insert_self (r : Renaming) (kind : SectionKind) (text : String) :
    r.insert kind text kind = some text := by
  simp [insert]

/-- Other roles keep their texts. -/
@[simp]
theorem insert_of_ne (r : Renaming) {kind other : SectionKind} (text : String) (h : other ≠ kind) :
    r.insert kind text other = r other := by
  simp [insert, h]

end Renaming

/-- The settings that every comment of a run is read with. -/
structure Settings where
  /-- The character that introduces a command. -/
  commandCharacter : Char := '\\'
  /-- Every comment line is a paragraph of its own. -/
  implicitParagraph : Bool := false
  /-- Renamed section titles. -/
  titles : Renaming := Renaming.none
  /-- Renamed command words; the default word of a renamed role selects nothing. -/
  commands : Renaming := Renaming.none
  /-- Further command words, each of which gives a section with the word as its title. -/
  outputSections : List String := []

namespace Settings

/-- The title shown for a role. -/
def title (s : Settings) (kind : SectionKind) : String :=
  (s.titles kind).getD kind.defaultTitle

/-- The word that selects a role. -/
def commandWord? (s : Settings) (kind : SectionKind) : Option String :=
  (s.commands kind).or kind.defaultCommand

/-- The role a command word selects, `invalid` for an unknown word. -/
def sectionFor (s : Settings) (word : String) : SectionKind :=
  if word.isEmpty then .invalid
  else
    match SectionKind.all.find? fun kind => s.commandWord? kind == some word with
    | some kind => kind
    | none => if s.outputSections.contains word then .outputSection else .invalid

end Settings

end DocComments
