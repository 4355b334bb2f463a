import DocComments.Settings
import DocComments.Text.Alphanumeric
import DocComments.Toml.Document

set_option autoImplicit false

/-!
# Settings in a file

The settings are kept in a file below the home directory. Settings that are missing in the file have
their default, and what is no setting is left out of account. A letter, a digit or white space as
command character would take ordinary text for commands, so a file that sets one is refused.

## Main definitions

* `Settings.render` — the text of settings.
* `Settings.ofEntries?` — the settings in a table.
* `Settings.Stored` — what is found at the place of a settings file.
* `Settings.load`, `Settings.loadOrDefault` — the settings that are found.
* `Settings.save` — the content of the file for settings.
* `Settings.path` — the place of the file.
-/

namespace DocComments.Settings

open Toml (Key Value Entries)

/-! ## Writing -/

/-- An assignment on a line of its own. -/
def renderLine (key : String) (value : List Char) : List Char :=
  key.toList ++ " = ".toList ++ value ++ ['\n']

/-- A list of texts: on one line, or on a line for each if there are several. -/
def renderList (texts : List String) : List Char :=
  match texts with
  | [] => "[]".toList
  | [text] => '[' :: Toml.writeString text.toList ++ [']']
  | _ =>
    "[\n".toList ++
      texts.flatMap (fun text => "    ".toList ++ Toml.writeString text.toList ++ ",\n".toList) ++
      [']']

/-- A line for every renamed role. -/
def renderRenaming (r : Renaming) : List Char :=
  r.toList.flatMap fun (kind, text) => renderLine kind.id (Toml.writeString text.toList)

/-- The text of settings. -/
def render (s : Settings) : List Char :=
  "[comment]\n".toList ++
    renderLine "command_character" (Toml.writeString [s.commandCharacter]) ++
    renderLine "implicit_paragraph" (if s.implicitParagraph then "true" else "false").toList ++
    renderLine "output_sections" (renderList s.outputSections) ++
    "\n[comment.section_titles]\n".toList ++ renderRenaming s.titles ++
    "\n[comment.commands]\n".toList ++ renderRenaming s.commands

/-! ## Reading -/

/-- A text. -/
def readText? : Value → Option String
  | .text chars => some (String.ofList chars)
  | _ => none

/-- A text of one character. -/
def readCharacter? : Value → Option Char
  | .text [c] => some c
  | _ => none

/-- A truth value. -/
def readFlag? : Value → Option Bool
  | .boolean b => some b
  | _ => none

/-- A list of texts. -/
def readList? : Value → Option (List String)
  | .array items => items.mapM readText?
  | _ => none

/-- A table of new texts for roles. -/
def readRenaming? : Value → Option Renaming
  | .table _ entries =>
    entries.foldlM
      (fun (r : Renaming) (e : Key × Value) =>
        (SectionKind.ofId? (String.ofList e.1)).bind fun kind =>
          (readText? e.2).map fun text => r.insert kind text)
      Renaming.none
  | _ => none

/-- A value that may be missing. -/
def orDefault {α : Type} (default : α) (read : Value → Option α) : Option Value → Option α
  | none => some default
  | some value => read value

/-- The settings, given how a setting is found by its name and its place in the order. -/
def ofFields? (get : String → Nat → Option Value) : Option Settings := do
  let initial : Settings := {}
  let commandCharacter ←
    orDefault initial.commandCharacter readCharacter? (get "command_character" 0)
  let implicitParagraph ← orDefault initial.implicitParagraph readFlag? (get "implicit_paragraph" 1)
  let titles ← orDefault initial.titles readRenaming? (get "section_titles" 2)
  let commands ← orDefault initial.commands readRenaming? (get "commands" 3)
  let outputSections ← orDefault initial.outputSections readList? (get "output_sections" 4)
  pure { commandCharacter, implicitParagraph, titles, commands, outputSections }

/-- The settings in a value: a table with some of them by their names, or an array with the first of
them in their order. -/
def ofValue? : Value → Option Settings
  | .table _ entries => ofFields? fun key _ => Entries.get? entries key.toList
  | .array items => ofFields? fun _ index => items[index]?
  | _ => none

/-- The settings in the table of a file. -/
def ofEntries? (entries : Entries) : Option Settings :=
  orDefault {} ofValue? (Entries.get? entries "comment".toList)

/-! ## Files -/

/-- What is found at the place of a settings file. -/
inductive Stored where
  | nothing
  | directory
  | file (content : ByteArray)

/-- Why settings were not loaded. -/
inductive LoadError where
  /-- There is no file with a text. -/
  | unreadable
  /-- The text is malformed, or a setting has a value of the wrong kind. -/
  | malformed
  /-- The command character is a letter, a digit or white space. -/
  | invalidCommandCharacter (character : Char)
  deriving Repr, DecidableEq

/-- What is said about a command character that is refused. -/
def invalidCharacterMessage (character : Char) (path : String) : String :=
  "Invalid command character '" ++ String.singleton character ++ "' in " ++ path

/-- The character cannot introduce commands. -/
def isReserved (c : Char) : Bool :=
  Text.isAlphanumeric c || Text.isSpace c

/-- Refuses settings with a command character that cannot introduce commands. -/
def check (s : Settings) : Except LoadError Settings :=
  if isReserved s.commandCharacter then .error (.invalidCommandCharacter s.commandCharacter)
  else .ok s

/-- The settings in the text of a file. -/
def ofText (text : String) : Except LoadError Settings :=
  match (Toml.parse text.toList).bind ofEntries? with
  | none => .error .malformed
  | some s => s.check

/-- The settings that are found, if there is a file. -/
def load : Stored → Except LoadError (Option Settings)
  | .nothing => .ok none
  | .directory => .error .unreadable
  | .file content =>
    match String.fromUTF8? content with
    | none => .error .unreadable
    | some text => (ofText text).map some

/-- The settings that are found, the default ones if there is no file. -/
def loadOrDefault (stored : Stored) : Except LoadError Settings :=
  (load stored).map (·.getD {})

/-- The content of the file for settings. -/
def save (s : Settings) : Stored :=
  .file (String.ofList s.render).toUTF8

/-- The place of the settings file below a home directory. -/
def path (home : String) : String :=
  home ++ "/.config/commentdoc/config.toml"

end DocComments.Settings
