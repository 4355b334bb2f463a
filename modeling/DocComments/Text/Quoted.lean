import DocComments.Text.Unprintable

set_option autoImplicit false

/-!
# Quoted texts

A message that lists names shows each of them in double quotes. Inside the quotes a backslash and a
double quote are escaped by a backslash, the usual controls have their letter, and every other
character without a visible form is written as its code in braces.

## Main definitions

* `quote` — a text in quotes.
* `quoteList` — a list of quoted texts in brackets.
-/

namespace DocComments.Text

/-- The lower-case hexadecimal digits of a number. -/
def hex (n : Nat) : List Char :=
  Nat.toDigits 16 n

/-- One character as it stands inside quotes. -/
def quoteChar (c : Char) : List Char :=
  if c == '\\' || c == '"' then ['\\', c]
  else if c == '\t' then ['\\', 't']
  else if c == '\n' then ['\\', 'n']
  else if c == '\r' then ['\\', 'r']
  else if c.toNat == 0 then ['\\', '0']
  else if isUnprintable c then ['\\', 'u', '\x7b'] ++ hex c.toNat ++ ['\x7d']
  else [c]

/-- A text in double quotes. -/
def quote (text : String) : String :=
  String.ofList ('"' :: text.toList.flatMap quoteChar ++ ['"'])

/-- A list of quoted texts in brackets. -/
def quoteList (texts : List String) : String :=
  "[" ++ ", ".intercalate (texts.map quote) ++ "]"

end DocComments.Text
