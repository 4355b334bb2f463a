import DocComments.Markup.EntityTable
import DocComments.Markup.Scan

set_option autoImplicit false

/-!
# Character references and escapes

A character may be written by its number, as in `&#65;` and `&#x41;`, or by its name, as in `&amp;`.
A backslash before an ASCII punctuation mark makes the mark stand for itself.

## Main definitions

* `Entity.reference?` — the reference at the head of a text and what it means.
* `unescape` — a text with its references and escapes replaced.
-/

namespace DocComments.Markup

namespace Entity

/-- What a name means as a reference. -/
def named? (name : List Char) : Option (List Char) :=
  match name with
  | [] => none
  | c :: _ => ((namesFrom c).lookup (String.ofList name)).map String.toList

/-- The value of a hexadecimal digit. -/
def hexDigit? (c : Char) : Option Nat :=
  if '0' ≤ c && c ≤ '9' then some (c.toNat - '0'.toNat)
  else if 'a' ≤ c && c ≤ 'f' then some (c.toNat - 'a'.toNat + 10)
  else if 'A' ≤ c && c ≤ 'F' then some (c.toNat - 'A'.toNat + 10)
  else none

/-- The value of a hexadecimal numeral. -/
def hexadecimal (digits : List Char) : Nat :=
  digits.foldl (fun n c => 16 * n + (hexDigit? c).getD 0) 0

/-- The character with a given code; zero stands for the replacement character. -/
def charOf? (code : Nat) : Option Char :=
  if code = 0 then some '\ufffd'
  else if code.isValidChar then some (Char.ofNat code)
  else none

/-- A numeric reference, given the digits, how many characters stand before them, and what follows
them. -/
def numeric? (before : Nat) (digits : List Char) (value : Nat) (rest : List Char) :
    Option (Nat × List Char) :=
  if digits.isEmpty || rest.head? != some ';' then none
  else (charOf? value).map fun c => (before + digits.length + 1, [c])

/-- The reference at the head of a text: its length and what it means. A decimal reference has at
most seven digits, a hexadecimal one at most six. -/
def reference? : List Char → Option (Nat × List Char)
  | '&' :: '#' :: rest =>
    if rest.head? == some 'x' || rest.head? == some 'X' then
      let digits := ((rest.drop 1).take 6).takeWhile fun c => (hexDigit? c).isSome
      numeric? 3 digits (hexadecimal digits) (rest.drop (1 + digits.length))
    else
      let digits := (rest.take 7).takeWhile Text.isAsciiDigit
      numeric? 2 digits (decimal digits) (rest.drop digits.length)
  | '&' :: rest =>
    let name := rest.takeWhile isAsciiAlphanumeric
    if (rest.drop name.length).head? == some ';' then
      (named? name).map fun value => (name.length + 2, value)
    else
      none
  | _ => none

end Entity

/-- Replaces references and escapes; `skip` characters are part of what has been replaced already.
Carriage returns are left out. -/
def unescapeFrom (skip : Nat) : List Char → List Char
  | [] => []
  | c :: rest =>
    match skip with
    | n + 1 => unescapeFrom n rest
    | 0 =>
      if c == '\\' && rest.head?.any Text.isAsciiPunctuation then
        rest.head?.toList ++ unescapeFrom 1 rest
      else if c == '\r' then unescapeFrom 0 rest
      else if c == '&' then
        match Entity.reference? (c :: rest) with
        | some (n, value) => value ++ unescapeFrom (n - 1) rest
        | none => c :: unescapeFrom 0 rest
      else c :: unescapeFrom 0 rest

/-- A text with its references and escapes replaced. -/
def unescape (text : List Char) : List Char :=
  unescapeFrom 0 text

end DocComments.Markup
