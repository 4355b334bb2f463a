import DocComments.Text.Blank

set_option autoImplicit false

/-!
# Strings in settings files

A string stands in single or double quotes, or in three of them if it may have line ends. Escapes are
read between double quotes only.

A text is written without escapes if one of the four forms allows that: in double quotes if it has
neither a double quote nor a backslash, in single quotes if it has no single quote, and in three
quotes of a kind of which it has no more than two in a row. Otherwise it is written in double quotes
with escapes.

## Main definitions

* `isPlain` — the characters that stand for themselves.
* `escape?` — the character an escape stands for.
* `readString` — reads a string.
* `Style`, `style` — the forms of a string, and the one a text is written in.
* `writeString` — writes a text as a string.
-/

namespace DocComments.Toml

/-- Tabs and characters that are not controls. -/
def isPlain (c : Char) : Bool :=
  c == '\t' || (0x20 ≤ c.toNat && c.toNat != 0x7f)

/-- What follows a line end at the start of a text. -/
def lineEnd? : List Char → Option (List Char)
  | '\n' :: rest => some rest
  | '\r' :: '\n' :: rest => some rest
  | _ => none

/-! ## Escapes -/

/-- The value of a hexadecimal digit. -/
def hexValue? (c : Char) : Option Nat :=
  if '0' ≤ c && c ≤ '9' then some (c.toNat - '0'.toNat)
  else if 'a' ≤ c && c ≤ 'f' then some (c.toNat - 'a'.toNat + 10)
  else if 'A' ≤ c && c ≤ 'F' then some (c.toNat - 'A'.toNat + 10)
  else none

/-- The value of hexadecimal digits, given that of the digits before them. -/
def hexNumber? (before : Nat) : List Char → Option Nat
  | [] => some before
  | c :: rest => (hexValue? c).bind fun v => hexNumber? (16 * before + v) rest

/-- The character with a given code. -/
def charOfCode? (n : Nat) : Option Char :=
  if h : n.isValidChar then some (Char.ofNatAux n h) else none

/-- The character whose code is given by so many hexadecimal digits. -/
def codeEscape? (count : Nat) (text : List Char) : Option (Char × List Char) :=
  let digits := text.take count
  if digits.length < count then none
  else ((hexNumber? 0 digits).bind charOfCode?).map fun c => (c, text.drop count)

/-- The character that an escape stands for, given what follows the backslash. -/
def escape? : List Char → Option (Char × List Char)
  | [] => none
  | c :: rest =>
    match c with
    | '"' => some ('"', rest)
    | '\\' => some ('\\', rest)
    | 'b' => some ('\x08', rest)
    | 'e' => some ('\x1b', rest)
    | 'f' => some ('\x0c', rest)
    | 'n' => some ('\n', rest)
    | 'r' => some ('\r', rest)
    | 't' => some ('\t', rest)
    | 'x' => codeEscape? 2 rest
    | 'u' => codeEscape? 4 rest
    | 'U' => codeEscape? 8 rest
    | _ => none

/-- Reading an escape by its code leaves no more text than there was. -/
theorem codeEscape?_length {count : Nat} {text rest : List Char} {c : Char}
    (h : codeEscape? count text = some (c, rest)) : rest.length ≤ text.length := by
  unfold codeEscape? at h
  simp only at h
  split at h
  · simp at h
  · obtain ⟨_, _, h⟩ := Option.map_eq_some_iff.1 h
    have hr : text.drop count = rest := (Prod.mk.inj h).2
    rw [← hr, List.length_drop]
    omega

/-- An escape takes at least one character. -/
theorem escape?_length {text rest : List Char} {c : Char} (h : escape? text = some (c, rest)) :
    rest.length < text.length := by
  unfold escape? at h
  split at h
  · simp at h
  · split at h
    case h_9 | h_10 | h_11 => exact Nat.lt_succ_of_le (codeEscape?_length h)
    case h_12 => simp at h
    all_goals
      have hr := (Prod.mk.inj (Option.some.inj h)).2
      simp [hr]

/-! ## Strings on one line -/

/-- Puts a character in front of what has been read. -/
def consRead (c : Char) (read : Option (List Char × List Char)) :
    Option (List Char × List Char) :=
  read.map fun (text, rest) => (c :: text, rest)

/-- Reads a string up to its double quote. -/
def readBasic (text : List Char) : Option (List Char × List Char) :=
  match text with
  | [] => none
  | c :: rest =>
    if c == '"' then some ([], rest)
    else if c == '\\' then
      match _h : escape? rest with
      | some (e, rest') => consRead e (readBasic rest')
      | none => none
    else if isPlain c then consRead c (readBasic rest)
    else none
termination_by text.length
decreasing_by
  · have := escape?_length _h
    simp only [List.length_cons]
    omega
  · simp

/-- Reads a string up to its single quote. -/
def readLiteral : List Char → Option (List Char × List Char)
  | [] => none
  | c :: rest =>
    if c == '\x27' then some ([], rest)
    else if isPlain c then consRead c (readLiteral rest)
    else none

/-! ## Strings on several lines -/

/-- What follows three quotes: up to two further ones still belong to the string. -/
def closeLines (quote : Char) (text : List Char) : List Char × List Char :=
  let extra := min 2 (text.takeWhile (· == quote)).length
  (text.take extra, text.drop extra)

/-- Skips blanks and line ends. -/
def skipLines : List Char → List Char
  | [] => []
  | c :: rest =>
    if Text.isBlank c || c == '\n' || (c == '\r' && rest.head? == some '\n') then skipLines rest
    else c :: rest

/-- Skipping blanks and line ends leaves no more text than there was. -/
theorem skipLines_length (text : List Char) : (skipLines text).length ≤ text.length := by
  induction text with
  | nil => exact Nat.le_refl _
  | cons c rest ih =>
    rw [skipLines]
    split
    · exact Nat.le_succ_of_le ih
    · exact Nat.le_refl _

/-- A line end takes at least one character. -/
theorem lineEnd?_length {text rest : List Char} (h : lineEnd? text = some rest) :
    rest.length < text.length := by
  unfold lineEnd? at h
  split at h
  · rw [← Option.some.inj h]
    exact Nat.lt_succ_self _
  · rw [← Option.some.inj h]
    exact Nat.lt_succ_of_lt (Nat.lt_succ_self _)
  · simp at h

/-- What is left of a text is no longer than it. -/
theorem dropWhile_length (p : Char → Bool) (text : List Char) :
    (text.dropWhile p).length ≤ text.length :=
  (List.dropWhile_sublist p).length_le

/-- What follows a backslash at the end of a line: the line end and the blanks around it are left
out. -/
def continuation? (text : List Char) : Option (List Char) :=
  (lineEnd? (text.dropWhile Text.isBlank)).map skipLines

/-- A continued line takes at least one character. -/
theorem continuation?_length {text rest : List Char} (h : continuation? text = some rest) :
    rest.length < text.length := by
  obtain ⟨after, hafter, h⟩ := Option.map_eq_some_iff.1 h
  have h1 := lineEnd?_length hafter
  have h2 := skipLines_length after
  have h3 := dropWhile_length Text.isBlank text
  rw [h] at h2
  omega

/-- Reads a string up to its three double quotes. -/
def readBasicLines (text : List Char) : Option (List Char × List Char) :=
  match text with
  | [] => none
  | c :: rest =>
    if c == '"' then
      if ['"', '"'].isPrefixOf rest then some (closeLines '"' (rest.drop 2))
      else consRead c (readBasicLines rest)
    else if c == '\\' then
      match _h : continuation? rest with
      | some rest' => readBasicLines rest'
      | none =>
        match _h' : escape? rest with
        | some (e, rest') => consRead e (readBasicLines rest')
        | none => none
    else if c == '\n' then consRead c (readBasicLines rest)
    else if c == '\r' then
      if rest.head? == some '\n' then readBasicLines rest else none
    else if isPlain c then consRead c (readBasicLines rest)
    else none
termination_by text.length
decreasing_by
  · simp
  · have := continuation?_length _h
    simp only [List.length_cons]
    omega
  · have := escape?_length _h'
    simp only [List.length_cons]
    omega
  all_goals simp

/-- Reads a string up to its three single quotes. -/
def readLiteralLines : List Char → Option (List Char × List Char)
  | [] => none
  | c :: rest =>
    if c == '\x27' then
      if ['\x27', '\x27'].isPrefixOf rest then some (closeLines '\x27' (rest.drop 2))
      else consRead c (readLiteralLines rest)
    else if c == '\n' then consRead c (readLiteralLines rest)
    else if c == '\r' then
      if rest.head? == some '\n' then readLiteralLines rest else none
    else if isPlain c then consRead c (readLiteralLines rest)
    else none

/-- A line end right after the three quotes does not belong to the string. -/
def skipFirstLineEnd (text : List Char) : List Char :=
  (lineEnd? text).getD text

/-- Reads a string of any form. -/
def readString : List Char → Option (List Char × List Char)
  | '"' :: '"' :: '"' :: rest => readBasicLines (skipFirstLineEnd rest)
  | '"' :: rest => readBasic rest
  | '\x27' :: '\x27' :: '\x27' :: rest => readLiteralLines (skipFirstLineEnd rest)
  | '\x27' :: rest => readLiteral rest
  | _ => none

/-! ## Writing -/

/-- The forms of a string. -/
inductive Style where
  | basic
  | literal
  | basicLines
  | literalLines
  deriving Repr, DecidableEq

/-- The length of the longest run of a character, given the length of the run before the text. -/
def longestRun (c : Char) (run : Nat) : List Char → Nat
  | [] => run
  | d :: rest => if d == c then longestRun c (run + 1) rest else max run (longestRun c 0 rest)

/-- Controls other than the tab and the line end cannot be written without escapes. -/
def needsEscape (c : Char) : Bool :=
  !isPlain c && c != '\n'

/-- The form a text is written in. -/
def style (text : List Char) : Style :=
  let double := longestRun '"' 0 text
  let single := longestRun '\x27' 0 text
  let backslash := text.contains '\\'
  let lines := text.contains '\n'
  let control := text.any needsEscape
  if !control && !backslash && double == 0 && !lines then .basic
  else if !control && single == 0 && !lines then .literal
  else if !control && !backslash && double ≤ 2 then .basicLines
  else if !control && single ≤ 2 then .literalLines
  else if lines then .basicLines
  else .basic

/-- A hexadecimal digit in upper case. -/
def hexDigit (n : Nat) : Char :=
  if n < 10 then Char.ofNat ('0'.toNat + n) else Char.ofNat ('A'.toNat + (n - 10))

/-- The escape of a character that has to be escaped. -/
def escapeChar (c : Char) : List Char :=
  match c with
  | '"' => ['\\', '"']
  | '\\' => ['\\', '\\']
  | '\x08' => ['\\', 'b']
  | '\t' => ['\\', 't']
  | '\n' => ['\\', 'n']
  | '\x0c' => ['\\', 'f']
  | '\r' => ['\\', 'r']
  | _ => ['\\', 'u', '0', '0', hexDigit (c.toNat / 16), hexDigit (c.toNat % 16)]

/-- Writes a text between double quotes. At most `limit` double quotes in a row stand for themselves,
of which `run` have been written, and line ends do so if `lines` is set. -/
def escapeText (limit : Nat) (lines : Bool) (run : Nat) : List Char → List Char
  | [] => []
  | c :: rest =>
    if c == '"' then
      if run < limit then c :: escapeText limit lines (run + 1) rest
      else escapeChar c ++ escapeText limit lines 0 rest
    else if c == '\n' && lines then c :: escapeText limit lines 0 rest
    else if c == '\\' || c == '\t' || !isPlain c then
      escapeChar c ++ escapeText limit lines 0 rest
    else c :: escapeText limit lines 0 rest

/-- A line end after three quotes, if the text has lines. -/
def firstLineEnd (text : List Char) : List Char :=
  if text.contains '\n' then ['\n'] else []

/-- Writes a text as a string. -/
def writeString (text : List Char) : List Char :=
  match style text with
  | .basic => '"' :: escapeText 0 false 0 text ++ ['"']
  | .literal => '\x27' :: text ++ ['\x27']
  | .basicLines =>
    ['"', '"', '"'] ++ firstLineEnd text ++ escapeText 2 true 0 text ++ ['"', '"', '"']
  | .literalLines =>
    ['\x27', '\x27', '\x27'] ++ firstLineEnd text ++ text ++ ['\x27', '\x27', '\x27']

end DocComments.Toml
