import DocComments.Toml.Quoted
import DocComments.Toml.Scalar
import DocComments.Toml.Value

set_option autoImplicit false

/-!
# Settings files

A file is a sequence of lines with an assignment or the header of a table. It is read into such
lines, which are then put together to one table.

## Main definitions

* `readPath` — reads a dotted key.
* `readValue` — reads a value.
* `Line`, `readLines` — the lines of a file.
* `build` — the table that lines make.
* `parse` — the table of a file.
-/

namespace DocComments.Toml

/-! ## What stands between values -/

/-- What follows the rest of a line: blanks, an optional comment, and the line end or the end of the
text. The flag tells whether a comment has begun. -/
def endLine? (inComment : Bool) : List Char → Option (List Char)
  | [] => some []
  | c :: rest =>
    if c == '\n' then some rest
    else if c == '\r' then
      match rest with
      | '\n' :: rest => some rest
      | _ => none
    else if inComment then
      if isPlain c then endLine? true rest else none
    else if Text.isBlank c then endLine? false rest
    else if c == '#' then endLine? true rest
    else none

/-- What follows blanks, comments and line ends. The flag tells whether a comment has begun. -/
def skipFiller? (inComment : Bool) : List Char → Option (List Char)
  | [] => some []
  | c :: rest =>
    if c == '\n' then skipFiller? false rest
    else if c == '\r' then
      match rest with
      | '\n' :: rest => skipFiller? false rest
      | _ => none
    else if inComment then
      if isPlain c then skipFiller? true rest else none
    else if Text.isBlank c then skipFiller? false rest
    else if c == '#' then skipFiller? true rest
    else some (c :: rest)

/-- What follows blanks. -/
def skipBlanks (text : List Char) : List Char :=
  text.dropWhile Text.isBlank

/-! ## Keys -/

/-- The characters of a key without quotes. -/
def isBareKey (c : Char) : Bool :=
  Text.isAsciiLetter c || Text.isAsciiDigit c || c == '_' || c == '-'

/-- Reads one component of a key. -/
def readKey : List Char → Option (Key × List Char)
  | '"' :: rest => readBasic rest
  | '\x27' :: rest => readLiteral rest
  | text =>
    let (key, rest) := text.span isBareKey
    if key.isEmpty then none else some (key, rest)

/-- Reads a dotted key: the components before the last one, the last one, and what follows the
blanks after it. The first argument bounds the number of components. -/
def readPathFrom : Nat → List Char → Option (List Key × Key × List Char)
  | 0, _ => none
  | fuel + 1, text =>
    (readKey text).bind fun (key, rest) =>
      match skipBlanks rest with
      | '.' :: rest =>
        (readPathFrom fuel (skipBlanks rest)).map fun (path, last, rest) => (key :: path, last, rest)
      | rest => some ([], key, rest)

/-- Reads a dotted key. -/
def readPath (text : List Char) : Option (List Key × Key × List Char) :=
  readPathFrom text.length text

/-! ## Values -/

/-- A way to read a value at the start of a text. -/
abbrev Reader := List Char → Option (Value × List Char)

/-- Reads the values of an array up to its bracket. The first argument bounds their number. -/
def readItems (read : Reader) : Nat → List Char → Option (List Value × List Char)
  | 0, _ => none
  | fuel + 1, text =>
    (skipFiller? false text).bind fun text =>
      match text with
      | ']' :: rest => some ([], rest)
      | _ =>
        (read text).bind fun (value, rest) =>
          (skipFiller? false rest).bind fun rest =>
            match rest with
            | ']' :: rest => some ([value], rest)
            | ',' :: rest =>
              (readItems read fuel rest).map fun (values, rest) => (value :: values, rest)
            | _ => none

/-- Reads an assignment: the components of its key before the last one, the last one, and the
value. -/
def readAssignment (read : Reader) (text : List Char) :
    Option ((List Key × Key × Value) × List Char) :=
  (readPath text).bind fun (path, key, rest) =>
    match rest with
    | '=' :: rest => (read (skipBlanks rest)).map fun (value, rest) => ((path, key, value), rest)
    | _ => none

/-- Reads the assignments of a table in place up to its brace, given those before. The first argument
bounds their number. -/
def readFields (read : Reader) : Nat → Entries → List Char → Option (Entries × List Char)
  | 0, _, _ => none
  | fuel + 1, entries, text =>
    (skipFiller? false text).bind fun text =>
      match text with
      | '\x7d' :: rest => some (entries, rest)
      | _ =>
        (readAssignment read text).bind fun ((path, key, value), rest) =>
          (assign key value path entries).bind fun entries =>
            (skipFiller? false rest).bind fun rest =>
              match rest with
              | '\x7d' :: rest => some (entries, rest)
              | ',' :: rest => readFields read fuel entries rest
              | _ => none

/-- The characters of words, numbers and dates. -/
def isWordChar (c : Char) : Bool :=
  Text.isAsciiLetter c || Text.isAsciiDigit c || c == '_' || c == '-' || c == '+' || c == '.' ||
    c == ':'

/-- Splits off a word, a number or a date. A blank may stand between a date and a time. -/
def splitScalar (text : List Char) : List Char × List Char :=
  let (word, rest) := text.span isWordChar
  match date? word, rest with
  | some [], ' ' :: c :: after =>
    if Text.isAsciiDigit c then
      let (time, rest) := (c :: after).span isWordChar
      (word ++ ' ' :: time, rest)
    else (word, rest)
  | _, _ => (word, rest)

/-- Reads a boolean, a number or a date. -/
def readScalar (text : List Char) : Option (Value × List Char) :=
  let (word, rest) := splitScalar text
  if word == ['t', 'r', 'u', 'e'] then some (.boolean true, rest)
  else if word == ['f', 'a', 'l', 's', 'e'] then some (.boolean false, rest)
  else if isScalar word then some (.scalar, rest)
  else none

/-- Reads a value. The first argument is how deep arrays and tables may be nested in it. -/
def readValue : Nat → List Char → Option (Value × List Char)
  | _, [] => none
  | depth, c :: rest =>
    if c == '"' || c == '\x27' then
      (readString (c :: rest)).map fun (text, rest) => (.text text, rest)
    else if c == '[' then
      match depth with
      | 0 => none
      | depth + 1 =>
        (readItems (readValue depth) (rest.length + 1) rest).map fun (values, rest) =>
          (.array values, rest)
    else if c == '\x7b' then
      match depth with
      | 0 => none
      | depth + 1 =>
        (readFields (readValue depth) (rest.length + 1) [] rest).map fun (entries, rest) =>
          (.table .inPlace entries, rest)
    else readScalar (c :: rest)

/-- How deep arrays and tables may be nested. -/
def maxNesting : Nat := 80

/-! ## Lines -/

/-- A line of a file. The components of a key before the last one are given apart. -/
inductive Line where
  | assignment (path : List Key) (key : Key) (value : Value)
  /-- The header of a table, or of one more table if it is repeated. -/
  | header (repeated : Bool) (path : List Key) (key : Key)

/-- Reads the header of a table, given what follows its first bracket. -/
def readHeader (text : List Char) : Option (Line × List Char) :=
  match text with
  | '[' :: rest =>
    (readPath (skipBlanks rest)).bind fun (path, key, rest) =>
      match rest with
      | ']' :: ']' :: rest => some (.header true path key, rest)
      | _ => none
  | _ =>
    (readPath (skipBlanks text)).bind fun (path, key, rest) =>
      match rest with
      | ']' :: rest => some (.header false path key, rest)
      | _ => none

/-- Reads an assignment or a header. -/
def readLine (text : List Char) : Option (Line × List Char) :=
  match text with
  | '[' :: rest => readHeader rest
  | _ =>
    (readAssignment (readValue maxNesting) text).map fun ((path, key, value), rest) =>
      (.assignment path key value, rest)

/-- Reads the lines of a text. The first argument bounds their number. -/
def readLines : Nat → List Char → Option (List Line)
  | 0, _ => none
  | fuel + 1, text =>
    match skipBlanks text with
    | [] => some []
    | c :: rest =>
      if c == '#' || c == '\n' || c == '\r' then
        (endLine? false (c :: rest)).bind (readLines fuel)
      else
        (readLine (c :: rest)).bind fun (line, rest) =>
          (endLine? false rest).bind fun rest => (readLines fuel rest).map (line :: ·)

/-! ## Documents -/

/-- A document in the making: its table so far, and the path of the header that the next assignments
belong to. -/
structure Draft where
  root : Entries := []
  current : List Key := []

/-- Adds a line to a document. -/
def Draft.add (d : Draft) : Line → Option Draft
  | .assignment path key value =>
    (descend (assign key value path) d.current d.root).map fun root => { d with root }
  | .header repeated path key =>
    (descend (if repeated then openItem key else openTable key) path d.root).map fun root =>
      { root, current := path ++ [key] }

/-- The table that lines make. -/
def build (lines : List Line) : Option Entries :=
  (lines.foldlM Draft.add {}).map (·.root)

/-- A text without the mark of its encoding that it may start with. -/
def dropMark : List Char → List Char
  | '\ufeff' :: rest => rest
  | text => text

/-- The table of a text, nothing if the text is malformed. -/
def parse (text : List Char) : Option Entries :=
  let text := dropMark text
  (readLines (text.length + 1) text).bind build

end DocComments.Toml
