import DocComments.Text.CodeSet

set_option autoImplicit false

/-!
# White space, trimming and words

White space is the Unicode property `White_Space`. Trimming and splitting into words are defined on
character lists through `dropWhile` and `takeWhile`, so that their lemmas are those of the list
library.

## Main definitions

* `isSpace` — the property `White_Space`.
* `isBlank` — the two characters that indent a line, the blank and the tab.
* `trimStart`, `trimEnd`, `trim` — a text without the white space at its ends.
* `words` — the maximal runs of other characters.
* `firstLine` — what stands before the first line end.
-/

namespace DocComments.Text

/-- The code points with property `White_Space`. -/
def spaceCodes : CodeSet :=
  ⟨[0x9, 0xe, 0x20, 0x21, 0x85, 0x86, 0xa0, 0xa1, 0x1680, 0x1681, 0x2000, 0x200b, 0x2028, 0x202a,
    0x202f, 0x2030, 0x205f, 0x2060, 0x3000, 0x3001]⟩

/-- White space of every script. -/
def isSpace (c : Char) : Bool :=
  spaceCodes.contains c.toNat

/-- The characters that indent a line. -/
def isBlank (c : Char) : Bool :=
  c == ' ' || c == '\t'

/-- The ASCII letters. -/
def isAsciiLetter (c : Char) : Bool :=
  ('a' ≤ c && c ≤ 'z') || ('A' ≤ c && c ≤ 'Z')

/-- The ASCII digits. -/
def isAsciiDigit (c : Char) : Bool :=
  '0' ≤ c && c ≤ '9'

/-- The text without the white space it starts with. -/
def trimStart (text : List Char) : List Char :=
  text.dropWhile isSpace

/-- The text without the white space it ends with. -/
def trimEnd (text : List Char) : List Char :=
  (text.reverse.dropWhile isSpace).reverse

/-- The text without the white space at its ends. -/
def trim (text : List Char) : List Char :=
  trimEnd (trimStart text)

/-- Splits off the characters up to the first white space. -/
def splitWord (text : List Char) : List Char × List Char :=
  text.span fun c => !isSpace c

/-- Collects words: `word` holds, reversed, the characters of the word being read. -/
def wordsFrom (word : List Char) : List Char → List (List Char)
  | [] => if word.isEmpty then [] else [word.reverse]
  | c :: rest =>
    if isSpace c then
      if word.isEmpty then wordsFrom [] rest else word.reverse :: wordsFrom [] rest
    else
      wordsFrom (c :: word) rest

/-- The maximal runs of characters that are not white space, in order. -/
def words (text : List Char) : List (List Char) :=
  wordsFrom [] text

/-- The first word, empty if there is none. -/
def firstWord (text : List Char) : List Char :=
  (splitWord (trimStart text)).1

/-- Joins texts with a separator between neighbours. -/
def join (separator : List Char) : List (List Char) → List Char
  | [] => []
  | [last] => last
  | text :: rest => text ++ separator ++ join separator rest

/-- Splits at every occurrence of a character; there is always at least one piece. -/
def splitAt (separator : Char) : List Char → List (List Char)
  | [] => [[]]
  | c :: rest =>
    if c == separator then [] :: splitAt separator rest
    else
      match splitAt separator rest with
      | [] => [[c]]
      | piece :: pieces => (c :: piece) :: pieces

/-- What stands before the first line end. -/
def firstLine (text : List Char) : List Char :=
  text.takeWhile (· != '\n')

/-- The length of a text in UTF-8 bytes. -/
def byteLength (text : List Char) : Nat :=
  text.foldr (fun c n => c.utf8Size + n) 0

/-- The empty text has no bytes. -/
@[simp]
theorem byteLength_nil : byteLength [] = 0 := rfl

/-- The bytes of the first character and of the others. -/
@[simp]
theorem byteLength_cons (c : Char) (text : List Char) :
    byteLength (c :: text) = c.utf8Size + byteLength text := rfl

/-- Lengths add up under concatenation. -/
@[simp]
theorem byteLength_append (a b : List Char) : byteLength (a ++ b) = byteLength a + byteLength b := by
  induction a with
  | nil => simp
  | cons c a ih => simp [ih, Nat.add_assoc]

end DocComments.Text
