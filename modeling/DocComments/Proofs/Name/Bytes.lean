import DocComments.Proofs.Name.Reading
import DocComments.Proofs.Text.Slices

set_option autoImplicit false

/-!
# Reading the bytes of a name

The tokens of a name can be read from its bytes, with a cursor that knows a byte offset only. This
cursor takes a character beyond ASCII byte by byte and sees an operator name by its bytes. It follows
the cursor on characters: whenever that one has read some front of the name, this one stands behind the
bytes of the front with the same nesting, and in between it only passes bytes beyond ASCII.

## Main definitions

* `operatorLength` — the length in bytes of the operator name at an offset.
* `ByteCursor` — an offset in the bytes of a name, with its nesting.
* `ByteCursor.bump`, `ByteCursor.token`, `ByteCursor.run` — the next token, its bytes, and the cursors
  that the tokens of a name are read at.
* `ByteCursor.behind` — the place where the bytes have been read as far as the characters.

## Main results

* `operatorLength_eq` — the operator names in the bytes are those in the characters.
* `ByteCursor.bump_behind` — one token on the bytes and on the characters.
* `ByteCursor.run_behind` — what the cursor on bytes passes during one token.
* `ByteCursor.filter_run` — tests for ASCII characters succeed at the same places.
* `ByteCursor.flatMap_token_run` — the tokens outside any template list.
-/

namespace DocComments.Name

open Text (bytes byteLength asciiByte AsciiTest beyondAscii)

/-! ## Operator names -/

/-- The bytes of an identifier. -/
def isIdentifierByte (byte : UInt8) : Bool :=
  (asciiByte 'a' ≤ byte && byte ≤ asciiByte 'z') || (asciiByte 'A' ≤ byte && byte ≤ asciiByte 'Z') ||
    (asciiByte '0' ≤ byte && byte ≤ asciiByte '9') || byte == asciiByte '_'

/-- The length of the symbol that the bytes behind `operator` and its blanks start with. -/
def symbolLength (text : List UInt8) : Nat :=
  if (bytes ['(', ')']).isPrefixOf text || (bytes ['[', ']']).isPrefixOf text then 2
  else (text.takeWhile (bytes operatorSymbols).contains).length

/-- The length of the operator name at an offset, 0 if there is none. -/
def operatorLength (text : List UInt8) (offset : Nat) : Nat :=
  let rest := text.drop offset
  if !(bytes operatorWord).isPrefixOf rest ||
      (decide (0 < offset) && text[offset - 1]?.any isIdentifierByte) then 0
  else
    let tail := rest.drop operatorWord.length
    if tail.head?.any isIdentifierByte then 0
    else
      operatorWord.length + (tail.takeWhile (· == asciiByte ' ')).length +
        symbolLength (tail.dropWhile (· == asciiByte ' '))

/-- A symbol is part of the bytes it is read from. -/
lemma symbolLength_le (text : List UInt8) : symbolLength text ≤ text.length := by
  rw [symbolLength]
  split
  · rename_i hpair
    rw [Bool.or_eq_true, List.isPrefixOf_iff_prefix, List.isPrefixOf_iff_prefix] at hpair
    rcases hpair with hpair | hpair
    · exact hpair.length_le
    · exact hpair.length_le
  · exact (List.takeWhile_sublist _).length_le

/-- An operator name ends within the name. -/
lemma offset_add_operatorLength_le {text : List UInt8} {offset : Nat} (h : offset ≤ text.length) :
    offset + operatorLength text offset ≤ text.length := by
  rw [operatorLength]
  split
  · exact h
  rename_i hstart
  simp only [Bool.or_eq_true, Bool.not_eq_true', not_or, Bool.not_eq_false] at hstart
  obtain ⟨tail, htail⟩ := List.isPrefixOf_iff_prefix.1 hstart.1
  have hword : (bytes operatorWord).length = operatorWord.length := by decide
  have hdrop : (text.drop offset).drop operatorWord.length = tail := by
    rw [← htail, ← hword, List.drop_left]
  have hlength : operatorWord.length + tail.length = text.length - offset := by
    rw [← hword, ← List.length_append, htail, List.length_drop]
  dsimp only
  rw [hdrop]
  split
  · exact h
  · have hsymbol := symbolLength_le (tail.dropWhile (· == asciiByte ' '))
    have hblanks := congrArg List.length
      (List.takeWhile_append_dropWhile (p := (· == asciiByte ' ')) (l := tail))
    rw [List.length_append] at hblanks
    omega

/-- The characters of identifiers are told by their bytes. -/
lemma asciiTest_isIdentifier : AsciiTest isIdentifier isIdentifierByte where
  ascii c hc := Text.forall_ascii (P := fun c => isIdentifierByte (asciiByte c) = isIdentifier c)
    (by decide +kernel) hc
  char c hc := by
    have hne : c ≠ '_' := by
      rintro rfl
      exact absurd hc (by decide)
    simp only [isIdentifier, Text.isAsciiLetter, Text.isAsciiDigit, Char.le_def,
      UInt32.le_iff_toNat_le, Char.reduceVal, UInt32.reduceToNat, Char.toNat_val,
      Bool.or_eq_false_iff, Bool.and_eq_false_imp, decide_eq_true_eq, decide_eq_false_iff_not,
      beq_eq_false_iff_ne, ne_eq, hne, not_false_eq_true, and_true]
    omega
  byte byte hbyte := by
    have hall : ∀ n < 256, beyondAscii (UInt8.ofNat n) = true →
        isIdentifierByte (UInt8.ofNat n) = false := by
      decide +kernel
    have hbyte' := hall byte.toNat byte.toNat_lt
    rw [UInt8.ofNat_toNat] at hbyte'
    exact hbyte' hbyte

/-- The symbol characters of operators are told by their bytes. -/
lemma asciiTest_operatorSymbols :
    AsciiTest operatorSymbols.contains (bytes operatorSymbols).contains where
  ascii c hc := Text.forall_ascii
    (P := fun c => (bytes operatorSymbols).contains (asciiByte c) = operatorSymbols.contains c)
    (by decide +kernel) hc
  char c hc := by
    by_contra hmem
    rw [Bool.not_eq_false, List.contains_iff_mem] at hmem
    have hall : operatorSymbols.all (·.toNat < 128) = true := by decide
    exact absurd (of_decide_eq_true (List.all_eq_true.1 hall c hmem)) (Nat.not_lt.2 hc)
  byte byte hbyte := by
    by_contra hmem
    rw [Bool.not_eq_false, List.contains_iff_mem] at hmem
    have hall : (bytes operatorSymbols).all (!beyondAscii ·) = true := by decide
    have hbyte' := List.all_eq_true.1 hall byte hmem
    rw [hbyte] at hbyte'
    cases hbyte'

/-- A symbol has the same length in bytes. -/
lemma symbolLength_bytes (text : List Char) :
    symbolLength (bytes text) = byteLength (readSymbol text).1 := by
  have hprefix : ∀ a b, a.toNat < 128 → b.toNat < 128 →
      (bytes [a, b]).isPrefixOf (bytes text) = [a, b].isPrefixOf text := fun a b ha hb =>
    Text.isPrefixOf_bytes (by simp [ha, hb]) text
  rw [symbolLength, hprefix '(' ')' (by decide) (by decide), hprefix '[' ']' (by decide) (by decide)]
  fun_cases readSymbol text with
  | case1 rest => rfl
  | case2 rest => rfl
  | case3 text hround hsquare =>
    have hno : ∀ a b, (∀ rest, text = a :: b :: rest → False) → [a, b].isPrefixOf text = false := by
      intro a b h
      by_contra hpair
      obtain ⟨rest, heq⟩ := List.isPrefixOf_iff_prefix.1 (Bool.not_eq_false _ ▸ hpair)
      exact h rest heq.symm
    rw [hno _ _ hround, hno _ _ hsquare, ← asciiTest_operatorSymbols.bytes_takeWhile,
      Text.length_bytes]
    rfl

/-- The byte before an offset belongs to an identifier just if the character before it does. -/
lemma isIdentifierByte_before (front text : List Char) :
    (decide (0 < byteLength front) &&
        (bytes (front ++ text))[byteLength front - 1]?.any isIdentifierByte)
      = front.getLast?.any isIdentifier := by
  rw [← asciiTest_isIdentifier.getLast?_bytes, List.getLast?_eq_getElem?, Text.length_bytes]
  rcases Nat.eq_zero_or_pos (byteLength front) with hzero | hpos
  · have hnil : bytes front = [] := List.length_eq_zero_iff.1 (by rw [Text.length_bytes, hzero])
    rw [hzero, hnil]
    rfl
  · rw [decide_eq_true hpos, Bool.true_and, Text.bytes_append,
      List.getElem?_append_left (by rw [Text.length_bytes]; omega)]

/-- **The operator names in the bytes of a name are those in its characters.** -/
lemma operatorLength_eq (front text : List Char) :
    operatorLength (bytes (front ++ text)) (byteLength front)
      = byteLength (((readOperator? front.getLast? text).map Prod.fst).getD []) := by
  rw [operatorLength, readOperator?, isIdentifierByte_before, Text.drop_bytes,
    Text.isPrefixOf_bytes (by decide)]
  split
  · rfl
  rename_i hstart
  simp only [Bool.or_eq_true, Bool.not_eq_true', not_or, Bool.not_eq_false] at hstart
  obtain ⟨tail, rfl⟩ := List.isPrefixOf_iff_prefix.1 hstart.1
  have hlength : byteLength operatorWord = operatorWord.length := by decide
  have hdrop : (bytes (operatorWord ++ tail)).drop operatorWord.length = bytes tail := by
    rw [← hlength, Text.drop_bytes]
  have hblank := AsciiTest.beq (c := ' ') (by decide)
  simp only [hdrop, List.drop_left, asciiTest_isIdentifier.head?_bytes, ← hblank.bytes_takeWhile,
    ← hblank.bytes_dropWhile, symbolLength_bytes, Text.length_bytes]
  split
  · rfl
  · simp [hlength, Nat.add_assoc]

/-! ## Cursors on bytes -/

/-- A place in the bytes of a name: an offset, and the nesting of template lists and of argument lists
in front of it. -/
structure ByteCursor where
  text : List UInt8
  offset : Nat := 0
  angle : Nat := 0
  paren : Nat := 0
  deriving Repr, DecidableEq

namespace ByteCursor

/-- The cursor at the start of a name. -/
def start (name : List Char) : ByteCursor :=
  { text := bytes name }

/-- The byte at the cursor. -/
def peek? (c : ByteCursor) : Option UInt8 :=
  c.text[c.offset]?

/-- The bytes from the cursor on start with a word. -/
def startsWith (c : ByteCursor) (word : List UInt8) : Bool :=
  word.isPrefixOf (c.text.drop c.offset)

/-- The cursor is outside any template or argument list. -/
def atTop (c : ByteCursor) : Bool :=
  c.angle == 0 && c.paren == 0

/-- The cursor after a single byte. -/
def pass (c : ByteCursor) (byte : UInt8) : ByteCursor :=
  { c with
    offset := c.offset + 1
    angle :=
      if byte = asciiByte '<' then c.angle + 1
      else if byte = asciiByte '>' then c.angle - 1
      else c.angle
    paren :=
      if byte = asciiByte '(' then c.paren + 1
      else if byte = asciiByte ')' then c.paren - 1
      else c.paren }

/-- The cursor after the next token, which is an operator name or a single byte. At the end of the name
it stays where it is. -/
def bump (c : ByteCursor) : ByteCursor :=
  match c.peek? with
  | none => c
  | some byte =>
    if 0 < operatorLength c.text c.offset then
      { c with offset := c.offset + operatorLength c.text c.offset }
    else c.pass byte

/-- The bytes of the token at the cursor. -/
def token (c : ByteCursor) : List UInt8 :=
  (c.text.drop c.offset).take (c.bump.offset - c.offset)

/-- The cursor stays in its text. -/
@[simp]
lemma bump_text (c : ByteCursor) : c.bump.text = c.text := by
  unfold bump
  split
  · rfl
  · split <;> rfl

/-- Before the end of the text the cursor moves on. -/
lemma offset_lt_bump {c : ByteCursor} (h : c.offset < c.text.length) : c.offset < c.bump.offset := by
  have hpeek : c.peek? = some c.text[c.offset] := List.getElem?_eq_getElem h
  rw [bump, hpeek]
  dsimp only
  split
  · dsimp only
    omega
  · exact Nat.lt_succ_self _

/-- The cursors that the tokens from a cursor on are read at. -/
def run (c : ByteCursor) : List ByteCursor :=
  if _h : c.offset < c.text.length then c :: c.bump.run else []
termination_by c.text.length - c.offset
decreasing_by
  have := offset_lt_bump _h
  rw [bump_text]
  omega

/-- Before the end of the text a run starts with its cursor. -/
lemma run_of_lt {c : ByteCursor} (h : c.offset < c.text.length) : c.run = c :: c.bump.run := by
  rw [run, dif_pos h]

/-- At the end of the text a run is over. -/
lemma run_of_le {c : ByteCursor} (h : c.text.length ≤ c.offset) : c.run = [] := by
  rw [run, dif_neg (Nat.not_lt.2 h)]

/-- Every token ends within the name. -/
lemma bump_offset_le {c d : ByteCursor} (h : d ∈ c.run) : d.bump.offset ≤ c.text.length := by
  fun_induction run c with
  | case1 c hlt ih =>
    rcases List.mem_cons.1 h with rfl | h
    · have hoperator := offset_add_operatorLength_le (Nat.le_of_lt hlt)
      rw [bump]
      split
      · exact Nat.le_of_lt hlt
      · split
        · exact hoperator
        · exact hlt
    · rw [← bump_text c]
      exact ih h
  | case2 c hlt => cases h

/-! ## Bytes beyond ASCII -/

/-- The cursor at a byte beyond ASCII. -/
def isBeyond (c : ByteCursor) : Bool :=
  c.peek?.any beyondAscii

/-- The cursor some bytes later, with the same nesting. -/
def skip (c : ByteCursor) (n : Nat) : ByteCursor :=
  { c with offset := c.offset + n }

/-- A cursor is at a byte beyond ASCII if that is the first one it has left. -/
lemma isBeyond_iff {c : ByteCursor} : c.isBeyond = true
    ↔ ∃ byte tail, c.text.drop c.offset = byte :: tail ∧ beyondAscii byte = true := by
  have hpeek : c.peek? = (c.text.drop c.offset).head? := by rw [peek?, List.head?_drop]
  rw [isBeyond, hpeek]
  cases c.text.drop c.offset with
  | nil => simp
  | cons byte tail => simp

/-- A cursor with a byte left is before the end of the text. -/
lemma lt_length_of_drop {c : ByteCursor} {byte : UInt8} {tail : List UInt8}
    (h : c.text.drop c.offset = byte :: tail) : c.offset < c.text.length := by
  by_contra hle
  rw [List.drop_eq_nil_of_le (Nat.not_lt.1 hle)] at h
  cases h

/-- A byte beyond ASCII is no ASCII character. -/
lemma peek?_ne_of_isBeyond {c : ByteCursor} (h : c.isBeyond = true) {char : Char}
    (hchar : char.toNat < 128) : (c.peek? == some (asciiByte char)) = false := by
  refine beq_eq_false_iff_ne.2 fun hpeek => ?_
  rw [isBeyond, hpeek, Option.any_some, Text.beyondAscii_asciiByte hchar] at h
  cases h

/-- No ASCII word starts at a byte beyond ASCII. -/
lemma startsWith_of_isBeyond {c : ByteCursor} (h : c.isBeyond = true) {char : Char} {word : List Char}
    (hchar : char.toNat < 128) : c.startsWith (bytes (char :: word)) = false := by
  obtain ⟨byte, tail, hdrop, hbyte⟩ := isBeyond_iff.1 h
  have hne : (asciiByte char == byte) = false :=
    beq_eq_false_iff_ne.2 (Text.ne_asciiByte_of_beyond hbyte hchar).symm
  rw [startsWith, hdrop, Text.bytes_cons_ascii hchar, List.isPrefixOf, hne, Bool.false_and]

/-- A byte that starts no operator name and is no bracket is passed with nothing else happening. -/
lemma bump_of_ne {c : ByteCursor} {byte : UInt8} (hpeek : c.peek? = some byte)
    (hne : ∀ char ∈ ['o', '<', '>', '(', ')'], byte ≠ asciiByte char) : c.bump = c.skip 1 := by
  have hoperator : operatorLength c.text c.offset = 0 := by
    have hword : (bytes operatorWord).isPrefixOf (c.text.drop c.offset) = false := by
      by_contra hprefix
      obtain ⟨tail, htail⟩ := List.isPrefixOf_iff_prefix.1 (Bool.not_eq_false _ ▸ hprefix)
      have hhead : c.peek? = some (asciiByte 'o') := by
        rw [peek?, ← List.head?_drop, ← htail]
        rfl
      exact hne 'o' (by simp) (Option.some.inj (hpeek.symm.trans hhead))
    rw [operatorLength, hword]
    rfl
  rw [bump, hpeek]
  simp only [hoperator, Nat.lt_irrefl, if_false, pass, skip, if_neg (hne '<' (by simp)),
    if_neg (hne '>' (by simp)), if_neg (hne '(' (by simp)), if_neg (hne ')' (by simp))]

/-- A byte beyond ASCII is passed with nothing else happening. -/
lemma bump_of_isBeyond {c : ByteCursor} (h : c.isBeyond = true) : c.bump = c.skip 1 := by
  obtain ⟨byte, tail, hdrop, hbyte⟩ := isBeyond_iff.1 h
  have hpeek : c.peek? = some byte := by rw [peek?, ← List.head?_drop, hdrop, List.head?_cons]
  have hascii : ∀ char ∈ ['o', '<', '>', '(', ')'], char.toNat < 128 := by simp
  exact bump_of_ne hpeek fun char hchar => Text.ne_asciiByte_of_beyond hbyte (hascii char hchar)

/-- A byte beyond ASCII is a token of its own. -/
lemma token_of_isBeyond {c : ByteCursor} (h : c.isBeyond = true) {byte : UInt8} {tail : List UInt8}
    (hdrop : c.text.drop c.offset = byte :: tail) : c.token = [byte] := by
  rw [token, bump_of_isBeyond h, hdrop]
  simp [skip]

/-- One byte later, one byte less is left. -/
lemma drop_skip {c : ByteCursor} {byte : UInt8} {tail : List UInt8}
    (h : c.text.drop c.offset = byte :: tail) : (c.skip 1).text.drop (c.skip 1).offset = tail := by
  change c.text.drop (c.offset + 1) = tail
  rw [← List.drop_drop, h, List.drop_succ_cons, List.drop_zero]

/-- Bytes are skipped one after the other. -/
lemma skip_skip (c : ByteCursor) (m n : Nat) : (c.skip m).skip n = c.skip (m + n) := by
  simp only [skip, Nat.add_assoc]

/-- **Bytes beyond ASCII are passed one by one**, and the nesting stays as it is. -/
lemma run_of_beyond {c : ByteCursor} {front back : List UInt8}
    (hdrop : c.text.drop c.offset = front ++ back) (hfront : ∀ byte ∈ front, beyondAscii byte = true) :
    ∃ passed : List ByteCursor, c.run = passed ++ (c.skip front.length).run ∧
      passed.flatMap token = front ∧
      ∀ d ∈ passed, d.isBeyond = true ∧ d.angle = c.angle := by
  induction front generalizing c with
  | nil => exact ⟨[], rfl, rfl, by simp⟩
  | cons byte front ih =>
    obtain ⟨hbyte, hfront⟩ := List.forall_mem_cons.1 hfront
    have hbeyond : c.isBeyond = true := isBeyond_iff.2 ⟨byte, front ++ back, hdrop, hbyte⟩
    obtain ⟨passed, hrun, htokens, hpassed⟩ := ih (drop_skip hdrop) hfront
    rw [skip_skip, Nat.add_comm] at hrun
    refine ⟨c :: passed, ?_, ?_, ?_⟩
    · rw [run_of_lt (lt_length_of_drop hdrop), bump_of_isBeyond hbeyond, hrun, List.length_cons,
        List.cons_append]
    · rw [List.flatMap_cons, htokens, token_of_isBeyond hbeyond hdrop, List.singleton_append]
    · rintro d (_ | ⟨_, hd⟩)
      · exact ⟨hbeyond, rfl⟩
      · exact hpassed d hd

/-! ## Following the cursor on characters -/

/-- A cursor looks back at the last character of the token it has read. -/
lemma before_next {front token : List Char} {c next : Cursor} (h : c.bump? = some (token, next)) :
    next.before = (front ++ token).getLast? := by
  have hlast : next.before = token.getLast? := by
    rcases Cursor.bump?_cases h with ⟨rest, -, rfl⟩ | ⟨char, rest, -, -, rfl, rfl⟩
    · rfl
    · exact Cursor.pass_before ..
  rw [hlast, List.getLast?_append, List.getLast?_eq_some_getLast (Cursor.bump?_token_ne_nil h),
    Option.some_or]

/-- The place behind the bytes of what a cursor on characters has read. -/
def behind (front : List Char) (c : Cursor) : ByteCursor :=
  { text := bytes (front ++ c.rest), offset := byteLength front, angle := c.angle, paren := c.paren }

/-- The start is the place where nothing was read yet. -/
lemma behind_start (name : List Char) : behind [] (Cursor.start name) = start name := rfl

/-- The offset of a place is the number of bytes that were read. -/
lemma offset_behind (front : List Char) (c : Cursor) : (behind front c).offset = byteLength front := rfl

/-- Behind a place there are the bytes of what is left to read. -/
lemma drop_behind (front : List Char) (c : Cursor) :
    (behind front c).text.drop (behind front c).offset = bytes c.rest :=
  Text.drop_bytes front c.rest

/-- A place with a token left is before the end of the bytes. -/
lemma lt_length_behind (front : List Char) {token : List Char} {c next : Cursor}
    (h : c.bump? = some (token, next)) :
    (behind front c).offset < (behind front c).text.length := by
  obtain ⟨char, others, hcons⟩ := List.exists_cons_of_ne_nil (Cursor.bump?_token_ne_nil h)
  have hpos := Char.utf8Size_pos char
  have hrest : c.rest = char :: (others ++ next.rest) := by
    rw [← Cursor.bump?_append h, hcons, List.cons_append]
  simp only [behind, hrest, Text.length_bytes, Text.byteLength_append, Text.byteLength_cons]
  omega

/-- The byte at a place is the first one of what is left to read. -/
lemma peek?_behind (front : List Char) (c : Cursor) :
    (behind front c).peek? = (bytes c.rest).head? := by
  rw [peek?, ← List.head?_drop, drop_behind]

/-- A byte is the one at the cursor just if its character is. -/
lemma peek?_behind_beq (front : List Char) (c : Cursor) {char : Char} (hchar : char.toNat < 128) :
    ((behind front c).peek? == some (asciiByte char)) = (c.rest.head? == some char) := by
  have hbyte : ∀ o : Option UInt8, (o == some (asciiByte char)) = o.any (· == asciiByte char) := by
    rintro (_ | byte) <;> rfl
  have hhead : ∀ o : Option Char, (o == some char) = o.any (· == char) := by
    rintro (_ | d) <;> rfl
  rw [peek?_behind, hbyte, hhead, (AsciiTest.beq hchar).head?_bytes]

/-- The bytes go on with an ASCII word where the characters do. -/
lemma startsWith_behind (front : List Char) (c : Cursor) {word : List Char}
    (hword : word.all (·.toNat < 128) = true) :
    (behind front c).startsWith (bytes word) = word.isPrefixOf c.rest := by
  rw [startsWith, drop_behind, Text.isPrefixOf_bytes hword]

/-- The byte at a place lies beyond ASCII where the character does. -/
lemma isBeyond_behind {front rest : List Char} {c : Cursor} {char : Char} (hrest : c.rest = char :: rest) :
    (behind front c).isBeyond = decide (128 ≤ char.toNat) := by
  rw [isBeyond, peek?_behind, hrest]
  rcases Nat.lt_or_ge char.toNat 128 with hchar | hchar
  · rw [Text.bytes_cons_ascii hchar, List.head?_cons, Option.any_some,
      Text.beyondAscii_asciiByte hchar, decide_eq_false (Nat.not_le.2 hchar)]
  · rw [Text.bytes_cons, List.head?_append, List.head?_eq_some_head (Text.encode_ne_nil char),
      Option.some_or, Option.any_some, decide_eq_true hchar]
    exact Text.beyond_of_mem_encode hchar (List.head_mem _)

/-- An operator name at a place is as long as it is in characters. -/
lemma operatorLength_behind {front : List Char} {c : Cursor} (hbefore : c.before = front.getLast?) :
    operatorLength (behind front c).text (behind front c).offset
      = byteLength (((readOperator? c.before c.rest).map Prod.fst).getD []) := by
  rw [hbefore]
  exact operatorLength_eq front c.rest

/-- An operator name is passed as a whole. -/
lemma bump_behind_operator {front token rest : List Char} {c : Cursor}
    (hbefore : c.before = front.getLast?) (hread : readOperator? c.before c.rest = some (token, rest)) :
    (behind front c).bump
      = behind (front ++ token) { c with before := token.getLast?, rest } := by
  have happend := readOperator?_append hread
  have hlength := operatorLength_behind hbefore
  rw [hread, Option.map_some, Option.getD_some] at hlength
  obtain ⟨-, blanks, tail, -, -, htoken, -⟩ := readOperator?_cases hread
  have hpos : 0 < byteLength token := by
    rw [htoken, Text.byteLength_append]
    exact Nat.lt_of_lt_of_le (by decide : 0 < byteLength operatorWord) (Nat.le_add_right _ _)
  have hpeek : (behind front c).peek? = some (asciiByte 'o') := by
    rw [peek?_behind, ← happend, htoken, List.append_assoc, Text.bytes_append]
    rfl
  rw [bump, hpeek]
  dsimp only
  rw [if_pos (by rw [hlength]; exact hpos), hlength]
  simp only [behind, Text.byteLength_append, List.append_assoc, happend]

/-- An ASCII character is passed as a byte. -/
lemma bump_behind_ascii {front rest : List Char} {c : Cursor} {char : Char}
    (hbefore : c.before = front.getLast?) (hread : readOperator? c.before c.rest = none)
    (hrest : c.rest = char :: rest) (hchar : char.toNat < 128) :
    (behind front c).bump = behind (front ++ [char]) (c.pass char rest) := by
  have hlength := operatorLength_behind hbefore
  rw [hread, Option.map_none, Option.getD_none, Text.byteLength_nil] at hlength
  have hpeek : (behind front c).peek? = some (asciiByte char) := by
    rw [peek?_behind, hrest, Text.bytes_cons_ascii hchar, List.head?_cons]
  have hsize : char.utf8Size = 1 := by
    rw [← String.length_utf8EncodeChar, Text.encode_ascii hchar, List.length_singleton]
  have hbyte : ∀ d : Char, d.toNat < 128 → (asciiByte char = asciiByte d ↔ char = d) := fun d hd =>
    Text.asciiByte_inj hchar hd
  rw [bump, hpeek]
  dsimp only
  rw [if_neg (by rw [hlength]; exact Nat.lt_irrefl 0)]
  simp only [behind, pass, Cursor.pass_angle, Cursor.pass_paren, Cursor.pass_rest, hrest,
    Text.byteLength_append, Text.byteLength_cons, Text.byteLength_nil, hsize, List.append_assoc,
    List.singleton_append, Nat.add_zero, hbyte '<' (by decide), hbyte '>' (by decide),
    hbyte '(' (by decide), hbyte ')' (by decide)]

/-- Behind a character beyond ASCII the nesting is as before it. -/
lemma behind_pass_beyond {front rest : List Char} {c : Cursor} {char : Char}
    (hrest : c.rest = char :: rest) (hchar : 128 ≤ char.toNat) :
    behind (front ++ [char]) (c.pass char rest) = (behind front c).skip char.utf8Size := by
  have hne : ∀ d : Char, d.toNat < 128 → char ≠ d := by
    rintro d hd rfl
    omega
  simp only [behind, skip, Cursor.pass_angle, Cursor.pass_paren, Cursor.pass_rest, hrest,
    Text.byteLength_append, Text.byteLength_cons, Text.byteLength_nil, List.append_assoc,
    List.singleton_append, Nat.add_zero, if_neg (hne '<' (by decide)), if_neg (hne '>' (by decide)),
    if_neg (hne '(' (by decide)), if_neg (hne ')' (by decide))]

/-- **One token on the bytes and on the characters**: both are passed at once, or the characters are one
beyond ASCII, whose bytes are passed one by one. -/
lemma bump_behind {front token : List Char} {c next : Cursor} (hbefore : c.before = front.getLast?)
    (h : c.bump? = some (token, next)) :
    ((behind front c).isBeyond = false ∧ (behind front c).bump = behind (front ++ token) next) ∨
      ∃ char, token = [char] ∧ 128 ≤ char.toNat ∧
        behind (front ++ token) next = (behind front c).skip char.utf8Size := by
  rcases Cursor.bump?_cases h with ⟨rest, hread, rfl⟩ | ⟨char, rest, hread, hrest, rfl, rfl⟩
  · refine .inl ⟨?_, bump_behind_operator hbefore hread⟩
    obtain ⟨-, blanks, tail, htext, -⟩ := readOperator?_cases hread
    have hrest : c.rest = 'o' :: (operatorWord.tail ++ (List.replicate blanks ' ' ++ tail)) := htext
    exact isBeyond_behind hrest
  · rcases Nat.lt_or_ge char.toNat 128 with hchar | hchar
    · refine .inl ⟨?_, bump_behind_ascii hbefore hread hrest hchar⟩
      rw [isBeyond_behind hrest, decide_eq_false (Nat.not_le.2 hchar)]
    · exact .inr ⟨char, rfl, hchar, behind_pass_beyond hrest hchar⟩

/-- **What the cursor on bytes passes during one token**: the place where the token starts, or places
inside a character beyond ASCII. Together it reads the bytes of the token. -/
lemma run_behind {front token : List Char} {c next : Cursor} (hbefore : c.before = front.getLast?)
    (h : c.bump? = some (token, next)) :
    ∃ passed : List ByteCursor, (behind front c).run = passed ++ (behind (front ++ token) next).run ∧
      passed.flatMap ByteCursor.token = bytes token ∧
      (((behind front c).isBeyond = false ∧ passed = [behind front c]) ∨
        ((behind front c).isBeyond = true ∧ token ≠ ['<'] ∧
          ∀ d ∈ passed, d.isBeyond = true ∧ d.angle = c.angle)) := by
  have happend := Cursor.bump?_append h
  have hdrop : (behind front c).text.drop (behind front c).offset = bytes token ++ bytes next.rest := by
    rw [drop_behind, ← happend, Text.bytes_append]
  rcases bump_behind hbefore h with ⟨hbeyond, hbump⟩ | ⟨char, rfl, hchar, hskip⟩
  · refine ⟨[behind front c], ?_, ?_, .inl ⟨hbeyond, rfl⟩⟩
    · rw [run_of_lt (lt_length_behind front h), hbump, List.singleton_append]
    · have hlength : (behind (front ++ token) next).offset - (behind front c).offset
          = (bytes token).length := by
        simp only [behind, Text.byteLength_append, Text.length_bytes]
        omega
      rw [List.flatMap_singleton, ByteCursor.token, hbump, hdrop, hlength, List.take_left]
  · have hbytes : bytes [char] = String.utf8EncodeChar char := by
      rw [Text.bytes_cons, Text.bytes_nil, List.append_nil]
    have hrest : c.rest = char :: next.rest := happend.symm
    have hlength : (bytes [char]).length = char.utf8Size := by
      rw [hbytes, String.length_utf8EncodeChar]
    obtain ⟨passed, hrun, htokens, hpassed⟩ := run_of_beyond hdrop fun byte hbyte =>
      Text.beyond_of_mem_encode hchar (hbytes ▸ hbyte)
    refine ⟨passed, ?_, htokens, .inr ⟨?_, ?_, hpassed⟩⟩
    · rw [hrun, hskip, hlength]
    · rw [isBeyond_behind hrest, decide_eq_true hchar]
    · rintro heq
      obtain rfl : char = '<' := by simpa using heq
      exact absurd hchar (by decide)

/-- The place in the bytes of a name that a token of the name is read at. -/
def place (name : List Char) (s : Step) : ByteCursor :=
  behind (name.take (name.length - s.cursor.rest.length)) s.cursor

/-- The place of a token is behind what stands before it. -/
lemma place_eq {name front : List Char} {s : Step} (h : front ++ s.cursor.rest = name) :
    place name s = behind front s.cursor := by
  rw [place, ← h, List.length_append, Nat.add_sub_cancel_right, List.take_left]

/-- **Tests for ASCII characters succeed at the same places** of the bytes and of the characters.

**Proof sketch.** Induction along the tokens. The cursor on bytes passes the place of a token, or bytes
beyond ASCII, where the test fails. -/
lemma filter_run {p : ByteCursor → Bool} {q : Step → Bool}
    (hbeyond : ∀ d, d.isBeyond = true → p d = false)
    (hplace : ∀ front s, p (behind front s.cursor) = q s) (front : List Char) {c : Cursor}
    (hbefore : c.before = front.getLast?) :
    (behind front c).run.filter p = (c.steps.filter q).map (place (front ++ c.rest)) := by
  fun_induction Cursor.steps c generalizing front with
  | case1 c h =>
    have hrest := Cursor.bump?_eq_none_iff.1 h
    rw [run_of_le (by simp [behind, hrest])]
    rfl
  | case2 c token next h ih =>
    obtain ⟨passed, hrun, -, hpassed⟩ := run_behind hbefore h
    have hname : front ++ c.rest = front ++ token ++ next.rest := by
      rw [← Cursor.bump?_append h, List.append_assoc]
    have hstep : passed.filter p = if q ⟨c, token⟩ then [behind front c] else [] := by
      have hq := hplace front ⟨c, token⟩
      rcases hpassed with ⟨-, rfl⟩ | ⟨hfirst, -, hall⟩
      · rw [List.filter_cons, List.filter_nil, hq]
      · rw [← hq, hbeyond _ hfirst]
        exact List.filter_eq_nil_iff.2 fun d hd => by simp [hbeyond d (hall d hd).1]
    rw [hrun, List.filter_append, hstep, ih _ (before_next h), List.filter_cons, ← hname]
    split
    · rw [List.map_cons, List.singleton_append]
      exact congrArg (· :: _) (place_eq (s := ⟨c, token⟩) rfl).symm
    · rfl

/-! ## Tokens outside any template list -/

/-- The token is outside any template list and does not open one. -/
def kept (c : ByteCursor) : Bool :=
  c.angle == 0 && c.token != [asciiByte '<']

/-- A byte beyond ASCII is kept outside any template list. -/
lemma kept_of_isBeyond {c : ByteCursor} (h : c.isBeyond = true) : c.kept = (c.angle == 0) := by
  obtain ⟨byte, tail, hdrop, hbyte⟩ := isBeyond_iff.1 h
  have hne : byte ≠ asciiByte '<' := Text.ne_asciiByte_of_beyond hbyte (by decide)
  simp [kept, token_of_isBeyond h hdrop, hne]

/-- Only one text has just the byte of an ASCII character. -/
lemma bytes_eq_singleton_iff {token : List Char} {char : Char} (hchar : char.toNat < 128) :
    bytes token = [asciiByte char] ↔ token = [char] := by
  refine ⟨fun h => ?_, fun h => by rw [h, Text.bytes_cons_ascii hchar, Text.bytes_nil]⟩
  have hprefix : [char].isPrefixOf token = true := by
    rw [← Text.isPrefixOf_bytes (by simpa using hchar), h, Text.bytes_cons_ascii hchar]
    simp
  obtain ⟨rest, rfl⟩ := List.isPrefixOf_iff_prefix.1 hprefix
  rw [List.singleton_append, Text.bytes_cons_ascii hchar, List.cons.injEq] at h
  cases rest with
  | nil => rfl
  | cons d rest =>
    rw [Text.bytes_cons, List.append_eq_nil_iff] at h
    exact absurd h.2.1 (Text.encode_ne_nil d)

/-- **The tokens outside any template list** are the same text on the bytes and on the characters. -/
lemma flatMap_token_run (front : List Char) {c : Cursor} (hbefore : c.before = front.getLast?) :
    ((behind front c).run.filter kept).flatMap ByteCursor.token
      = bytes (Name.text (c.steps.filter Step.kept)) := by
  fun_induction Cursor.steps c generalizing front with
  | case1 c h =>
    have hrest := Cursor.bump?_eq_none_iff.1 h
    rw [run_of_le (by simp [behind, hrest])]
    rfl
  | case2 c token next h ih =>
    obtain ⟨passed, hrun, htokens, hpassed⟩ := run_behind hbefore h
    have hstep : (passed.filter kept).flatMap ByteCursor.token
        = if Step.kept ⟨c, token⟩ then bytes token else [] := by
      rcases hpassed with ⟨-, rfl⟩ | ⟨-, hne, hall⟩
      · have hkept : (behind front c).kept = Step.kept ⟨c, token⟩ := by
          rw [List.flatMap_singleton] at htokens
          rw [kept, Step.kept, htokens]
          congr 1
          rw [Bool.eq_iff_iff, bne_iff_ne, bne_iff_ne, ne_eq, ne_eq,
            bytes_eq_singleton_iff (by decide)]
        rw [List.filter_cons, List.filter_nil, hkept]
        split
        · exact htokens
        · rfl
      · have hkept : Step.kept ⟨c, token⟩ = (c.angle == 0) := by simp [Step.kept, hne]
        have hsame : ∀ d ∈ passed, d.kept = (c.angle == 0) := fun d hd => by
          rw [kept_of_isBeyond (hall d hd).1, (hall d hd).2]
        rw [hkept, List.filter_congr hsame]
        cases c.angle == 0 with
        | true => rw [List.filter_true, htokens, if_pos rfl]
        | false => rw [List.filter_false, List.flatMap_nil, if_neg Bool.false_ne_true]
    rw [hrun, List.filter_append, List.flatMap_append, hstep, ih _ (before_next h), List.filter_cons]
    split
    · rw [text_cons, Text.bytes_append]
    · rfl

end ByteCursor

end DocComments.Name
