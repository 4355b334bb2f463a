import DocComments.Proofs.Toml.Strings
import DocComments.Toml.Document
import Mathlib.Algebra.BigOperators.Group.List.Basic
import Mathlib.Data.List.TakeDrop

set_option autoImplicit false

/-!
# Lines are read back

A line that is written with a bare key is read back as the assignment or the header it was written
for. A text that is made of such lines is read as them, whatever follows it, so texts can be put
together line by line.

## Main definitions

* `IsBare` — a key that can be written without quotes.
* `Spells` — a text is read as a value up to the end of its line.
* `Prints` — a text is read as lines, whatever follows.

## Main results

* `readPath_bare`, `readPath_dotted` — keys of one and of two components are read back.
* `readValue_writeString`, `readValue_boolean`, `readValue_itemLines` — values are read back.
* `Prints.assignment`, `Prints.header` — assignments and headers are read back.
* `Prints.readLines_eq` — a text that is made of lines is read as them.
-/

namespace DocComments.Toml

/-! ## Keys -/

/-- The key can be written without quotes. -/
def IsBare (key : Key) : Prop :=
  key ≠ [] ∧ key.all isBareKey = true

/-- Whether a key can be written without quotes is decided by its characters. -/
instance (key : Key) : Decidable (IsBare key) :=
  inferInstanceAs (Decidable (_ ∧ _))

/-- The characters of a bare key need no quotes. -/
lemma IsBare.isBareKey_of_mem {key : Key} (h : IsBare key) : ∀ c ∈ key, isBareKey c = true :=
  List.all_eq_true.1 h.2

/-- No blanks are skipped in front of what is none. -/
lemma skipBlanks_cons {c : Char} (h : Text.isBlank c = false) (rest : List Char) :
    skipBlanks (c :: rest) = c :: rest := by
  simp [skipBlanks, h]

/-- A bare key starts with a character that starts nothing else. -/
lemma IsBare.exists_cons {key : Key} (h : IsBare key) :
    ∃ c rest, key = c :: rest ∧ isBareKey c = true ∧ Text.isBlank c = false := by
  obtain ⟨c, rest, rfl⟩ := List.exists_cons_of_ne_nil h.1
  have hc := h.isBareKey_of_mem c (by simp)
  refine ⟨c, rest, rfl, hc, ?_⟩
  rw [Bool.eq_false_iff]
  intro hblank
  simp only [Text.isBlank, Bool.or_eq_true, beq_iff_eq] at hblank
  rcases hblank with rfl | rfl <;> cases hc

/-- A bare key is read up to the first character that cannot stand in it. -/
lemma readKey_bare {key : Key} (hkey : IsBare key) {c : Char} (hc : isBareKey c = false)
    (rest : List Char) : readKey (key ++ c :: rest) = some (key, c :: rest) := by
  obtain ⟨first, key', rfl, hfirst, -⟩ := hkey.exists_cons
  have hspan : (first :: key' ++ c :: rest).span isBareKey = (first :: key', c :: rest) := by
    rw [List.span_eq_takeWhile_dropWhile, List.takeWhile_append_of_pos hkey.isBareKey_of_mem,
      List.dropWhile_append_of_pos hkey.isBareKey_of_mem]
    simp [hc]
  unfold readKey
  split
  · rename_i heq
    cases heq
    cases hfirst
  · rename_i heq
    cases heq
    cases hfirst
  · rw [hspan]
    rfl

/-- A bare key is read up to the first character that does not belong to it. -/
lemma readPathFrom_bare {key : Key} (hkey : IsBare key) {c : Char} (hc : isBareKey c = false)
    {rest : List Char} (hrest : (skipBlanks (c :: rest)).head? ≠ some '.') (fuel : Nat) :
    readPathFrom (fuel + 1) (key ++ c :: rest) = some ([], key, skipBlanks (c :: rest)) := by
  rw [readPathFrom, readKey_bare hkey hc, Option.bind_some]
  simp only
  split
  · rename_i heq
    simp [heq] at hrest
  · rfl

/-- A key of one component. -/
lemma readPath_bare {key : Key} (hkey : IsBare key) {c : Char} (hc : isBareKey c = false)
    {rest : List Char} (hrest : (skipBlanks (c :: rest)).head? ≠ some '.') :
    readPath (key ++ c :: rest) = some ([], key, skipBlanks (c :: rest)) := by
  rw [readPath, List.length_append, List.length_cons, ← Nat.add_assoc]
  exact readPathFrom_bare hkey hc hrest _

/-- A key of two components. -/
lemma readPath_dotted {key key' : Key} (hkey : IsBare key) (hkey' : IsBare key') {c : Char}
    (hc : isBareKey c = false) {rest : List Char}
    (hrest : (skipBlanks (c :: rest)).head? ≠ some '.') :
    readPath (key ++ '.' :: (key' ++ c :: rest)) = some ([key], key', skipBlanks (c :: rest)) := by
  obtain ⟨first, tail, hfirst, -, hblank⟩ := hkey'.exists_cons
  have hskip : skipBlanks (key' ++ c :: rest) = key' ++ c :: rest := by
    rw [hfirst, List.cons_append, skipBlanks_cons hblank]
  have hlength : (key ++ '.' :: (key' ++ c :: rest)).length
      = (key.length + key'.length + rest.length + 1) + 1 := by
    simp
    omega
  have hdot : skipBlanks ('.' :: (key' ++ c :: rest)) = '.' :: (key' ++ c :: rest) :=
    skipBlanks_cons rfl _
  rw [readPath, hlength, readPathFrom, readKey_bare hkey rfl, Option.bind_some]
  simp only [hdot, hskip, readPathFrom_bare hkey' hc hrest]
  rfl

/-! ## Values -/

/-- A string starts with a quote. -/
lemma exists_writeString (text : List Char) :
    ∃ c rest, writeString text = c :: rest ∧ (c = '"' ∨ c = '\x27') := by
  unfold writeString
  split
  · exact ⟨_, _, rfl, .inl rfl⟩
  · exact ⟨_, _, rfl, .inr rfl⟩
  · exact ⟨_, _, rfl, .inl rfl⟩
  · exact ⟨_, _, rfl, .inr rfl⟩

/-- A string is read as a value. -/
lemma readValue_writeString (depth : Nat) (text : List Char) {rest : List Char}
    (hdouble : rest.head? ≠ some '"') (hsingle : rest.head? ≠ some '\x27') :
    readValue depth (writeString text ++ rest) = some (.text text, rest) := by
  have hread := readString_writeString text hdouble hsingle
  obtain ⟨c, s, heq, hc⟩ := exists_writeString text
  rw [heq, List.cons_append] at hread ⊢
  have hquote : (c == '"' || c == '\x27') = true := by
    rcases hc with rfl | rfl <;> rfl
  rw [readValue.eq_def]
  simp only [hquote, if_true, hread]
  rfl

/-- A truth value is read up to the end of the line. -/
lemma readValue_boolean (depth : Nat) (b : Bool) (rest : List Char) :
    readValue depth ((if b then "true" else "false").toList ++ '\n' :: rest)
      = some (.boolean b, '\n' :: rest) := by
  cases b with
  | true =>
    show readValue depth ('t' :: ['r', 'u', 'e'] ++ '\n' :: rest) = _
    rw [readValue.eq_def]
    rfl
  | false =>
    show readValue depth ('f' :: ['a', 'l', 's', 'e'] ++ '\n' :: rest) = _
    rw [readValue.eq_def]
    rfl

/-! ### Arrays -/

/-- Characters that only fill space between the items of an array. -/
def isSpacing (c : Char) : Bool :=
  Text.isBlank c || c == '\n'

/-- White space between items is skipped. -/
lemma skipFiller?_spacing {filler : List Char} (h : filler.all isSpacing = true)
    (rest : List Char) : skipFiller? false (filler ++ rest) = skipFiller? false rest := by
  induction filler with
  | nil => rfl
  | cons c filler ih =>
    obtain ⟨hc, hfiller⟩ : isSpacing c = true ∧ filler.all isSpacing = true := by
      rwa [List.all_cons, Bool.and_eq_true] at h
    rw [← ih hfiller, List.cons_append, skipFiller?.eq_def]
    simp only [isSpacing, Text.isBlank, Bool.or_eq_true, beq_iff_eq] at hc
    rcases hc with (rfl | rfl) | rfl <;> rfl

/-- A quote, a comma or a bracket is not skipped. -/
lemma skipFiller?_mark {c : Char} (h : c ∈ ['"', '\x27', ',', ']']) (rest : List Char) :
    skipFiller? false (c :: rest) = some (c :: rest) := by
  rw [skipFiller?.eq_def]
  simp only [List.mem_cons, List.not_mem_nil, or_false] at h
  rcases h with rfl | rfl | rfl | rfl <;> rfl

/-- A closing bracket ends the items. -/
lemma readItems_close (read : Reader) (fuel : Nat) (filler : List Char)
    (hfiller : filler.all isSpacing = true) (rest : List Char) :
    readItems read (fuel + 1) (filler ++ ']' :: rest) = some ([], rest) := by
  rw [readItems, skipFiller?_spacing hfiller, skipFiller?_mark (by simp)]
  rfl

/-- An item is read, and what is read behind it depends on the next mark. -/
lemma readItems_writeString (depth fuel : Nat) {filler : List Char}
    (hfiller : filler.all isSpacing = true) (text : List Char) {mark : Char}
    (hmark : mark ∈ [',', ']']) (rest : List Char) :
    readItems (readValue depth) (fuel + 1) (filler ++ (writeString text ++ mark :: rest))
      = if mark = ']' then some ([.text text], rest)
        else (readItems (readValue depth) fuel rest).map fun (values, rest) =>
          (.text text :: values, rest) := by
  have hnot : mark ≠ '"' ∧ mark ≠ '\x27' := by
    simp only [List.mem_cons, List.not_mem_nil, or_false] at hmark
    rcases hmark with rfl | rfl <;> decide
  have hvalue : readValue depth (writeString text ++ mark :: rest)
      = some (.text text, mark :: rest) :=
    readValue_writeString depth text (by simp [hnot]) (by simp [hnot])
  have hskip : skipFiller? false (mark :: rest) = some (mark :: rest) :=
    skipFiller?_mark (by aesop) rest
  obtain ⟨c, tail, hwrite, hc⟩ := exists_writeString text
  rw [hwrite, List.cons_append] at hvalue ⊢
  have hstart : skipFiller? false (c :: (tail ++ mark :: rest)) = some (c :: (tail ++ mark :: rest)) :=
    skipFiller?_mark (by aesop) _
  rw [readItems, skipFiller?_spacing hfiller, hstart, Option.bind_some]
  split
  · rename_i heq
    cases heq
    rcases hc with hc | hc <;> cases hc
  · simp only [hvalue, Option.bind_some, hskip]
    simp only [List.mem_cons, List.not_mem_nil, or_false] at hmark
    rcases hmark with rfl | rfl
    · rfl
    · rfl

/-- A text as an item of an array with an item on each line. -/
def itemLine (text : List Char) : List Char :=
  "    ".toList ++ writeString text ++ ",\n".toList

/-- An item on its line: an indent, the string, and a comma. -/
lemma itemLine_append (text rest : List Char) :
    itemLine text ++ rest
      = [' ', ' ', ' ', ' '] ++ (writeString text ++ ',' :: '\n' :: rest) := by
  show [' ', ' ', ' ', ' '] ++ writeString text ++ [',', '\n'] ++ rest = _
  rw [List.append_assoc, List.append_assoc]
  rfl

/-- **An array with an item on each line** is read up to its bracket. -/
lemma readItems_itemLines (depth : Nat) (texts : List (List Char)) {fuel : Nat}
    (hfuel : texts.length < fuel) (rest : List Char) :
    readItems (readValue depth) fuel ('\n' :: (texts.flatMap itemLine ++ ']' :: rest))
      = some (texts.map .text, rest) := by
  induction texts generalizing fuel with
  | nil =>
    obtain ⟨n, rfl⟩ := Nat.exists_eq_add_one_of_ne_zero (Nat.ne_zero_of_lt hfuel)
    exact readItems_close _ n ['\n'] rfl rest
  | cons text texts ih =>
    obtain ⟨n, rfl⟩ := Nat.exists_eq_add_one_of_ne_zero (Nat.ne_zero_of_lt hfuel)
    have hshape : '\n' :: ((text :: texts).flatMap itemLine ++ ']' :: rest)
        = ['\n', ' ', ' ', ' ', ' '] ++ (writeString text
          ++ ',' :: '\n' :: (texts.flatMap itemLine ++ ']' :: rest)) := by
      rw [List.flatMap_cons, List.append_assoc, itemLine_append]
      rfl
    rw [hshape, readItems_writeString depth n rfl text (by simp),
      ih (Nat.lt_of_succ_lt_succ hfuel)]
    rfl

/-- An opening bracket starts an array. -/
lemma readValue_bracket (depth : Nat) (rest : List Char) :
    readValue (depth + 1) ('[' :: rest)
      = (readItems (readValue depth) (rest.length + 1) rest).map fun (values, rest) =>
          (.array values, rest) := by
  rw [readValue.eq_def]
  rfl

/-- **An array with one string a line is read back.** -/
lemma readValue_itemLines (depth : Nat) (texts : List (List Char)) (rest : List Char) :
    readValue (depth + 1) ('[' :: '\n' :: (texts.flatMap itemLine ++ ']' :: rest))
      = some (.array (texts.map .text), rest) := by
  have hlength : texts.length ≤ (texts.flatMap itemLine).length := by
    rw [List.length_flatMap, ← List.length_map (f := fun text => (itemLine text).length)]
    apply List.length_le_sum_of_one_le
    intro n hn
    obtain ⟨text, -, rfl⟩ := List.mem_map.1 hn
    show 1 ≤ ("    ".toList ++ writeString text ++ [',', '\n']).length
    rw [List.length_append, List.length_cons]
    omega
  rw [readValue_bracket, readItems_itemLines]
  · rfl
  · simp only [List.length_cons, List.length_append]
    omega

/-! ## Lines -/

/-- The text is read as the value, up to the end of the line. -/
structure Spells (text : List Char) (value : Value) : Prop where
  start : ∃ c rest, text = c :: rest ∧ Text.isBlank c = false
  read : ∀ rest, readValue maxNesting (text ++ '\n' :: rest) = some (value, '\n' :: rest)

/-- A bare key and the spelling of a value are read as an assignment. -/
lemma readAssignment_spells {key : Key} (hkey : IsBare key) {text : List Char} {value : Value}
    (h : Spells text value) (rest : List Char) :
    readAssignment (readValue maxNesting) (key ++ " = ".toList ++ text ++ '\n' :: rest)
      = some (([], key, value), '\n' :: rest) := by
  obtain ⟨c, tail, rfl, hblank⟩ := h.start
  have hpath : readPath (key ++ ' ' :: '=' :: ' ' :: (c :: tail ++ '\n' :: rest))
      = some ([], key, '=' :: ' ' :: (c :: tail ++ '\n' :: rest)) :=
    readPath_bare hkey rfl (by simp [skipBlanks, Text.isBlank])
  have hskip : skipBlanks (' ' :: (c :: tail ++ '\n' :: rest)) = c :: tail ++ '\n' :: rest :=
    skipBlanks_cons hblank _
  have hshape : key ++ " = ".toList ++ (c :: tail) ++ '\n' :: rest
      = key ++ ' ' :: '=' :: ' ' :: (c :: tail ++ '\n' :: rest) := by
    simp
  rw [hshape, readAssignment, hpath, Option.bind_some]
  show (readValue maxNesting (skipBlanks (' ' :: (c :: tail ++ '\n' :: rest)))).map _ = _
  rw [hskip, h.read]
  rfl

/-- A path in brackets is read as a header. -/
lemma readHeader_of_readPath {text rest : List Char} {path : List Key} {key : Key}
    (hstart : ∃ c tail, text = c :: tail ∧ Text.isBlank c = false ∧ c ≠ '[')
    (hpath : readPath text = some (path, key, ']' :: rest)) :
    readHeader text = some (.header false path key, rest) := by
  obtain ⟨c, tail, rfl, hblank, hbracket⟩ := hstart
  unfold readHeader
  split
  · rename_i heq
    cases heq
    exact absurd rfl hbracket
  · rw [skipBlanks_cons hblank, hpath]
    rfl

/-- The text is read as the lines, whatever follows. -/
def Prints (text : List Char) (lines : List Line) : Prop :=
  ∃ n ≤ text.length, ∀ fuel rest,
    readLines (fuel + n) (text ++ rest) = (readLines fuel rest).map (lines ++ ·)

namespace Prints

/-- The empty text is read as no lines. -/
lemma nil : Prints [] [] :=
  ⟨0, Nat.le_refl 0, fun fuel rest => by simp⟩

/-- Texts are read one after the other. -/
lemma append {text text' : List Char} {lines lines' : List Line} (h : Prints text lines)
    (h' : Prints text' lines') : Prints (text ++ text') (lines ++ lines') := by
  obtain ⟨n, hn, hread⟩ := h
  obtain ⟨n', hn', hread'⟩ := h'
  refine ⟨n' + n, by simp only [List.length_append]; omega, fun fuel rest => ?_⟩
  rw [← Nat.add_assoc, List.append_assoc, hread, hread', Option.map_map]
  simp [Function.comp_def]

/-- Texts of one line each are read line by line. -/
lemma flatMap {α : Type} {text : α → List Char} {line : α → Line} {items : List α}
    (h : ∀ a ∈ items, Prints (text a) [line a]) :
    Prints (items.flatMap text) (items.map line) := by
  induction items with
  | nil => exact nil
  | cons a items ih =>
    exact (h a (by simp)).append (ih fun b hb => h b (by simp [hb]))

/-- An empty line says nothing. -/
lemma emptyLine : Prints ['\n'] [] := by
  refine ⟨1, Nat.le_refl 1, fun fuel rest => ?_⟩
  rw [readLines, List.singleton_append, skipBlanks_cons rfl]
  simp [endLine?]

/-- What is read as a line up to its end. -/
lemma ofLine {text : List Char} {line : Line}
    (hstart : ∃ c tail, text = c :: tail ∧ Text.isBlank c = false ∧ c ∉ ['#', '\n', '\r'])
    (hread : ∀ rest, readLine (text ++ '\n' :: rest) = some (line, '\n' :: rest)) :
    Prints (text ++ ['\n']) [line] := by
  refine ⟨1, by simp, fun fuel rest => ?_⟩
  have hline := hread rest
  obtain ⟨c, tail, rfl, hblank, hmark⟩ := hstart
  have hend : endLine? false ('\n' :: rest) = some rest := by simp [endLine?]
  rw [List.append_assoc, List.singleton_append, readLines, List.cons_append, skipBlanks_cons hblank]
  rw [List.cons_append] at hline
  have hnot : (c == '#' || c == '\n' || c == '\r') = false := by
    simpa [and_assoc] using hmark
  simp only [hnot, Bool.false_eq_true, if_false, hline, Option.bind_some, hend]
  rfl

/-- **An assignment is read back.** -/
lemma assignment {key : Key} (hkey : IsBare key) {text : List Char} {value : Value}
    (h : Spells text value) :
    Prints (key ++ " = ".toList ++ text ++ ['\n']) [.assignment [] key value] := by
  obtain ⟨c, tail, rfl, hc, hblank⟩ := hkey.exists_cons
  apply ofLine
  · refine ⟨c, _, rfl, hblank, ?_⟩
    simp only [List.mem_cons, List.not_mem_nil, or_false]
    rintro (rfl | rfl | rfl) <;> cases hc
  · intro rest
    have hread := readAssignment_spells hkey h rest
    unfold readLine
    split
    · rename_i heq
      cases heq
      cases hc
    · rw [hread]
      rfl

/-- **A header is read back.** -/
lemma header {text : List Char} {path : List Key} {key : Key}
    (hstart : ∃ c tail, text = c :: tail ∧ Text.isBlank c = false ∧ c ≠ '[')
    (hpath : ∀ rest, readPath (text ++ ']' :: rest) = some (path, key, ']' :: rest)) :
    Prints ('[' :: text ++ [']', '\n']) [.header false path key] := by
  have hshape : '[' :: text ++ [']', '\n'] = ('[' :: text ++ [']']) ++ ['\n'] := by simp
  rw [hshape]
  apply ofLine
  · exact ⟨'[', _, rfl, rfl, by decide⟩
  · intro rest
    have hstart' : ∃ c tail, text ++ ']' :: '\n' :: rest = c :: tail ∧
        Text.isBlank c = false ∧ c ≠ '[' := by
      obtain ⟨c, tail, rfl, hc⟩ := hstart
      exact ⟨c, _, rfl, hc⟩
    rw [List.append_assoc, List.cons_append]
    exact readHeader_of_readPath hstart' (hpath _)

/-- **A text that is made of lines is read as these lines.** -/
lemma readLines_eq {text : List Char} {lines : List Line} (h : Prints text lines) :
    readLines (text.length + 1) text = some lines := by
  obtain ⟨n, hn, hread⟩ := h
  obtain ⟨m, hm⟩ : ∃ m, text.length = m + n := ⟨text.length - n, by omega⟩
  have hend := hread (m + 1) []
  rw [List.append_nil] at hend
  rw [hm, Nat.add_right_comm, hend, readLines]
  simp [skipBlanks]

end Prints

end DocComments.Toml
