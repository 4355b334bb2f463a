import DocComments.Toml.Quoted
import Mathlib.Data.List.Basic
import Mathlib.Tactic.SplitIfs

set_option autoImplicit false

/-!
# Strings are read back

A text is written in one of four forms, and reading what was written gives the text back, whichever
form that was. The delicate point is where a string in three quotes ends: up to two quotes of the
text may stand right before the three that close it.

## Main definitions

* `isEscaped` — the characters that are escaped if any are.

## Main results

* `exists_escapeChar` — an escape is read as the character that was escaped.
* `readBasicLines_escapeText`, `readLiteralLines_append` — strings in three quotes are read back.
* `readString_writeString` — every string is read back.
-/

namespace DocComments.Toml

/-! ## Escapes -/

/-- Characters that are always escaped between double quotes, if they are escaped at all. -/
def isEscaped (c : Char) : Bool :=
  c == '"' || c == '\\' || c == '\t' || !isPlain c

/-- A hexadecimal digit is read back. -/
lemma hexValue?_hexDigit {n : Nat} (h : n < 16) : hexValue? (hexDigit n) = some n := by
  have hall : ∀ i : Fin 16, hexValue? (hexDigit i) = some i.val := by decide
  exact hall ⟨n, h⟩

/-- A character is found by its code. -/
lemma charOfCode?_toNat (c : Char) : charOfCode? c.toNat = some c := by
  have hvalid : c.toNat.isValidChar := c.valid
  rw [charOfCode?, dif_pos hvalid]
  rfl

/-- The escape by a code is read back. -/
lemma escape?_code {c : Char} (h : c.toNat < 256) (rest : List Char) :
    escape? ('u' :: '0' :: '0' :: hexDigit (c.toNat / 16) :: hexDigit (c.toNat % 16) :: rest)
      = some (c, rest) := by
  have hhigh := hexValue?_hexDigit (n := c.toNat / 16) (by omega)
  have hlow := hexValue?_hexDigit (n := c.toNat % 16) (by omega)
  have hzero : hexValue? '0' = some 0 := rfl
  have hcode : 16 * (c.toNat / 16) + c.toNat % 16 = c.toNat := Nat.div_add_mod _ _
  simp [escape?, codeEscape?, hexNumber?, hhigh, hlow, hzero, hcode, charOfCode?_toNat]

/-- A character that is not plain has a code of two hexadecimal digits. -/
lemma toNat_lt_of_not_isPlain {c : Char} (h : isPlain c = false) : c.toNat < 256 := by
  simp only [isPlain, Bool.or_eq_false_iff, Bool.and_eq_false_iff] at h
  rcases h.2 with h | h
  · simp at h
    omega
  · simp at h
    omega

/-- **Escapes are read back.** What stands behind the backslash of an escape is read as the character
that was escaped, and it is not taken for the end of a line. -/
lemma exists_escapeChar {c : Char} (h : isEscaped c = true) :
    ∃ code : List Char, escapeChar c = '\\' :: code ∧ ∀ rest,
      escape? (code ++ rest) = some (c, rest) ∧ continuation? (code ++ rest) = none := by
  unfold escapeChar
  split
  case h_8 =>
    refine ⟨_, rfl, fun rest => ⟨escape?_code ?_ rest, rfl⟩⟩
    apply toNat_lt_of_not_isPlain
    simp_all [isEscaped]
  all_goals exact ⟨_, rfl, fun rest => ⟨rfl, rfl⟩⟩

/-- Line ends do not stand for themselves. -/
lemma ne_lineEnd_of_isPlain {c : Char} (h : isPlain c = true) : c ≠ '\n' ∧ c ≠ '\r' := by
  constructor
  all_goals
    rintro rfl
    cases h

/-! ## Strings on one line -/

/-- A character that needs no escape is read as it is. -/
lemma readBasic_plain {c : Char} (hescaped : isEscaped c = false) (rest : List Char) :
    readBasic (c :: rest) = consRead c (readBasic rest) := by
  simp only [isEscaped, Bool.or_eq_false_iff, Bool.not_eq_false'] at hescaped
  obtain ⟨⟨⟨hquote, hslash⟩, -⟩, hplain⟩ := hescaped
  rw [readBasic]
  simp [hquote, hslash, hplain]

/-- An escaped character is read back. -/
lemma readBasic_escapeChar {c : Char} (hescaped : isEscaped c = true) (rest : List Char) :
    readBasic (escapeChar c ++ rest) = consRead c (readBasic rest) := by
  obtain ⟨code, hcode, hread⟩ := exists_escapeChar hescaped
  rw [hcode, List.cons_append, readBasic]
  simp only [Char.reduceBEq, Bool.false_eq_true, if_false, if_true]
  split
  · rename_i heq
    cases (hread rest).1.symm.trans heq
    rfl
  · rename_i heq
    cases (hread rest).1.symm.trans heq

/-- How a text is written between double quotes, one character at a time. -/
lemma escapeText_cons_of_ne {c : Char} (h : c ≠ '"') (limit : Nat) (lines : Bool) (run : Nat)
    (text : List Char) :
    escapeText limit lines run (c :: text)
      = (if isEscaped c && !(c == '\n' && lines) then escapeChar c else [c])
        ++ escapeText limit lines 0 text := by
  rw [escapeText]
  by_cases hline : (c == '\n' && lines) = true
  · simp [h, hline]
  · rw [Bool.not_eq_true] at hline
    simp only [isEscaped, beq_eq_false_iff_ne.2 h, hline, Bool.false_eq_true, if_false, Bool.false_or,
      Bool.not_false, Bool.and_true]
    split
    · rfl
    · rfl

/-- **A string in double quotes is read back.** -/
lemma readBasic_escapeText (text rest : List Char) :
    readBasic (escapeText 0 false 0 text ++ '"' :: rest) = some (text, rest) := by
  induction text with
  | nil => simp [escapeText, readBasic]
  | cons c text ih =>
    by_cases hquote : c = '"'
    · subst hquote
      rw [escapeText]
      simp only [beq_self_eq_true, if_true, Nat.lt_irrefl, if_false, List.append_assoc]
      rw [readBasic_escapeChar rfl, ih]
      rfl
    · rw [escapeText_cons_of_ne hquote, List.append_assoc]
      by_cases hescaped : isEscaped c = true
      · simp only [hescaped, Bool.and_false, Bool.not_false, Bool.and_true, if_true]
        rw [readBasic_escapeChar hescaped, ih]
        rfl
      · rw [Bool.not_eq_true] at hescaped
        simp only [hescaped, Bool.false_and, Bool.false_eq_true, if_false, List.singleton_append]
        rw [readBasic_plain hescaped, ih]
        rfl

/-! ## Strings on several lines -/

/-- The longest run is at least the one that a text goes on with. -/
lemma le_longestRun (q : Char) (run : Nat) (text : List Char) : run ≤ longestRun q run text := by
  induction text generalizing run with
  | nil => exact Nat.le_refl run
  | cons c text ih =>
    rw [longestRun]
    split
    · exact Nat.le_trans (Nat.le_succ run) (ih (run + 1))
    · exact Nat.le_max_left _ _

/-- A longer run before a text gives a longest run that is no shorter. -/
lemma longestRun_mono {q : Char} {m n : Nat} (h : m ≤ n) (text : List Char) :
    longestRun q m text ≤ longestRun q n text := by
  induction text generalizing m n with
  | nil => exact h
  | cons c text ih =>
    rw [longestRun, longestRun]
    split
    · exact ih (Nat.succ_le_succ h)
    · omega

/-- The runs from the second character on are no longer. -/
lemma longestRun_le_of_cons {q c : Char} {run n : Nat} {text : List Char}
    (h : longestRun q run (c :: text) ≤ n) :
    longestRun q (if c = q then run + 1 else 0) text ≤ n := by
  rw [longestRun] at h
  by_cases hc : c = q
  · simpa [hc] using h
  · simp [hc] at h ⊢
    omega

/-- **Where a string on several lines ends**: with at most two quotes in a row, two quotes behind a
quote are those at the end of the string, possibly with further quotes before them. -/
lemma exists_of_isPrefixOf {q : Char} {text rest : List Char} (hrun : longestRun q 1 text ≤ 2)
    (h : [q, q].isPrefixOf (text ++ [q, q, q] ++ rest) = true) :
    ∃ k < 2, text = List.replicate k q := by
  match text with
  | [] => exact ⟨0, by omega, rfl⟩
  | [c] =>
    obtain rfl : q = c := by simpa using h
    exact ⟨1, by omega, rfl⟩
  | c :: d :: text =>
    obtain ⟨rfl, rfl⟩ : q = c ∧ q = d := by simpa using h
    have hrun' := longestRun_le_of_cons (longestRun_le_of_cons hrun)
    have := le_longestRun q 3 text
    simp at hrun'
    omega

/-- What follows three quotes are the further quotes before them. -/
lemma closeLines_replicate {q : Char} {k : Nat} (hk : k ≤ 2) {rest : List Char}
    (hrest : rest.head? ≠ some q) :
    closeLines q (List.replicate k q ++ rest) = (List.replicate k q, rest) := by
  have hrun : (List.replicate k q ++ rest).takeWhile (· == q) = List.replicate k q := by
    rw [List.takeWhile_append_of_pos (by simp +contextual)]
    cases rest with
    | nil => simp
    | cons c rest =>
      have hc : c ≠ q := by simpa using hrest
      simp [hc]
  simp [closeLines, hrun, hk]

section Quote

variable {q : Char} {read : List Char → Option (List Char × List Char)}
  (hread : ∀ s, read (q :: s) = if [q, q].isPrefixOf s then some (closeLines q (s.drop 2))
    else consRead q (read s))
  {rest : List Char} (hrest : rest.head? ≠ some q)

include hread hrest

/-- The end of a string on several lines. -/
lemma read_close {k : Nat} (hk : k ≤ 2) :
    read (List.replicate k q ++ [q, q, q] ++ rest) = some (List.replicate k q, rest) := by
  have hsplit : List.replicate k q ++ [q, q, q] ++ rest
      = q :: q :: q :: (List.replicate k q ++ rest) := by
    have hthree : [q, q, q] = List.replicate 3 q := rfl
    rw [hthree, List.replicate_append_replicate, Nat.add_comm, ← List.replicate_append_replicate]
    rfl
  rw [hsplit, hread, if_pos (by simp)]
  simpa using closeLines_replicate hk hrest

/-- **A quote in a string on several lines** is read as a quote, whether the string ends behind it or
goes on. -/
lemma read_quote {written text : List Char}
    (hclose : [q, q].isPrefixOf (written ++ [q, q, q] ++ rest) = true →
      ∃ k < 2, written = List.replicate k q)
    (h : read (written ++ [q, q, q] ++ rest) = some (text, rest)) :
    read (q :: written ++ [q, q, q] ++ rest) = some (q :: text, rest) := by
  by_cases hprefix : [q, q].isPrefixOf (written ++ [q, q, q] ++ rest) = true
  · obtain ⟨k, hk, rfl⟩ := hclose hprefix
    rw [read_close hread hrest (by omega)] at h
    cases h
    exact read_close hread hrest (k := k + 1) (by omega)
  · rw [List.cons_append, List.cons_append, hread, if_neg hprefix, h]
    rfl

end Quote

/-- A single quote ends the string with two others, and is part of it without. -/
lemma readLiteralLines_quote (s : List Char) :
    readLiteralLines ('\x27' :: s)
      = if ['\x27', '\x27'].isPrefixOf s then some (closeLines '\x27' (s.drop 2))
        else consRead '\x27' (readLiteralLines s) := by
  rw [readLiteralLines]
  rfl

/-- A character that needs no escape is read as it is. -/
lemma readLiteralLines_cons {c : Char} (hquote : c ≠ '\x27') (hc : needsEscape c = false)
    (rest : List Char) : readLiteralLines (c :: rest) = consRead c (readLiteralLines rest) := by
  rw [readLiteralLines]
  by_cases hline : c = '\n'
  · simp [hline]
  · have hplain : isPlain c = true := by simpa [needsEscape, hline] using hc
    simp [hquote, ne_lineEnd_of_isPlain hplain, hplain]

/-- **A string in three single quotes is read back** if it has no such run itself. -/
lemma readLiteralLines_append {text rest : List Char} {run : Nat}
    (hplain : ∀ c ∈ text, needsEscape c = false) (hrun : longestRun '\x27' run text ≤ 2)
    (hrest : rest.head? ≠ some '\x27') :
    readLiteralLines (text ++ ['\x27', '\x27', '\x27'] ++ rest) = some (text, rest) := by
  induction text generalizing run with
  | nil => exact read_close readLiteralLines_quote hrest (k := 0) (by omega)
  | cons c text ih =>
    have hrun' := longestRun_le_of_cons hrun
    have htext := ih (fun d hd => hplain d (by simp [hd])) hrun'
    by_cases hquote : c = '\x27'
    · subst hquote
      refine read_quote readLiteralLines_quote hrest (exists_of_isPrefixOf ?_) htext
      rw [if_pos rfl] at hrun'
      exact Nat.le_trans (longestRun_mono (by omega) text) hrun'
    · rw [List.cons_append, List.cons_append, readLiteralLines_cons hquote (hplain c (by simp)),
        htext]
      rfl

/-- An escaped character starts with a backslash. -/
lemma head?_escapeChar (c : Char) : (escapeChar c).head? = some '\\' := by
  unfold escapeChar
  split <;> rfl

/-- A written text starts with a quote only if the text does, and the quote is not escaped. -/
lemma of_head?_escapeText {limit run : Nat} {lines : Bool} {c : Char} {text s : List Char}
    (h : (escapeText limit lines run (c :: text) ++ s).head? = some '"') : c = '"' ∧ run < limit := by
  by_cases hquote : c = '"'
  · subst hquote
    refine ⟨rfl, ?_⟩
    by_contra hlimit
    simp [escapeText, hlimit, List.head?_append, head?_escapeChar] at h
  · rw [escapeText_cons_of_ne hquote, List.append_assoc, List.head?_append] at h
    split at h
    · simp [head?_escapeChar] at h
    · simp [hquote] at h

/-- Behind a quote, a written text starts with two quotes only where the string ends. -/
lemma exists_of_isPrefixOf_escapeText {lines : Bool} {run : Nat} (hrun : 0 < run)
    {text rest : List Char}
    (h : ['"', '"'].isPrefixOf (escapeText 2 lines run text ++ ['"', '"', '"'] ++ rest) = true) :
    ∃ k < 2, escapeText 2 lines run text = List.replicate k '"' := by
  rw [List.append_assoc] at h
  cases text with
  | nil => exact ⟨0, by omega, rfl⟩
  | cons c text =>
    obtain ⟨tail, htail⟩ := List.isPrefixOf_iff_prefix.1 h
    obtain ⟨rfl, hlimit⟩ := of_head?_escapeText (by rw [← htail]; rfl)
    obtain rfl : run = 1 := by omega
    cases text with
    | nil => exact ⟨1, by omega, rfl⟩
    | cons d text =>
      -- two quotes in a row have been written, so a third one is escaped
      have hnext : '"' :: tail = escapeText 2 lines 2 (d :: text) ++ (['"', '"', '"'] ++ rest) := by
        simpa [escapeText] using htail
      have := (of_head?_escapeText (by rw [← hnext]; rfl)).2
      omega

/-- A double quote ends the string with two others, and is part of it without. -/
lemma readBasicLines_quote (s : List Char) :
    readBasicLines ('"' :: s)
      = if ['"', '"'].isPrefixOf s then some (closeLines '"' (s.drop 2))
        else consRead '"' (readBasicLines s) := by
  rw [readBasicLines]
  rfl

/-- A line end is read as it is. -/
lemma readBasicLines_lineEnd (rest : List Char) :
    readBasicLines ('\n' :: rest) = consRead '\n' (readBasicLines rest) := by
  rw [readBasicLines]
  rfl

/-- A character that needs no escape is read as it is. -/
lemma readBasicLines_plain {c : Char} (hescaped : isEscaped c = false) (rest : List Char) :
    readBasicLines (c :: rest) = consRead c (readBasicLines rest) := by
  simp only [isEscaped, Bool.or_eq_false_iff, Bool.not_eq_false'] at hescaped
  obtain ⟨⟨⟨hquote, hslash⟩, -⟩, hplain⟩ := hescaped
  rw [readBasicLines]
  simp [hquote, hslash, ne_lineEnd_of_isPlain hplain, hplain]

/-- An escaped character is read back. -/
lemma readBasicLines_escapeChar {c : Char} (hescaped : isEscaped c = true) (rest : List Char) :
    readBasicLines (escapeChar c ++ rest) = consRead c (readBasicLines rest) := by
  obtain ⟨code, hcode, hread⟩ := exists_escapeChar hescaped
  rw [hcode, List.cons_append, readBasicLines]
  simp only [Char.reduceBEq, Bool.false_eq_true, if_false, if_true]
  split
  · rename_i heq
    cases (hread rest).2.symm.trans heq
  · split
    · rename_i heq
      cases (hread rest).1.symm.trans heq
      rfl
    · rename_i heq
      cases (hread rest).1.symm.trans heq

/-- **A string in three double quotes is read back.** -/
lemma readBasicLines_escapeText (text : List Char) {run : Nat} {rest : List Char}
    (hrest : rest.head? ≠ some '"') :
    readBasicLines (escapeText 2 true run text ++ ['"', '"', '"'] ++ rest) = some (text, rest) := by
  induction text generalizing run with
  | nil => exact read_close readBasicLines_quote hrest (k := 0) (by omega)
  | cons c text ih =>
    by_cases hquote : c = '"'
    · subst hquote
      rw [escapeText]
      by_cases hlimit : run < 2
      · simp only [beq_self_eq_true, if_true, hlimit]
        exact read_quote readBasicLines_quote hrest
          (exists_of_isPrefixOf_escapeText (Nat.succ_pos run)) ih
      · simp only [beq_self_eq_true, if_true, hlimit, if_false]
        rw [List.append_assoc, List.append_assoc, readBasicLines_escapeChar rfl,
          ← List.append_assoc, ih]
        rfl
    · rw [escapeText_cons_of_ne hquote, List.append_assoc, List.append_assoc]
      have htext : readBasicLines (escapeText 2 true 0 text ++ ['"', '"', '"'] ++ rest)
        = some (text, rest) := ih
      rw [List.append_assoc] at htext
      by_cases hline : c = '\n'
      · subst hline
        rw [if_neg (by decide), List.singleton_append, readBasicLines_lineEnd, htext]
        rfl
      · by_cases hescaped : isEscaped c = true
        · rw [if_pos (by simp [hescaped, hline]), readBasicLines_escapeChar hescaped, htext]
          rfl
        · rw [if_neg (by simp [hescaped]), List.singleton_append,
            readBasicLines_plain (by simpa using hescaped), htext]
          rfl

/-! ## Strings of any form -/

/-- **A string in single quotes is read back** if it has plain characters only. -/
lemma readLiteral_append {text rest : List Char}
    (hplain : ∀ c ∈ text, isPlain c = true ∧ c ≠ '\x27') :
    readLiteral (text ++ '\x27' :: rest) = some (text, rest) := by
  induction text with
  | nil => rfl
  | cons c text ih =>
    obtain ⟨hc, hquote⟩ := hplain c (by simp)
    rw [List.cons_append, readLiteral]
    simp only [beq_eq_false_iff_ne.2 hquote, Bool.false_eq_true, if_false, hc, if_true]
    rw [ih fun d hd => hplain d (by simp [hd])]
    rfl

/-- A character without a run does not occur. -/
lemma not_mem_of_longestRun {q : Char} {text : List Char} (h : longestRun q 0 text = 0) :
    q ∉ text := by
  induction text with
  | nil => simp
  | cons c text ih =>
    have hrun := longestRun_le_of_cons (Nat.le_of_eq h)
    by_cases hc : c = q
    · have := le_longestRun q 1 text
      simp [hc] at hrun
      omega
    · simp only [hc, if_false, Nat.le_zero] at hrun
      simp [Ne.symm hc, ih hrun]

/-- A text in single quotes has neither of these nor controls, and is not empty. -/
lemma of_style_literal {text : List Char} (h : style text = .literal) :
    (∀ c ∈ text, isPlain c = true ∧ c ≠ '\x27') ∧ text ≠ [] := by
  constructor
  · simp only [style] at h
    split_ifs at h with hbasic hliteral
    simp only [Bool.and_eq_true, Bool.not_eq_true', List.any_eq_false, beq_iff_eq] at hliteral
    obtain ⟨⟨hcontrol, hsingle⟩, hlines⟩ := hliteral
    intro c hc
    refine ⟨?_, ?_⟩
    · have hline : c ≠ '\n' := by
        rintro rfl
        simp [hc] at hlines
      simpa [needsEscape, hline] using hcontrol c hc
    · rintro rfl
      exact not_mem_of_longestRun hsingle hc
  · rintro rfl
    cases h

/-- A text in three single quotes has no controls but line ends, and at most two single quotes in a
row. -/
lemma of_style_literalLines {text : List Char} (h : style text = .literalLines) :
    (∀ c ∈ text, needsEscape c = false) ∧ longestRun '\x27' 0 text ≤ 2 := by
  simp only [style] at h
  split_ifs at h with _ _ _ hlines
  simp only [Bool.and_eq_true, Bool.not_eq_true', List.any_eq_false, decide_eq_true_eq] at hlines
  exact ⟨fun c hc => by simpa using hlines.1 c hc, hlines.2⟩

/-- The first line end of a string on several lines is the one that was put there. -/
lemma skipFirstLineEnd_firstLineEnd {text written : List Char}
    (h : '\n' ∉ text → written.head? ≠ some '\n' ∧ written.head? ≠ some '\r') :
    skipFirstLineEnd (firstLineEnd text ++ written) = written := by
  by_cases hline : '\n' ∈ text
  · simp [firstLineEnd, hline, skipFirstLineEnd, lineEnd?]
  · obtain ⟨hnewline, hreturn⟩ := h hline
    have hnone : lineEnd? written = none := by
      unfold lineEnd?
      split
      · simp at hnewline
      · simp at hreturn
      · rfl
    simp [firstLineEnd, hline, skipFirstLineEnd, hnone]

/-- One double quote starts a string on one line. -/
lemma readString_basic {s : List Char} (h : ['"', '"'].isPrefixOf s = false) :
    readString ('"' :: s) = readBasic s := by
  rw [readString]
  rintro rest rfl
  simp at h

/-- One single quote starts a literal string on one line. -/
lemma readString_literal {s : List Char} (h : ['\x27', '\x27'].isPrefixOf s = false) :
    readString ('\x27' :: s) = readLiteral s := by
  rw [readString]
  rintro rest rfl
  simp at h

/-- Three double quotes start a string on several lines. -/
lemma readString_basicLines (s : List Char) :
    readString (['"', '"', '"'] ++ s) = readBasicLines (skipFirstLineEnd s) := rfl

/-- Three single quotes start a literal string on several lines. -/
lemma readString_literalLines (s : List Char) :
    readString (['\x27', '\x27', '\x27'] ++ s) = readLiteralLines (skipFirstLineEnd s) := rfl

/-- A written text without line ends does not start with one. -/
lemma head?_escapeText_ne {text : List Char} (hline : '\n' ∉ text) (s : List Char) :
    (escapeText 2 true 0 text ++ (['"', '"', '"'] ++ s)).head? ≠ some '\n' ∧
      (escapeText 2 true 0 text ++ (['"', '"', '"'] ++ s)).head? ≠ some '\r' := by
  cases text with
  | nil => simp [escapeText]
  | cons c text =>
    obtain ⟨hc, -⟩ : '\n' ≠ c ∧ '\n' ∉ text := by simpa using hline
    by_cases hquote : c = '"'
    · simp [hquote, escapeText]
    · rw [escapeText_cons_of_ne hquote, List.append_assoc, List.head?_append]
      split
      · simp [head?_escapeChar]
      · rename_i hescaped
        have hplain : isPlain c = true := by
          simp [isEscaped, hc.symm] at hescaped
          exact hescaped.2
        simp [ne_lineEnd_of_isPlain hplain]

/-- **A text that is written as a string is read back.** What follows must not start with a quote.

**Proof sketch.** One case for each form. Where characters are escaped, every one of them is read back;
elsewhere the form is chosen so that no character has to be. In three quotes, at most two quotes in a
row stand for themselves, so three of them end the string, and those before them belong to it. -/
theorem readString_writeString (text : List Char) {rest : List Char}
    (hdouble : rest.head? ≠ some '"') (hsingle : rest.head? ≠ some '\x27') :
    readString (writeString text ++ rest) = some (text, rest) := by
  unfold writeString
  split
  case h_1 =>
    rw [List.append_assoc, List.cons_append, List.singleton_append, readString_basic,
      readBasic_escapeText]
    rw [Bool.eq_false_iff]
    intro h
    obtain ⟨tail, htail⟩ := List.isPrefixOf_iff_prefix.1 h
    cases text with
    | nil =>
      obtain rfl : '"' :: tail = rest := by simpa [escapeText] using htail
      exact hdouble rfl
    | cons c text =>
      have := (of_head?_escapeText (by rw [← htail]; rfl)).2
      omega
  case h_2 hstyle =>
    obtain ⟨hplain, hne⟩ := of_style_literal hstyle
    rw [List.append_assoc, List.cons_append, List.singleton_append, readString_literal,
      readLiteral_append hplain]
    obtain ⟨c, text, rfl⟩ := List.exists_cons_of_ne_nil hne
    have hc : ('\x27' == c) = false := beq_eq_false_iff_ne.2 (hplain c (by simp)).2.symm
    simp [List.isPrefixOf, hc]
  case h_3 =>
    rw [List.append_assoc, List.append_assoc, List.append_assoc, readString_basicLines,
      skipFirstLineEnd_firstLineEnd fun hline => head?_escapeText_ne hline _, ← List.append_assoc,
      readBasicLines_escapeText _ hdouble]
  case h_4 hstyle =>
    obtain ⟨hplain, hrun⟩ := of_style_literalLines hstyle
    rw [List.append_assoc, List.append_assoc, List.append_assoc, readString_literalLines,
      skipFirstLineEnd_firstLineEnd, ← List.append_assoc,
      readLiteralLines_append hplain hrun hsingle]
    intro hline
    cases text with
    | nil => simp
    | cons c text =>
      obtain ⟨hc, -⟩ : '\n' ≠ c ∧ '\n' ∉ text := by simpa using hline
      have hplain' : isPlain c = true := by
        simpa [needsEscape, hc.symm] using hplain c (by simp)
      simp [ne_lineEnd_of_isPlain hplain']

end DocComments.Toml
