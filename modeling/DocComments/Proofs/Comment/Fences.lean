import DocComments.Proofs.Comment.Commands
import Mathlib.Algebra.Group.Nat.Even
import Mathlib.Data.List.TakeWhile
import Mathlib.Data.Nat.Bits

set_option autoImplicit false

/-!
# Command lines and fenced code

A command line inside fenced code is code, so no blank line is put before it. Fenced code is opened by
a run of at least three backticks or tildes, and closed by a line with a run of the same character that
is at least as long, and with nothing else. Reading a raw comment keeps less than that in mind: every
line that starts with three backticks or tildes changes between code and text. So it goes wrong after a
line that starts in this way but neither opens nor closes fenced code, and is right again after the
next such line.

## Main definitions

* `Fence` — fenced code that is open.
* `Fence.opened?`, `Fence.closedBy`, `Fence.next` — how a line opens and closes it.
* `openFence?` — the fenced code that some lines leave open.
* `strayMarks` — the number of lines that only look like a fence.

## Main results

* `isFence_of_isSome_next_ne` — a line that opens or closes fenced code looks like a fence.
* `foldl_toggleFence` — how far the simple test is from the fences that are really open.
* `break_before_fenced_line` — when a blank line is put before a command line.
* `break_before_mixed_fences` — lines for which this goes wrong.
-/

namespace DocComments.Comment

/-! ## Fences -/

/-- Fenced code that is open, with the character and the length of the fence that opened it. -/
structure Fence where
  mark : Char
  size : Nat
  isMark : mark = '\x60' ∨ mark = '~'
  three_le : 3 ≤ size
  deriving DecidableEq

namespace Fence

/-- The fenced code that a line opens: it starts with at least three backticks, and no backtick
follows on the line, or with at least three tildes. -/
def opened? (content : List Char) : Option Fence :=
  match content.head? with
  | none => none
  | some mark =>
    let size := (content.takeWhile (· == mark)).length
    if h : (mark = '\x60' ∨ mark = '~') ∧ 3 ≤ size then
      if mark = '\x60' ∧ mark ∈ content.dropWhile (· == mark) then none
      else some ⟨mark, size, h.1, h.2⟩
    else none

/-- The line closes the fenced code: it has at least as many of the same character, and then only
blanks. -/
def closedBy (f : Fence) (content : List Char) : Bool :=
  f.size ≤ (content.takeWhile (· == f.mark)).length &&
    (content.dropWhile (· == f.mark)).all Text.isBlank

/-- The fenced code that is open after a line, given that before it. -/
def next (open? : Option Fence) (line : List Char) : Option Fence :=
  match open? with
  | none => opened? (stripDecoration line)
  | some f => if f.closedBy (stripDecoration line) then none else some f

/-- The line looks like a fence, but neither opens nor closes fenced code. -/
def isStray (open? : Option Fence) (line : List Char) : Bool :=
  isFence (stripDecoration line) && (next open? line).isSome == open?.isSome

/-- The number of lines that look like a fence, but neither open nor close fenced code. -/
def strays (open? : Option Fence) : List (List Char) → Nat
  | [] => 0
  | line :: rest => (isStray open? line).toNat + strays (next open? line) rest

end Fence

/-- The fenced code that some lines leave open. -/
def openFence? (lines : List (List Char)) : Option Fence :=
  lines.foldl Fence.next none

/-- The number of some lines that only look like a fence. -/
def strayMarks (lines : List (List Char)) : Nat :=
  Fence.strays none lines

/-! ## What looks like a fence -/

/-- A line that starts with a run of three marks looks like a fence. -/
lemma isFence_of_run {content : List Char} {mark : Char} (hmark : mark = '\x60' ∨ mark = '~')
    (h : 3 ≤ (content.takeWhile (· == mark)).length) : isFence content = true := by
  have hrun : content.takeWhile (· == mark)
      = List.replicate (content.takeWhile (· == mark)).length mark :=
    List.eq_replicate_iff.2 ⟨rfl, fun c hc => by simpa using List.mem_takeWhile_imp hc⟩
  have hthree : (List.replicate 3 mark).isPrefixOf content = true := by
    rw [List.isPrefixOf_iff_prefix]
    refine List.IsPrefix.trans ?_ (List.takeWhile_prefix (· == mark))
    rw [hrun]
    exact ⟨List.replicate ((content.takeWhile (· == mark)).length - 3) mark, by
      rw [List.replicate_append_replicate, Nat.add_sub_cancel' h]⟩
  rw [isFence, Bool.or_eq_true]
  rcases hmark with rfl | rfl
  · exact .inl hthree
  · exact .inr hthree

/-- **A line that opens or closes fenced code looks like a fence.** -/
lemma isFence_of_isSome_next_ne {open? : Option Fence} {line : List Char}
    (h : (Fence.next open? line).isSome ≠ open?.isSome) :
    isFence (stripDecoration line) = true := by
  cases open? with
  | none =>
    obtain ⟨f, hf⟩ : ∃ f, Fence.opened? (stripDecoration line) = some f :=
      Option.ne_none_iff_exists'.1 (by simpa [Fence.next] using h)
    unfold Fence.opened? at hf
    split at hf
    · cases hf
    · simp only at hf
      split at hf
      · rename_i hrun
        exact isFence_of_run hrun.1 hrun.2
      · cases hf
  | some f =>
    have hclosed : f.closedBy (stripDecoration line) = true := by
      by_contra hopen
      exact h (by simp [Fence.next, hopen])
    rw [Fence.closedBy, Bool.and_eq_true, decide_eq_true_eq] at hclosed
    exact isFence_of_run f.isMark (Nat.le_trans f.three_le hclosed.1)

/-- One line: the simple test goes along with the fences unless the line is a stray mark. -/
lemma toggleFence_eq (fenced : Bool) (open? : Option Fence) (line : List Char) :
    toggleFence fenced line
      = (fenced ^^ open?.isSome ^^ (Fence.next open? line).isSome ^^
        Fence.isStray open? line) := by
  unfold toggleFence Fence.isStray
  cases hfence : isFence (stripDecoration line) with
  | false =>
    have hsame : (Fence.next open? line).isSome = open?.isSome := by
      by_contra hne
      rw [isFence_of_isSome_next_ne hne] at hfence
      cases hfence
    rw [hsame]
    cases fenced <;> cases open?.isSome <;> rfl
  | true =>
    cases fenced <;> cases open?.isSome <;> cases (Fence.next open? line).isSome <;> rfl

/-- **How far the simple test is from the fences that are really open**: as many times as there are
stray marks.

**Proof sketch.** Induction over the lines. A line that opens or closes fenced code looks like a
fence, so it changes both; a stray mark changes the simple test only. -/
lemma foldl_toggleFence (fenced : Bool) (open? : Option Fence) (lines : List (List Char)) :
    lines.foldl toggleFence fenced
      = (fenced ^^ open?.isSome ^^ (lines.foldl Fence.next open?).isSome ^^
        (Fence.strays open? lines).bodd) := by
  induction lines generalizing fenced open? with
  | nil => cases fenced <;> cases open? <;> simp [Fence.strays]
  | cons line rest ih =>
    have hstray : (Fence.isStray open? line).toNat.bodd = Fence.isStray open? line := by
      cases Fence.isStray open? line <;> rfl
    rw [List.foldl_cons, List.foldl_cons, ih _ (Fence.next open? line), toggleFence_eq fenced open?,
      Fence.strays, Nat.bodd_add, hstray]
    -- what is open after the first line cancels out
    cases (Fence.next open? line).isSome <;> simp [Bool.xor_left_comm]

/-- The simple test is right after an even number of stray marks, and only then. -/
lemma fencedAfter_eq_iff (lines : List (List Char)) :
    fencedAfter lines = (openFence? lines).isSome ↔ Even (strayMarks lines) := by
  have hrun : fencedAfter lines = ((openFence? lines).isSome ^^ (strayMarks lines).bodd) := by
    have := foldl_toggleFence false none lines
    rwa [Option.isSome_none, Bool.xor_false, Bool.false_xor] at this
  rw [hrun, Nat.even_iff, Nat.mod_two_of_bodd]
  cases (strayMarks lines).bodd <;> cases (openFence? lines).isSome <;> simp

/-! ## Command lines -/

/-- What is handed on for a command line depends on whether it is taken for code. -/
lemma linePieces_of_startsCommand {settings : Settings}
    (himplicit : settings.implicitParagraph = false) {index : Nat} (hindex : 0 < index)
    {line : List Char} (hcommand : startsCommand settings (stripDecoration line) = true)
    (fenced last : Bool) :
    linePieces settings index fenced line last
      = if fenced then [ownPiece index line last]
        else [Piece.blank (index + 1), ownPiece index line last] := by
  cases fenced with
  | true => simp [linePieces, needsBreak, himplicit]
  | false => simp [linePieces_eq himplicit hindex, hcommand]

/-- **When a blank line is put before a command line.** Take a command line of a raw comment that is
not the first line, where lines are not paragraphs by themselves. What is handed on for it is the
stripped line, possibly with a blank line before it, behind what is handed on for the lines before it.
That there is a blank line exactly if the command line is not inside fenced code holds if the number
of stray marks before it is even, and only then: lines that start with three backticks or tildes, but
neither open nor close fenced code.

**Proof sketch.** The pieces are those of the lines before, those of the line, and those of the lines
after it. Whether there is a blank line depends on the simple test, which is right after an even
number of stray marks. -/
theorem break_before_fenced_line (settings : Settings) (raw : List Char)
    (himplicit : settings.implicitParagraph = false) {k : Nat} (hk : 0 < k) {line : List Char}
    (hline : (Text.splitAt '\n' raw)[k]? = some line)
    (hcommand : startsCommand settings (stripDecoration line) = true) :
    let before := (Text.splitAt '\n' raw).take k
    let own := ownPiece k line (k + 1 == (Text.splitAt '\n' raw).length)
    let broken := [Piece.blank (k + 1), own]
    ∃ front fed back, pieces settings raw = front ++ fed ++ back ∧
      (∀ p ∈ front, p.line ≤ k) ∧ (∀ p ∈ fed, p.line = k + 1) ∧ (∀ p ∈ back, k + 1 < p.line) ∧
      (fed = broken ∨ fed = [own]) ∧
      ((fed = broken ↔ openFence? before = none) ↔ Even (strayMarks before)) := by
  intro before own broken
  obtain ⟨front, back, heq, hfront, hback⟩ := exists_piecesFrom_eq settings 0 false hline
  rw [Nat.zero_add] at heq hfront hback
  have hfed : linePieces settings k (fencedAfter before) line
      (k + 1 == (Text.splitAt '\n' raw).length)
      = if fencedAfter before then [own] else broken :=
    linePieces_of_startsCommand himplicit hk hcommand _ _
  refine ⟨front, _, back, heq, hfront, fun p hp => line_of_mem_linePieces hp, hback, ?_, ?_⟩
  · change linePieces settings k (fencedAfter before) line _ = _ ∨
      linePieces settings k (fencedAfter before) line _ = _
    rw [hfed]
    cases fencedAfter before with
    | true => exact .inr rfl
    | false => exact .inl rfl
  · change (linePieces settings k (fencedAfter before) line _ = _ ↔ _) ↔ _
    rw [hfed, ← fencedAfter_eq_iff]
    cases fencedAfter before <;> cases openFence? before <;> simp [broken]

/-- A command line between two fences is code, and gets no blank line. -/
theorem break_before_fenced_line_code :
    let raw := "~~~\n\\effects y\n~~~".toList
    let line := "\\effects y".toList
    (Text.splitAt '\n' raw)[1]? = some line ∧ startsCommand {} line = true ∧
    (openFence? ((Text.splitAt '\n' raw).take 1)).isSome = true ∧
    ∃ front back, pieces {} raw = front ++ [ownPiece 1 line false] ++ back := by
  intro raw line
  have hline : (Text.splitAt '\n' raw)[1]? = some line := by decide
  have hcommand : startsCommand {} line = true := by decide
  have hopen : (openFence? ((Text.splitAt '\n' raw).take 1)).isSome = true := by decide
  obtain ⟨front, fed, back, heq, -, -, -, hfed | hfed, hbreak⟩ :=
    break_before_fenced_line {} raw rfl Nat.one_pos hline hcommand
  · have hnone := (hbreak.2 (by decide)).1 hfed
    rw [hnone] at hopen
    cases hopen
  · rw [hfed] at heq
    exact ⟨hline, hcommand, hopen, front, back, heq⟩

/-- **Where the simple test goes wrong.** A command line inside fenced code gets a blank line, which
becomes part of the code, if the code has a line with another mark or with fewer of the same mark. A
command line outside fenced code gets none after a line that starts with a code span. -/
theorem break_before_mixed_fences :
    (pieces {} "~~~\n```\n\\effects y\n~~~".toList
        = [⟨"~~~\n".toList, 1, 0⟩, ⟨"```\n".toList, 2, 0⟩, Piece.blank 3,
          ⟨"\\effects y\n".toList, 3, 0⟩, ⟨"~~~".toList, 4, 0⟩] ∧
      (openFence? ["~~~".toList, "```".toList]).isSome = true) ∧
    (pieces {} "````\n```\n\\effects y\n````".toList
        = [⟨"````\n".toList, 1, 0⟩, ⟨"```\n".toList, 2, 0⟩, Piece.blank 3,
          ⟨"\\effects y\n".toList, 3, 0⟩, ⟨"````".toList, 4, 0⟩] ∧
      (openFence? ["````".toList, "```".toList]).isSome = true) ∧
    (pieces {} "```x``` y\n\\effects z".toList
        = [⟨"```x``` y\n".toList, 1, 0⟩, ⟨"\\effects z".toList, 2, 0⟩] ∧
      openFence? ["```x``` y".toList] = none) := by
  decide

end DocComments.Comment
