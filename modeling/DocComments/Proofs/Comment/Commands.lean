import DocComments.Comment.Classify
import DocComments.Proofs.Text.Words
import Mathlib.Data.List.TakeDrop

set_option autoImplicit false

/-!
# Lines that open with a command

Two passes look for command words. When a raw comment is read, a line that opens with one is cut off
from the line before it; when the paragraphs get their roles, a paragraph that opens with one gets its
role by it. The passes do not read the word in the same way. For the roles it is what stands between
the command character and the first white space. For the lines it is the first word after the command
character, wherever that starts, and it has to start with an ASCII letter. So they disagree about a
line in two cases: if white space separates a known word from the command character, the line is cut
off although it opens with no command, and if a known word does not start with an ASCII letter, the
line is not cut off although it opens with a command.

## Main definitions

* `opensCommand` — a paragraph with this text at its start is recognised by a command.
* `detachesCommand`, `opensUnlettered` — the two cases in which the passes disagree.
* `fencedAfter` — whether some lines leave fenced code open.
* `linePieces` — what is handed on for one raw line.

## Main results

* `leadingCommand?_of_text` — `opensCommand` is what the roles go by.
* `startsCommand_eq` — what the lines go by instead.
* `exists_piecesFrom_eq` — where the pieces of a raw line stand.
* `break_before_line` — when a line is cut off, and when both passes agree about it.
* `break_before_disagrees` — a line for each of the two cases.
-/

namespace DocComments

/-! ## Words -/

namespace Text

/-- What stands before the first white space. -/
def leadingRun (text : List Char) : List Char :=
  text.takeWhile fun c => !isSpace c

/-- The word that is split off a text is all it has in front of white space. -/
lemma splitWord_fst (text : List Char) : (splitWord text).1 = leadingRun text := by
  rw [splitWord, List.span_eq_takeWhile_dropWhile]
  rfl

/-- The first word is what a text has in front of white space, once it is trimmed. -/
lemma firstWord_eq (text : List Char) : firstWord text = leadingRun (trimStart text) :=
  splitWord_fst _

/-- A text that starts with white space has no word in front. -/
lemma leadingRun_of_space {text : List Char} (h : text.head?.any isSpace = true) :
    leadingRun text = [] := by
  cases text with
  | nil => rfl
  | cons c rest =>
    have hc : isSpace c = true := h
    simp [leadingRun, hc]

end Text

namespace Comment

/-! ## Command words -/

/-- The word selects a role. -/
def isKnown (settings : Settings) (word : List Char) : Bool :=
  settings.sectionFor (String.ofList word) != .invalid

/-- The word starts with an ASCII letter. -/
def isLettered (word : List Char) : Bool :=
  word.head?.any Text.isAsciiLetter

/-- What follows the command character, in a text that starts with it. -/
def afterMark? (settings : Settings) : List Char → Option (List Char)
  | [] => none
  | mark :: rest => if mark = settings.commandCharacter then some rest else none

/-- The text starts with the command character and, right behind it, a known word. -/
def opensCommand (settings : Settings) (content : List Char) : Bool :=
  (afterMark? settings content).any fun rest => isKnown settings (Text.leadingRun rest)

/-- The text starts with the command character and, right behind it, a known word that does not start
with an ASCII letter. -/
def opensUnlettered (settings : Settings) (content : List Char) : Bool :=
  (afterMark? settings content).any fun rest =>
    isKnown settings (Text.leadingRun rest) && !isLettered (Text.leadingRun rest)

/-- The text starts with the command character, white space, and then a known word that starts with an
ASCII letter. -/
def detachesCommand (settings : Settings) (content : List Char) : Bool :=
  (afterMark? settings content).any fun rest =>
    rest.head?.any Text.isSpace &&
      isKnown settings (Text.leadingRun (Text.trimStart rest)) &&
      isLettered (Text.leadingRun (Text.trimStart rest))

/-- No role is selected by nothing. -/
lemma isKnown_nil (settings : Settings) : isKnown settings [] = false := rfl

/-- **What the roles go by.** A paragraph whose first child is a text opens with a known command
exactly if the text does. -/
lemma leadingCommand?_of_text {settings : Settings} {c : Comment} {paragraph first : Nat}
    {others : List Nat} {content : List Char} (hchildren : c.children paragraph = first :: others)
    (hfirst : c.node? first = some (.text content)) :
    (∃ word tail, Classifier.leadingCommand? settings c paragraph = some (first, word, tail) ∧
      settings.sectionFor (String.ofList word) ≠ .invalid) ↔ opensCommand settings content := by
  unfold Classifier.leadingCommand? opensCommand
  simp only [hchildren, hfirst]
  cases content with
  | nil => simp [afterMark?]
  | cons mark rest =>
    by_cases hmark : mark = settings.commandCharacter
    · simp [afterMark?, hmark, isKnown, Text.splitWord_fst]
    · simp [afterMark?, hmark]

/-- **What the lines go by.** A line is cut off if it opens with a known command whose word starts
with an ASCII letter, or if white space separates such a word from the command character. -/
lemma startsCommand_eq (settings : Settings) (content : List Char) :
    startsCommand settings content
      = (opensCommand settings content && !opensUnlettered settings content ||
        detachesCommand settings content) := by
  have hafter : startsCommand settings content
      = (afterMark? settings content).any fun rest =>
          isLettered (Text.firstWord rest) && isKnown settings (Text.firstWord rest) := by
    cases content with
    | nil => rfl
    | cons mark rest =>
      by_cases hmark : mark = settings.commandCharacter
      · simp [startsCommand, afterMark?, hmark, isLettered, isKnown]
      · simp [startsCommand, afterMark?, hmark]
  rw [hafter, opensCommand, opensUnlettered, detachesCommand]
  cases afterMark? settings content with
  | none => rfl
  | some rest =>
    simp only [Option.any_some, Text.firstWord_eq]
    -- with white space behind the command character there is no word right behind it
    cases hspace : rest.head?.any Text.isSpace with
    | true =>
      rw [Text.leadingRun_of_space hspace, isKnown_nil]
      simp [Bool.and_comm]
    | false =>
      rw [Text.trimStart_of_not_space hspace]
      cases isLettered (Text.leadingRun rest) with
      | true => simp
      | false => simp

/-- A word that is detached from the command character does not stand right behind it. -/
lemma opensCommand_eq_false_of_detachesCommand {settings : Settings} {content : List Char}
    (h : detachesCommand settings content = true) : opensCommand settings content = false := by
  unfold detachesCommand at h
  unfold opensCommand
  cases hrest : afterMark? settings content with
  | none => rfl
  | some rest =>
    rw [hrest, Option.any_some, Bool.and_eq_true, Bool.and_eq_true] at h
    rw [Option.any_some, Text.leadingRun_of_space h.1.1, isKnown_nil]

/-- An unlettered command is a command. -/
lemma opensCommand_of_opensUnlettered {settings : Settings} {content : List Char}
    (h : opensUnlettered settings content = true) : opensCommand settings content = true := by
  unfold opensUnlettered at h
  unfold opensCommand
  cases hrest : afterMark? settings content with
  | none =>
    rw [hrest] at h
    cases h
  | some rest =>
    rw [hrest, Option.any_some, Bool.and_eq_true] at h
    exact h.1

/-- **When the passes agree**: outside the two cases, and nowhere else. -/
lemma startsCommand_eq_opensCommand_iff {settings : Settings} {content : List Char} :
    startsCommand settings content = opensCommand settings content ↔
      detachesCommand settings content = false ∧ opensUnlettered settings content = false := by
  rw [startsCommand_eq]
  cases hdetached : detachesCommand settings content with
  | true => simp [opensCommand_eq_false_of_detachesCommand hdetached]
  | false =>
    cases hunlettered : opensUnlettered settings content with
    | true => simp [opensCommand_of_opensUnlettered hunlettered]
    | false => simp

/-! ## The pieces of one raw line -/

/-- Whether fenced code is open after a line, given whether it is before. -/
def toggleFence (fenced : Bool) (line : List Char) : Bool :=
  if isFence (stripDecoration line) then !fenced else fenced

/-- Whether some lines leave fenced code open. -/
def fencedAfter (lines : List (List Char)) : Bool :=
  lines.foldl toggleFence false

/-- The piece of a raw line itself. -/
def ownPiece (index : Nat) (line : List Char) (last : Bool) : Piece :=
  { text := if last then stripDecoration line else stripDecoration line ++ ['\n'],
    line := index + 1, skipped := decorationLength line }

/-- What is handed on for a raw line. -/
def linePieces (settings : Settings) (index : Nat) (fenced : Bool) (line : List Char)
    (last : Bool) : List Piece :=
  (if needsBreak settings index fenced (stripDecoration line) then [Piece.blank (index + 1)]
    else []) ++ ownPiece index line last ::
    if settings.implicitParagraph && !last then [Piece.blank (index + 1)] else []

/-- The pieces of a line, followed by those of the lines behind it. -/
lemma piecesFrom_cons (settings : Settings) (index : Nat) (fenced : Bool) (line : List Char)
    (rest : List (List Char)) :
    piecesFrom settings index fenced (line :: rest)
      = linePieces settings index fenced line rest.isEmpty ++
        piecesFrom settings (index + 1) (toggleFence fenced line) rest := rfl

/-- The pieces of a line come from that line. -/
lemma line_of_mem_linePieces {settings : Settings} {index : Nat} {fenced : Bool}
    {line : List Char} {last : Bool} {p : Piece}
    (h : p ∈ linePieces settings index fenced line last) : p.line = index + 1 := by
  simp only [linePieces, List.mem_append, List.mem_cons] at h
  rcases h with h | rfl | h
  · split at h
    · rw [List.mem_singleton.1 h]
      rfl
    · cases h
  · rfl
  · split at h
    · rw [List.mem_singleton.1 h]
      rfl
    · cases h

/-- The pieces from an index on come from the lines from there on. -/
lemma lt_line_of_mem_piecesFrom {settings : Settings} {index : Nat} {fenced : Bool}
    {lines : List (List Char)} {p : Piece} (h : p ∈ piecesFrom settings index fenced lines) :
    index < p.line := by
  induction lines generalizing index fenced with
  | nil => cases h
  | cons line rest ih =>
    rw [piecesFrom_cons, List.mem_append] at h
    rcases h with h | h
    · have := line_of_mem_linePieces h
      omega
    · have := ih h
      omega

/-- **Where the pieces of a raw line stand**: behind those of the lines before it, and before those
of the lines after it. -/
lemma exists_piecesFrom_eq (settings : Settings) (index : Nat) (fenced : Bool)
    {lines : List (List Char)} {k : Nat} {line : List Char} (h : lines[k]? = some line) :
    ∃ front back, piecesFrom settings index fenced lines
        = front ++ linePieces settings (index + k) ((lines.take k).foldl toggleFence fenced) line
          (k + 1 == lines.length) ++ back ∧
      (∀ p ∈ front, p.line ≤ index + k) ∧ (∀ p ∈ back, index + k + 1 < p.line) := by
  induction lines generalizing index fenced k with
  | nil => cases h
  | cons l rest ih =>
    cases k with
    | zero =>
      obtain rfl : l = line := by simpa using h
      refine ⟨[], piecesFrom settings (index + 1) (toggleFence fenced l) rest, ?_, by simp,
        fun p hp => lt_line_of_mem_piecesFrom hp⟩
      rw [piecesFrom_cons]
      cases rest with
      | nil => rfl
      | cons next more => rfl
    | succ k =>
      obtain ⟨front, back, heq, hfront, hback⟩ := ih (index + 1) (toggleFence fenced l)
        (by simpa using h)
      refine ⟨linePieces settings index fenced l rest.isEmpty ++ front, back, ?_, ?_, ?_⟩
      · rw [piecesFrom_cons, heq, List.take_succ_cons, List.foldl_cons, List.length_cons,
          Nat.add_right_comm index 1 k, Nat.add_assoc index k 1]
        simp
      · intro p hp
        rcases List.mem_append.1 hp with hp | hp
        · have := line_of_mem_linePieces hp
          omega
        · have := hfront p hp
          omega
      · intro p hp
        have := hback p hp
        omega

/-- Where lines are not paragraphs by themselves, a line outside fenced code may get a blank line
before it, and nothing else. -/
lemma linePieces_eq {settings : Settings} (himplicit : settings.implicitParagraph = false)
    {index : Nat} (hindex : 0 < index) (line : List Char) (last : Bool) :
    linePieces settings index false line last
      = if startsCommand settings (stripDecoration line) then
          [Piece.blank (index + 1), ownPiece index line last]
        else [ownPiece index line last] := by
  simp only [linePieces, needsBreak, himplicit, hindex, decide_true, Bool.not_false,
    Bool.true_and, Bool.false_and, Bool.false_eq_true, if_false]
  split
  · rfl
  · rfl

/-! ## Agreement -/

/-- **When a line is cut off, and when both passes agree about it.** Take a line of a raw comment
that is neither the first one nor inside fenced code, where lines are not paragraphs by themselves.
What is handed on for it is the stripped line, possibly with a blank line before it, behind what is
handed on for the lines before it. The blank line is there exactly if the stripped line opens with a
known command whose word starts with an ASCII letter, or separates such a word from the command
character by white space. So whether there is a blank line tells whether the line opens with a known
command, unless the line separates a known word from the command character or opens with one that
does not start with an ASCII letter; in these cases it tells the opposite. To open with a known
command means that a paragraph which starts with the stripped line is recognised by it.

**Proof sketch.** The pieces are those of the lines before, those of the line, and those of the lines
after it. Of the conditions for a blank line all but `startsCommand` are given, and `startsCommand`
and `opensCommand` differ in the two cases only. -/
theorem break_before_line (settings : Settings) (raw : List Char)
    (himplicit : settings.implicitParagraph = false) {k : Nat} (hk : 0 < k) {line : List Char}
    (hline : (Text.splitAt '\n' raw)[k]? = some line)
    (hfence : fencedAfter ((Text.splitAt '\n' raw).take k) = false) :
    let content := stripDecoration line
    let own := ownPiece k line (k + 1 == (Text.splitAt '\n' raw).length)
    let broken := [Piece.blank (k + 1), own]
    (∃ front fed back, pieces settings raw = front ++ fed ++ back ∧
      (∀ p ∈ front, p.line ≤ k) ∧ (∀ p ∈ fed, p.line = k + 1) ∧ (∀ p ∈ back, k + 1 < p.line) ∧
      (fed = broken ∨ fed = [own]) ∧
      (fed = broken ↔ opensCommand settings content = true ∧
          opensUnlettered settings content = false ∨ detachesCommand settings content = true) ∧
      ((fed = broken ↔ opensCommand settings content = true) ↔
        detachesCommand settings content = false ∧ opensUnlettered settings content = false)) ∧
    ∀ (c : Comment) (paragraph first : Nat) (others : List Nat),
      c.children paragraph = first :: others → c.node? first = some (.text content) →
      ((∃ word tail, Classifier.leadingCommand? settings c paragraph = some (first, word, tail) ∧
        settings.sectionFor (String.ofList word) ≠ .invalid) ↔
        opensCommand settings content = true) := by
  intro content own broken
  refine ⟨?_, fun c paragraph first others hchildren hfirst =>
    leadingCommand?_of_text hchildren hfirst⟩
  obtain ⟨front, back, heq, hfront, hback⟩ := exists_piecesFrom_eq settings 0 false hline
  rw [Nat.zero_add] at heq hfront hback
  have hopen : ((Text.splitAt '\n' raw).take k).foldl toggleFence false = false := hfence
  have hpieces := linePieces_eq himplicit hk line (k + 1 == (Text.splitAt '\n' raw).length)
  have hbroken : linePieces settings k false line (k + 1 == (Text.splitAt '\n' raw).length) = broken ↔
      startsCommand settings content = true := by
    rw [hpieces]
    cases startsCommand settings content with
    | true => simp [broken, own]
    | false => simp [broken, own]
  rw [hopen] at heq
  refine ⟨front, _, back, heq, hfront, fun p hp => line_of_mem_linePieces hp, hback, ?_, ?_, ?_⟩
  · rw [hpieces]
    split
    · exact .inl rfl
    · exact .inr rfl
  · rw [hbroken, startsCommand_eq]
    simp
  · rw [hbroken, ← startsCommand_eq_opensCommand_iff, ← Bool.eq_iff_iff]

/-- A second line that opens with a command is cut off, and a paragraph that starts with it is
recognised. -/
theorem break_before_line_effects :
    let raw := "x\n\\effects y".toList
    let line := "\\effects y".toList
    let c := (Comment.empty.push 0 ⟨.paragraph .details "", ⟨1, 1⟩⟩).push 1 ⟨.text line, ⟨1, 1⟩⟩
    (Text.splitAt '\n' raw)[1]? = some line ∧
    fencedAfter ((Text.splitAt '\n' raw).take 1) = false ∧
    c.children 1 = [2] ∧ c.node? 2 = some (.text line) ∧
    (∃ front back, pieces {} raw = front ++ [Piece.blank 2, ownPiece 1 line true] ++ back) ∧
    ∃ word tail, Classifier.leadingCommand? {} c 1 = some (2, word, tail) ∧
      Settings.sectionFor {} (String.ofList word) ≠ .invalid := by
  intro raw line c
  have hline : (Text.splitAt '\n' raw)[1]? = some line := by decide
  have hfence : fencedAfter ((Text.splitAt '\n' raw).take 1) = false := by decide
  have hchildren : c.children 1 = [2] := by decide
  have hfirst : c.node? 2 = some (.text line) := by decide
  have hopens : opensCommand {} line = true := by decide
  obtain ⟨⟨front, fed, back, heq, -, -, -, -, hfed, -⟩, hleading⟩ :=
    break_before_line {} raw rfl Nat.one_pos hline hfence
  rw [hfed.2 (.inl ⟨hopens, by decide⟩)] at heq
  exact ⟨hline, hfence, hchildren, hfirst, ⟨front, back, heq⟩,
    (hleading c 1 2 [] hchildren hfirst).2 hopens⟩

/-- **The passes disagree.** With white space behind the command character, a line is cut off but
opens with no command. With a command word whose first letter is no ASCII letter, a line opens with a
command but is not cut off. -/
theorem break_before_disagrees :
    (pieces {} "x\n\\ effects y".toList
        = [⟨"x\n".toList, 1, 0⟩, Piece.blank 2, ⟨"\\ effects y".toList, 2, 0⟩] ∧
      opensCommand {} "\\ effects y".toList = false) ∧
    (pieces { outputSections := ["Überblick"] } "x\n\\Überblick y".toList
        = [⟨"x\n".toList, 1, 0⟩, ⟨"\\Überblick y".toList, 2, 0⟩] ∧
      opensCommand { outputSections := ["Überblick"] } "\\Überblick y".toList = true) := by
  decide

end Comment

end DocComments
