import DocComments.Proofs.Comment.Commands
import DocComments.Settings.File

set_option autoImplicit false

/-!
# Command characters and decoration

The settings say which character introduces a command, and letters, digits and white space are refused
when settings are loaded. The decoration of a line is taken off before commands are looked for. The two
meet in one character: the slash is not refused, and it is decoration. Every other command character that
is not refused is found behind every decoration. A slash is found only if slashes and blanks stand before
it. Otherwise it is one of the slashes of the decoration and is taken off with them, and no line opens
with a command then.

## Main definitions

* `decorate` — a line with decoration.

## Main results

* `stripDecoration_decorate` — decoration in front of a character that belongs to none is taken off.
* `stripDecoration_slash` — when a slash is taken off with the decoration.
* `startsCommand_decorate` — when a command is found behind decoration.
* `startsCommand_decorate_slash` — a command that is not found.
-/

namespace DocComments

/-- The command character of settings that were loaded is no letter, no digit and no white space. -/
lemma Settings.isReserved_of_load {stored : Stored} {settings : Settings}
    (h : load stored = .ok (some settings)) : isReserved settings.commandCharacter = false := by
  cases stored with
  | nothing => cases h
  | directory => cases h
  | file content =>
    rw [load] at h
    split at h
    · cases h
    rename_i text _
    rw [ofText] at h
    split at h
    · cases h
    rename_i found _
    rw [check] at h
    split at h
    · cases h
    rename_i hreserved
    obtain rfl : found = settings := by
      simpa [Except.map] using h
    simpa using hreserved

/-- Settings that were loaded, from a check of what was loaded. -/
lemma Settings.exists_of_load (stored : Stored) {p : Settings → Bool}
    (h : (load stored).toOption.join.any p = true) :
    ∃ settings, load stored = .ok (some settings) ∧ p settings = true := by
  obtain ⟨settings, hsettings, hp⟩ := (Option.any_eq_true _ _).1 h
  refine ⟨settings, ?_, hp⟩
  cases hload : load stored with
  | error e =>
    rw [hload] at hsettings
    cases hsettings
  | ok found =>
    rw [hload] at hsettings
    exact congrArg Except.ok hsettings

namespace Comment

/-! ## Lines with decoration -/

/-- A line with decoration: blanks, slashes and blanks before its content. -/
def decorate (blanks : List Char) (slashes : Nat) (gap content : List Char) : List Char :=
  blanks ++ (List.replicate slashes decoration ++ (gap ++ content))

/-- A carriage return is taken off the end of what is not empty. -/
lemma stripReturn_append {content : List Char} (hne : content ≠ []) (front : List Char) :
    stripReturn (front ++ content) = front ++ stripReturn content := by
  rw [stripReturn, stripReturn, List.getLast?_append, List.getLast?_eq_some_getLast hne,
    Option.some_or, List.dropLast_append_of_ne_nil hne]
  split
  · rfl
  · rfl

/-- A carriage return is taken off behind a character that is none. -/
lemma stripReturn_cons {c : Char} (hc : c ≠ '\r') (content : List Char) :
    stripReturn (c :: content) = c :: stripReturn content := by
  cases content with
  | nil => simp [stripReturn, hc]
  | cons d content => exact stripReturn_append (List.cons_ne_nil d content) [c]

/-- A carriage return is taken off the content of a line with decoration. -/
lemma stripReturn_decorate {content : List Char} (hne : content ≠ []) (blanks : List Char)
    (slashes : Nat) (gap : List Char) :
    stripReturn (decorate blanks slashes gap content)
      = decorate blanks slashes gap (stripReturn content) := by
  rw [decorate, decorate, ← List.append_assoc, ← List.append_assoc, stripReturn_append hne,
    List.append_assoc, List.append_assoc]

section Decorated

variable {blanks gap : List Char} (hblanks : ∀ c ∈ blanks, Text.isBlank c = true)
  (hgap : ∀ c ∈ gap, Text.isBlank c = true)

include hblanks hgap

/-- Slashes end at the blanks behind them, or at a character that is no slash. -/
lemma stripDecoration_slashes (n : Nat) {c : Char} (hblank : Text.isBlank c = false)
    (hend : c = decoration → gap ≠ []) (hreturn : c ≠ '\r') (content : List Char) :
    stripDecoration (decorate blanks (n + 1) gap (c :: content)) = c :: stripReturn content := by
  have hrun : ∀ d ∈ List.replicate (n + 1) decoration, (d == decoration) = true := fun d hd => by
    simp [(List.mem_replicate.1 hd).2]
  have hstays : (gap ++ c :: stripReturn content).dropWhile (· == decoration)
      = gap ++ c :: stripReturn content := by
    cases gap with
    | nil =>
      have hslash : c ≠ decoration := fun hc => hend hc rfl
      simp [hslash]
    | cons d gap =>
      have hd : d ≠ decoration := by
        rintro rfl
        exact absurd (hgap _ List.mem_cons_self) (by decide)
      simp [hd]
  rw [stripDecoration, stripReturn_decorate (List.cons_ne_nil c content), stripReturn_cons hreturn,
    decorate, List.dropWhile_append_of_pos hblanks, List.replicate_succ, List.cons_append,
    List.dropWhile_cons_of_neg (by decide), List.head?_cons, if_pos (by simp), ← List.cons_append,
    ← List.replicate_succ, List.dropWhile_append_of_pos hrun, hstays,
    List.dropWhile_append_of_pos hgap, List.dropWhile_cons_of_neg (by simp [hblank])]

/-- **Decoration in front of a character that belongs to none is taken off**, and nothing else. -/
lemma stripDecoration_decorate (slashes : Nat) {c : Char} (hblank : Text.isBlank c = false)
    (hslash : c ≠ decoration) (hreturn : c ≠ '\r') (content : List Char) :
    stripDecoration (decorate blanks slashes gap (c :: content)) = c :: stripReturn content := by
  cases slashes with
  | zero =>
    rw [stripDecoration, stripReturn_decorate (List.cons_ne_nil c content), stripReturn_cons hreturn,
      decorate, List.dropWhile_append_of_pos hblanks, List.replicate_zero, List.nil_append,
      List.dropWhile_append_of_pos hgap, List.dropWhile_cons_of_neg (by simp [hblank])]
    simp [hslash]
  | succ n =>
    exact stripDecoration_slashes hblanks hgap n hblank (fun hc => absurd hc hslash) hreturn content

/-- **When a slash is taken off with the decoration**: unless slashes and blanks stand before it. -/
lemma stripDecoration_slash (slashes : Nat) {c : Char} (hblank : Text.isBlank c = false)
    (hslash : c ≠ decoration) (hreturn : c ≠ '\r') (content : List Char) :
    stripDecoration (decorate blanks slashes gap (decoration :: c :: content))
      = (if 0 < slashes ∧ gap ≠ [] then [decoration] else []) ++ c :: stripReturn content := by
  by_cases hinner : 0 < slashes ∧ gap ≠ []
  · -- the slashes end at the blanks, and the blanks end at the slash
    obtain ⟨n, rfl⟩ : ∃ n, slashes = n + 1 := ⟨slashes - 1, by omega⟩
    rw [if_pos hinner, stripDecoration_slashes hblanks hgap n (by decide) (fun _ => hinner.2)
      (by decide), stripReturn_cons hreturn, List.singleton_append]
  · -- the slash is the last one of the decoration
    have hline : decorate blanks slashes gap (decoration :: c :: content)
        = decorate (blanks ++ if slashes = 0 then gap else []) (slashes + 1) [] (c :: content) := by
      rcases Nat.eq_zero_or_pos slashes with rfl | hpos
      · simp [decorate]
      · obtain rfl : gap = [] := by
          by_contra hne
          exact hinner ⟨hpos, hne⟩
        simp [decorate, List.replicate_succ', List.append_assoc]
    have hblanks' : ∀ d ∈ blanks ++ (if slashes = 0 then gap else []), Text.isBlank d = true := by
      intro d hd
      rcases List.mem_append.1 hd with hd | hd
      · exact hblanks d hd
      · split at hd
        · exact hgap d hd
        · cases hd
    rw [if_neg hinner, List.nil_append, hline,
      stripDecoration_decorate hblanks' (by simp) _ hblank hslash hreturn]

end Decorated

/-! ## Commands -/

/-- A command word ends at the blank behind it. -/
lemma leadingRun_word {word : List Char} (hword : ∀ c ∈ word, Text.isSpace c = false)
    (text : List Char) : Text.leadingRun (word ++ ' ' :: text) = word := by
  have hblank : Text.isSpace ' ' = true := by decide +kernel
  have hrun : ∀ c ∈ word, (!Text.isSpace c) = true := fun c hc => by simp [hword c hc]
  rw [Text.leadingRun, List.takeWhile_append_of_pos hrun, List.takeWhile_cons_of_neg (by simp [hblank]),
    List.append_nil]

/-- Letters are no blanks and no slashes. -/
lemma ne_of_isAsciiLetter {c : Char} (hc : Text.isAsciiLetter c = true) :
    Text.isBlank c = false ∧ c ≠ decoration ∧ c ≠ '\r' := by
  refine ⟨?_, ?_, ?_⟩
  · by_contra hblank
    rw [Bool.not_eq_false, Text.isBlank, Bool.or_eq_true, beq_iff_eq, beq_iff_eq] at hblank
    rcases hblank with rfl | rfl <;> exact absurd hc (by decide)
  · rintro rfl
    exact absurd hc (by decide)
  · rintro rfl
    exact absurd hc (by decide)

/-- White space comprises blanks and carriage returns. -/
lemma ne_of_not_isSpace {c : Char} (hc : Text.isSpace c = false) :
    Text.isBlank c = false ∧ c ≠ '\r' := by
  refine ⟨?_, ?_⟩
  · by_contra hblank
    rw [Bool.not_eq_false, Text.isBlank, Bool.or_eq_true, beq_iff_eq, beq_iff_eq] at hblank
    rcases hblank with rfl | rfl <;> exact absurd hc (by decide +kernel)
  · rintro rfl
    exact absurd hc (by decide +kernel)

/-- **When a command is found behind decoration.** Take settings that were loaded, and a line with any
decoration, the command character, a known command word that starts with an ASCII letter, a blank and
any text. The line opens with a command unless the command character is the slash and no slashes
followed by blanks stand before it.

**Proof sketch.** A command character that is no slash is not taken off, since loading refuses white
space. A slash is taken off with the decoration if it touches the slashes before it, or there are none.
Then the line starts with the command word, which is no command character. -/
theorem startsCommand_decorate {stored : Settings.Stored} {settings : Settings}
    (hload : Settings.load stored = .ok (some settings)) {word blanks gap : List Char}
    (hletter : word.head?.any Text.isAsciiLetter = true)
    (hword : ∀ c ∈ word, Text.isSpace c = false)
    (hknown : settings.sectionFor (String.ofList word) ≠ .invalid)
    (hblanks : ∀ c ∈ blanks, Text.isBlank c = true) (hgap : ∀ c ∈ gap, Text.isBlank c = true)
    (slashes : Nat) (text : List Char) :
    startsCommand settings (stripDecoration
        (decorate blanks slashes gap (settings.commandCharacter :: (word ++ ' ' :: text)))) = true
      ↔ settings.commandCharacter ≠ decoration ∨ (0 < slashes ∧ gap ≠ []) := by
  obtain ⟨first, rest, rfl⟩ : ∃ first rest, word = first :: rest := by
    cases word with
    | nil => cases hletter
    | cons first rest => exact ⟨first, rest, rfl⟩
  have hspace : Text.isSpace settings.commandCharacter = false := by
    have hreserved := Settings.isReserved_of_load hload
    rw [Settings.isReserved, Bool.or_eq_false_iff] at hreserved
    exact hreserved.2
  obtain ⟨hblank, hreturn⟩ := ne_of_not_isSpace hspace
  obtain ⟨hfirstBlank, hfirstSlash, hfirstReturn⟩ := ne_of_isAsciiLetter hletter
  have hcontent : ∀ tail, startsCommand settings
      (settings.commandCharacter :: (first :: rest ++ ' ' :: tail)) = true := by
    intro tail
    have hhead : (first :: rest ++ ' ' :: tail).head?.any Text.isSpace = false :=
      hword first List.mem_cons_self
    have hfound : Text.firstWord (first :: rest ++ ' ' :: tail) = first :: rest := by
      rw [Text.firstWord_eq, Text.trimStart_of_not_space hhead, leadingRun_word hword]
    rw [startsCommand, hfound, Bool.and_eq_true, Bool.and_eq_true]
    exact ⟨⟨beq_self_eq_true _, hletter⟩, bne_iff_ne.2 hknown⟩
  have hreturns : stripReturn (first :: rest ++ ' ' :: text)
      = first :: rest ++ ' ' :: stripReturn text := by
    rw [stripReturn_append (by simp), stripReturn_cons (by decide)]
  by_cases hslash : settings.commandCharacter = decoration
  · rw [hslash, List.cons_append, stripDecoration_slash hblanks hgap slashes hfirstBlank hfirstSlash
      hfirstReturn, ← stripReturn_cons hfirstReturn, ← List.cons_append, hreturns]
    split
    · rename_i hinner
      rw [List.singleton_append, ← hslash]
      exact iff_of_true (hcontent _) (.inr hinner)
    · rename_i hinner
      -- the line starts with the word
      have hne : first ≠ settings.commandCharacter := hslash ▸ hfirstSlash
      simp [startsCommand, hne, hinner]
  · rw [stripDecoration_decorate hblanks hgap slashes hblank hslash hreturn, hreturns]
    exact iff_of_true (hcontent _) (.inl hslash)

/-- The text of a settings file that makes the slash the command character. -/
def slashSettings : ByteArray :=
  "[comment]\ncommand_character = \"/\"\n".toUTF8

/-- Behind slashes and a blank a command with a slash is found. -/
theorem startsCommand_decorate_gap : ∃ settings,
    Settings.load (.file slashSettings) = .ok (some settings) ∧
    startsCommand settings (stripDecoration "  /// /effects x".toList) = true := by
  obtain ⟨settings, hload, hcheck⟩ := Settings.exists_of_load (.file slashSettings)
    (p := fun s => decide (s.commandCharacter = '/' ∧
      s.sectionFor (String.ofList "effects".toList) ≠ .invalid)) (by decide +kernel)
  obtain ⟨hslash, hknown⟩ := of_decide_eq_true hcheck
  refine ⟨settings, hload, ?_⟩
  have hspaces : "effects".toList.all (!Text.isSpace ·) = true := by decide +kernel
  have hword : ∀ c ∈ "effects".toList, Text.isSpace c = false := fun c hc => by
    simpa using List.all_eq_true.1 hspaces c hc
  have hblanks : ∀ c ∈ "  ".toList, Text.isBlank c = true := List.all_eq_true.1 (by decide)
  have hgap : ∀ c ∈ " ".toList, Text.isBlank c = true := List.all_eq_true.1 (by decide)
  have h := (startsCommand_decorate hload (by decide) hword hknown hblanks hgap 3 "x".toList).2
    (.inr (by decide))
  rw [hslash] at h
  exact h

/-- **A command that is not found**: the slash is loaded as the command character, and taken off as
decoration. -/
theorem startsCommand_decorate_slash : ∃ settings,
    Settings.load (.file slashSettings) = .ok (some settings) ∧
    settings.sectionFor "effects" = .effects ∧
    startsCommand settings (stripDecoration "/effects x".toList) = false := by
  obtain ⟨settings, hload, hcheck⟩ := Settings.exists_of_load (.file slashSettings)
    (p := fun s => decide (s.sectionFor "effects" = .effects ∧
      startsCommand s (stripDecoration "/effects x".toList) = false)) (by decide +kernel)
  exact ⟨settings, hload, of_decide_eq_true hcheck⟩

end Comment

end DocComments
