import DocComments.Proofs.Text.Lines

set_option autoImplicit false

/-!
# Words with single blanks between them

A text is put into its normal form by splitting it into words and joining them with single blanks.
Read from the front, white space at the start is dropped, every other character is kept, and behind a
character the white space up to the next word becomes one blank. The normal form is recognised
character by character: white space occurs in it only as a blank in front of another character. So
every end piece of a normal form is one again, up to a blank at its start.

## Main definitions

* `Text.squeeze` — the words of a text with single blanks between them.
* `Text.Spaced` — white space is only a blank in front of a character that is none.

## Main results

* `Text.squeeze_cons`, `Text.squeeze_cons_space` — the normal form, read from the front.
* `Text.spaced_squeeze`, `Text.Spaced.squeeze_eq` — the normal forms are the spaced texts, up to
  white space at the start.
-/

namespace DocComments.Text

/-! ## Words -/

/-- A text that does not start with white space is not trimmed. -/
lemma trimStart_of_not_space {text : List Char} (h : text.head?.any isSpace = false) :
    trimStart text = text := by
  cases text with
  | nil => rfl
  | cons c rest =>
    have hc : isSpace c = false := h
    simp [trimStart, hc]

/-- A trimmed text does not start with white space. -/
lemma trimStart_head (text : List Char) : (trimStart text).head?.any isSpace = false := by
  have hhead := List.head?_dropWhile_not isSpace text
  rw [trimStart]
  cases hc : (text.dropWhile isSpace).head? with
  | none => rfl
  | some c => simpa [hc] using hhead

/-- White space is taken from the start of a text alone if something else follows. -/
lemma trimStart_append {back : List Char} (hback : back.head?.any isSpace = false)
    (front : List Char) : trimStart (front ++ back) = trimStart front ++ back := by
  induction front with
  | nil => exact trimStart_of_not_space hback
  | cons c front ih =>
    cases hc : isSpace c with
    | true => simpa [trimStart, hc] using ih
    | false => simp [trimStart, hc]

/-- A text that does not end with white space loses nothing at its end. -/
lemma trimEnd_append_singleton {c : Char} (hc : isSpace c = false) (front : List Char) :
    trimEnd (front ++ [c]) = front ++ [c] := by
  simp [trimEnd, hc]

/-- A text that loses nothing at its start does not start with white space. -/
lemma not_space_of_length_trimStart {text : List Char}
    (h : text.length ≤ (trimStart text).length) : text.head?.any isSpace = false := by
  cases text with
  | nil => rfl
  | cons c rest =>
    cases hc : isSpace c with
    | false => exact hc
    | true =>
      have hdrop : trimStart (c :: rest) = trimStart rest := by simp [trimStart, hc]
      have hle : (trimStart rest).length ≤ rest.length :=
        (List.dropWhile_sublist _).length_le
      rw [hdrop, List.length_cons] at h
      omega

/-- A word that has been started goes on to the next white space. -/
lemma wordsFrom_eq {word : List Char} (hword : word ≠ []) (text : List Char) :
    wordsFrom word text
      = (word.reverse ++ text.takeWhile fun c => !isSpace c)
        :: words (text.dropWhile fun c => !isSpace c) := by
  induction text generalizing word with
  | nil => simp [wordsFrom, words, hword]
  | cons c text ih =>
    rw [wordsFrom]
    cases hc : isSpace c with
    | true => simp [hc, hword, words, wordsFrom]
    | false => simp [hc, ih]

/-- White space at the start belongs to no word. -/
lemma words_cons_space {c : Char} (hc : isSpace c = true) (text : List Char) :
    words (c :: text) = words text := by
  simp [words, wordsFrom, hc]

/-- A text that starts with a character of a word starts with that word. -/
lemma words_cons {c : Char} (hc : isSpace c = false) (text : List Char) :
    words (c :: text)
      = (c :: text.takeWhile fun c => !isSpace c) :: words (text.dropWhile fun c => !isSpace c) := by
  have h : wordsFrom [c] text = _ := wordsFrom_eq (by simp) text
  rw [words, wordsFrom, if_neg (by simp [hc]), h]
  rfl

/-- What stands in front of the first text stands in front of the joined ones. -/
lemma join_append_cons (separator front piece : List Char) (rest : List (List Char)) :
    join separator ((front ++ piece) :: rest) = front ++ join separator (piece :: rest) := by
  cases rest with
  | nil => rfl
  | cons next rest => simp [join_cons_cons]

/-! ## The normal form -/

/-- The words of a text with single blanks between them. -/
def squeeze (text : List Char) : List Char :=
  join [' '] (words text)

/-- The blank between a character and the words of the text behind it. -/
def gap (text : List Char) : List Char :=
  if text.head?.any isSpace && !(words text).isEmpty then [' '] else []

/-- The empty text is in normal form. -/
@[simp]
lemma squeeze_nil : squeeze [] = [] := rfl

/-- White space at the start is dropped. -/
lemma squeeze_cons_space {c : Char} (hc : isSpace c = true) (text : List Char) :
    squeeze (c :: text) = squeeze text := by
  rw [squeeze, words_cons_space hc, squeeze]

/-- **A character that is not white space is kept**, and the white space behind it becomes a blank
unless the text ends there. -/
lemma squeeze_cons {c : Char} (hc : isSpace c = false) (text : List Char) :
    squeeze (c :: text) = c :: (gap text ++ squeeze text) := by
  have hjoin := join_append_cons [' '] [c] (text.takeWhile fun c => !isSpace c)
    (words (text.dropWhile fun c => !isSpace c))
  rw [List.singleton_append, List.singleton_append] at hjoin
  rw [squeeze, words_cons hc, hjoin]
  congr 1
  cases text with
  | nil => rfl
  | cons d text =>
    cases hd : isSpace d with
    | true =>
      -- the word ends here: its rest is empty, and the other words follow a blank
      have htake : (d :: text).takeWhile (fun c => !isSpace c) = [] := by simp [hd]
      have hdrop : (d :: text).dropWhile (fun c => !isSpace c) = d :: text := by simp [hd]
      rw [htake, hdrop, gap, squeeze]
      cases words (d :: text) with
      | nil => simp [join]
      | cons first rest => simp [hd, join]
    | false =>
      have htake : (d :: text).takeWhile (fun c => !isSpace c)
          = d :: text.takeWhile fun c => !isSpace c := by simp [hd]
      have hdrop : (d :: text).dropWhile (fun c => !isSpace c)
          = text.dropWhile fun c => !isSpace c := by simp [hd]
      have hgap : gap (d :: text) = [] := by simp [gap, hd]
      rw [htake, hdrop, hgap, List.nil_append, squeeze, words_cons hd]

/-- A run of characters that are not white space is kept. -/
lemma squeeze_append {run : List Char} (hne : run ≠ []) (hrun : ∀ c ∈ run, isSpace c = false)
    (text : List Char) : squeeze (run ++ text) = run ++ (gap text ++ squeeze text) := by
  induction run with
  | nil => exact absurd rfl hne
  | cons c run ih =>
    have hc := hrun c List.mem_cons_self
    rw [List.cons_append, squeeze_cons hc, List.cons_append]
    cases run with
    | nil => rfl
    | cons d run =>
      have hd := hrun d (by simp)
      have hgap : gap (d :: run ++ text) = [] := by simp [gap, hd]
      rw [hgap, List.nil_append, ih (by simp) fun c hc => hrun c (List.mem_cons_of_mem _ hc)]

/-- White space at the start is dropped. -/
lemma squeeze_append_space {run : List Char} (hrun : ∀ c ∈ run, isSpace c = true)
    (text : List Char) : squeeze (run ++ text) = squeeze text := by
  induction run with
  | nil => rfl
  | cons c run ih =>
    rw [List.cons_append, squeeze_cons_space (hrun c List.mem_cons_self),
      ih fun c hc => hrun c (List.mem_cons_of_mem _ hc)]

/-- A single word is in normal form. -/
lemma squeeze_of_run {run : List Char} (hne : run ≠ []) (hrun : ∀ c ∈ run, isSpace c = false) :
    squeeze run = run := by
  have h := squeeze_append hne hrun []
  rw [List.append_nil] at h
  simp [h, gap]

/-- A word at the end of a text stays there. What stands before it ends as it did, if it did not end in
white space. -/
lemma squeeze_append_run {run : List Char} (hne : run ≠ []) (hrun : ∀ c ∈ run, isSpace c = false)
    (text : List Char) :
    ∃ front, squeeze (text ++ run) = front ++ run ∧ (front = [] → ∀ c ∈ text, isSpace c = true) ∧
      ∀ c, isSpace c = false → front.getLast? = some c → text.getLast? = some c := by
  induction text with
  | nil =>
    exact ⟨[], squeeze_of_run hne hrun, by simp, by simp⟩
  | cons d text ih =>
    obtain ⟨front, hfront, hspaces, hlast⟩ := ih
    have hlater : ∀ c, text.getLast? = some c → (d :: text).getLast? = some c := by
      intro c hc
      rw [List.getLast?_cons, hc]
      rfl
    cases hd : isSpace d with
    | true =>
      refine ⟨front, ?_, ?_, fun c hc h => hlater c (hlast c hc h)⟩
      · rw [List.cons_append, squeeze_cons_space hd, hfront]
      · exact fun hnil => List.forall_mem_cons.2 ⟨hd, hspaces hnil⟩
    | false =>
      refine ⟨d :: (gap (text ++ run) ++ front), ?_, by simp, ?_⟩
      · rw [List.cons_append, squeeze_cons hd, hfront]
        simp
      · intro c hc h
        rcases eq_or_ne front [] with rfl | hfrontne
        · -- only white space stands between the character and the word
          cases text with
          | nil =>
            obtain ⟨e, run, rfl⟩ := List.exists_cons_of_ne_nil hne
            have he := hrun e List.mem_cons_self
            simpa [gap, he] using h
          | cons e text =>
            have he : isSpace e = true := hspaces rfl e List.mem_cons_self
            have hwords : words (e :: text ++ run) ≠ [] := by
              intro hnil
              rw [squeeze, hnil] at hfront
              exact hne hfront.symm
            have hgap : gap (e :: text ++ run) = [' '] := by
              rw [gap, if_pos]
              simpa [he] using hwords
            rw [hgap] at h
            obtain rfl : ' ' = c := by simpa using h
            exact absurd hc (by decide +kernel)
        · rw [List.getLast?_cons, List.getLast?_append, List.getLast?_eq_some_getLast hfrontne] at h
          refine hlater c (hlast c hc ?_)
          rw [List.getLast?_eq_some_getLast hfrontne]
          exact h

/-- No normal form starts with white space. -/
lemma squeeze_head (text : List Char) : (squeeze text).head?.any isSpace = false := by
  induction text with
  | nil => rfl
  | cons c text ih =>
    cases hc : isSpace c with
    | true => rw [squeeze_cons_space hc, ih]
    | false =>
      rw [squeeze_cons hc]
      exact hc

/-- The normal form is not longer than the text. -/
lemma length_squeeze_le (text : List Char) : (squeeze text).length ≤ text.length := by
  -- the blank in front of a word is paid for by the white space that was there
  suffices h : (squeeze text).length ≤ text.length
      ∧ (gap text ++ squeeze text).length ≤ text.length from h.1
  induction text with
  | nil => simp [gap]
  | cons c text ih =>
    cases hc : isSpace c with
    | true =>
      have hgap : (gap (c :: text)).length ≤ 1 := by
        rw [gap]
        split <;> simp
      rw [squeeze_cons_space hc, List.length_append, List.length_cons]
      omega
    | false =>
      have hgap : gap (c :: text) = [] := by simp [gap, hc]
      rw [hgap, List.nil_append, squeeze_cons hc, List.length_cons, List.length_cons]
      omega

/-! ## Spaced texts -/

/-- White space occurs only as a blank in front of a character that is none. -/
def Spaced : List Char → Prop
  | [] => True
  | c :: rest => (isSpace c = true → c = ' ' ∧ rest.head?.any (!isSpace ·) = true) ∧ Spaced rest

/-- The end of a spaced text is spaced. -/
lemma Spaced.of_append {front text : List Char} (h : Spaced (front ++ text)) : Spaced text := by
  induction front with
  | nil => exact h
  | cons c front ih => exact ih h.2

/-- The words of a text that starts with one are not empty. -/
lemma words_ne_nil {text : List Char} (h : text.head?.any (!isSpace ·) = true) :
    words text ≠ [] := by
  cases text with
  | nil => cases h
  | cons c text =>
    have hc : isSpace c = false := by simpa using h
    rw [words_cons hc]
    simp

/-- The normal form of a text with words starts with one. -/
lemma squeeze_head_of_words {text : List Char} (h : words text ≠ []) :
    (squeeze text).head?.any (!isSpace ·) = true := by
  induction text with
  | nil => exact absurd rfl h
  | cons c text ih =>
    cases hc : isSpace c with
    | true =>
      rw [words_cons_space hc] at h
      rw [squeeze_cons_space hc, ih h]
    | false =>
      rw [squeeze_cons hc]
      simp [hc]

/-- Normal forms are spaced. -/
lemma spaced_squeeze (text : List Char) : Spaced (squeeze text) := by
  induction text with
  | nil => trivial
  | cons c text ih =>
    cases hc : isSpace c with
    | true =>
      rw [squeeze_cons_space hc]
      exact ih
    | false =>
      rw [squeeze_cons hc]
      refine ⟨fun h => by simp [hc] at h, ?_⟩
      rw [gap]
      split
      · rename_i hwords
        have hne : words text ≠ [] := by
          intro hnil
          simp [hnil] at hwords
        exact ⟨fun _ => ⟨rfl, squeeze_head_of_words hne⟩, ih⟩
      · exact ih

/-- **A spaced text is its own normal form**, white space at its start apart. -/
lemma Spaced.squeeze_eq {text : List Char} (h : Spaced text) : squeeze text = trimStart text := by
  induction text with
  | nil => rfl
  | cons c text ih =>
    cases hc : isSpace c with
    | true =>
      rw [squeeze_cons_space hc, ih h.2]
      simp [trimStart, hc]
    | false =>
      have hstart : trimStart (c :: text) = c :: text := trimStart_of_not_space hc
      rw [squeeze_cons hc, ih h.2, hstart]
      congr 1
      cases text with
      | nil => rfl
      | cons d text =>
        cases hd : isSpace d with
        | true =>
          obtain ⟨rfl, hnext⟩ := h.2.1 hd
          have hblank : trimStart (' ' :: text) = text := by
            have hdrop : trimStart (' ' :: text) = trimStart text := by simp [trimStart, hd]
            rw [hdrop, trimStart_of_not_space]
            cases text with
            | nil => rfl
            | cons e text => simpa using hnext
          have hwords : words (' ' :: text) ≠ [] := by
            rw [words_cons_space hd]
            exact words_ne_nil hnext
          rw [hblank, gap]
          simp [hd, hwords]
        | false =>
          have hnext : trimStart (d :: text) = d :: text := trimStart_of_not_space hd
          rw [hnext]
          simp [gap, hd]

/-- A spaced text does not end with white space. -/
lemma Spaced.trim_eq {text : List Char} (h : Spaced text) : trim text = trimStart text := by
  have hend : Spaced (trimStart text) := by
    obtain ⟨front, hfront⟩ := List.dropWhile_suffix (l := text) isSpace
    rw [← hfront] at h
    exact h.of_append
  rw [trim]
  generalize trimStart text = start at hend
  rcases List.eq_nil_or_concat start with rfl | ⟨front, c, rfl⟩
  · rfl
  · rw [List.concat_eq_append] at hend ⊢
    have hc : isSpace c = false := by
      have hlast := hend.of_append.1
      by_contra hspace
      simpa using (hlast (by simpa using hspace)).2
    exact trimEnd_append_singleton hc front

end DocComments.Text
