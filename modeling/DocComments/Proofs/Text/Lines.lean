import DocComments.Position
import Mathlib.Data.List.Basic
import Mathlib.Tactic.Common

set_option autoImplicit false

/-!
# The bytes of the lines of a text

A text is its lines, joined by line ends. This file follows the bytes of the lines: at which offsets
of the text they lie, and which positions the offsets have.

## Main definitions

* `Text.bytes` — the UTF-8 bytes of a text.
* `Text.contentOffsets` — the offsets of the bytes that are not line ends.
* `Text.lineOffsets`, `Text.linePositions` — offsets and positions of the bytes of given lines.

## Main results

* `Text.splitAt_join` — joining lines and splitting again gives the lines back.
* `Text.lineEnd_not_mem_bytes` — only the line end has its byte.
* `Text.contentOffsets_join` — the bytes of joined lines that are not line ends are those of the
  lines.
* `Text.map_ofOffset_lineOffsets` — the positions of these bytes.
-/

namespace DocComments.Text

/-! ## Lines -/

/-- Splitting gives pieces without the separator. -/
lemma not_mem_of_mem_splitAt {separator : Char} {text piece : List Char}
    (h : piece ∈ splitAt separator text) : separator ∉ piece := by
  induction text generalizing piece with
  | nil =>
    rw [splitAt, List.mem_singleton] at h
    simp [h]
  | cons c text ih =>
    rw [splitAt] at h
    split at h
    · rcases List.mem_cons.1 h with rfl | h
      · simp
      · exact ih h
    · rename_i hc
      split at h
      · rw [List.mem_singleton] at h
        rw [h, List.mem_singleton]
        exact fun heq => hc (by simp [heq])
      · rename_i first rest heq
        rcases List.mem_cons.1 h with rfl | h
        · have hfirst : separator ∉ first := ih (by simp [heq])
          rw [List.mem_cons, not_or]
          exact ⟨fun heq => hc (by simp [heq]), hfirst⟩
        · exact ih (by simp [heq, h])

/-- A text has at least one piece. -/
lemma splitAt_ne_nil (separator : Char) (text : List Char) : splitAt separator text ≠ [] := by
  cases text with
  | nil => simp [splitAt]
  | cons c text =>
    rw [splitAt]
    split
    · simp
    · split <;> simp

/-- A text without the separator is a single piece. -/
lemma splitAt_of_not_mem {separator : Char} {text : List Char} (h : separator ∉ text) :
    splitAt separator text = [text] := by
  induction text with
  | nil => rfl
  | cons c text ih =>
    rw [List.mem_cons, not_or] at h
    have hc : (c == separator) = false := beq_eq_false_iff_ne.2 (Ne.symm h.1)
    rw [splitAt, hc, ih h.2]
    rfl

/-- A separator ends the first piece. -/
lemma splitAt_append_cons {separator : Char} {piece : List Char} (h : separator ∉ piece)
    (rest : List Char) :
    splitAt separator (piece ++ separator :: rest) = piece :: splitAt separator rest := by
  induction piece with
  | nil => simp [splitAt]
  | cons c piece ih =>
    rw [List.mem_cons, not_or] at h
    have hc : (c == separator) = false := beq_eq_false_iff_ne.2 (Ne.symm h.1)
    rw [List.cons_append, splitAt, hc, ih h.2]
    rfl

/-- Between two pieces there is a separator. -/
lemma join_cons_cons (separator piece next : List Char) (rest : List (List Char)) :
    join separator (piece :: next :: rest)
      = piece ++ separator ++ join separator (next :: rest) := rfl

/-- **Joining pieces and splitting again gives the pieces back.** -/
lemma splitAt_join {separator : Char} {pieces : List (List Char)} (hne : pieces ≠ [])
    (h : ∀ piece ∈ pieces, separator ∉ piece) :
    splitAt separator (join [separator] pieces) = pieces := by
  induction pieces with
  | nil => exact absurd rfl hne
  | cons piece pieces ih =>
    have hpiece := h piece List.mem_cons_self
    cases pieces with
    | nil => exact splitAt_of_not_mem hpiece
    | cons next rest =>
      rw [join_cons_cons, List.append_assoc, List.singleton_append, splitAt_append_cons hpiece,
        ih (by simp) fun piece hmem => h piece (List.mem_cons_of_mem _ hmem)]

/-! ## Bytes -/

/-- The UTF-8 bytes of a text. -/
def bytes (text : List Char) : List UInt8 :=
  text.flatMap String.utf8EncodeChar

/-- The byte of a line end. -/
def lineEnd : UInt8 := 10

/-- The bytes of two texts. -/
@[simp]
lemma bytes_append (a b : List Char) : bytes (a ++ b) = bytes a ++ bytes b := by
  simp [bytes]

/-- The number of bytes of a text is its length in bytes. -/
@[simp]
lemma length_bytes (text : List Char) : (bytes text).length = byteLength text := by
  induction text with
  | nil => rfl
  | cons c text ih =>
    rw [byteLength_cons, ← ih, bytes, List.flatMap_cons, List.length_append,
      String.length_utf8EncodeChar, bytes]

/-- A line end is a single byte. -/
lemma bytes_lineEnd : bytes ['\n'] = [lineEnd] := by
  decide

/-- **Only the line end has its byte**: all bytes of longer encodings are beyond ASCII. -/
lemma lineEnd_not_mem_bytes {text : List Char} (h : '\n' ∉ text) : lineEnd ∉ bytes text := by
  intro hmem
  obtain ⟨c, hc, hbyte⟩ := List.mem_flatMap.1 hmem
  have hten : (10 : UInt8).toNat = 10 := rfl
  have hsmall : c.val.toNat = 10 := by
    simp only [lineEnd, String.utf8EncodeChar] at hbyte
    split_ifs at hbyte
    all_goals
      simp only [List.mem_cons, List.not_mem_nil, or_false, ← UInt8.toNat_inj, UInt8.toNat_ofNat']
        at hbyte
      omega
  have heq : c = '\n' := Char.ext (UInt32.toNat_inj.1 hsmall)
  exact h (heq ▸ hc)

/-- The offsets of the bytes that are not line ends. -/
def contentOffsets (text : List Char) : List Nat :=
  (List.range (bytes text).length).filter fun o => (bytes text)[o]? != some lineEnd

/-- The offsets of the bytes of lines that follow each other from an offset on. A line end takes one
byte. -/
def lineOffsets (base : Nat) : List (List Char) → List Nat
  | [] => []
  | l :: ls => List.range' base (byteLength l) ++ lineOffsets (base + byteLength l + 1) ls

/-- The positions of the bytes of lines that follow a number of other lines. -/
def linePositions (before : Nat) : List (List Char) → List Position
  | [] => []
  | l :: ls =>
    (List.range (byteLength l)).map (fun c => ⟨before + 1, c + 1⟩) ++ linePositions (before + 1) ls

/-- The bytes of a line are kept if line ends are left out. -/
lemma filter_range'_line (front : List UInt8) {l : List Char} (h : '\n' ∉ l) (rest : List UInt8) :
    (List.range' front.length (byteLength l)).filter
      (fun o => (front ++ bytes l ++ rest)[o]? != some lineEnd)
      = List.range' front.length (byteLength l) := by
  apply List.filter_eq_self.2
  intro o ho
  obtain ⟨hle, hlt⟩ := List.mem_range'_1.1 ho
  rw [List.append_assoc, List.getElem?_append_right hle,
    List.getElem?_append_left (by rw [length_bytes]; omega), bne_iff_ne]
  intro hbyte
  exact lineEnd_not_mem_bytes h (List.mem_of_getElem? hbyte)

/-- The offsets of joined lines that are not line ends, after some other bytes. -/
lemma filter_range'_join (front : List UInt8) {ls : List (List Char)} (h : ∀ l ∈ ls, '\n' ∉ l) :
    (List.range' front.length (byteLength (join ['\n'] ls))).filter
      (fun o => (front ++ bytes (join ['\n'] ls))[o]? != some lineEnd)
      = lineOffsets front.length ls := by
  induction ls generalizing front with
  | nil => rfl
  | cons l ls ih =>
    have hl := h l List.mem_cons_self
    cases ls with
    | nil =>
      have := filter_range'_line front hl []
      rw [List.append_nil] at this
      simpa [join, lineOffsets] using this
    | cons next rest =>
      have hrest := ih (front ++ bytes l ++ [lineEnd])
        fun l' hl' => h l' (List.mem_cons_of_mem _ hl')
      have hlength : (front ++ bytes l ++ [lineEnd]).length = front.length + byteLength l + 1 := by
        simp [Nat.add_assoc]
      have hline := filter_range'_line front hl ([lineEnd] ++ bytes (join ['\n'] (next :: rest)))
      rw [hlength] at hrest
      simp only [List.append_assoc] at hrest hline
      rw [join_cons_cons, byteLength_append, byteLength_append, bytes_append, bytes_append,
        bytes_lineEnd, lineOffsets, List.append_assoc]
      rw [show byteLength ['\n'] = 1 from rfl, ← List.range'_append_1, List.filter_append,
        ← List.range'_append_1, List.filter_append, hline, ← Nat.add_assoc, hrest]
      simp

/-- **The bytes of joined lines that are not line ends are those of the lines.** -/
lemma contentOffsets_join {ls : List (List Char)} (h : ∀ l ∈ ls, '\n' ∉ l) :
    contentOffsets (join ['\n'] ls) = lineOffsets 0 ls := by
  have := filter_range'_join [] h
  rwa [List.nil_append, List.length_nil, ← length_bytes, ← List.range_eq_range'] at this

/-- The bytes at the offsets of lines are those of the lines, one after the other. -/
lemma map_getElem?_lineOffsets (front : List UInt8) (ls : List (List Char)) :
    (lineOffsets front.length ls).map (fun o => (front ++ bytes (join ['\n'] ls))[o]?)
      = (ls.flatMap bytes).map some := by
  induction ls generalizing front with
  | nil => rfl
  | cons l ls ih =>
    have hline : ∀ rest : List UInt8, (List.range' front.length (byteLength l)).map
        (fun o => (front ++ bytes l ++ rest)[o]?) = (bytes l).map some := by
      intro rest
      apply List.ext_getElem?
      intro i
      by_cases hi : i < byteLength l
      · have hb : i < (bytes l).length := by rwa [length_bytes]
        simp [List.getElem?_range' hi, List.append_assoc, List.getElem?_append_right,
          List.getElem?_append_left hb, List.getElem?_eq_getElem hb]
      · rw [List.getElem?_eq_none (by simp; omega), List.getElem?_eq_none (by simp; omega)]
    cases ls with
    | nil =>
      have := hline []
      rw [List.append_nil] at this
      simpa [join, lineOffsets] using this
    | cons next rest =>
      have hrest := ih (front ++ bytes l ++ [lineEnd])
      have hlength : (front ++ bytes l ++ [lineEnd]).length = front.length + byteLength l + 1 := by
        simp [Nat.add_assoc]
      rw [hlength] at hrest
      rw [join_cons_cons, bytes_append, bytes_append, bytes_lineEnd, lineOffsets, List.map_append,
        List.flatMap_cons, List.map_append, ← hrest,
        ← hline ([lineEnd] ++ bytes (join ['\n'] (next :: rest)))]
      simp only [List.append_assoc]

/-! ## Positions -/

/-- A text without line ends is on one line. -/
lemma lineStartsFrom_append {l : List Char} (h : '\n' ∉ l) (base : Nat) (rest : List Char) :
    lineStartsFrom base (l ++ rest) = lineStartsFrom (base + byteLength l) rest := by
  induction l generalizing base with
  | nil => rfl
  | cons c l ih =>
    rw [List.mem_cons, not_or] at h
    have hc : (c == '\n') = false := beq_eq_false_iff_ne.2 (Ne.symm h.1)
    rw [List.cons_append, lineStartsFrom, hc, byteLength_cons, ← Nat.add_assoc, ← ih h.2]
    rfl

/-- Later lines start behind the offset where the text starts. -/
lemma lt_of_mem_lineStartsFrom {base s : Nat} {text : List Char}
    (h : s ∈ lineStartsFrom base text) : base < s := by
  induction text generalizing base with
  | nil => simp [lineStartsFrom] at h
  | cons c text ih =>
    have hpos := c.utf8Size_pos
    rw [lineStartsFrom] at h
    split at h
    · rcases List.mem_cons.1 h with rfl | h
      · omega
      · have := ih h
        omega
    · have := ih h
      omega

/-- The position of an offset in a line whose start is known. -/
lemma ofOffset_of_start {front rest : List Nat} {base c : Nat} (hfront : ∀ s ∈ front, s < base)
    (hrest : ∀ s ∈ rest, base + c < s) :
    Position.ofOffset (front ++ base :: rest) (base + c) = ⟨front.length + 1, c + 1⟩ := by
  have hfilter : (front ++ base :: rest).filter (fun s => decide (s ≤ base + c))
      = front ++ [base] := by
    have hkept : front.filter (fun s => decide (s ≤ base + c)) = front :=
      List.filter_eq_self.2 fun s hs => by
        have := hfront s hs
        simp only [decide_eq_true_eq]
        omega
    have hdropped : rest.filter (fun s => decide (s ≤ base + c)) = [] :=
      List.filter_eq_nil_iff.2 fun s hs => by
        have := hrest s hs
        simp only [decide_eq_true_eq]
        omega
    rw [List.filter_append, List.filter_cons_of_pos (by simp), hkept, hdropped]
  rw [Position.ofOffset, hfilter]
  simp

/-- **The positions of the bytes of lines**, where the starts of earlier lines are in `front`. -/
lemma map_ofOffset_lineOffsets (front : List Nat) (base : Nat) {ls : List (List Char)}
    (hfront : ∀ s ∈ front, s < base) (h : ∀ l ∈ ls, '\n' ∉ l) :
    (lineOffsets base ls).map
      (Position.ofOffset (front ++ base :: lineStartsFrom base (join ['\n'] ls)))
      = linePositions front.length ls := by
  induction ls generalizing front base with
  | nil => rfl
  | cons l ls ih =>
    have hl := h l List.mem_cons_self
    have hline : ∀ rest : List Nat, (∀ s ∈ rest, base + byteLength l < s) →
        (List.range' base (byteLength l)).map (Position.ofOffset (front ++ base :: rest))
          = (List.range (byteLength l)).map fun c => ⟨front.length + 1, c + 1⟩ := by
      intro rest hrest
      rw [List.range'_eq_map_range, List.map_map]
      refine List.map_congr_left fun c hc => ?_
      rw [List.mem_range] at hc
      rw [Function.comp_apply]
      refine ofOffset_of_start hfront fun s hs => ?_
      have := hrest s hs
      omega
    cases ls with
    | nil =>
      have hnone : lineStartsFrom base l = [] := by
        have := lineStartsFrom_append hl base []
        rwa [List.append_nil] at this
      rw [lineOffsets, linePositions, lineOffsets, linePositions, List.append_nil, List.append_nil,
        join, hnone]
      exact hline [] (by simp)
    | cons next rest =>
      have hstarts : lineStartsFrom base (join ['\n'] (l :: next :: rest))
          = (base + byteLength l + 1)
            :: lineStartsFrom (base + byteLength l + 1) (join ['\n'] (next :: rest)) := by
        rw [join_cons_cons, List.append_assoc, List.singleton_append, lineStartsFrom_append hl]
        rfl
      have hlater := ih (front ++ [base]) (base + byteLength l + 1)
        (fun s hs => by
          rcases List.mem_append.1 hs with hs | hs
          · have := hfront s hs
            omega
          · rw [List.mem_singleton] at hs
            omega)
        fun l' hl' => h l' (List.mem_cons_of_mem _ hl')
      rw [List.append_assoc, List.singleton_append, List.length_append, List.length_singleton]
        at hlater
      rw [lineOffsets, linePositions, List.map_append, hstarts, hlater, hline]
      intro s hs
      rcases List.mem_cons.1 hs with rfl | hs
      · omega
      · have := lt_of_mem_lineStartsFrom hs
        omega

end DocComments.Text
