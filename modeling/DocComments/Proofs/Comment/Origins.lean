import DocComments.Comment.Lines
import DocComments.Proofs.Text.Lines

set_option autoImplicit false

/-!
# Where the bytes of a comment come from

The text that is handed on consists of the stripped lines of the raw comment and of blank lines that
were put in. The position of a byte of that text, turned back into the raw comment, is the place of
the same byte there. In this way the bytes handed on are, one by one and in order, those of the raw
comment that belong neither to decoration nor to line ends.

## Main definitions

* `decorationOf` — the decoration at the start of a line.
* `FedLine`, `fedLines` — the lines handed on, with a note of whether they were put in.
* `contentPositions` — the positions of the bytes of a raw comment that are handed on.
* `Text.byteIn?` — the byte at a position.

## Main results

* `decorationOf_append` — a line is its decoration followed by what is left of it.
* `piecesFrom_eq` — the pieces are the lines handed on, each but the last with a line end.
* `map_toSource_linePositions` — positions in the text handed on, turned back.
* `toSource_points_at_origin` — every byte handed on is found at its position in the raw comment.
-/

namespace DocComments

/-- One position comes before another. -/
def Position.Before (p q : Position) : Prop :=
  p.line < q.line ∨ p.line = q.line ∧ p.column < q.column

/-- The byte at a position of some lines. -/
def Text.byteIn? (lines : List (List Char)) (p : Position) : Option UInt8 :=
  if p.line = 0 ∨ p.column = 0 then none
  else (lines[p.line - 1]?).bind fun line => (Text.bytes line)[p.column - 1]?

namespace Comment

open Text (byteLength bytes byteIn? join linePositions)

/-! ## Decoration -/

/-- The decoration at the start of a line: blanks, and if slashes follow, these and the blanks after
them. -/
def decorationOf (line : List Char) : List Char :=
  let rest := (stripReturn line).dropWhile Text.isBlank
  (stripReturn line).takeWhile Text.isBlank ++
    if rest.head? == some decoration then
      rest.takeWhile (· == decoration) ++ (rest.dropWhile (· == decoration)).takeWhile Text.isBlank
    else []

/-- **A line is its decoration followed by what is left of it**, up to a carriage return. -/
lemma decorationOf_append (line : List Char) :
    decorationOf line ++ stripDecoration line = stripReturn line := by
  unfold decorationOf stripDecoration
  simp only
  split
  · rw [List.append_assoc, List.append_assoc, List.takeWhile_append_dropWhile,
      List.takeWhile_append_dropWhile, List.takeWhile_append_dropWhile]
  · rw [List.append_nil, List.takeWhile_append_dropWhile]

/-- A line ends with what is left of it, and possibly a carriage return. -/
lemma exists_eq_stripReturn_append (line : List Char) :
    ∃ tail, line = stripReturn line ++ tail := by
  unfold stripReturn
  split
  · rename_i hreturn
    have hlast : line.getLast? = some '\r' := by simpa using hreturn
    exact ⟨['\r'], (List.dropLast_append_getLast? _ hlast).symm⟩
  · exact ⟨[], (List.append_nil line).symm⟩

/-- A line has the bytes of its decoration and of what is left of it, up to a carriage return. -/
lemma byteLength_stripReturn (line : List Char) :
    byteLength (stripReturn line) = byteLength (decorationOf line)
      + byteLength (stripDecoration line) := by
  rw [← decorationOf_append, Text.byteLength_append]

/-- The bytes that are stripped are those of the decoration. -/
lemma decorationLength_eq (line : List Char) :
    decorationLength line = byteLength (decorationOf line) := by
  rw [decorationLength, byteLength_stripReturn]
  omega

/-! ## The lines handed on -/

/-- A line handed on, without its line end: its text, the raw line it comes from, the bytes stripped
there, and whether it is a blank line that was put in. -/
structure FedLine where
  content : List Char
  line : Nat
  skipped : Nat
  inserted : Bool

/-- A blank line that was put in. -/
def FedLine.blank (line : Nat) : FedLine :=
  { content := [], line, skipped := 0, inserted := true }

/-- What is left of the raw line with a given index. -/
def FedLine.own (line : List Char) (index : Nat) : FedLine :=
  { content := stripDecoration line, line := index + 1, skipped := decorationLength line,
    inserted := false }

/-- The lines handed on for the raw lines from a given index on. -/
def fedLinesFrom (settings : Settings) (index : Nat) (fenced : Bool) :
    List (List Char) → List FedLine
  | [] => []
  | line :: rest =>
    let content := stripDecoration line
    (if needsBreak settings index fenced content then [FedLine.blank (index + 1)] else []) ++
      (FedLine.own line index ::
        if settings.implicitParagraph && !rest.isEmpty then [FedLine.blank (index + 1)] else []) ++
      fedLinesFrom settings (index + 1) (if isFence content then !fenced else fenced) rest

/-- The lines handed on for a raw comment. -/
def fedLines (settings : Settings) (raw : List Char) : List FedLine :=
  fedLinesFrom settings 0 false (Text.splitAt '\n' raw)

/-- The piece of a line that is followed by another one. -/
def FedLine.ended (l : FedLine) : Piece :=
  { text := l.content ++ ['\n'], line := l.line, skipped := l.skipped }

/-- The pieces of lines: all but the last get a line end. -/
def piecesOf : List FedLine → List Piece
  | [] => []
  | [l] => [{ text := l.content, line := l.line, skipped := l.skipped }]
  | l :: next :: rest => l.ended :: piecesOf (next :: rest)

/-- Every line that others follow gets a line end. -/
lemma piecesOf_append (ls : List FedLine) {rest : List FedLine} (h : rest ≠ []) :
    piecesOf (ls ++ rest) = ls.map FedLine.ended ++ piecesOf rest := by
  induction ls with
  | nil => rfl
  | cons l ls ih =>
    obtain ⟨next, more, hmore⟩ : ∃ next more, ls ++ rest = next :: more :=
      List.exists_cons_of_ne_nil (by simp [h])
    rw [List.cons_append, List.map_cons, List.cons_append, ← ih, hmore, piecesOf]

/-- The first piece has the origin of the first line. -/
lemma exists_piecesOf_cons (l : FedLine) (ls : List FedLine) :
    ∃ p : Piece, piecesOf (l :: ls) = p :: piecesOf ls ∧ p.line = l.line ∧
      p.skipped = l.skipped := by
  cases ls with
  | nil => exact ⟨_, rfl, rfl, rfl⟩
  | cons next rest => exact ⟨_, rfl, rfl, rfl⟩

/-- Each line gives one piece. -/
@[simp]
lemma length_piecesOf (ls : List FedLine) : (piecesOf ls).length = ls.length := by
  induction ls with
  | nil => rfl
  | cons l ls ih =>
    obtain ⟨p, hp, -, -⟩ := exists_piecesOf_cons l ls
    rw [hp, List.length_cons, List.length_cons, ih]

/-- Something is handed on for every raw line. -/
lemma fedLinesFrom_ne_nil (settings : Settings) (index : Nat) (fenced : Bool)
    {lines : List (List Char)} (h : lines ≠ []) : fedLinesFrom settings index fenced lines ≠ [] := by
  obtain ⟨line, rest, rfl⟩ := List.exists_cons_of_ne_nil h
  simp [fedLinesFrom]

/-- **The pieces are the lines handed on**, each but the last with a line end. -/
lemma piecesFrom_eq (settings : Settings) (index : Nat) (fenced : Bool)
    (lines : List (List Char)) :
    piecesFrom settings index fenced lines
      = piecesOf (fedLinesFrom settings index fenced lines) := by
  induction lines generalizing index fenced with
  | nil => rfl
  | cons line rest ih =>
    rw [piecesFrom, fedLinesFrom]
    simp only [ih]
    cases rest with
    | nil =>
      -- the last raw line has nothing after it
      simp only [fedLinesFrom, List.isEmpty_nil, Bool.not_true, Bool.and_false, List.append_nil,
        piecesOf]
      rw [piecesOf_append _ (by simp)]
      split <;> rfl
    | cons next more =>
      rw [piecesOf_append _ (fedLinesFrom_ne_nil _ _ _ (by simp)), List.map_append]
      simp only [List.isEmpty_cons, Bool.not_false, Bool.and_true, Bool.false_eq_true, if_false]
      split <;> split <;> rfl

/-- The text handed on is that of the lines, joined by line ends. -/
lemma piecesText_piecesOf (ls : List FedLine) :
    piecesText (piecesOf ls) = join ['\n'] (ls.map (·.content)) := by
  induction ls with
  | nil => rfl
  | cons l ls ih =>
    cases ls with
    | nil => simp [piecesText, piecesOf, join]
    | cons next rest =>
      rw [piecesOf, List.map_cons, List.map_cons, Text.join_cons_cons, ← List.map_cons, ← ih]
      rfl

/-- A line that was put in is blank, and the others are the stripped raw lines. -/
lemma inserted_fedLinesFrom (settings : Settings) (index : Nat) (fenced : Bool)
    (lines : List (List Char)) :
    (∀ l ∈ fedLinesFrom settings index fenced lines, l.inserted = true → l.content = []) ∧
      ((fedLinesFrom settings index fenced lines).filter fun l => !l.inserted).map (·.content)
        = lines.map stripDecoration := by
  induction lines generalizing index fenced with
  | nil => simp [fedLinesFrom]
  | cons line rest ih =>
    obtain ⟨hblank, hkept⟩ := ih (index + 1)
      (if isFence (stripDecoration line) then !fenced else fenced)
    rw [fedLinesFrom]
    constructor
    · intro l hl hinserted
      simp only [List.mem_append, List.mem_cons] at hl
      rcases hl with (hl | rfl | hl) | hl
      · split at hl
        · rw [List.mem_singleton.1 hl]
          rfl
        · cases hl
      · cases hinserted
      · split at hl
        · rw [List.mem_singleton.1 hl]
          rfl
        · cases hl
      · exact hblank l hl hinserted
    · simp only [List.filter_append, List.map_append, hkept, List.map_cons]
      split <;> split <;> simp [FedLine.blank, FedLine.own]

/-- What is collected from the lines handed on comes from the raw lines, if nothing is collected from
the lines that were put in. -/
lemma flatMap_fedLinesFrom {β : Type} {f : FedLine → List β} (hf : ∀ n, f (FedLine.blank n) = [])
    (settings : Settings) (index : Nat) (fenced : Bool) (lines : List (List Char)) :
    (fedLinesFrom settings index fenced lines).flatMap f
      = (lines.zipIdx index).flatMap fun x => f (FedLine.own x.1 x.2) := by
  induction lines generalizing index fenced with
  | nil => rfl
  | cons line rest ih =>
    rw [fedLinesFrom, List.zipIdx_cons, List.flatMap_cons,
      ← ih (index + 1) (if isFence (stripDecoration line) then !fenced else fenced)]
    simp only [List.flatMap_append, List.flatMap_cons]
    split <;> split <;> simp [hf]

/-- A stripped line is part of the raw line. -/
lemma not_mem_stripDecoration {c : Char} {line : List Char} (h : c ∉ line) :
    c ∉ stripDecoration line := by
  intro hc
  obtain ⟨tail, htail⟩ := exists_eq_stripReturn_append line
  apply h
  rw [htail, ← decorationOf_append]
  simp [hc]

/-- No line handed on has a line end in it. -/
lemma not_mem_content_fedLines {settings : Settings} {raw : List Char} {l : List Char}
    (h : l ∈ (fedLines settings raw).map (·.content)) : '\n' ∉ l := by
  obtain ⟨hblank, hkept⟩ := inserted_fedLinesFrom settings 0 false (Text.splitAt '\n' raw)
  obtain ⟨fed, hfed, rfl⟩ := List.mem_map.1 h
  by_cases hinserted : fed.inserted = true
  · rw [hblank fed hfed hinserted]
    simp
  · have hmem : fed.content ∈ (Text.splitAt '\n' raw).map stripDecoration := by
      rw [← hkept]
      exact List.mem_map.2 ⟨fed, List.mem_filter.2 ⟨hfed, by simpa using hinserted⟩, rfl⟩
    obtain ⟨line, hline, heq⟩ := List.mem_map.1 hmem
    rw [← heq]
    exact not_mem_stripDecoration (Text.not_mem_of_mem_splitAt hline)

/-! ## Origins -/

/-- The positions of the bytes of a raw line that are handed on: those behind the decoration, up to
the carriage return. -/
def lineContent (line : List Char) (index : Nat) : List Position :=
  ((List.range (byteLength (stripReturn line))).drop (byteLength (decorationOf line))).map
    fun c => ⟨index + 1, c + 1⟩

/-- The positions of the bytes of a raw comment that are handed on, line by line. -/
def contentPositions (raw : List Char) : List Position :=
  (Text.splitAt '\n' raw).zipIdx.flatMap fun x => lineContent x.1 x.2

/-- The columns behind the decoration of a line. -/
lemma drop_range_decoration (line : List Char) :
    (List.range (byteLength (stripReturn line))).drop (byteLength (decorationOf line))
      = (List.range (byteLength (stripDecoration line))).map
          (byteLength (decorationOf line) + ·) := by
  rw [byteLength_stripReturn, List.range_eq_range', ← List.range'_append_1, List.drop_left' (by simp),
    Nat.zero_add, List.range'_eq_map_range]

/-- The origins of the bytes of a line handed on. -/
def FedLine.origins (l : FedLine) : List Position :=
  (List.range (byteLength l.content)).map fun c => ⟨l.line, c + 1 + l.skipped⟩

/-- **Positions in the text handed on, turned back**, where the pieces before are in `front`. -/
lemma map_toSource_linePositions (front : List Piece) (ls : List FedLine) :
    (linePositions front.length (ls.map (·.content))).map (toSource (front ++ piecesOf ls))
      = ls.flatMap FedLine.origins := by
  induction ls generalizing front with
  | nil => rfl
  | cons l ls ih =>
    obtain ⟨p, hp, hline, hskipped⟩ := exists_piecesOf_cons l ls
    have hrest := ih (front ++ [p])
    rw [List.length_append, List.length_singleton, List.append_assoc, List.singleton_append,
      ← hp] at hrest
    rw [List.map_cons, linePositions, List.map_append, hrest, List.flatMap_cons, FedLine.origins,
      List.map_map]
    congr 1
    refine List.map_congr_left fun c _ => ?_
    simp [toSource, hp, hline, hskipped]

/-- What is left of a raw line comes from behind its decoration. -/
lemma origins_own (line : List Char) (index : Nat) :
    (FedLine.own line index).origins = lineContent line index := by
  rw [lineContent, drop_range_decoration, List.map_map, FedLine.origins]
  refine List.map_congr_left fun c _ => ?_
  simp only [FedLine.own, decorationLength_eq, Function.comp_apply, Position.mk.injEq, true_and]
  omega

/-- The bytes of a raw line behind its decoration are those of the stripped line. -/
lemma map_byteIn?_lineContent {lines : List (List Char)} {line : List Char} {index : Nat}
    (h : lines[index]? = some line) :
    (lineContent line index).map (byteIn? lines) = (bytes (stripDecoration line)).map some := by
  obtain ⟨tail, htail⟩ := exists_eq_stripReturn_append line
  have hbytes : bytes line
      = bytes (decorationOf line) ++ (bytes (stripDecoration line) ++ bytes tail) := by
    conv_lhs => rw [htail, ← decorationOf_append, Text.bytes_append, Text.bytes_append]
    rw [List.append_assoc]
  rw [lineContent, drop_range_decoration, List.map_map, List.map_map]
  apply List.ext_getElem?
  intro i
  by_cases hi : i < byteLength (stripDecoration line)
  · have hb : i < (bytes (stripDecoration line)).length := by rwa [Text.length_bytes]
    simp [byteIn?, h, hbytes, List.getElem?_range hi, List.getElem?_append_right,
      List.getElem?_append_left hb, List.getElem?_eq_getElem hb]
  · rw [List.getElem?_eq_none (by simp; omega), List.getElem?_eq_none (by simp; omega)]

/-- The positions of the bytes that are handed on are in increasing order. -/
lemma pairwise_contentPositions (raw : List Char) :
    (contentPositions raw).Pairwise Position.Before := by
  refine List.pairwise_flatMap.2 ⟨fun x _ => ?_, ?_⟩
  · refine List.pairwise_map.2 ((List.pairwise_lt_range.drop).imp fun hab => ?_)
    exact .inr ⟨rfl, Nat.succ_lt_succ hab⟩
  · have hlines : ((Text.splitAt '\n' raw).zipIdx).Pairwise fun x y => x.2 < y.2 := by
      rw [← List.pairwise_map (f := Prod.snd) (R := (· < ·)), List.zipIdx_map_snd]
      exact List.pairwise_lt_range'
    refine hlines.imp fun hlt p hp q hq => ?_
    obtain ⟨c, -, rfl⟩ := List.mem_map.1 hp
    obtain ⟨c', -, rfl⟩ := List.mem_map.1 hq
    exact .inl (Nat.succ_lt_succ hlt)

/-! ## The text handed on -/

section Pieces

variable (settings : Settings) (raw : List Char)

/-- The pieces of a raw comment are those of the lines handed on for it. -/
lemma pieces_eq : pieces settings raw = piecesOf (fedLines settings raw) :=
  piecesFrom_eq settings 0 false _

/-- The text of the pieces is that of the lines handed on, with line ends between them. -/
lemma piecesText_pieces :
    piecesText (pieces settings raw) = join ['\n'] ((fedLines settings raw).map (·.content)) := by
  rw [pieces_eq, piecesText_piecesOf]

/-- The lines of the text handed on. -/
lemma splitAt_piecesText : Text.splitAt '\n' (piecesText (pieces settings raw))
    = (fedLines settings raw).map (·.content) := by
  have hne : fedLines settings raw ≠ [] :=
    fedLinesFrom_ne_nil settings 0 false (Text.splitAt_ne_nil '\n' raw)
  rw [piecesText_pieces]
  exact Text.splitAt_join (by simpa using hne) fun l hl => not_mem_content_fedLines hl

/-- The bytes handed on lie where the bytes of the lines do. -/
lemma contentOffsets_pieces : Text.contentOffsets (piecesText (pieces settings raw))
    = Text.lineOffsets 0 ((fedLines settings raw).map (·.content)) := by
  rw [piecesText_pieces]
  exact Text.contentOffsets_join fun l hl => not_mem_content_fedLines hl

/-- **The bytes handed on come, in order, from behind the decoration of the raw lines.** -/
lemma map_source_contentOffsets :
    (Text.contentOffsets (piecesText (pieces settings raw))).map (fun o =>
      toSource (pieces settings raw)
        (Position.ofOffset (lineStarts (piecesText (pieces settings raw))) o))
      = contentPositions raw := by
  have hclean : ∀ l ∈ (fedLines settings raw).map (·.content), '\n' ∉ l :=
    fun l hl => not_mem_content_fedLines hl
  have hpositions := Text.map_ofOffset_lineOffsets [] 0 (by simp) hclean
  have hback := map_toSource_linePositions [] (fedLines settings raw)
  rw [List.length_nil] at hpositions hback
  rw [← hpositions, List.map_map, List.nil_append, List.nil_append, ← contentOffsets_pieces,
    ← piecesText_pieces, ← pieces_eq] at hback
  have hlines := flatMap_fedLinesFrom (f := FedLine.origins) (fun _ => rfl) settings 0 false
    (Text.splitAt '\n' raw)
  simp only [origins_own] at hlines
  exact hback.trans hlines

/-- The bytes handed on are those of the stripped lines. -/
lemma map_bytes_contentOffsets :
    (Text.contentOffsets (piecesText (pieces settings raw))).map
      (fun o => (bytes (piecesText (pieces settings raw)))[o]?)
      = (contentPositions raw).map (byteIn? (Text.splitAt '\n' raw)) := by
  have hfed := Text.map_getElem?_lineOffsets [] ((fedLines settings raw).map (·.content))
  rw [List.nil_append, List.length_nil, ← contentOffsets_pieces, ← piecesText_pieces,
    List.flatMap_map] at hfed
  have hlines := flatMap_fedLinesFrom (f := fun l => bytes l.content) (fun _ => rfl) settings 0
    false (Text.splitAt '\n' raw)
  rw [hfed, fedLines, hlines, contentPositions, List.map_flatMap, List.map_flatMap]
  refine List.flatMap_congr fun x hx => ?_
  rw [map_byteIn?_lineContent (List.mem_zipIdx_iff_getElem?.1 hx)]
  rfl

end Pieces

/-- **Positions point at the right byte of the raw comment.** Let `text` be what is handed on for a
raw comment. It has as many lines as there are pieces. The position of every byte that is not a line
end, turned back into the raw comment, is the place of the same byte there; these places are, in
order and each once, those of the bytes of the raw comment that belong neither to decoration nor to
a carriage return or line end. What is handed on are the stripped raw lines, joined by line ends,
with blank lines put in between.

**Proof sketch.** The offsets of the bytes that are not line ends are those of the lines handed on,
line by line. The line starts turn them into line and column, and the piece of the line adds what
was stripped there. A line that was put in has no bytes, so what remains are the raw lines behind
their decoration. On both sides the bytes are those of the stripped lines. -/
theorem toSource_points_at_origin (settings : Settings) (raw : List Char) :
    let fed := pieces settings raw
    let text := piecesText fed
    let source := fun o => toSource fed (Position.ofOffset (lineStarts text) o)
    (Text.splitAt '\n' text).length = fed.length ∧
    (∀ o ∈ Text.contentOffsets text, ∃ byte, (bytes text)[o]? = some byte ∧
      byteIn? (Text.splitAt '\n' raw) (source o) = some byte) ∧
    (Text.contentOffsets text).map source = contentPositions raw ∧
    (contentPositions raw).Pairwise Position.Before ∧
    fed = piecesOf (fedLines settings raw) ∧
    text = join ['\n'] ((fedLines settings raw).map (·.content)) ∧
    (∀ l ∈ fedLines settings raw, l.inserted = true → l.content = []) ∧
    join ['\n'] (((fedLines settings raw).filter fun l => !l.inserted).map (·.content))
      = join ['\n'] ((Text.splitAt '\n' raw).map stripDecoration) := by
  intro fed text source
  obtain ⟨hblank, hkept⟩ := inserted_fedLinesFrom settings 0 false (Text.splitAt '\n' raw)
  have hsource : (Text.contentOffsets text).map source = contentPositions raw :=
    map_source_contentOffsets settings raw
  refine ⟨?_, ?_, hsource, pairwise_contentPositions raw, pieces_eq settings raw,
    piecesText_pieces settings raw, hblank, congrArg (join ['\n']) hkept⟩
  · calc (Text.splitAt '\n' text).length
        = (fedLines settings raw).length := by rw [splitAt_piecesText, List.length_map]
      _ = fed.length := by rw [← length_piecesOf, ← pieces_eq]
  · intro o ho
    have hbytes := map_bytes_contentOffsets settings raw
    rw [← hsource, List.map_map] at hbytes
    have hlt : o < (bytes text).length := List.mem_range.1 (List.mem_filter.1 ho).1
    refine ⟨(bytes text)[o], List.getElem?_eq_getElem hlt, ?_⟩
    rw [← List.getElem?_eq_getElem hlt]
    exact (List.map_inj_left.1 hbytes o ho).symm

end Comment

end DocComments
