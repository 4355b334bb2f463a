import DocComments.Proofs.Text.Lines
import Mathlib.Data.List.Induction
import Mathlib.Data.List.TakeWhile

set_option autoImplicit false

/-!
# Slices of a text, and ASCII bytes

A text may be cut at byte offsets. That is possible just where a character starts or the text ends, and
a cut anywhere else is an error. So whoever computes offsets on the bytes of a text has to know that
they are character boundaries. They are if they come from tests for ASCII characters: the bytes of all
other characters lie beyond ASCII, so that such a test sees the same on the bytes as on the characters.

## Main definitions

* `Text.slice?` — the text between two byte offsets, if there are characters to cut out.
* `Text.asciiByte` — the byte of an ASCII character.
* `Text.AsciiTest` — a test on characters and one on bytes that agree.

## Main results

* `Text.slice?_eq_some_iff` — which offsets a text can be cut at.
* `Text.bytes_cons_ascii`, `Text.beyond_of_mem_encode` — the bytes of a character.
* `Text.AsciiTest.bytes_takeWhile`, `Text.AsciiTest.bytes_dropWhile` — runs of characters and of bytes.
* `Text.isPrefixOf_bytes` — ASCII words at the front of a text.
-/

namespace DocComments.Text

/-! ## Cutting a text -/

/-- The text before and behind a byte offset, if a character starts or the text ends there. -/
def cut? : List Char → Nat → Option (List Char × List Char)
  | text, 0 => some ([], text)
  | [], _ + 1 => none
  | c :: text, n + 1 =>
    if c.utf8Size ≤ n + 1 then
      (cut? text (n + 1 - c.utf8Size)).map fun (front, back) => (c :: front, back)
    else none

/-- The text between two byte offsets, if both are character boundaries and the first is not behind the
second. -/
def slice? (text : List Char) (start stop : Nat) : Option (List Char) :=
  if start ≤ stop then do
    let (_, back) ← cut? text start
    let (piece, _) ← cut? back (stop - start)
    return piece
  else none

/-- A text can be cut behind each of its fronts. -/
lemma cut?_append (front back : List Char) :
    cut? (front ++ back) (byteLength front) = some (front, back) := by
  induction front with
  | nil => simp [cut?]
  | cons c front ih =>
    have hpos := Char.utf8Size_pos c
    obtain ⟨n, hn⟩ : ∃ n, byteLength (c :: front) = n + 1 :=
      ⟨byteLength (c :: front) - 1, by rw [byteLength_cons]; omega⟩
    have hrest : n + 1 - c.utf8Size = byteLength front := by
      rw [← hn, byteLength_cons]
      omega
    have hle : c.utf8Size ≤ n + 1 := by
      rw [← hn, byteLength_cons]
      omega
    rw [hn, List.cons_append, cut?, if_pos hle, hrest, ih]
    rfl

/-- **Where a text can be cut**: behind its fronts only. -/
lemma cut?_eq_some_iff {text front back : List Char} {n : Nat} :
    cut? text n = some (front, back) ↔ text = front ++ back ∧ byteLength front = n := by
  refine ⟨fun h => ?_, fun ⟨htext, hn⟩ => by rw [htext, ← hn, cut?_append]⟩
  fun_induction cut? text n generalizing front with
  | case1 text =>
    cases h
    exact ⟨rfl, rfl⟩
  | case2 n => cases h
  | case3 c text n hle ih =>
    obtain ⟨⟨rest, back'⟩, hcut, heq⟩ := Option.map_eq_some_iff.1 h
    obtain ⟨rfl, rfl⟩ := Prod.mk.inj heq
    obtain ⟨rfl, hlength⟩ := ih hcut
    refine ⟨rfl, ?_⟩
    rw [byteLength_cons, hlength]
    omega
  | case4 c text n hle => cases h

/-- A text has only one front of a given length in bytes. -/
lemma append_inj_byteLength {front front' back back' : List Char}
    (h : front ++ back = front' ++ back') (hlength : byteLength front = byteLength front') :
    front = front' ∧ back = back' := by
  have hcut := cut?_append front back
  rw [h, hlength, cut?_append] at hcut
  simpa [eq_comm] using hcut

/-- **Which offsets a text can be cut at**: those that have a whole number of characters before them. -/
theorem slice?_eq_some_iff {text piece : List Char} {start stop : Nat} :
    slice? text start stop = some piece ↔ ∃ front back, text = front ++ (piece ++ back) ∧
      byteLength front = start ∧ byteLength (front ++ piece) = stop := by
  rw [slice?]
  constructor
  · intro h
    split at h
    · rename_i hle
      obtain ⟨⟨front, rest⟩, hfront, h⟩ := Option.bind_eq_some_iff.1 h
      obtain ⟨⟨piece', back⟩, hpiece, h⟩ := Option.bind_eq_some_iff.1 h
      cases h
      obtain ⟨rfl, hstart⟩ := cut?_eq_some_iff.1 hfront
      obtain ⟨rfl, hstop⟩ := cut?_eq_some_iff.1 hpiece
      refine ⟨front, back, rfl, hstart, ?_⟩
      rw [byteLength_append]
      omega
    · cases h
  · rintro ⟨front, back, rfl, rfl, rfl⟩
    have hlength : byteLength (front ++ piece) - byteLength front = byteLength piece := by
      rw [byteLength_append]
      omega
    rw [if_pos (by rw [byteLength_append]; omega), cut?_append, hlength]
    simp [cut?_append]

example : slice? ['a', 'ß', 'b'] 1 3 = some ['ß'] := by decide

example : slice? ['a', 'ß', 'b'] 1 2 = none := by decide

/-- Only the empty text has no bytes. -/
lemma byteLength_eq_zero_iff (text : List Char) : byteLength text = 0 ↔ text = [] := by
  cases text with
  | nil => simp
  | cons c text =>
    have hpos := Char.utf8Size_pos c
    simp only [byteLength_cons, reduceCtorEq, iff_false]
    omega

/-- The bytes behind those of a front. -/
lemma drop_bytes (front back : List Char) :
    (bytes (front ++ back)).drop (byteLength front) = bytes back := by
  rw [bytes_append, ← length_bytes, List.drop_left]

/-- The offsets of a piece cut it out of a text. -/
lemma slice?_middle (front piece back : List Char) :
    slice? (front ++ (piece ++ back)) (byteLength front) (byteLength (front ++ piece))
      = some piece :=
  slice?_eq_some_iff.2 ⟨front, back, rfl, rfl, rfl⟩

/-- The back of a text is cut out from where it starts to the end. -/
lemma slice?_back (front back : List Char) :
    slice? (front ++ back) (byteLength front) (byteLength (front ++ back)) = some back := by
  have h := slice?_middle front back []
  rwa [List.append_nil] at h

/-! ## The bytes of a character -/

/-- The byte of an ASCII character. -/
def asciiByte (c : Char) : UInt8 :=
  UInt8.ofNat c.toNat

/-- The byte lies beyond ASCII. -/
def beyondAscii (byte : UInt8) : Bool :=
  128 ≤ byte

/-- The empty text has no bytes. -/
@[simp]
lemma bytes_nil : bytes [] = [] := rfl

/-- The bytes of the first character and of the others. -/
lemma bytes_cons (c : Char) (text : List Char) :
    bytes (c :: text) = String.utf8EncodeChar c ++ bytes text := rfl

/-- An ASCII character is its byte. -/
lemma encode_ascii {c : Char} (hc : c.toNat < 128) : String.utf8EncodeChar c = [asciiByte c] := by
  have hsize : c.utf8Size = 1 := by
    rw [Char.utf8Size_eq_one_iff, UInt32.le_iff_toNat_le]
    exact Nat.le_of_lt_succ hc
  rw [String.utf8EncodeChar_eq_singleton hsize]
  rfl

/-- What holds of all ASCII codes holds of all ASCII characters. -/
lemma forall_ascii {P : Char → Prop} (h : ∀ n < 128, P (Char.ofNat n)) {c : Char}
    (hc : c.toNat < 128) : P c := by
  have hcode := h c.toNat hc
  rwa [Char.ofNat_toNat] at hcode

/-- An ASCII character at the start is a single byte. -/
lemma bytes_cons_ascii {c : Char} (hc : c.toNat < 128) (text : List Char) :
    bytes (c :: text) = asciiByte c :: bytes text := by
  rw [bytes_cons, encode_ascii hc, List.singleton_append]

/-- **The bytes of a character beyond ASCII lie beyond ASCII.** -/
lemma beyond_of_mem_encode {c : Char} (hc : 128 ≤ c.toNat) {byte : UInt8}
    (h : byte ∈ String.utf8EncodeChar c) : beyondAscii byte = true := by
  have hval : 128 ≤ c.val.toNat := hc
  rw [beyondAscii, decide_eq_true_iff, UInt8.le_iff_toNat_le]
  simp only [String.utf8EncodeChar] at h
  have h128 : (128 : UInt8).toNat = 128 := rfl
  split_ifs at h
  all_goals
    simp only [List.mem_cons, List.not_mem_nil, or_false, ← UInt8.toNat_inj, UInt8.toNat_ofNat'] at h
    omega

/-- The byte of an ASCII character does not lie beyond ASCII. -/
lemma beyondAscii_asciiByte {c : Char} (hc : c.toNat < 128) : beyondAscii (asciiByte c) = false := by
  rw [beyondAscii, decide_eq_false_iff_not, UInt8.le_iff_toNat_le, asciiByte, UInt8.toNat_ofNat']
  have h128 : (128 : UInt8).toNat = 128 := rfl
  omega

/-- A byte beyond ASCII is that of no ASCII character. -/
lemma ne_asciiByte_of_beyond {byte : UInt8} (hbyte : beyondAscii byte = true) {c : Char}
    (hc : c.toNat < 128) : byte ≠ asciiByte c := by
  rintro rfl
  rw [beyondAscii_asciiByte hc] at hbyte
  cases hbyte

/-- Every character has a byte. -/
lemma encode_ne_nil (c : Char) : String.utf8EncodeChar c ≠ [] := by
  intro h
  have hlength := String.length_utf8EncodeChar c
  rw [h] at hlength
  exact absurd (Char.utf8Size_pos c) (by rw [← hlength]; exact Nat.lt_irrefl 0)

/-! ## Tests for ASCII characters -/

/-- A test on characters and one on bytes that agree: on ASCII they see the same, and beyond it both
fail. -/
structure AsciiTest (p : Char → Bool) (q : UInt8 → Bool) : Prop where
  ascii : ∀ c : Char, c.toNat < 128 → q (asciiByte c) = p c
  char : ∀ c : Char, 128 ≤ c.toNat → p c = false
  byte : ∀ byte, beyondAscii byte = true → q byte = false

namespace AsciiTest

variable {p : Char → Bool} {q : UInt8 → Bool} (h : AsciiTest p q)

include h

/-- A run of characters ends where the run of its bytes does. -/
lemma bytes_takeWhile (text : List Char) : bytes (text.takeWhile p) = (bytes text).takeWhile q := by
  induction text with
  | nil => rfl
  | cons c text ih =>
    rcases Nat.lt_or_ge c.toNat 128 with hc | hc
    · rw [bytes_cons_ascii hc, List.takeWhile_cons, List.takeWhile_cons, h.ascii c hc, ← ih]
      split
      · exact bytes_cons_ascii hc _
      · rfl
    · have hstop : ∀ byte ∈ String.utf8EncodeChar c, q byte = false := fun byte hbyte =>
        h.byte byte (beyond_of_mem_encode hc hbyte)
      rw [List.takeWhile_cons_of_neg (by simp [h.char c hc]), bytes_cons]
      cases hbytes : String.utf8EncodeChar c with
      | nil => exact absurd hbytes (encode_ne_nil c)
      | cons byte others =>
        rw [List.cons_append, List.takeWhile_cons_of_neg (by simp [hstop byte (by simp [hbytes])])]
        rfl

/-- What is left behind a run of characters is left behind the run of its bytes. -/
lemma bytes_dropWhile (text : List Char) : bytes (text.dropWhile p) = (bytes text).dropWhile q := by
  have happend : bytes (text.takeWhile p) ++ bytes (text.dropWhile p)
      = (bytes text).takeWhile q ++ (bytes text).dropWhile q := by
    rw [← bytes_append, List.takeWhile_append_dropWhile, List.takeWhile_append_dropWhile]
  rw [h.bytes_takeWhile] at happend
  exact List.append_cancel_left happend

/-- The first byte passes the test if the first character does. -/
lemma head?_bytes (text : List Char) : (bytes text).head?.any q = text.head?.any p := by
  cases text with
  | nil => rfl
  | cons c text =>
    rcases Nat.lt_or_ge c.toNat 128 with hc | hc
    · rw [bytes_cons_ascii hc]
      exact h.ascii c hc
    · have hhead : (bytes (c :: text)).head? = (String.utf8EncodeChar c).head? := by
        rw [bytes_cons, List.head?_append, List.head?_eq_some_head (encode_ne_nil c), Option.some_or]
      rw [hhead, List.head?_eq_some_head (encode_ne_nil c)]
      exact (h.byte _ (beyond_of_mem_encode hc (List.head_mem _))).trans (h.char c hc).symm

/-- The last byte passes the test if the last character does. -/
lemma getLast?_bytes (text : List Char) : (bytes text).getLast?.any q = text.getLast?.any p := by
  cases text using List.reverseRecOn with
  | nil => rfl
  | append_singleton text c =>
    have hlast : (bytes (text ++ [c])).getLast? = (String.utf8EncodeChar c).getLast? := by
      rw [bytes_append, bytes_cons, bytes_nil, List.append_nil, List.getLast?_append,
        List.getLast?_eq_some_getLast (encode_ne_nil c), Option.some_or]
    rw [hlast, List.getLast?_append, List.getLast?_singleton, Option.some_or]
    rcases Nat.lt_or_ge c.toNat 128 with hc | hc
    · rw [encode_ascii hc]
      exact h.ascii c hc
    · rw [List.getLast?_eq_some_getLast (encode_ne_nil c)]
      exact (h.byte _ (beyond_of_mem_encode hc (List.getLast_mem _))).trans (h.char c hc).symm

end AsciiTest

/-- ASCII characters with the same byte are the same. -/
lemma asciiByte_inj {c d : Char} (hc : c.toNat < 128) (hd : d.toNat < 128) :
    asciiByte c = asciiByte d ↔ c = d := by
  refine ⟨fun h => ?_, fun h => h ▸ rfl⟩
  have hnat := congrArg UInt8.toNat h
  simp only [asciiByte, UInt8.toNat_ofNat'] at hnat
  have hval : c.toNat = d.toNat := by omega
  rw [← Char.ofNat_toNat c, hval, Char.ofNat_toNat]

/-- The test for one ASCII character. -/
lemma AsciiTest.beq {c : Char} (hc : c.toNat < 128) : AsciiTest (· == c) (· == asciiByte c) where
  ascii d hd := by rw [Bool.eq_iff_iff, beq_iff_eq, beq_iff_eq, asciiByte_inj hd hc]
  char d hd := beq_eq_false_iff_ne.2 (by rintro rfl; omega)
  byte byte hbyte := beq_eq_false_iff_ne.2 (ne_asciiByte_of_beyond hbyte hc)

/-- **ASCII words at the front of a text** are those at the front of its bytes. -/
lemma isPrefixOf_bytes {word : List Char} (hword : word.all (·.toNat < 128) = true) (text : List Char) :
    (bytes word).isPrefixOf (bytes text) = word.isPrefixOf text := by
  induction word generalizing text with
  | nil => simp
  | cons d word ih =>
    rw [List.all_cons, Bool.and_eq_true, decide_eq_true_iff] at hword
    obtain ⟨hd, hword⟩ := hword
    rw [bytes_cons_ascii hd]
    cases text with
    | nil => rfl
    | cons c text =>
      rcases Nat.lt_or_ge c.toNat 128 with hc | hc
      · have hsame : (asciiByte d == asciiByte c) = (d == c) := by
          rw [Bool.eq_iff_iff, beq_iff_eq, beq_iff_eq, asciiByte_inj hd hc]
        rw [bytes_cons_ascii hc, List.isPrefixOf, List.isPrefixOf, ih hword, hsame]
      · have hne : (d == c) = false := beq_eq_false_iff_ne.2 (by rintro rfl; omega)
        rw [List.isPrefixOf, hne, Bool.false_and, bytes_cons]
        cases hbytes : String.utf8EncodeChar c with
        | nil => exact absurd hbytes (encode_ne_nil c)
        | cons byte others =>
          have hmem : byte ∈ String.utf8EncodeChar c := by simp [hbytes]
          have hne : (asciiByte d == byte) = false :=
            beq_eq_false_iff_ne.2 (ne_asciiByte_of_beyond (beyond_of_mem_encode hc hmem) hd).symm
          rw [List.cons_append, List.isPrefixOf, hne, Bool.false_and]

end DocComments.Text
