import DocComments.Proofs.Name.Scopes
import DocComments.Proofs.Name.Spelling

set_option autoImplicit false

/-!
# Texts that leave the nesting as it is

A cursor that reads a text with properly nested brackets comes out of it with the nesting it had, as
long as no operator name takes one of the brackets. Whether one does depends on what stands around the
text, so the texts without operator names are followed character by character, with the character
before and the text behind. The induction is on the nesting: a pair of brackets undoes its own effect,
and what stands between them leaves it alone.

## Main definitions

* `Unnamed` — no operator name starts in a text.
* `Bracketed` — the brackets of a text are properly nested.
* `Cursor.Passes` — what a cursor reads on its way to another one.
* `KeepsNesting` — a text leaves the nesting as it is.

## Main results

* `Cursor.unnamed` — texts that are read without operator names have none.
* `Bracketed.keepsNesting` — a text with nested brackets leaves the nesting as it is.
* `passes_templates` — a template list is left out as a whole.
* `exists_steps_trimStart` — white space at the start of a name changes none of its later tokens.
-/

namespace DocComments.Name

/-! ## Texts without operator names -/

/-- No operator name starts in the text, which stands behind a given character and goes on with a
given tail. -/
def Unnamed (tail : List Char) : Option Char → List Char → Prop
  | _, [] => True
  | before, c :: rest => readOperator? before (c :: rest ++ tail) = none ∧ Unnamed tail (some c) rest

/-- No operator name starts in two texts, the first of which goes on with the second. -/
lemma unnamed_append {tail front back : List Char} {before : Option Char} :
    Unnamed tail before (front ++ back)
      ↔ Unnamed (back ++ tail) before front ∧ Unnamed tail (front.getLast?.or before) back := by
  induction front generalizing before with
  | nil => simp [Unnamed]
  | cons c front ih =>
    rw [getLast?_cons_or, List.cons_append, Unnamed, Unnamed, ih, and_assoc, List.cons_append,
      List.cons_append, List.append_assoc]

/-- A text that starts with no operator name still starts with none if it goes on outside an
identifier. -/
lemma readOperator?_append_eq_none {before : Option Char} {front : List Char} {x : Char}
    (hx : isIdentifier x = false) (h : readOperator? before front = none) (back : List Char) :
    readOperator? before (front ++ x :: back) = none := by
  rw [readOperator?] at h
  rw [readOperator?, isPrefixOf_append_stop (not_mem_operatorWord hx)]
  split
  · rfl
  · rename_i hstart
    rw [if_neg hstart] at h
    have hlength : operatorWord.length ≤ front.length := by
      simp only [Bool.or_eq_true, Bool.not_eq_true', not_or, Bool.not_eq_false] at hstart
      exact (List.isPrefixOf_iff_prefix.1 hstart.1).length_le
    rw [List.drop_append_of_le_length hlength]
    cases hrest : front.drop operatorWord.length with
    | nil =>
      rw [hrest] at h
      cases h
    | cons c rest =>
      have hc : isIdentifier c = true := by
        by_contra hc
        rw [hrest] at h
        simp [hc] at h
      simp [hc]

/-- What is read without operator names has none, whatever it goes on with outside an identifier. -/
lemma Cursor.unnamed {c : Cursor} (h : ∀ s ∈ c.steps, s.isOperator = false) {x : Char}
    (hx : isIdentifier x = false) (back : List Char) : Unnamed (x :: back) c.before c.rest := by
  fun_induction Cursor.steps c with
  | case1 c hbump =>
    rw [bump?_eq_none_iff.1 hbump]
    trivial
  | case2 c token next hbump ih =>
    obtain ⟨hstep, hnext⟩ := List.forall_mem_cons.1 h
    rcases bump?_cases hbump with ⟨rest, hread, rfl⟩ | ⟨char, rest, hread, hrest, rfl, rfl⟩
    · rw [Step.isOperator_of_readOperator? hread] at hstep
      cases hstep
    · have hrec := ih hnext
      rw [pass_before, pass_rest] at hrec
      rw [hrest] at hread ⊢
      exact ⟨readOperator?_append_eq_none hx hread back, hrec⟩

/-- Of the character before only counts whether it belongs to an identifier. -/
lemma unnamed_before {tail text : List Char} {before before' : Option Char}
    (hbefore : before'.any isIdentifier = before.any isIdentifier) (h : Unnamed tail before text) :
    Unnamed tail before' text := by
  cases text with
  | nil => trivial
  | cons c text => exact ⟨(readOperator?_before hbefore _).trans h.1, h.2⟩

/-! ## Nested brackets -/

/-- The angle brackets and parentheses of the text are properly nested. -/
inductive Bracketed : List Char → Prop
  | nil : Bracketed []
  | char {c : Char} {rest : List Char} (hc : c ∉ ['<', '>', '(', ')']) (h : Bracketed rest) :
      Bracketed (c :: rest)
  | angle {inner rest : List Char} (hinner : Bracketed inner) (h : Bracketed rest) :
      Bracketed ('<' :: (inner ++ '>' :: rest))
  | paren {inner rest : List Char} (hinner : Bracketed inner) (h : Bracketed rest) :
      Bracketed ('(' :: (inner ++ ')' :: rest))

namespace Cursor

/-- The cursor passes the given steps on its way to another one. -/
def Passes (c : Cursor) (inside : List Step) (d : Cursor) : Prop :=
  c.steps = inside ++ d.steps ∧ c.finish = d.finish

namespace Passes

/-- A cursor passes nothing on its way to itself. -/
lemma refl (c : Cursor) : c.Passes [] c := ⟨rfl, rfl⟩

/-- A cursor passes one token on its way to the next one. -/
lemma of_bump? {c next : Cursor} {token : List Char} (h : c.bump? = some (token, next)) :
    c.Passes [⟨c, token⟩] next :=
  ⟨steps_of_bump? h, finish_of_bump? h⟩

/-- Two ways, one after the other. -/
lemma trans {c d e : Cursor} {front back : List Step} (h : c.Passes front d) (h' : d.Passes back e) :
    c.Passes (front ++ back) e :=
  ⟨by rw [h.1, h'.1, List.append_assoc], h.2.trans h'.2⟩

end Passes

end Cursor

/-- Read without operator names, the text leaves the nesting as it is, and on its way the cursor does
not leave the template lists it is in. -/
def KeepsNesting (text : List Char) : Prop :=
  ∀ (c : Cursor) (tail : List Char), c.rest = text ++ tail → Unnamed tail c.before text →
    ∃ inside, c.Passes inside { c with before := text.getLast?.or c.before, rest := tail } ∧
      ∀ s ∈ inside, c.angle ≤ s.cursor.angle

namespace KeepsNesting

/-- A pair of brackets around a text that keeps the nesting: the opening one is undone by the closing
one. -/
lemma enclosed {inner : List Char} (hinner : KeepsNesting inner) {opening closing : Char}
    (hclosing : closing ≠ 'o') {c : Cursor} {tail : List Char}
    (hrest : c.rest = opening :: (inner ++ closing :: tail))
    (hopening : readOperator? c.before c.rest = none)
    (hnamed : Unnamed (closing :: tail) (some opening) inner)
    (hundo : ∀ before, ({ c.pass opening (inner ++ closing :: tail) with
      before, rest := closing :: tail } : Cursor).pass closing tail
        = { c with before := some closing, rest := tail }) :
    ∃ inside, c.Passes (⟨c, [opening]⟩ :: inside) { c with before := some closing, rest := tail } ∧
      ∀ s ∈ inside, (c.pass opening (inner ++ closing :: tail)).angle ≤ s.cursor.angle := by
  set next := c.pass opening (inner ++ closing :: tail) with hnext
  have hbefore : next.before = some opening := Cursor.pass_before ..
  obtain ⟨inside, hinside, hangle⟩ := hinner next (closing :: tail) (Cursor.pass_rest ..)
    (hbefore ▸ hnamed)
  set last : Cursor :=
    { next with before := inner.getLast?.or next.before, rest := closing :: tail } with hlast
  have hopen := Cursor.Passes.of_bump? (Cursor.bump?_of_char hopening hrest)
  have hclose : last.Passes [⟨last, [closing]⟩] (last.pass closing tail) :=
    .of_bump? (Cursor.bump?_of_char (readOperator?_of_head hclosing tail) rfl)
  rw [hundo] at hclose
  refine ⟨inside ++ [⟨last, [closing]⟩], hopen.trans (hinside.trans hclose), ?_⟩
  intro s hs
  rcases List.mem_append.1 hs with hs | hs
  · exact hangle s hs
  · rw [List.mem_singleton.1 hs]

/-- A bracket pair around a text that keeps the nesting, with another one behind it, if the closing
bracket undoes what the opening one does. -/
lemma pair {inner text : List Char} (hinner : KeepsNesting inner) (htext : KeepsNesting text)
    {opening closing : Char} (hclosing : closing ≠ 'o')
    (hopening : ∀ (c : Cursor) (rest : List Char), c.angle ≤ (c.pass opening rest).angle)
    (hundo : ∀ (c : Cursor) (before : Option Char) (rest rest' : List Char),
      ({ c.pass opening rest with before, rest := closing :: rest' } : Cursor).pass closing rest'
        = { c with before := some closing, rest := rest' }) :
    KeepsNesting (opening :: (inner ++ closing :: text)) := by
  intro c tail hrest hnamed
  obtain ⟨hfirst, hnext⟩ := hnamed
  obtain ⟨hnamedInner, -, hnamedText⟩ := unnamed_append.1 hnext
  have hassoc : opening :: (inner ++ closing :: text) ++ tail
      = opening :: (inner ++ closing :: (text ++ tail)) := by simp
  rw [hassoc] at hrest hfirst
  obtain ⟨inside, hinside, hangle⟩ := hinner.enclosed hclosing hrest (hrest ▸ hfirst) hnamedInner
    fun before => hundo c before _ _
  obtain ⟨outside, houtside, hangle'⟩ :=
    htext { c with before := some closing, rest := text ++ tail } tail rfl hnamedText
  have hlast : (opening :: (inner ++ closing :: text)).getLast?.or c.before
      = text.getLast?.or (some closing) := by
    rw [← List.cons_append, List.getLast?_append, Option.or_assoc, getLast?_cons_or]
  rw [hlast]
  refine ⟨_, hinside.trans houtside, ?_⟩
  intro s hs
  rcases List.mem_append.1 hs with hs | hs
  · rcases List.mem_cons.1 hs with rfl | hs
    · exact Nat.le_refl _
    · exact (hopening c _).trans (hangle s hs)
  · exact hangle' s hs

end KeepsNesting

/-- **A text with nested brackets leaves the nesting as it is.** -/
lemma Bracketed.keepsNesting {text : List Char} (h : Bracketed text) : KeepsNesting text := by
  induction h with
  | nil =>
    rintro ⟨before, angle, paren, rest⟩ tail rfl -
    exact ⟨[], .refl _, by simp⟩
  | @char char text hc h ih =>
    intro c tail hrest hnamed
    have hpass : c.pass char (text ++ tail) = { c with before := some char, rest := text ++ tail } := by
      unfold Cursor.pass
      split <;> simp_all
    have hread : readOperator? c.before c.rest = none := by
      rw [hrest]
      exact hnamed.1
    have hstep := Cursor.Passes.of_bump? (Cursor.bump?_of_char hread hrest)
    obtain ⟨inside, hinside, hangle⟩ :=
      ih { c with before := some char, rest := text ++ tail } tail rfl hnamed.2
    rw [getLast?_cons_or]
    refine ⟨_, (hpass ▸ hstep).trans hinside, ?_⟩
    exact List.forall_mem_cons.2 ⟨Nat.le_refl _, hangle⟩
  | angle hinner h ihinner ih =>
    exact KeepsNesting.pair ihinner ih (by decide) (fun c rest => Nat.le_succ _) fun _ _ _ _ => rfl
  | paren hinner h ihinner ih =>
    exact KeepsNesting.pair ihinner ih (by decide) (fun c rest => Nat.le_refl _) fun _ _ _ _ => rfl

/-! ## Template lists and white space -/

/-- **A template list is left out as a whole**, and no argument list at the top is opened in it. -/
lemma passes_templates {c : Cursor} {args tail : List Char} (hargs : Bracketed args)
    (hnamed : ∀ s ∈ steps args, s.isOperator = false)
    (hrest : c.rest = '<' :: (args ++ '>' :: tail)) :
    ∃ inside, c.Passes inside { c with before := some '>', rest := tail } ∧
      ∀ s ∈ inside, s.kept = false ∧ s.opensArguments = false := by
  have hread : readOperator? c.before c.rest = none := by
    rw [hrest]
    exact readOperator?_of_head (by decide) _
  have hstart : Unnamed ('>' :: tail) none args :=
    Cursor.unnamed (c := Cursor.start args) (x := '>') hnamed rfl tail
  have hunnamed : Unnamed ('>' :: tail) (some '<') args := unnamed_before (by rfl) hstart
  obtain ⟨inside, hinside, hangle⟩ := hargs.keepsNesting.enclosed (by decide) hrest hread hunnamed
    fun _ => rfl
  refine ⟨_, hinside, List.forall_mem_cons.2 ⟨?_, fun s hs => ?_⟩⟩
  · simp [Step.kept, Step.opensArguments, hrest]
  · have hpos : s.cursor.angle ≠ 0 := by
      have hle : c.angle + 1 ≤ s.cursor.angle := hangle s hs
      omega
    simp [Step.kept, Step.opensArguments, Cursor.atTop, hpos]

/-- White space belongs to no identifier and is no bracket. -/
lemma of_isSpace {c : Char} (hc : Text.isSpace c = true) :
    isIdentifier c = false ∧ c ∉ ['<', '>', '(', ')'] := by
  constructor
  · by_contra hident
    rw [Bool.not_eq_false] at hident
    -- an identifier character is an ASCII one, and there white space is known
    have hlt : c.toNat < 123 := by
      simp only [isIdentifier, Text.isAsciiLetter, Text.isAsciiDigit, Bool.or_eq_true,
        Bool.and_eq_true, decide_eq_true_eq, beq_iff_eq] at hident
      rcases hident with ((⟨-, hle⟩ | ⟨-, hle⟩) | ⟨-, hle⟩) | rfl
      · exact Nat.lt_of_le_of_lt (m := 'z'.toNat) hle (by decide)
      · exact Nat.lt_of_le_of_lt (m := 'Z'.toNat) hle (by decide)
      · exact Nat.lt_of_le_of_lt (m := '9'.toNat) hle (by decide)
      · decide
    have hall : ∀ n < 123, isIdentifier (Char.ofNat n) = true →
        Text.isSpace (Char.ofNat n) = false := by decide +kernel
    have hspace := hall c.toNat hlt
    rw [Char.ofNat_toNat] at hspace
    rw [hspace hident] at hc
    cases hc
  · intro hmem
    have hall : ['<', '>', '(', ')'].all (!Text.isSpace ·) = true := by decide +kernel
    have hspace := List.all_eq_true.1 hall c hmem
    simp [hc] at hspace

/-- The white space at the start of a text is passed without a change of the nesting. -/
lemma passes_trimStart (text : List Char) :
    ∃ (inside : List Step) (before : Option Char), before.any isIdentifier = false ∧
      (Cursor.start text).Passes inside { before, rest := Text.trimStart text } := by
  have hspace : ∀ c ∈ text.takeWhile Text.isSpace, Text.isSpace c = true := fun c hc =>
    List.mem_takeWhile_imp hc
  have hbracketed : Bracketed (text.takeWhile Text.isSpace) := by
    generalize text.takeWhile Text.isSpace = run at hspace
    induction run with
    | nil => exact .nil
    | cons c run ih =>
      obtain ⟨hc, hrun⟩ := List.forall_mem_cons.1 hspace
      exact .char (of_isSpace hc).2 (ih hrun)
  have hunnamed : ∀ before, Unnamed (Text.trimStart text) before (text.takeWhile Text.isSpace) := by
    generalize text.takeWhile Text.isSpace = run at hspace
    induction run with
    | nil => exact fun _ => trivial
    | cons c run ih =>
      obtain ⟨hc, hrun⟩ := List.forall_mem_cons.1 hspace
      have hne : c ≠ 'o' := by
        rintro rfl
        exact absurd hc (by decide +kernel)
      exact fun _ => ⟨readOperator?_of_head hne _, ih hrun _⟩
  obtain ⟨inside, hinside, -⟩ := hbracketed.keepsNesting (Cursor.start text) (Text.trimStart text)
    List.takeWhile_append_dropWhile.symm (hunnamed none)
  refine ⟨inside, _, ?_, hinside⟩
  cases hlast : (text.takeWhile Text.isSpace).getLast? with
  | none => rfl
  | some c => exact (of_isSpace (hspace c (List.mem_of_getLast? hlast))).1

/-- **Without the white space at its start a name has the same tokens**, and stands at the same place
at its end. -/
lemma exists_steps_trimStart (name : List Char) : ∃ (inside : List Step) (before : Option Char),
    before.any isIdentifier = false ∧
      steps name = inside ++ ({ Cursor.start (Text.trimStart name) with before } : Cursor).steps ∧
      (EndsAtTop name ↔ EndsAtTop (Text.trimStart name)) := by
  obtain ⟨inside, before, hbefore, hsteps, hfinish⟩ := passes_trimStart name
  refine ⟨inside, before, hbefore, hsteps, ?_⟩
  have hsame : ({ Cursor.start (Text.trimStart name) with before } : Cursor).finish.atTop
      = (Cursor.start (Text.trimStart name)).finish.atTop := Cursor.atTop_finish_before hbefore
  rw [EndsAtTop, EndsAtTop, hfinish, ← hsame]
  rfl

/-- A regular name stays regular without the white space at its start. -/
lemma Regular.trimStart {name : List Char} (h : Regular name) : Regular (Text.trimStart name) := by
  obtain ⟨inside, before, hbefore, hsteps, -⟩ := exists_steps_trimStart name
  have hlater : ∀ s ∈ ({ Cursor.start (Text.trimStart name) with before } : Cursor).steps,
      s.irregular = false := by
    intro s hs
    refine h s ?_
    rw [hsteps]
    exact List.mem_append_right _ hs
  have hsame : before.any isIdentifier
      = (Cursor.start (Text.trimStart name)).before.any isIdentifier := hbefore
  rcases Cursor.steps_before hsame with ⟨-, -, hnil⟩ | ⟨token, next, hleft, hright, -, -⟩
  · intro s hs
    rw [steps, hnil] at hs
    cases hs
  · rw [hleft] at hlater
    obtain ⟨hfirst, hnext⟩ := List.forall_mem_cons.1 hlater
    have hstart : Step.irregular ⟨Cursor.start (Text.trimStart name), token⟩ = false := by
      obtain ⟨hparen, -⟩ : token ≠ ['('] ∧ _ := by simpa [Step.irregular, Cursor.start] using hfirst
      simp [Step.irregular, Cursor.start, hparen]
    intro s hs
    rw [steps, hright] at hs
    rcases List.mem_cons.1 hs with rfl | hs
    · exact hstart
    · exact hnext s hs

/-- White space at the start of a name stays at the start of what is left of it. -/
lemma stripTemplates_trimStart_suffix (name : List Char) :
    stripTemplates (Text.trimStart name) <:+ stripTemplates name := by
  obtain ⟨inside, before, hbefore, hsteps, -⟩ := exists_steps_trimStart name
  have hsame : text (({ Cursor.start (Text.trimStart name) with before } : Cursor).steps.filter
      Step.kept) = stripTemplates (Text.trimStart name) := by
    rw [stripTemplates_eq]
    exact Cursor.text_filter_kept_before hbefore
  refine ⟨text (inside.filter Step.kept), ?_⟩
  rw [stripTemplates_eq name, hsteps, List.filter_append, text_append, hsame]

end DocComments.Name
