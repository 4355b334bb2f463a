import DocComments.Proofs.Name.Reading

set_option autoImplicit false

/-!
# Names that go on behind a delimiter

A name is read in the same way alone and at the front of a longer text, provided that the name ends or
the text goes on with a character that cannot belong to an operator name, such as a dot or a colon. So
the cursor passes the same tokens with the same nesting, and reaches the rest in the state in which it
leaves the name. In particular a member that is written behind a name is split off again, whatever
brackets, operators and dots the name has.

## Main definitions

* `endsOperator` — the characters that no operator name goes on with.
* `Delimits` — there is such a character where one text goes on with another.
* `Cursor.followedBy` — a cursor in a text that goes on.
* `Cursor.finish` — the cursor at the end of a text.
* `EndsAtTop` — the cursor at the end is outside any list.

## Main results

* `readOperator?_followedBy` — operator names end at a delimiter.
* `Cursor.steps_followedBy` — the tokens of a text that goes on behind a delimiter.
* `splitMember?_append_dot` — a member that is written behind a name is split off again.
-/

namespace DocComments.Name

/-! ## Operator names -/

/-- No operator name goes on with the character. -/
def endsOperator (c : Char) : Bool :=
  !isIdentifier c && c != ' ' && !(['(', ')', '[', ']'].contains c) && !(operatorSymbols.contains c)

section Operators

variable {α : Type} {p : α → Bool} {x : α}

/-- A run ends at an element that does not belong to it. -/
lemma takeWhile_append_stop (hx : p x = false) (front back : List α) :
    (front ++ x :: back).takeWhile p = front.takeWhile p := by
  induction front with
  | nil => simp [hx]
  | cons a front ih =>
    rw [List.cons_append, List.takeWhile_cons, List.takeWhile_cons, ih]

/-- What follows a run that ends at an element that does not belong to it. -/
lemma dropWhile_append_stop (hx : p x = false) (front back : List α) :
    (front ++ x :: back).dropWhile p = front.dropWhile p ++ x :: back := by
  induction front with
  | nil => simp [hx]
  | cons a front ih =>
    rw [List.cons_append, List.dropWhile_cons, List.dropWhile_cons, ih]
    split
    · rfl
    · rfl

/-- A word is not completed by an element that does not occur in it. -/
lemma isPrefixOf_append_stop [BEq α] [LawfulBEq α] {word : List α} (hx : x ∉ word)
    (front back : List α) : word.isPrefixOf (front ++ x :: back) = word.isPrefixOf front := by
  induction word generalizing front with
  | nil => simp
  | cons a word ih =>
    obtain ⟨hax, hword⟩ : x ≠ a ∧ x ∉ word := by simpa using hx
    cases front with
    | nil => simp [List.isPrefixOf, Ne.symm hax]
    | cons b front => rw [List.cons_append, List.isPrefixOf, List.isPrefixOf, ih hword]

end Operators

variable {x : Char}

/-- The symbol of an operator ends at a delimiter. -/
lemma readSymbol_followedBy (hx : endsOperator x = true) (front back : List Char) :
    readSymbol (front ++ x :: back)
      = ((readSymbol front).1, (readSymbol front).2 ++ x :: back) := by
  simp only [endsOperator, Bool.and_eq_true, Bool.not_eq_true'] at hx
  obtain ⟨⟨-, hbracket⟩, hsymbol⟩ := hx
  obtain ⟨hopen, hclose, hopen', hclose'⟩ : x ≠ '(' ∧ x ≠ ')' ∧ x ≠ '[' ∧ x ≠ ']' := by
    simpa using hbracket
  fun_cases readSymbol front with
  | case1 rest => rfl
  | case2 rest => rfl
  | case3 front hround hsquare =>
    -- a bracket pair behind the delimiter's place would have to use the delimiter
    have hround' : ∀ rest, front ++ x :: back = '(' :: ')' :: rest → False := by
      intro rest heq
      rcases front with _ | ⟨a, _ | ⟨b, front⟩⟩
      · simp_all
      · simp_all
      · exact hround front (by simp_all)
    have hsquare' : ∀ rest, front ++ x :: back = '[' :: ']' :: rest → False := by
      intro rest heq
      rcases front with _ | ⟨a, _ | ⟨b, front⟩⟩
      · simp_all
      · simp_all
      · exact hsquare front (by simp_all)
    rw [readSymbol.eq_3 _ hround' hsquare', takeWhile_append_stop hsymbol,
      dropWhile_append_stop hsymbol]

/-- **Operator names end at a delimiter**: what is read in front of one does not depend on it. -/
lemma readOperator?_followedBy (hx : endsOperator x = true) (before : Option Char)
    (front back : List Char) :
    readOperator? before (front ++ x :: back)
      = (readOperator? before front).map fun read => (read.1, read.2 ++ x :: back) := by
  have hsymbol := readSymbol_followedBy hx
  simp only [endsOperator, Bool.and_eq_true, Bool.not_eq_true', bne_iff_ne] at hx
  obtain ⟨⟨⟨hident, hblank⟩, -⟩, -⟩ := hx
  have htake := takeWhile_append_stop (p := (· == ' ')) (x := x) (by simpa using hblank)
  have hdrop := dropWhile_append_stop (p := (· == ' ')) (x := x) (by simpa using hblank)
  rw [readOperator?, readOperator?, isPrefixOf_append_stop (not_mem_operatorWord hident)]
  split
  · rfl
  · rename_i hstart
    have hlength : operatorWord.length ≤ front.length := by
      simp only [Bool.or_eq_true, Bool.not_eq_true', not_or, Bool.not_eq_false] at hstart
      exact (List.isPrefixOf_iff_prefix.1 hstart.1).length_le
    have hhead : ((front.drop operatorWord.length ++ x :: back).head?.any isIdentifier)
        = (front.drop operatorWord.length).head?.any isIdentifier := by
      cases front.drop operatorWord.length with
      | nil => simp [hident]
      | cons a rest => rfl
    simp only [List.drop_append_of_le_length hlength, hhead, htake, hdrop, hsymbol]
    split
    · rfl
    · rfl

/-- The first text ends, or the second one starts, with a delimiter. An empty text does both. -/
def Delimits (front back : List Char) : Prop :=
  (∀ x ∈ front.getLast?, endsOperator x = true) ∨ ∀ x ∈ back.head?, endsOperator x = true

/-- What delimits a text delimits its end. -/
lemma Delimits.of_append {front middle back : List Char} (h : Delimits (front ++ middle) back) :
    Delimits middle back := by
  refine h.imp_left fun hlast x hx => hlast x ?_
  rw [Option.mem_def] at hx ⊢
  rw [List.getLast?_append, hx, Option.some_or]

/-- What is read of a text does not depend on what follows it behind a delimiter. -/
lemma readOperator?_of_delimits {front back : List Char} (h : Delimits front back) (hne : front ≠ [])
    (before : Option Char) :
    readOperator? before (front ++ back)
      = (readOperator? before front).map fun read => (read.1, read.2 ++ back) := by
  rcases h with hlast | hhead
  · -- compare both with the text in front of its last character
    obtain ⟨start, x, rfl⟩ : ∃ start x, front = start ++ [x] := by
      rcases List.eq_nil_or_concat front with hnil | ⟨start, x, hconcat⟩
      · exact absurd hnil hne
      · exact ⟨start, x, by rw [hconcat, List.concat_eq_append]⟩
    have hx : endsOperator x = true := hlast x (by simp)
    rw [readOperator?_followedBy hx, List.append_assoc, List.singleton_append,
      readOperator?_followedBy hx, Option.map_map]
    congr 1
    funext read
    simp
  · cases back with
    | nil => simp
    | cons x back => exact readOperator?_followedBy (hhead x rfl) before front back

/-! ## Cursors -/

/-- The cursor in a text that goes on behind the one it was made for. -/
def Cursor.followedBy (c : Cursor) (tail : List Char) : Cursor :=
  { c with rest := c.rest ++ tail }

/-- The step in a text that goes on behind the one it was made in. -/
def Step.followedBy (tail : List Char) (s : Step) : Step :=
  { s with cursor := s.cursor.followedBy tail }

/-- The cursor at the end of the text. -/
def Cursor.finish (c : Cursor) : Cursor :=
  match _h : c.bump? with
  | none => c
  | some (_, next) => next.finish
termination_by c.rest.length
decreasing_by exact Cursor.bump?_length _h

namespace Cursor

/-- A character is passed in the same way in a text that goes on. -/
lemma pass_followedBy (c : Cursor) (char : Char) (rest tail : List Char) :
    (c.followedBy tail).pass char (rest ++ tail) = (c.pass char rest).followedBy tail := by
  unfold pass followedBy
  split <;> rfl

/-- The end of the text is the same from the next token on. -/
lemma finish_of_bump? {c next : Cursor} {token : List Char} (h : c.bump? = some (token, next)) :
    c.finish = next.finish := by
  rw [finish]
  split
  · rename_i hbump
    rw [h] at hbump
    cases hbump
  · rename_i hbump
    rw [h] at hbump
    cases hbump
    rfl

/-- A cursor with nothing left is at the end. -/
lemma finish_of_nil {c : Cursor} (h : c.rest = []) : c.finish = c := by
  rw [finish]
  split
  · rfl
  · rename_i hbump
    rw [bump?_eq_none_iff.2 h] at hbump
    cases hbump

/-- At the end of the text nothing is left. -/
lemma rest_finish (c : Cursor) : c.finish.rest = [] := by
  fun_induction finish c with
  | case1 c h => exact bump?_eq_none_iff.1 h
  | case2 c token next h ih => exact ih

/-- The character before the end of the text is its last one. -/
lemma before_finish (c : Cursor) : c.finish.before = c.rest.getLast?.or c.before := by
  fun_induction finish c with
  | case1 c h => rw [bump?_eq_none_iff.1 h, List.getLast?_nil, Option.none_or]
  | case2 c token next h ih =>
    have hnext : next.before = token.getLast? := by
      rcases bump?_cases h with ⟨rest, -, rfl⟩ | ⟨char, rest, -, -, rfl, rfl⟩
      · rfl
      · exact pass_before ..
    rw [ih, hnext, ← bump?_append h, List.getLast?_append, Option.or_assoc,
      List.getLast?_eq_some_getLast (bump?_token_ne_nil h), Option.some_or]

/-- The token at a cursor does not depend on what follows a delimiter. -/
lemma bump?_followedBy {c next : Cursor} {token back : List Char} (hd : Delimits c.rest back)
    (h : c.bump? = some (token, next)) :
    (c.followedBy back).bump? = some (token, next.followedBy back) := by
  have hne : c.rest ≠ [] := by
    intro hnil
    rw [bump?_eq_none_iff.2 hnil] at h
    cases h
  have hread : readOperator? (c.followedBy back).before (c.followedBy back).rest
      = (readOperator? c.before c.rest).map fun read => (read.1, read.2 ++ back) :=
    readOperator?_of_delimits hd hne c.before
  rcases bump?_cases h with ⟨rest, hoperator, rfl⟩ | ⟨char, rest, hoperator, hrest, rfl, rfl⟩
  · rw [hoperator] at hread
    exact bump?_of_operator hread
  · rw [hoperator] at hread
    rw [← pass_followedBy]
    exact bump?_of_char hread (by simp [followedBy, hrest])

/-- **The tokens of a text that goes on behind a delimiter**: first those of the text alone, then
those of the rest, which is reached in the state at the end of the text. -/
lemma steps_followedBy {c : Cursor} {back : List Char} (hd : Delimits c.rest back) :
    (c.followedBy back).steps
      = c.steps.map (Step.followedBy back) ++ (c.finish.followedBy back).steps := by
  fun_induction steps c with
  | case1 c h => rw [finish_of_nil (bump?_eq_none_iff.1 h), List.map_nil, List.nil_append]
  | case2 c token next h ih =>
    have hnext : Delimits next.rest back := by
      rw [← bump?_append h] at hd
      exact hd.of_append
    rw [finish_of_bump? h, List.map_cons, List.cons_append, ← ih hnext,
      steps_of_bump? (bump?_followedBy hd h)]
    rfl

/-- **The end of a text that goes on behind a delimiter** is reached from the end of the text
alone. -/
lemma finish_followedBy {c : Cursor} {back : List Char} (hd : Delimits c.rest back) :
    (c.followedBy back).finish = (c.finish.followedBy back).finish := by
  fun_induction finish c with
  | case1 c h => rfl
  | case2 c token next h ih =>
    have hnext : Delimits next.rest back := by
      rw [← bump?_append h] at hd
      exact hd.of_append
    rw [finish_of_bump? (bump?_followedBy hd h), ih hnext]

/-- Every token is read from what the cursor had to read. -/
lemma suffix_of_mem_steps {c : Cursor} {s : Step} (h : s ∈ c.steps) : s.cursor.rest <:+ c.rest := by
  fun_induction steps c with
  | case1 c hbump => cases h
  | case2 c token next hbump ih =>
    rcases List.mem_cons.1 h with rfl | h
    · exact List.suffix_refl _
    · exact (ih h).trans ⟨token, bump?_append hbump⟩

end Cursor

/-- An argument list opens at the same tokens in a text that goes on. -/
lemma Step.opensArguments_followedBy {c : Cursor} {s : Step} (h : s ∈ c.steps) (tail : List Char) :
    (s.followedBy tail).opensArguments = s.opensArguments := by
  obtain ⟨next, hbump⟩ := Cursor.exists_bump?_of_mem h
  cases hrest : s.cursor.rest with
  | nil =>
    rw [Cursor.bump?_eq_none_iff.2 hrest] at hbump
    cases hbump
  | cons c rest => simp [opensArguments, followedBy, Cursor.followedBy, Cursor.atTop, hrest]

/-- The same tokens are kept in a text that goes on. -/
lemma text_filter_followedBy (tail : List Char) (front : List Step) :
    text ((front.map (Step.followedBy tail)).filter Step.kept) = text (front.filter Step.kept) := by
  rw [List.filter_map]
  simp only [text, List.flatMap_map]
  rfl

/-! ## Members -/

/-- The name is read to an end outside any template or argument list. -/
def EndsAtTop (name : List Char) : Prop :=
  (Cursor.start name).finish.atTop = true

/-- Whether a name ends outside any list is decided by reading it to its end. -/
instance (name : List Char) : Decidable (EndsAtTop name) :=
  inferInstanceAs (Decidable (_ = true))

/-- A dot is a token of its own. -/
lemma Cursor.steps_of_dot {c : Cursor} {rest : List Char} (h : c.rest = '.' :: rest) :
    c.steps = ⟨c, ['.']⟩ :: (c.pass '.' rest).steps := by
  have hread : readOperator? c.before c.rest = none := by
    rw [h]
    exact readOperator?_of_head (by decide) rest
  exact steps_of_bump? (bump?_of_char hread h)

/-- The cursor at a dot that is written behind a name, with a member behind it. -/
def Cursor.atDot (name member : List Char) : Cursor :=
  (Cursor.start name).finish.followedBy ('.' :: member)

/-- At the dot, the dot and the member are left. -/
lemma Cursor.rest_atDot (name member : List Char) : (atDot name member).rest = '.' :: member := by
  rw [atDot, followedBy, rest_finish]
  rfl

/-- The tokens of a name with a dot in it: a dot belongs to no operator name. -/
lemma steps_append_dot (name member : List Char) :
    steps (name ++ '.' :: member)
      = (steps name).map (Step.followedBy ('.' :: member)) ++ (Cursor.atDot name member).steps :=
  Cursor.steps_followedBy (c := Cursor.start name) (.inr fun x hx => by cases hx; rfl)

/-- A dot in front of a text without dots is a member dot, and the only one from there on. -/
lemma find?_isMemberDot_dot {c : Cursor} {member : List Char} (htop : c.atTop = true)
    (hrest : c.rest = '.' :: member) (hdots : '.' ∉ member) :
    c.steps.reverse.find? (·.isMemberDot) = some ⟨c, ['.']⟩ := by
  have hlater : (c.pass '.' member).steps.reverse.find? (·.isMemberDot) = none := by
    rw [List.find?_eq_none]
    intro s hs hdot
    have hsuffix := Cursor.suffix_of_mem_steps (List.mem_reverse.1 hs)
    rw [Cursor.pass_rest] at hsuffix
    simp only [Step.isMemberDot, Bool.and_eq_true, beq_iff_eq] at hdot
    exact hdots (hsuffix.subset (List.mem_of_head? hdot.1.2))
  have hdot : Step.isMemberDot ⟨c, ['.']⟩ = true := by
    have hellipsis : ['.', '.', '.'].isPrefixOf ('.' :: member) = false := by
      cases member with
      | nil => rfl
      | cons a member =>
        have ha : a ≠ '.' := fun heq => hdots (by simp [heq])
        simp [List.isPrefixOf, Ne.symm ha]
    simp [Step.isMemberDot, htop, hrest, hellipsis]
  rw [Cursor.steps_of_dot hrest, List.reverse_cons, List.find?_append, hlater]
  simp [hdot]

/-- **A member that is written behind a name is split off again**, whatever brackets, operators and
dots the name has, as long as the name is read to an end outside any list. -/
theorem splitMember?_append_dot {name member : List Char} (hname : name ≠ [])
    (htop : EndsAtTop name) (hmember : member ≠ []) (hdots : '.' ∉ member) :
    splitMember? (name ++ '.' :: member) = some (name, member) := by
  have hrest := Cursor.rest_atDot name member
  have hfind : (steps (name ++ '.' :: member)).reverse.find? (·.isMemberDot)
      = some ⟨Cursor.atDot name member, ['.']⟩ := by
    have htop' : (Cursor.atDot name member).atTop = true := htop
    rw [steps_append_dot, List.reverse_append, List.find?_append,
      find?_isMemberDot_dot htop' hrest hdots]
    rfl
  rw [splitMember?, hfind]
  simp [hrest, hname, hmember]

end DocComments.Name
