import DocComments.Proofs.Name.Bytes
import DocComments.Proofs.Name.Signature

set_option autoImplicit false

/-!
# The forms of a name, cut out of its bytes

The forms of a name can be computed on its bytes: cursors find the byte offsets, and the name is cut
there. A cut inside a character would be an error, so the forms are defined here with cuts that may fail.
They never do, and the forms are those of the characters: cursors on bytes find what they look for at
the places of cursors on characters only.

## Main definitions

* `sliceSignature?`, `sliceMember?`, `sliceTemplates?`, `sliceScopes?` — the forms of a name, by cuts
  at byte offsets that may fail.

## Main results

* `sliceSignature?_eq`, `sliceMember?_eq`, `sliceTemplates?_eq`, `sliceScopes?_eq` — no cut fails, and
  the forms are those of the characters.
* `bytes_scan_agrees` — the scanners on bytes and on characters agree.
-/

namespace DocComments.Name

open Text (bytes byteLength asciiByte slice?)

/-! ## The forms -/

namespace ByteCursor

/-- The cursor is at a bracket that opens an argument list at the top. -/
def opensArguments (c : ByteCursor) : Bool :=
  c.atTop && c.peek? == some (asciiByte '(')

/-- The cursor is at a dot outside any list that does not start an ellipsis. -/
def isMemberDot (c : ByteCursor) : Bool :=
  c.atTop && c.peek? == some (asciiByte '.') && !c.startsWith (bytes ['.', '.', '.'])

/-- The cursor is at a `::` outside any list. -/
def isSeparator (c : ByteCursor) : Bool :=
  c.atTop && c.startsWith (bytes [':', ':'])

/-- The cursor never goes back. -/
lemma offset_le_bump (c : ByteCursor) : c.offset ≤ c.bump.offset := by
  rcases Nat.lt_or_ge c.offset c.text.length with h | h
  · exact Nat.le_of_lt (offset_lt_bump h)
  · rw [bump, peek?, List.getElem?_eq_none h]

/-- The components of a name from a cursor on, the first of which starts at an offset before it. A
separator takes two tokens. -/
def sliceScopes? (name : List Char) (start : Nat) (c : ByteCursor) : Option (List (List Char)) :=
  if _h : c.offset < c.text.length then
    if c.isSeparator then do
      let part ← slice? name start c.offset
      let others ← c.bump.bump.sliceScopes? name c.bump.bump.offset
      return part :: others
    else c.bump.sliceScopes? name start
  else (slice? name start (byteLength name)).map ([·])
termination_by c.text.length - c.offset
decreasing_by
  · have := offset_lt_bump _h
    have := offset_le_bump c.bump
    rw [bump_text, bump_text]
    omega
  · have := offset_lt_bump _h
    rw [bump_text]
    omega

end ByteCursor

/-- The name up to its argument list. -/
def sliceSignature? (name : List Char) : Option (List Char) :=
  match (ByteCursor.start name).run.find? ByteCursor.opensArguments with
  | none => some name
  | some c => slice? name 0 c.offset

/-- The name split at its last member dot, if both sides have something. -/
def sliceMember? (name : List Char) : Option (Option (List Char × List Char)) :=
  match ((ByteCursor.start name).run.filter ByteCursor.isMemberDot).getLast? with
  | none => some none
  | some c =>
    if 0 < c.offset ∧ c.offset + 1 < byteLength name then do
      let owner ← slice? name 0 c.offset
      let member ← slice? name (c.offset + 1) (byteLength name)
      return some (owner, member)
    else some none

/-- The components of a name between the `::` outside template and argument lists. -/
def sliceScopes? (name : List Char) : Option (List (List Char)) :=
  (ByteCursor.start name).sliceScopes? name 0

/-- Removes template arguments from an offset on, given how many template lists are open there. -/
def sliceTemplatesFrom? (name : List Char) (depth offset : Nat) : Option (List Char) :=
  match _h : slice? name offset (byteLength name) with
  | none => none
  | some [] => some []
  | some (c :: _) =>
    if _hoperator : 0 < operatorLength (bytes name) offset then do
      let token ← if depth == 0 then slice? name offset (offset + operatorLength (bytes name) offset)
        else some []
      let others ← sliceTemplatesFrom? name depth (offset + operatorLength (bytes name) offset)
      return token ++ others
    else if c == '<' then sliceTemplatesFrom? name (depth + 1) (offset + c.utf8Size)
    else if c == '>' && depth > 0 then sliceTemplatesFrom? name (depth - 1) (offset + c.utf8Size)
    else if depth == 0 then (sliceTemplatesFrom? name depth (offset + c.utf8Size)).map (c :: ·)
    else sliceTemplatesFrom? name depth (offset + c.utf8Size)
termination_by byteLength name - offset
decreasing_by
  all_goals
    obtain ⟨front, back, htext, hstart, -⟩ := Text.slice?_eq_some_iff.1 _h
    have hlength := congrArg byteLength htext
    have hpos := Char.utf8Size_pos c
    simp only [List.cons_append, Text.byteLength_append, Text.byteLength_cons] at hlength
    omega

/-- The name without its template argument lists. -/
def sliceTemplates? (name : List Char) : Option (List Char) :=
  sliceTemplatesFrom? name 0 0

/-! ## Places that are found -/

namespace ByteCursor

/-- No argument list opens at a byte beyond ASCII. -/
lemma opensArguments_of_isBeyond {c : ByteCursor} (h : c.isBeyond = true) :
    c.opensArguments = false := by
  rw [opensArguments, peek?_ne_of_isBeyond h (by decide), Bool.and_false]

/-- A byte beyond ASCII is no dot. -/
lemma isMemberDot_of_isBeyond {c : ByteCursor} (h : c.isBeyond = true) : c.isMemberDot = false := by
  rw [isMemberDot, peek?_ne_of_isBeyond h (by decide), Bool.and_false, Bool.false_and]

/-- No separator starts at a byte beyond ASCII. -/
lemma isSeparator_of_isBeyond {c : ByteCursor} (h : c.isBeyond = true) : c.isSeparator = false := by
  rw [isSeparator, startsWith_of_isBeyond h (by decide), Bool.and_false]

/-- The bytes open an argument list where the characters do. -/
lemma opensArguments_behind (front : List Char) (s : Step) :
    (behind front s.cursor).opensArguments = s.opensArguments := by
  rw [opensArguments, peek?_behind_beq front s.cursor (by decide)]
  rfl

/-- The bytes have a member dot where the characters have one. -/
lemma isMemberDot_behind (front : List Char) (s : Step) :
    (behind front s.cursor).isMemberDot = s.isMemberDot := by
  rw [isMemberDot, peek?_behind_beq front s.cursor (by decide),
    startsWith_behind front s.cursor (by decide)]
  rfl

/-- The bytes have a separator where the characters have one. -/
lemma isSeparator_behind (front : List Char) (s : Step) :
    (behind front s.cursor).isSeparator = s.isSeparator := by
  rw [isSeparator, startsWith_behind front s.cursor (by decide)]
  rfl

end ByteCursor

/-! ## Argument lists and members -/

/-- The first argument list is found at the same place in the bytes. -/
lemma find?_opensArguments_run (name : List Char) :
    (ByteCursor.start name).run.find? ByteCursor.opensArguments
      = ((steps name).find? Step.opensArguments).map (ByteCursor.place name) := by
  have hfilter := ByteCursor.filter_run (fun _ => ByteCursor.opensArguments_of_isBeyond)
    ByteCursor.opensArguments_behind [] (c := Cursor.start name) rfl
  rw [← List.head?_filter, ← List.head?_filter, ← ByteCursor.behind_start, hfilter, List.head?_map]
  rfl

/-- The last member dot is found at the same place in the bytes. -/
lemma getLast?_isMemberDot_run (name : List Char) :
    ((ByteCursor.start name).run.filter ByteCursor.isMemberDot).getLast?
      = ((steps name).reverse.find? (·.isMemberDot)).map (ByteCursor.place name) := by
  have hfilter := ByteCursor.filter_run (fun _ => ByteCursor.isMemberDot_of_isBeyond)
    ByteCursor.isMemberDot_behind [] (c := Cursor.start name) rfl
  rw [← List.head?_filter, List.filter_reverse, List.head?_reverse, ← ByteCursor.behind_start,
    hfilter, List.getLast?_map]
  rfl

/-- **The argument list is cut off at a character boundary.** -/
lemma sliceSignature?_eq (name : List Char) : sliceSignature? name = some (stripSignature name) := by
  rw [sliceSignature?, find?_opensArguments_run]
  cases hfind : (steps name).find? Step.opensArguments with
  | none =>
    rw [stripSignature,
      List.takeWhile_eq_self_iff.2 fun s hs => by simp [List.find?_eq_none.1 hfind s hs], text_steps]
    rfl
  | some s =>
    have happend : stripSignature name ++ s.cursor.rest = name :=
      Cursor.text_takeWhile_append (c := Cursor.start name) hfind
    rw [Option.map_some]
    dsimp only
    rw [ByteCursor.place_eq happend]
    exact Text.slice?_eq_some_iff.2 ⟨[], s.cursor.rest, happend.symm, rfl, rfl⟩

/-- What the last member dot of a name has before and behind it. -/
lemma exists_of_find?_isMemberDot {name : List Char} {s : Step}
    (h : (steps name).reverse.find? (·.isMemberDot) = some s) :
    ∃ owner member, name = owner ++ '.' :: member ∧ s.cursor.rest = '.' :: member ∧
      splitMember? name
        = if owner.isEmpty || member.isEmpty then none else some (owner, member) := by
  have hmem : s ∈ steps name := List.mem_reverse.1 (List.mem_of_find?_eq_some h)
  have hdot := List.find?_some h
  simp only [Step.isMemberDot, Bool.and_eq_true, beq_iff_eq] at hdot
  obtain ⟨member, hmember⟩ := List.head?_eq_some_iff.1 hdot.1.2
  obtain ⟨owner, howner⟩ := Cursor.suffix_of_mem_steps hmem
  have hname : name = owner ++ '.' :: member := by
    rw [← hmember]
    exact howner.symm
  have htake : name.take (name.length - ('.' :: member).length) = owner := by
    rw [hname, List.length_append, Nat.add_sub_cancel_right, List.take_left]
  refine ⟨owner, member, hname, hmember, ?_⟩
  rw [splitMember?, h]
  simp only [hmember, htake, List.drop_succ_cons, List.drop_zero]

/-- **The last member dot stands between character boundaries.** -/
lemma sliceMember?_eq (name : List Char) : sliceMember? name = some (splitMember? name) := by
  rw [sliceMember?, getLast?_isMemberDot_run]
  cases hfind : (steps name).reverse.find? (·.isMemberDot) with
  | none =>
    rw [splitMember?, hfind]
    rfl
  | some s =>
    obtain ⟨owner, member, hname, hrest, hsplit⟩ := exists_of_find?_isMemberDot hfind
    have hplace : ByteCursor.place name s = ByteCursor.behind owner s.cursor :=
      ByteCursor.place_eq (by rw [hrest, hname])
    have hlength : byteLength name = byteLength owner + 1 + byteLength member := by
      rw [hname, Text.byteLength_append, Text.byteLength_cons, Nat.add_assoc]
      rfl
    have hfront : slice? name 0 (byteLength owner) = some owner :=
      Text.slice?_eq_some_iff.2 ⟨[], '.' :: member, hname, rfl, rfl⟩
    have hback : slice? name (byteLength owner + 1) (byteLength name) = some member := by
      refine Text.slice?_eq_some_iff.2 ⟨owner ++ ['.'], [], by simp [hname], ?_, ?_⟩
      · rw [Text.byteLength_append]
        rfl
      · simp [hname]
    have hempty : (owner.isEmpty || member.isEmpty) = true
        ↔ ¬(0 < byteLength owner ∧ byteLength owner + 1 < byteLength name) := by
      rw [hlength, Bool.or_eq_true, List.isEmpty_iff, List.isEmpty_iff,
        ← Text.byteLength_eq_zero_iff owner, ← Text.byteLength_eq_zero_iff member]
      omega
    simp only [Option.map_some, hplace, ByteCursor.offset_behind, hsplit, hempty, ite_not, hfront,
      hback]
    split
    · rfl
    · rfl

/-! ## Templates -/

section Templates

variable {front : List Char} {name : List Char}

/-- At the end of the name nothing is left to strip. -/
lemma sliceTemplatesFrom?_nil {depth offset : Nat}
    (h : slice? name offset (byteLength name) = some []) :
    sliceTemplatesFrom? name depth offset = some [] := by
  rw [sliceTemplatesFrom?]
  split
  · rename_i hslice
    rw [h] at hslice
    cases hslice
  · rfl
  · rename_i hslice
    rw [h] at hslice
    cases hslice

/-- What is done with the character at an offset: an operator name is taken as a whole, a bracket
changes the depth, and others are kept outside any list. -/
lemma sliceTemplatesFrom?_cons {depth offset : Nat} {c : Char} {rest : List Char}
    (h : slice? name offset (byteLength name) = some (c :: rest)) :
    sliceTemplatesFrom? name depth offset =
      if 0 < operatorLength (bytes name) offset then do
        let token ← if depth == 0 then slice? name offset (offset + operatorLength (bytes name) offset)
          else some []
        let others ← sliceTemplatesFrom? name depth (offset + operatorLength (bytes name) offset)
        return token ++ others
      else if c == '<' then sliceTemplatesFrom? name (depth + 1) (offset + c.utf8Size)
      else if c == '>' && depth > 0 then sliceTemplatesFrom? name (depth - 1) (offset + c.utf8Size)
      else if depth == 0 then (sliceTemplatesFrom? name depth (offset + c.utf8Size)).map (c :: ·)
      else sliceTemplatesFrom? name depth (offset + c.utf8Size) := by
  rw [sliceTemplatesFrom?]
  split
  · rename_i hslice
    rw [h] at hslice
    cases hslice
  · rename_i hslice
    rw [h] at hslice
    cases hslice
  · rename_i hslice
    rw [h] at hslice
    cases hslice
    rfl

/-- What is left of a name is cut out behind what was read. -/
lemma slice?_text {text : List Char} (hname : front ++ text = name) :
    slice? name (byteLength front) (byteLength name) = some text := by
  rw [← hname, Text.slice?_back]

/-- An operator name is passed as a whole, and kept outside any template list. -/
lemma sliceTemplatesFrom?_operator {text token rest : List Char} (hname : front ++ text = name)
    (hread : readOperator? front.getLast? text = some (token, rest)) (depth : Nat) :
    sliceTemplatesFrom? name depth (byteLength front)
      = (sliceTemplatesFrom? name depth (byteLength (front ++ token))).map
        ((if depth == 0 then token else []) ++ ·) := by
  have happend := readOperator?_append hread
  have hne := readOperator?_token_ne_nil hread
  have hlength : operatorLength (bytes name) (byteLength front) = byteLength token := by
    rw [← hname, operatorLength_eq, hread]
    rfl
  have hpos : 0 < byteLength token :=
    Nat.pos_of_ne_zero fun hzero => hne ((Text.byteLength_eq_zero_iff token).1 hzero)
  have htoken : slice? name (byteLength front) (byteLength (front ++ token)) = some token :=
    Text.slice?_eq_some_iff.2 ⟨front, rest, by rw [happend, hname], rfl, rfl⟩
  obtain ⟨c, others, rfl⟩ : ∃ c others, text = c :: others := by
    cases text with
    | nil => exact absurd (List.append_eq_nil_iff.1 happend).1 hne
    | cons c others => exact ⟨c, others, rfl⟩
  rw [sliceTemplatesFrom?_cons (slice?_text hname), hlength, if_pos hpos, ← Text.byteLength_append,
    htoken]
  cases depth == 0 <;> cases sliceTemplatesFrom? name depth (byteLength (front ++ token)) <;> rfl

/-- A character that starts no operator name is passed, and kept outside any template list if it
opens none. -/
lemma sliceTemplatesFrom?_char {char : Char} {rest : List Char} (hname : front ++ char :: rest = name)
    (hread : readOperator? front.getLast? (char :: rest) = none) (depth : Nat) :
    sliceTemplatesFrom? name depth (byteLength front)
      = (sliceTemplatesFrom? name
        (if char = '<' then depth + 1 else if char = '>' then depth - 1 else depth)
        (byteLength (front ++ [char]))).map ((if depth == 0 && char != '<' then [char] else []) ++ ·) := by
  have hlength : operatorLength (bytes name) (byteLength front) = 0 := by
    rw [← hname, operatorLength_eq, hread]
    rfl
  have hnext : byteLength front + char.utf8Size = byteLength (front ++ [char]) := by
    rw [Text.byteLength_append]
    rfl
  rw [sliceTemplatesFrom?_cons (slice?_text hname), hlength, if_neg (Nat.lt_irrefl 0), hnext]
  by_cases hopen : char = '<'
  · simp [hopen]
  · by_cases hclose : char = '>'
    · -- outside any template list a closing bracket is a character like any other
      cases depth <;> simp [hclose]
    · cases depth <;> simp [hopen, hclose]

/-- The offsets at which operator names are cut out are character boundaries. -/
lemma sliceTemplatesFrom?_eq (front : List Char) {text : List Char} (hname : front ++ text = name)
    (depth : Nat) :
    sliceTemplatesFrom? name depth (byteLength front)
      = some (stripTemplatesFrom front.getLast? depth text) := by
  induction hlength : text.length using Nat.strong_induction_on generalizing front depth text with
  | _ n ih =>
    cases hread : readOperator? front.getLast? text with
    | some read =>
      obtain ⟨token, rest⟩ := read
      have happend := readOperator?_append hread
      have hlast : (front ++ token).getLast? = token.getLast? := by
        rw [List.getLast?_append,
          List.getLast?_eq_some_getLast (readOperator?_token_ne_nil hread), Option.some_or]
      rw [sliceTemplatesFrom?_operator hname hread, stripTemplatesFrom_operator hread,
        ih _ (hlength ▸ readOperator?_length hread) _ (by rw [List.append_assoc, happend, hname]) _ rfl,
        hlast]
      rfl
    | none =>
      cases text with
      | nil =>
        rw [sliceTemplatesFrom?_nil (slice?_text hname), stripTemplatesFrom]
        simp [readOperator?, operatorWord]
      | cons char rest =>
        rw [sliceTemplatesFrom?_char hname hread, stripTemplatesFrom_char hread,
          ih rest.length (by rw [← hlength]; exact Nat.lt_succ_self _) _ (by simp [← hname]) _ rfl,
          List.getLast?_append]
        rfl

end Templates

/-- **Template arguments are cut out at character boundaries.** -/
lemma sliceTemplates?_eq (name : List Char) : sliceTemplates? name = some (stripTemplates name) :=
  sliceTemplatesFrom?_eq [] rfl 0

/-! ## Scopes -/

/-- Nothing put in front of the first part changes nothing. -/
lemma modifyHead_nil_append (parts : List (List Char)) : parts.modifyHead ([] ++ ·) = parts := by
  cases parts <;> rfl

namespace ByteCursor

/-- At a separator a component ends, and the next one starts behind it. -/
lemma sliceScopes?_of_separator {c : ByteCursor} (hlt : c.offset < c.text.length)
    (h : c.isSeparator = true) (name : List Char) (start : Nat) :
    c.sliceScopes? name start = (slice? name start c.offset).bind fun part =>
      (c.bump.bump.sliceScopes? name c.bump.bump.offset).map (part :: ·) := by
  rw [sliceScopes?, dif_pos hlt, if_pos h]
  cases slice? name start c.offset <;> cases c.bump.bump.sliceScopes? name c.bump.bump.offset <;> rfl

/-- Any other token belongs to the component it is in. -/
lemma sliceScopes?_of_not_separator {c : ByteCursor} (hlt : c.offset < c.text.length)
    (h : c.isSeparator = false) (name : List Char) (start : Nat) :
    c.sliceScopes? name start = c.bump.sliceScopes? name start := by
  rw [sliceScopes?, dif_pos hlt, if_neg (by simp [h])]

/-- Bytes beyond ASCII belong to the component they are in. -/
lemma sliceScopes?_of_beyond {c : ByteCursor} {front back : List UInt8}
    (hdrop : c.text.drop c.offset = front ++ back)
    (hfront : ∀ byte ∈ front, Text.beyondAscii byte = true) (name : List Char) (start : Nat) :
    c.sliceScopes? name start = (c.skip front.length).sliceScopes? name start := by
  induction front generalizing c with
  | nil => rfl
  | cons byte front ih =>
    obtain ⟨hbyte, hfront⟩ := List.forall_mem_cons.1 hfront
    have hbeyond : c.isBeyond = true := isBeyond_iff.2 ⟨byte, front ++ back, hdrop, hbyte⟩
    rw [sliceScopes?_of_not_separator (lt_length_of_drop hdrop) (isSeparator_of_isBeyond hbeyond),
      bump_of_isBeyond hbeyond, ih (drop_skip hdrop) hfront, skip_skip, List.length_cons, Nat.add_comm]

/-- A token that is at no separator belongs to the component it is in. -/
lemma sliceScopes?_behind {front token : List Char} {c next : Cursor}
    (hbefore : c.before = front.getLast?) (h : c.bump? = some (token, next))
    (hseparator : Step.isSeparator ⟨c, token⟩ = false) (name : List Char) (start : Nat) :
    (behind front c).sliceScopes? name start
      = (behind (front ++ token) next).sliceScopes? name start := by
  rcases bump_behind hbefore h with ⟨-, hbump⟩ | ⟨char, rfl, hchar, hskip⟩
  · have hnone : (behind front c).isSeparator = false :=
      (isSeparator_behind front ⟨c, token⟩).trans hseparator
    rw [sliceScopes?_of_not_separator (lt_length_behind front h) hnone, hbump]
  · have hdrop : (behind front c).text.drop (behind front c).offset
        = String.utf8EncodeChar char ++ bytes next.rest := by
      rw [drop_behind, ← Cursor.bump?_append h]
      rfl
    rw [hskip, sliceScopes?_of_beyond hdrop fun byte hbyte => Text.beyond_of_mem_encode hchar hbyte,
      String.length_utf8EncodeChar]

/-- The two colons of a separator are two tokens. -/
lemma bump_behind_colons {front rest : List Char} {c : Cursor} (hbefore : c.before = front.getLast?)
    (hrest : c.rest = ':' :: ':' :: rest) :
    (behind front c).bump.bump = behind (front ++ [':', ':']) { c with before := some ':', rest } := by
  have hcolon : ∀ {front rest : List Char} {c : Cursor}, c.before = front.getLast? →
      c.rest = ':' :: rest →
      (behind front c).bump = behind (front ++ [':']) { c with before := some ':', rest } := by
    intro front rest c hbefore hrest
    have hread : readOperator? c.before c.rest = none := by
      rw [hrest]
      exact readOperator?_of_head (by decide) rest
    exact bump_behind_ascii hbefore hread hrest (by decide)
  rw [hcolon hbefore hrest, hcolon (by simp) rfl, List.append_assoc]
  rfl

/-- **The components from a cursor on are cut at character boundaries**, the first one with the part of it
that has been read.

**Proof sketch.** Induction along the tokens. A separator ends the first component; behind it nothing of
the next one has been read. Any other token is added to what has been read. -/
lemma sliceScopes?_eq {name : List Char} (done part : List Char) (c : Cursor)
    (hname : done ++ part ++ c.rest = name)
    (hbefore : c.before = (done ++ part).getLast?) :
    (behind (done ++ part) c).sliceScopes? name (byteLength done)
      = some ((components c.steps).modifyHead (part ++ ·)) := by
  induction hlength : c.rest.length using Nat.strong_induction_on generalizing done part c with
  | _ n ih =>
    cases hbump : c.bump? with
    | none =>
      have hrest := Cursor.bump?_eq_none_iff.1 hbump
      rw [hrest, List.append_nil] at hname
      have hend : ¬(behind (done ++ part) c).offset < (behind (done ++ part) c).text.length := by
        simp [behind, hrest]
      have hback : slice? name (byteLength done) (byteLength name) = some part := by
        rw [← hname, Text.slice?_back]
      rw [sliceScopes?, dif_neg hend, hback, Cursor.steps_of_nil hrest]
      simp [components]
    | some read =>
      obtain ⟨token, next⟩ := read
      cases hseparator : Step.isSeparator ⟨c, token⟩ with
      | true =>
        obtain ⟨htop, rest, hrest⟩ := Step.isSeparator_iff.1 hseparator
        have hcolons : c.rest = ':' :: ':' :: rest := hrest
        have hpart : slice? name (byteLength done) (byteLength (done ++ part)) = some part :=
          Text.slice?_eq_some_iff.2 ⟨done, c.rest, by rw [← List.append_assoc, hname], rfl, rfl⟩
        have hshorter : rest.length < n := by
          rw [← hlength, hcolons, List.length_cons, List.length_cons]
          omega
        have hothers := ih rest.length hshorter (done ++ part ++ [':', ':']) []
          { c with before := some ':', rest } (by simp [← hname, hcolons]) (by simp) rfl
        rw [List.append_nil, modifyHead_nil_append] at hothers
        rw [sliceScopes?_of_separator (lt_length_behind _ hbump)
          ((isSeparator_behind _ ⟨c, token⟩).trans hseparator), bump_behind_colons hbefore hcolons,
          offset_behind, offset_behind, hpart, Option.bind_some, hothers,
          Cursor.components_of_colons htop hcolons]
        simp
      | false =>
        have happend := Cursor.bump?_append hbump
        have hnext := ih next.rest.length (hlength ▸ Cursor.bump?_length hbump) done (part ++ token) next
          (by simp [← hname, ← happend]) (by rw [← List.append_assoc]; exact before_next hbump) rfl
        rw [sliceScopes?_behind hbefore hbump hseparator, List.append_assoc, hnext,
          Cursor.steps_of_bump? hbump, components_cons hseparator, List.modifyHead_modifyHead]
        simp [Function.comp_def]

end ByteCursor

/-- **Names are split at character boundaries.** -/
lemma sliceScopes?_eq (name : List Char) : sliceScopes? name = some (splitScopes name) := by
  have h := ByteCursor.sliceScopes?_eq [] [] (Cursor.start name) rfl rfl
  rwa [modifyHead_nil_append] at h

/-! ## Agreement -/

/-- **The scanners on bytes and on characters agree**, and no name is cut inside a character. The name
without its template arguments is what a cursor on the bytes reads outside any template list, single `<`
apart. All forms of a name that are cut out of it at byte offsets are those of the characters, so that
each offset is a character boundary of the name. Cutting off the argument list gives a front of the name,
and does nothing the second time.

**Proof sketch.** The cursor on bytes follows the one on characters, and in between it passes bytes beyond
ASCII only, at which no test succeeds. The tokens in front of the argument list do not depend on it. -/
theorem bytes_scan_agrees (name : List Char) :
    bytes (stripTemplates name)
        = ((ByteCursor.start name).run.filter ByteCursor.kept).flatMap ByteCursor.token ∧
      (∀ c ∈ (ByteCursor.start name).run, c.bump.offset ≤ byteLength name) ∧
      sliceTemplates? name = some (stripTemplates name) ∧
      sliceSignature? name = some (stripSignature name) ∧
      sliceMember? name = some (splitMember? name) ∧
      sliceScopes? name = some (splitScopes name) ∧
      stripSignature (stripSignature name) = stripSignature name ∧
      stripSignature name <+: name := by
  refine ⟨?_, ?_, sliceTemplates?_eq name, sliceSignature?_eq name, sliceMember?_eq name,
    sliceScopes?_eq name, stripSignature_stripSignature name, stripSignature_prefix_self name⟩
  · rw [stripTemplates_eq]
    exact (ByteCursor.flatMap_token_run [] (c := Cursor.start name) rfl).symm
  · intro c hc
    exact (ByteCursor.bump_offset_le hc).trans_eq (Text.length_bytes name)

end DocComments.Name
