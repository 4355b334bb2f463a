import DocComments.Proofs.Name.ByteForms
import DocComments.Proofs.Name.Delimited
import Mathlib.Data.List.Nodup
import Mathlib.Data.Nat.SuccPred
import Mathlib.Order.SuccPred.Archimedean

set_option autoImplicit false

/-!
# The dot that a name is split at

A name such as `func(int).a` is split at a dot into an owner and a member. The dots that count are those
outside any template or argument list, and a dot that starts an ellipsis is passed over. The test for an
ellipsis has no effect: its dots stand in a row, so that no list is opened between them. If the first one
is outside any list, then so is the last, and that one starts no ellipsis. So a name is always split at
its last dot outside any list, even if this is the last dot of an ellipsis.

## Main definitions

* `topDots` — the offsets of the dots outside any list.
* `InEllipsis` — the dots of an ellipsis.
* `memberDots` — the dots outside any list that belong to no ellipsis.
* `SplitsAtLast` — the name is split at the last of some dots.

## Main results

* `mem_topDots_iff` — the dots outside any list, by what is read in front of them.
* `succ_mem_topDots` — dots in a row are outside any list together.
* `getLast?_filter_isMemberDot` — the test for an ellipsis has no effect.
* `splitMember?_at_last_dot` — a name is split at its last dot outside any list; when this is at its last
  member dot.
-/

namespace DocComments.Name

open Text (bytes byteLength asciiByte)

/-! ## Dots outside any list -/

/-- The cursor is at a dot outside any list. -/
def ByteCursor.isTopDot (c : ByteCursor) : Bool :=
  c.atTop && c.peek? == some (asciiByte '.')

/-- The offsets of the dots outside any template or argument list: the places where the cursor on the
bytes of the name is at a dot with no list open. -/
def topDots (name : List Char) : Set Nat :=
  {offset | ∃ c ∈ (ByteCursor.start name).run, c.isTopDot = true ∧ c.offset = offset}

/-- The byte at an offset is one of three dots in a row. -/
def InEllipsis (name : List Char) (offset : Nat) : Prop :=
  ∃ start ≤ offset, offset < start + 3 ∧
    ∀ k < 3, (bytes name)[start + k]? = some (asciiByte '.')

/-- Whether a byte is in an ellipsis is decided by looking at the starts up to its offset. -/
instance (name : List Char) (offset : Nat) : Decidable (InEllipsis name offset) :=
  inferInstanceAs (Decidable (∃ start, start ≤ offset ∧ _ ∧ _))

/-- The offsets of the dots that are outside any list and belong to no ellipsis. -/
def memberDots (name : List Char) : Set Nat :=
  {offset ∈ topDots name | ¬InEllipsis name offset}

/-- The name is split at the last of some dots, if both sides have something, and only there. -/
def SplitsAtLast (name : List Char) (dots : Set Nat) : Prop :=
  ∀ owner member, splitMember? name = some (owner, member) ↔
    IsGreatest dots (byteLength owner) ∧ name = owner ++ '.' :: member ∧ owner ≠ [] ∧ member ≠ []

namespace ByteCursor

/-- A dot at the top: the byte is a dot, and no list is open. -/
lemma isTopDot_iff {c : ByteCursor} :
    c.isTopDot = true ↔ c.atTop = true ∧ c.peek? = some (asciiByte '.') := by
  rw [isTopDot, Bool.and_eq_true, beq_iff_eq]

/-! ## The places of a run -/

/-- A run stays in its text. -/
lemma text_of_mem_run {c d : ByteCursor} (h : d ∈ c.run) : d.text = c.text := by
  fun_induction run c with
  | case1 c hlt ih =>
    rcases List.mem_cons.1 h with rfl | h
    · rfl
    · rw [ih h, bump_text]
  | case2 c hlt => cases h

/-- A run never goes back. -/
lemma offset_le_of_mem_run {c d : ByteCursor} (h : d ∈ c.run) : c.offset ≤ d.offset := by
  fun_induction run c with
  | case1 c hlt ih =>
    rcases List.mem_cons.1 h with rfl | h
    · exact Nat.le_refl _
    · exact Nat.le_trans (offset_le_bump c) (ih h)
  | case2 c hlt => cases h

/-- A run moves on with every token. -/
lemma pairwise_run (c : ByteCursor) : c.run.Pairwise fun d e => d.offset < e.offset := by
  fun_induction run c with
  | case1 c hlt ih =>
    refine List.pairwise_cons.2 ⟨fun d hd => ?_, ih⟩
    exact Nat.lt_of_lt_of_le (offset_lt_bump hlt) (offset_le_of_mem_run hd)
  | case2 c hlt => exact List.Pairwise.nil

/-- A run is at each offset once at most. -/
lemma eq_of_offset_eq {c d e : ByteCursor} (hd : d ∈ c.run) (he : e ∈ c.run)
    (h : d.offset = e.offset) : d = e := by
  have hnodup : (c.run.map ByteCursor.offset).Nodup :=
    List.pairwise_map.2 ((pairwise_run c).imp Nat.ne_of_lt)
  exact List.inj_on_of_nodup_map hnodup hd he h

/-- A run goes on as long as the name does. -/
lemma bump_mem_run {c d : ByteCursor} (h : d ∈ c.run) (hlt : d.bump.offset < c.text.length) :
    d.bump ∈ c.run := by
  fun_induction run c with
  | case1 c hc ih =>
    refine List.mem_cons_of_mem _ ?_
    rcases List.mem_cons.1 h with rfl | h
    · rw [run_of_lt (by rwa [bump_text])]
      exact List.mem_cons_self
    · exact ih h (by rwa [bump_text])
  | case2 c hc => cases h

/-- A dot is passed with nothing else happening. -/
lemma bump_of_dot {c : ByteCursor} (h : c.peek? = some (asciiByte '.')) : c.bump = c.skip 1 :=
  bump_of_ne h (by simp [asciiByte])

/-- The dots that the cursors on bytes and on characters are at. -/
lemma filter_run_dot (name : List Char) :
    (start name).run.filter (fun c => c.peek? == some (asciiByte '.'))
      = ((steps name).filter fun s => s.cursor.rest.head? == some '.').map (place name) :=
  filter_run (fun _ hd => peek?_ne_of_isBeyond hd (by decide))
    (fun front s => peek?_behind_beq front s.cursor (by decide)) [] (c := Cursor.start name) rfl

/-- **The cursor stops at every dot**, in the state in which it has read what is in front of the dot. -/
lemma behind_mem_run (front back : List Char) :
    behind front (Cursor.atDot front back) ∈ (start (front ++ '.' :: back)).run := by
  have hrest := Cursor.rest_atDot front back
  have hstep : (⟨Cursor.atDot front back, ['.']⟩ : Step) ∈ steps (front ++ '.' :: back) := by
    rw [steps_append_dot, Cursor.steps_of_dot hrest]
    simp
  have hplace : place (front ++ '.' :: back) ⟨Cursor.atDot front back, ['.']⟩
      = behind front (Cursor.atDot front back) := place_eq (by rw [hrest])
  refine List.mem_of_mem_filter (p := fun c => c.peek? == some (asciiByte '.')) ?_
  rw [filter_run_dot, ← hplace]
  exact List.mem_map_of_mem (List.mem_filter.2 ⟨hstep, by simp [hrest]⟩)

/-- There is a dot in the name wherever the cursor sees one. -/
lemma exists_of_mem_run {name : List Char} {c : ByteCursor} (hc : c ∈ (start name).run)
    (hpeek : c.peek? = some (asciiByte '.')) :
    ∃ front back, name = front ++ '.' :: back ∧ byteLength front = c.offset := by
  have hmem : c ∈ (start name).run.filter (fun c => c.peek? == some (asciiByte '.')) :=
    List.mem_filter.2 ⟨hc, by simp [hpeek]⟩
  rw [filter_run_dot] at hmem
  obtain ⟨s, hs, rfl⟩ := List.mem_map.1 hmem
  obtain ⟨hstep, hhead⟩ := List.mem_filter.1 hs
  obtain ⟨back, hback⟩ := List.head?_eq_some_iff.1 (beq_iff_eq.1 hhead)
  have hsuffix : s.cursor.rest <:+ name := Cursor.suffix_of_mem_steps hstep
  obtain ⟨front, hfront⟩ := hsuffix
  refine ⟨front, back, ?_, ?_⟩
  · rw [← hback, hfront]
  · rw [place_eq hfront, offset_behind]

/-- A dot behind a name is at the top if the name ends outside any list. -/
lemma isTopDot_behind (front back : List Char) :
    (behind front (Cursor.atDot front back)).isTopDot = true ↔ EndsAtTop front := by
  have hpeek : (behind front (Cursor.atDot front back)).peek? = some (asciiByte '.') := by
    rw [peek?_behind, Cursor.rest_atDot, Text.bytes_cons_ascii (by decide), List.head?_cons]
  rw [isTopDot_iff, hpeek]
  exact and_iff_left rfl

end ByteCursor

/-- Whether a dot is outside any list depends only on what stands in front of it. -/
lemma byteLength_mem_topDots_iff (front back : List Char) :
    byteLength front ∈ topDots (front ++ '.' :: back) ↔ EndsAtTop front := by
  have hmem := ByteCursor.behind_mem_run front back
  rw [← ByteCursor.isTopDot_behind front back]
  constructor
  · rintro ⟨c, hc, hdot, hoffset⟩
    rwa [← ByteCursor.eq_of_offset_eq hc hmem hoffset]
  · intro hdot
    exact ⟨_, hmem, hdot, rfl⟩

/-- **The dots outside any list, by what is read in front of them.** -/
lemma mem_topDots_iff {name : List Char} {offset : Nat} : offset ∈ topDots name ↔
    ∃ front back, name = front ++ '.' :: back ∧ byteLength front = offset ∧ EndsAtTop front := by
  constructor
  · rintro ⟨c, hc, hdot, rfl⟩
    obtain ⟨front, back, rfl, hoffset⟩ :=
      ByteCursor.exists_of_mem_run hc (ByteCursor.isTopDot_iff.1 hdot).2
    refine ⟨front, back, rfl, hoffset, (byteLength_mem_topDots_iff front back).1 ?_⟩
    exact ⟨c, hc, hdot, hoffset.symm⟩
  · rintro ⟨front, back, rfl, rfl, htop⟩
    exact (byteLength_mem_topDots_iff front back).2 htop

/-- **Dots in a row are outside any list together.** -/
lemma succ_mem_topDots {name : List Char} {offset : Nat} (h : offset ∈ topDots name)
    (hnext : (bytes name)[offset + 1]? = some (asciiByte '.')) : offset + 1 ∈ topDots name := by
  obtain ⟨c, hc, hdot, rfl⟩ := h
  obtain ⟨htop, hpeek⟩ := ByteCursor.isTopDot_iff.1 hdot
  have hbump := ByteCursor.bump_of_dot hpeek
  have htext : c.text = bytes name := ByteCursor.text_of_mem_run hc
  refine ⟨c.skip 1, ?_, ByteCursor.isTopDot_iff.2 ⟨htop, ?_⟩, rfl⟩
  · rw [← hbump]
    refine ByteCursor.bump_mem_run hc ?_
    rw [hbump]
    exact (List.getElem?_eq_some_iff.1 hnext).1
  · rw [← hnext, ← htext]
    rfl

/-! ## The last dot -/

/-- The last dot that a run passes outside any list. -/
lemma isGreatest_topDots {name : List Char} {c : ByteCursor}
    (h : ((ByteCursor.start name).run.filter ByteCursor.isTopDot).getLast? = some c) :
    IsGreatest (topDots name) c.offset := by
  obtain ⟨earlier, hearlier⟩ := List.getLast?_eq_some_iff.1 h
  have hpairwise := (ByteCursor.pairwise_run (ByteCursor.start name)).filter ByteCursor.isTopDot
  rw [hearlier, List.pairwise_append] at hpairwise
  constructor
  · obtain ⟨hrun, hdot⟩ := List.mem_filter.1 (List.mem_of_getLast? h)
    exact ⟨c, hrun, hdot, rfl⟩
  · rintro _ ⟨d, hd, hdot, rfl⟩
    have hmem : d ∈ earlier ++ [c] := hearlier ▸ List.mem_filter.2 ⟨hd, hdot⟩
    rcases List.mem_append.1 hmem with hmem | hmem
    · exact Nat.le_of_lt (hpairwise.2.2 d hmem c (by simp))
    · rw [List.mem_singleton.1 hmem]

/-- No dot follows the last one outside any list. -/
lemma getElem?_succ_ne {name : List Char} {last : Nat} (h : IsGreatest (topDots name) last) :
    (bytes name)[last + 1]? ≠ some (asciiByte '.') := by
  intro hnext
  have hle := h.2 (succ_mem_topDots h.1 hnext)
  omega

/-- The last dot outside any list starts no ellipsis. -/
lemma startsWith_of_isGreatest {name : List Char} {c : ByteCursor} (hc : c ∈ (ByteCursor.start name).run)
    (h : IsGreatest (topDots name) c.offset) : c.startsWith (bytes ['.', '.', '.']) = false := by
  by_contra hstarts
  rw [Bool.not_eq_false, ByteCursor.startsWith, List.isPrefixOf_iff_prefix] at hstarts
  obtain ⟨tail, htail⟩ := hstarts
  apply getElem?_succ_ne h
  have htext : c.text = bytes name := ByteCursor.text_of_mem_run hc
  rw [← htext, ← List.getElem?_drop, ← htail]
  rfl

/-- **The test for an ellipsis has no effect**: the last dot is the same with and without it. -/
lemma getLast?_filter_isMemberDot (name : List Char) :
    ((ByteCursor.start name).run.filter ByteCursor.isMemberDot).getLast?
      = ((ByteCursor.start name).run.filter ByteCursor.isTopDot).getLast? := by
  have hfilter : (ByteCursor.start name).run.filter ByteCursor.isMemberDot
      = ((ByteCursor.start name).run.filter ByteCursor.isTopDot).filter
        fun c => !c.startsWith (bytes ['.', '.', '.']) := by
    rw [List.filter_filter]
    exact List.filter_congr fun c _ => Bool.and_comm ..
  rw [hfilter]
  cases hlast : ((ByteCursor.start name).run.filter ByteCursor.isTopDot).getLast? with
  | none => simp [List.getLast?_eq_none_iff.1 hlast]
  | some c =>
    obtain ⟨earlier, hearlier⟩ := List.getLast?_eq_some_iff.1 hlast
    have hrun : c ∈ (ByteCursor.start name).run :=
      List.mem_of_mem_filter (List.mem_of_getLast? hlast)
    have hstarts := startsWith_of_isGreatest hrun (isGreatest_topDots hlast)
    rw [hearlier, List.filter_append]
    simp [hstarts]

/-- **A name is split at its last dot outside any list.** -/
lemma splitsAtLast_topDots (name : List Char) : SplitsAtLast name (topDots name) := by
  intro owner member
  have hlast := getLast?_isMemberDot_run name
  rw [getLast?_filter_isMemberDot] at hlast
  cases hfind : (steps name).reverse.find? (·.isMemberDot) with
  | none =>
    rw [hfind, Option.map_none, List.getLast?_eq_none_iff, List.filter_eq_nil_iff] at hlast
    have hnone : splitMember? name = none := by rw [splitMember?, hfind]
    rw [hnone]
    refine iff_of_false (by simp) ?_
    rintro ⟨⟨⟨c, hc, hdot, -⟩, -⟩, -⟩
    exact hlast c hc hdot
  | some s =>
    obtain ⟨front, back, hname, hrest, hsplit⟩ := exists_of_find?_isMemberDot hfind
    have hplace : ByteCursor.place name s = ByteCursor.behind front s.cursor :=
      ByteCursor.place_eq (by rw [hrest, hname])
    have hgreatest : IsGreatest (topDots name) (byteLength front) := by
      rw [hfind, Option.map_some, hplace] at hlast
      exact isGreatest_topDots hlast
    rw [hsplit]
    constructor
    · intro h
      split at h
      · cases h
      · rename_i hne
        cases h
        simp only [Bool.or_eq_true, List.isEmpty_iff, not_or] at hne
        exact ⟨hgreatest, hname, hne⟩
    · rintro ⟨howner, hname', hne, hne'⟩
      obtain ⟨rfl, hback⟩ :=
        Text.append_inj_byteLength (hname.symm.trans hname') (hgreatest.unique howner)
      cases hback
      simp [hne, hne']

/-! ## Ellipses -/

/-- Some dots outside any list have a last one, if there are any. -/
lemma exists_isGreatest {name : List Char} {dots : Set Nat} (hdots : dots ⊆ topDots name)
    (hne : dots.Nonempty) : ∃ last, IsGreatest dots last := by
  refine BddAbove.exists_isGreatest_of_nonempty ⟨byteLength name, fun offset hoffset => ?_⟩ hne
  obtain ⟨front, back, rfl, rfl, -⟩ := mem_topDots_iff.1 (hdots hoffset)
  rw [Text.byteLength_append]
  omega

/-- The last dot outside any list can only be the last one of an ellipsis, which has two more dots. -/
lemma two_le_of_inEllipsis {name : List Char} {last : Nat} (hlast : IsGreatest (topDots name) last)
    (h : InEllipsis name last) : 2 ≤ last := by
  obtain ⟨start, hstart, hend, hdots⟩ := h
  by_contra hlt
  apply getElem?_succ_ne hlast
  have hnext := hdots (last + 1 - start) (by omega)
  rwa [show start + (last + 1 - start) = last + 1 by omega] at hnext

/-- **A name whose last dot belongs to an ellipsis** is split at its last member dot only if the ellipsis
ends it, and if it has no member dot other than at its start.

**Proof sketch.** If something followed the ellipsis, the name would be split there. As nothing does, it
is not split, so that no member dot may have something on both sides. -/
lemma ends_of_splitsAtLast_memberDots {name : List Char} (h : SplitsAtLast name (memberDots name))
    {last : Nat} (hlast : IsGreatest (topDots name) last) (hellipsis : InEllipsis name last) :
    last + 1 = byteLength name ∧ memberDots name ⊆ {0} := by
  obtain ⟨front, back, hname, rfl, -⟩ := mem_topDots_iff.1 hlast.1
  have htwo := two_le_of_inEllipsis hlast hellipsis
  have hfront : front ≠ [] := by
    rintro rfl
    simp at htwo
  have hsplits := splitsAtLast_topDots name
  have hback : back = [] := by
    by_contra hne
    have hmember := ((h front back).1 ((hsplits front back).2 ⟨hlast, hname, hfront, hne⟩)).1.1
    exact hmember.2 hellipsis
  have hlength : byteLength front + 1 = byteLength name := by
    rw [hname, hback, Text.byteLength_append]
    rfl
  refine ⟨hlength, fun offset hoffset => ?_⟩
  by_contra hzero
  obtain ⟨greatest, hgreatest⟩ := exists_isGreatest (fun _ hdot => hdot.1) ⟨offset, hoffset⟩
  obtain ⟨owner, member, hname', rfl, -⟩ := mem_topDots_iff.1 hgreatest.1.1
  -- the last member dot is not the last dot, so the name cannot have been split there
  have hne : byteLength owner ≠ byteLength front := fun heq => hgreatest.1.2 (heq ▸ hellipsis)
  have howner : owner ≠ [] := by
    rintro rfl
    exact hzero (Nat.le_zero.1 (hgreatest.2 hoffset))
  have hmember : member ≠ [] := by
    rintro rfl
    apply hne
    rw [hname', Text.byteLength_append] at hlength
    exact (Nat.succ.inj hlength).symm
  have hsplit := (h owner member).2 ⟨hgreatest, hname', howner, hmember⟩
  exact hne (((hsplits owner member).1 hsplit).1.unique hlast)

/-- **All other names are split at their last member dot.** -/
lemma splitsAtLast_memberDots {name : List Char}
    (h : ∀ last, IsGreatest (topDots name) last → InEllipsis name last →
      last + 1 = byteLength name ∧ memberDots name ⊆ {0}) :
    SplitsAtLast name (memberDots name) := by
  intro owner member
  rw [splitsAtLast_topDots name owner member]
  refine and_congr_left fun ⟨hname, howner, hmember⟩ => ⟨fun hlast => ?_, fun hlast => ?_⟩
  · have hnot : ¬InEllipsis name (byteLength owner) := by
      intro hellipsis
      -- something follows the dot
      have hlength := (h _ hlast hellipsis).1
      have hpos : byteLength member ≠ 0 := mt (Text.byteLength_eq_zero_iff member).1 hmember
      rw [hname, Text.byteLength_append, Text.byteLength_cons] at hlength
      have hdot : '.'.utf8Size = 1 := by decide
      omega
    exact ⟨⟨hlast.1, hnot⟩, fun offset hoffset => hlast.2 hoffset.1⟩
  · obtain ⟨last, hgreatest⟩ := exists_isGreatest (Set.Subset.refl _) ⟨_, hlast.1.1⟩
    have hnot : ¬InEllipsis name last := by
      intro hellipsis
      have hzero := (h last hgreatest hellipsis).2 hlast.1
      exact howner ((Text.byteLength_eq_zero_iff owner).1 hzero)
    have hle : last ≤ byteLength owner := hlast.2 ⟨hgreatest.1, hnot⟩
    rwa [Nat.le_antisymm hle (hgreatest.2 hlast.1.1)] at hgreatest

/-- **A name is split at its last dot outside any list**, if both sides have something. These dots are
those behind a front of the name that is read to an end outside any list. It makes no difference whether
the dot belongs to an ellipsis. So the last member dot is where the name is split if and only if the last
dot outside any list belongs to no ellipsis, or the ellipsis ends the name and there is no member dot
other than at its start.

**Proof sketch.** Dots in a row are outside any list together, so the last dot outside any list starts
no ellipsis and is never passed over. If it belongs to an ellipsis and something follows, the name is
split in the ellipsis. If nothing follows, it is not split at all, although it may have a member dot. -/
theorem splitMember?_at_last_dot (name : List Char) :
    (∀ offset, offset ∈ topDots name ↔ ∃ front back, name = front ++ '.' :: back ∧
      byteLength front = offset ∧ EndsAtTop front) ∧
    SplitsAtLast name (topDots name) ∧
    (SplitsAtLast name (memberDots name) ↔
      ∀ last, IsGreatest (topDots name) last → InEllipsis name last →
        last + 1 = byteLength name ∧ memberDots name ⊆ {0}) :=
  ⟨fun _ => mem_topDots_iff, splitsAtLast_topDots name,
    fun h _ hlast hellipsis => ends_of_splitsAtLast_memberDots h hlast hellipsis,
    splitsAtLast_memberDots⟩

/-- **Names that are not split at their last member dot**: one that has no member dot is split in its
ellipsis, and one that has a member dot is not split, because an ellipsis ends it. -/
theorem splitMember?_in_ellipsis :
    (splitMember? "a...b".toList = some ("a..".toList, "b".toList) ∧
      memberDots "a...b".toList = ∅) ∧
    (splitMember? "f(int).args...".toList = none ∧
      IsGreatest (memberDots "f(int).args...".toList) (byteLength "f(int)".toList)) ∧
    ¬∀ name, SplitsAtLast name (memberDots name) := by
  have hsplit : splitMember? "a...b".toList = some ("a..".toList, "b".toList) := by decide +kernel
  have hempty : memberDots "a...b".toList = ∅ := by
    have hall : ∀ c ∈ (ByteCursor.start "a...b".toList).run, c.isTopDot = true →
        InEllipsis "a...b".toList c.offset := by decide +kernel
    refine Set.eq_empty_of_forall_notMem ?_
    rintro _ ⟨⟨c, hc, hdot, rfl⟩, hnot⟩
    exact hnot (hall c hc hdot)
  have hgreatest :
      IsGreatest (memberDots "f(int).args...".toList) (byteLength "f(int)".toList) := by
    have hall : ∀ c ∈ (ByteCursor.start "f(int).args...".toList).run, c.isTopDot = true →
        ¬InEllipsis "f(int).args...".toList c.offset → c.offset ≤ byteLength "f(int)".toList := by
      decide +kernel
    have htop : ∃ c ∈ (ByteCursor.start "f(int).args...".toList).run, c.isTopDot = true ∧
        c.offset = byteLength "f(int)".toList := by decide +kernel
    refine ⟨⟨htop, by decide +kernel⟩, ?_⟩
    rintro _ ⟨⟨c, hc, hdot, rfl⟩, hnot⟩
    exact hall c hc hdot hnot
  refine ⟨⟨hsplit, hempty⟩, ⟨by decide +kernel, hgreatest⟩, fun h => ?_⟩
  have hmem := ((h _ _ _).1 hsplit).1.1
  rw [hempty] at hmem
  exact hmem

end DocComments.Name
