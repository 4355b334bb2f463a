import DocComments.Proofs.Name.Scopes
import DocComments.Proofs.Name.Spelling

set_option autoImplicit false

/-!
# Reaching an alias by writing it

An entity is filed under the scope suffixes of its short key, and a link looks a short name up under
the short key of what is written. So an alias is reached by writing it just if it is its own short
key. Two things can go wrong. The key is squeezed as a whole and its suffixes are not, so an alias may
start with a blank, which no short key does. And an alias may open a list when it is read as a name,
although the lists of the id have been left out. The latter needs an id in which brackets of different
kinds cross each other or an operator name follows a template list directly; for all other ids the
blank at the start is the only obstacle.

## Main results

* `of_mem_shortAliases` — where an alias stands in the short key.
* `last_mem_shortAliases` — the last component of the short key is an alias.
* `IsScope.exists_splitScopes_squeeze` — the last component of a squeezed text.
* `shortKey_eq_self_iff` — which spaced texts are their own short keys.
* `shortKey_alias` — which aliases are reached by writing them.
* `shortKey_alias_ne` — aliases that are not.
-/

namespace DocComments.Name

/-- The components from a place on, joined, are the end of the joined components behind a colon. -/
lemma colon_joinScopes_suffix {parts : List (List Char)} {k : Nat} (hk : k + 1 < parts.length) :
    ':' :: joinScopes (parts.drop (k + 1)) <:+ joinScopes parts := by
  induction parts generalizing k with
  | nil => cases hk
  | cons first parts ih =>
    cases parts with
    | nil =>
      rw [List.length_singleton] at hk
      omega
    | cons next parts =>
      have hjoin : joinScopes (first :: next :: parts)
          = first ++ [':'] ++ ':' :: joinScopes (next :: parts) := by
        rw [joinScopes, Text.join_cons_cons]
        simp [joinScopes]
      rw [hjoin]
      cases k with
      | zero => exact List.suffix_append _ _
      | succ k =>
        have hsuffix := ih (k := k) (by simpa using hk)
        exact (hsuffix.trans (List.suffix_cons _ _)).trans (List.suffix_append _ _)

/-- **Where an alias stands in the short key**: it is the whole key, or what follows a colon. -/
lemma of_mem_shortAliases {id short : List Char} (h : short ∈ shortAliases id) :
    short ≠ [] ∧ (short = shortKey id ∨ ':' :: short <:+ shortKey id) := by
  obtain ⟨hmem, hshort⟩ := List.mem_filter.1 h
  obtain ⟨k, hk, rfl⟩ := List.mem_map.1 hmem
  rw [List.mem_range] at hk
  refine ⟨fun hnil => by simp [hnil] at hshort, ?_⟩
  have hjoin := joinScopes_splitScopes (shortKey id)
  cases k with
  | zero => exact .inl (by rw [List.drop_zero, hjoin])
  | succ k =>
    have hsuffix := colon_joinScopes_suffix hk
    rw [hjoin] at hsuffix
    exact .inr hsuffix

/-- The last component of a short key is an alias. -/
lemma last_mem_shortAliases {id last : List Char} {front : List (List Char)}
    (h : splitScopes (shortKey id) = front ++ [last]) (hne : last ≠ [])
    (hcolon : last.head? ≠ some ':') : last ∈ shortAliases id := by
  refine List.mem_filter.2 ⟨List.mem_map.2 ⟨front.length, ?_, ?_⟩, ?_⟩
  · simp [h]
  · simp [h, joinScopes, Text.join]
  · obtain ⟨c, last, rfl⟩ := List.exists_cons_of_ne_nil hne
    have hc : c ≠ ':' := by simpa using hcolon
    simp [List.isPrefixOf, Ne.symm hc]

/-- **The last component of a squeezed text** is what stands behind a scope in it, if the scope ends in
exactly one separator and the whole text opens no list. -/
lemma IsScope.exists_splitScopes_squeeze {scope run : List Char} (hscope : IsScope scope)
    (hcolons : ¬[':', ':', ':'] <:+ scope) (hne : run ≠ [])
    (hrun : ∀ c ∈ run, Text.isSpace c = false) (hlast : splitScopes run = [run])
    (hopens : ∀ s ∈ steps (Text.squeeze (scope ++ run)), s.opens = false) :
    ∃ front, splitScopes (Text.squeeze (scope ++ run)) = front ++ [run] := by
  rcases hscope with rfl | ⟨front, rfl⟩
  · exact ⟨[], by rw [List.nil_append, Text.squeeze_of_run hne hrun, hlast]; rfl⟩
  have hfront : front.getLast? ≠ some ':' := by
    intro hcolon
    obtain ⟨start, rfl⟩ := List.getLast?_eq_some_iff.1 hcolon
    exact hcolons ⟨start, by simp⟩
  have hrun' : ∀ c ∈ ':' :: ':' :: run, Text.isSpace c = false := by
    have hcolon : Text.isSpace ':' = false := by decide +kernel
    exact List.forall_mem_cons.2 ⟨hcolon, List.forall_mem_cons.2 ⟨hcolon, hrun⟩⟩
  obtain ⟨start, hsqueeze, -, hend⟩ := Text.squeeze_append_run (by simp) hrun' front
  have hsplit : Text.squeeze (front ++ [':', ':'] ++ run) = start ++ ':' :: ':' :: run := by
    rw [← hsqueeze]
    simp
  rw [hsplit] at hopens ⊢
  have hstart : start.getLast? ≠ some ':' := fun h => hfront (hend ':' (by decide +kernel) h)
  have htop : EndsAtTop start := by
    have hd : Delimits start (':' :: ':' :: run) := .inr fun x hx => by
      cases hx
      decide +kernel
    have hsteps := Cursor.steps_followedBy (c := Cursor.start start) hd
    refine Cursor.atTop_finish rfl fun s hs => hopens (s.followedBy (':' :: ':' :: run)) ?_
    rw [steps]
    exact hsteps ▸ List.mem_append_left _ (List.mem_map_of_mem hs)
  exact ⟨splitScopes start, by rw [splitScopes_append htop hstart, hlast]⟩

/-- A short key is in normal form. -/
lemma spaced_shortKey (id : List Char) : Text.Spaced (shortKey id) :=
  Text.spaced_squeeze _

/-- The end pieces of a short key are spaced. -/
lemma spaced_of_mem_shortAliases {id short : List Char} (h : short ∈ shortAliases id) :
    Text.Spaced short := by
  rcases (of_mem_shortAliases h).2 with rfl | ⟨front, hfront⟩
  · exact spaced_shortKey id
  · have hspaced := spaced_shortKey id
    rw [← hfront] at hspaced
    exact hspaced.of_append.2

/-- **Which spaced texts are their own short keys**: those that neither start with a blank nor open a
list.

**Proof sketch.** No part of the normalization makes a text longer. So one that is its own key loses
nothing to any of them. -/
lemma shortKey_eq_self_iff {name : List Char} (h : Text.Spaced name) :
    shortKey name = name
      ↔ name.head?.any Text.isSpace = false ∧ ∀ s ∈ steps name, s.opens = false := by
  constructor
  · intro hself
    have hlength : name.length ≤ (stripTemplates (stripSignature (Text.trimStart name))).length := by
      have hle := Text.length_squeeze_le (stripTemplates (stripSignature (Text.trim name)))
      rw [← h.trim_eq]
      exact Nat.le_trans (Nat.le_of_eq (congrArg List.length hself).symm) hle
    have hstart : name.head?.any Text.isSpace = false := by
      refine Text.not_space_of_length_trimStart (Nat.le_trans hlength ?_)
      exact Nat.le_trans (length_stripTemplates_le _) (length_stripSignature_le _)
    rw [Text.trimStart_of_not_space hstart] at hlength
    exact ⟨hstart, opens_of_length_le hlength⟩
  · rintro ⟨hstart, hopens⟩
    obtain ⟨hsignature, htemplates⟩ := strip_eq_self hopens
    have hself : Text.trimStart name = name := Text.trimStart_of_not_space hstart
    have hsqueeze : Text.squeeze name = name := h.squeeze_eq.trans hself
    calc shortKey name
        = Text.squeeze (stripTemplates (stripSignature name)) := by
          rw [shortKey, h.trim_eq, hself]
          rfl
      _ = name := by rw [hsignature, htemplates, hsqueeze]

/-- The aliases of a regular id open no list. -/
lemma opens_alias {id short : List Char} (hid : Regular (stripSignature (Text.trim id)))
    (h : short ∈ shortAliases id) : ∀ s ∈ steps short, s.opens = false := by
  have hkey : Spelled none (shortKey id) := hid.spelled_stripTemplates.squeeze fun hident => by
    cases hident
  have hshort : Spelled none short := by
    rcases (of_mem_shortAliases h).2 with rfl | hsuffix
    · exact hkey
    · exact (hkey.of_suffix hsuffix).of_before fun hident => by cases hident
  exact Spelled.opens_eq_false hshort

/-- White space in front of a scope is not part of any alias. -/
lemma shortAliases_trimStart (scope : List Char) {name : List Char}
    (hname : name.head?.any Text.isSpace = false) :
    shortAliases (Text.trimStart scope ++ name) = shortAliases (scope ++ name) := by
  have htrim : Text.trim (Text.trimStart scope ++ name) = Text.trim (scope ++ name) := by
    rw [Text.trim, Text.trim, Text.trimStart_append hname, Text.trimStart_append hname,
      Text.trimStart_of_not_space (Text.trimStart_head scope)]
  have hkey : shortKey (Text.trimStart scope ++ name) = shortKey (scope ++ name) := by
    rw [shortKey, shortKey, htrim]
  rw [shortAliases, shortAliases, hkey]

/-- **Which aliases are reached by writing them.** An alias is its own short key just if it neither
starts with white space nor opens a list when it is read as a name. One that starts with white space
is the short key of no text at all. And if the id is regular, nothing else can stand in the way. -/
theorem shortKey_alias (id : List Char) :
    ∀ short ∈ shortAliases id,
      (shortKey short = short
        ↔ short.head?.any Text.isSpace = false ∧ ∀ s ∈ steps short, s.opens = false) ∧
      (short.head?.any Text.isSpace = true → ∀ written, shortKey written ≠ short) ∧
      (Regular (stripSignature (Text.trim id)) →
        (shortKey short = short ↔ short.head? ≠ some ' ')) := by
  intro short h
  have hspaced := spaced_of_mem_shortAliases h
  have hiff := shortKey_eq_self_iff hspaced
  refine ⟨hiff, ?_, ?_⟩
  · rintro hspace written rfl
    have hhead : (shortKey written).head?.any Text.isSpace = false := Text.squeeze_head _
    rw [hhead] at hspace
    cases hspace
  · intro hid
    rw [hiff, and_iff_left (opens_alias hid h)]
    -- the only white space of a key is the blank
    cases short with
    | nil => simp
    | cons c short =>
      constructor
      · intro hc hhead
        obtain rfl : c = ' ' := by simpa using hhead
        have hblank : Text.isSpace ' ' = false := hc
        exact absurd hblank (by decide +kernel)
      · intro hhead
        by_contra hspace
        have hc : Text.isSpace c = true := by simpa using hspace
        exact hhead (congrArg some (hspaced.1 hc).1)

/-- The aliases of a function with arguments, in scopes with template arguments. -/
theorem shortKey_alias_method :
    shortKey "bar::operator ()".toList = "bar::operator ()".toList :=
  ((shortKey_alias "ns::bar<T>::operator  ()(int) const".toList "bar::operator ()".toList
    (by decide +kernel)).2.2 (by decide +kernel)).2 (by decide)

/-- **Aliases that are not reached by writing them**: one that starts with a blank, one with a
parenthesis that crosses a template list, and one with an operator name behind a template list. -/
theorem shortKey_alias_ne :
    (" b".toList ∈ shortAliases "a:: b".toList ∧ shortKey " b".toList = "b".toList) ∧
    ("f(b))>::g".toList ∈ shortAliases "f<(a>(b))>::g(int)".toList ∧
      shortKey "f(b))>::g".toList = "f".toList) ∧
    ("xoperator<".toList ∈ shortAliases "x<T>operator<".toList ∧
      shortKey "xoperator<".toList = "xoperator".toList) := by
  decide +kernel

end DocComments.Name
