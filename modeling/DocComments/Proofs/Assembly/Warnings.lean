import DocComments.Proofs.Assembly.Groups
import DocComments.Proofs.Comment.Moves

set_option autoImplicit false

/-!
# Assembling only warns

Whatever is wrong with the comments of a document, something is left out of it and a warning is
given. Assembling never reports an error: this is kept for collisions.

## Main definitions

* `OnlyWarnings` — all problems are warnings.

## Main results

* `Comment.onlyWarnings_classify` — reading a comment only warns.
* `onlyWarnings_assemble` — assembling a document only warns.
-/

namespace DocComments

open Markup (TextReader)

/-- All problems are warnings. -/
def OnlyWarnings (problems : List Diagnostic) : Prop :=
  ∀ p ∈ problems, p.severity = .warning

namespace OnlyWarnings

/-- An empty list holds only warnings. -/
lemma nil : OnlyWarnings [] := by
  intro p hp
  cases hp

/-- Warnings after warnings. -/
lemma append {problems problems' : List Diagnostic} (h : OnlyWarnings problems)
    (h' : OnlyWarnings problems') : OnlyWarnings (problems ++ problems') := by
  intro p hp
  exact (List.mem_append.1 hp).elim (h p) (h' p)

/-- Warnings that are put together. -/
lemma flatMap {α : Type} {f : α → List Diagnostic} {xs : List α}
    (h : ∀ x ∈ xs, OnlyWarnings (f x)) : OnlyWarnings (xs.flatMap f) := by
  intro p hp
  obtain ⟨x, hx, hp⟩ := List.mem_flatMap.1 hp
  exact h x hx p hp

/-- One more warning. -/
lemma warn {problems : List Diagnostic} (h : OnlyWarnings problems) (entity : String)
    (position : Position) (message : String) :
    OnlyWarnings (problems ++ [Diagnostic.warning entity position message]) := by
  apply h.append
  intro p hp
  rw [List.mem_singleton.1 hp]
  rfl

/-- Where there are only warnings there is no error. -/
lemma filter_error {problems : List Diagnostic} (h : OnlyWarnings problems) :
    problems.filter (·.severity == .error) = [] := by
  apply List.filter_eq_nil_iff.2
  intro p hp
  rw [h p hp]
  decide

end OnlyWarnings

/-! ## Reading a comment -/

namespace Comment

namespace Classifier

variable {ctx : Context} {s s' : Classifier}

/-- **Every move of the walk only warns**, and only when it drops a node. -/
lemma Move.onlyWarnings (hmove : Move ctx s s') (h : OnlyWarnings s.diagnostics) :
    OnlyWarnings s'.diagnostics := by
  cases hmove with
  | dropped id failure =>
    rw [diagnostics_recover]
    exact h.warn _ _ _
  | _ => exact h

end Classifier

/-- **Reading a comment only warns.** -/
lemma onlyWarnings_classify (ctx : Context) (tree : Markup.Tree) :
    OnlyWarnings (classify ctx tree).2 :=
  Classifier.run_induct ctx (s := { tree }) (P := fun s => OnlyWarnings s.diagnostics)
    OnlyWarnings.nil Classifier.Move.onlyWarnings _ _

end Comment

/-! ## Assembling -/

/-- Taking metadata out of a comment only warns. -/
lemma onlyWarnings_extractMetadata (settings : Settings) (entity : String) (c : Comment) :
    OnlyWarnings (extractMetadata settings entity c).diagnostics := by
  apply List.foldlRecOn (motive := fun x : Extraction => OnlyWarnings x.diagnostics)
  · exact OnlyWarnings.nil
  · intro x hx id _
    unfold Extraction.take
    repeat' split
    all_goals first
      | exact hx
      | exact hx.warn _ _ _

/-- Reading the comment of a declaration only warns. -/
lemma onlyWarnings_readEntry (settings : Settings) (reader : TextReader) (scope : Option Scope)
    (d : Declaration) :
    OnlyWarnings (readEntry settings reader scope d).2 := by
  unfold readEntry
  cases d.comment with
  | none => exact OnlyWarnings.nil
  | some raw =>
    exact (Comment.onlyWarnings_classify _ _).append (onlyWarnings_extractMetadata _ _ _)

/-- Reading the named parts of a comment only warns. -/
lemma onlyWarnings_takeInlines (settings : Settings) (owner entity : String) (member : Nat)
    (c : Comment) : OnlyWarnings (takeInlines settings owner entity member c).diagnostics := by
  apply List.foldlRecOn (motive := fun x : InlineReading => OnlyWarnings x.diagnostics)
  · exact OnlyWarnings.nil
  · intro x hx id _
    unfold InlineReading.take
    repeat' split
    all_goals first
      | exact hx
      | exact hx.warn _ _ _

/-- Making the entity of a group only warns. -/
lemma onlyWarnings_makeEntity (settings : Settings) (first : Entry) (rest : List Entry) :
    OnlyWarnings (makeEntity settings first rest).2 := by
  apply List.foldlRecOn (motive := fun x : MemberReading => OnlyWarnings x.diagnostics)
  · exact OnlyWarnings.nil
  · intro x hx entry _
    unfold MemberReading.add
    cases entry.comment with
    | none => exact hx
    | some c => exact hx.append (onlyWarnings_takeInlines _ _ _ _ _)

/-- **Assembling a level only warns.** -/
lemma onlyWarnings_assembleLevel (settings : Settings) (reader : TextReader) (n : Nat)
    (scope : Scope)
    (sources : List Declaration) :
    OnlyWarnings (assembleLevel settings reader n scope sources).2 := by
  induction n generalizing scope sources with
  | zero => exact OnlyWarnings.nil
  | succ n ih =>
    simp only [assembleLevel, List.flatMap_map]
    refine OnlyWarnings.append (OnlyWarnings.flatMap fun d _ => ?_)
      (OnlyWarnings.flatMap fun group _ => ?_)
    · exact onlyWarnings_readEntry settings reader (some scope) d
    · cases group with
      | nil => exact OnlyWarnings.nil
      | cons first rest => exact (onlyWarnings_makeEntity settings first rest).append (ih _ _)

/-- **Assembling a document only warns.** -/
lemma onlyWarnings_assemble (settings : Settings) (reader : TextReader) (id : String)
    (root : Declaration) :
    OnlyWarnings (assemble settings id root reader).2 :=
  ((onlyWarnings_readEntry settings reader none root).append
    (onlyWarnings_makeEntity settings _ [])).append
      (onlyWarnings_assembleLevel settings reader _ _ _)

end DocComments
