import DocComments.Proofs.Assembly.Warnings
import DocComments.Proofs.Run.Order

set_option autoImplicit false

/-!
# A collision leaves out its own document only

A document in which two entities have the same id registers nothing. The run reports the collision
and hands the document out as it was assembled; for all other documents it is as if that document
had not been there.

## Main definitions

* `Source.collides` — the document of a source cannot be registered.
* `Registry.attempt` — one document registered after others, or left out with its collision.

## Main results

* `Registry.foldl_attempt` — documents may be registered one at a time.
* `Registry.isRegistered_registerAll` — exactly the documents without a collision are registered.
* `run_filter_registry` — the registry is that of the documents without a collision.
* `run_isolates_collisions` — what a collision does to a run.
-/

namespace DocComments

open Markup (TextReader)

/-- The document of a source cannot be registered. -/
def Source.collides (settings : Settings) (reader : TextReader) (s : Source) : Bool :=
  (s.assembled settings reader).collision?.isSome

/-! ## Registering documents -/

namespace Registry

/-- Registers one more document. If it has a collision, the registry stays as it is and the collision
joins those reported before. -/
def attempt (state : Registry × List Collision) (d : Document) : Registry × List Collision :=
  match state.1.register d with
  | .ok r => (r, state.2)
  | .error collision => (state.1, state.2 ++ [collision])

/-- Documents may be registered one at a time, after others. -/
lemma foldl_attempt_append (r : Registry) (before : List Collision) (ds : List Document) :
    ds.foldl attempt (r, before) = ((r.registerAll ds).1, before ++ (r.registerAll ds).2) := by
  induction ds generalizing r before with
  | nil => simp [registerAll]
  | cons d ds ih =>
    rw [List.foldl_cons, registerAll, attempt]
    cases r.register d with
    | ok r' => exact ih r' before
    | error collision =>
      simp only [ih, List.append_assoc, List.singleton_append]

/-- **Documents may be registered one at a time.** -/
lemma foldl_attempt (r : Registry) (ds : List Document) :
    ds.foldl attempt (r, []) = r.registerAll ds := by
  rw [foldl_attempt_append, List.nil_append]

/-- **Exactly the documents without a collision are registered**, besides those that were. -/
lemma isRegistered_registerAll {r : Registry} {ds : List Document} {id : String} :
    (r.registerAll ds).1.isRegistered id = true ↔
      (∃ d ∈ ds, d.id = id ∧ d.collision? = none) ∨ r.isRegistered id = true := by
  induction ds generalizing r with
  | nil => simp [registerAll]
  | cons d ds ih =>
    rw [registerAll, register]
    cases hd : d.register with
    | ok x =>
      have hnone : d.collision? = none := by simp [Document.collision?, hd]
      have hdocument : x.document = d.id := (Document.register_eq_ok hd).1
      simp only [Except.map, ih, isRegistered_merge, hdocument, List.exists_mem_cons_iff, hnone,
        and_true, eq_comm (a := id)]
      rw [or_assoc, or_left_comm]
    | error collision =>
      have hsome : d.collision? = some collision := by simp [Document.collision?, hd]
      simp only [Except.map, ih, List.exists_mem_cons_iff, hsome]
      simp

/-- Documents with a collision contribute nothing to the registry. -/
lemma registerAll_filter (r : Registry) (ds : List Document) :
    (r.registerAll (ds.filter fun d => d.collision?.isNone)).1 = (r.registerAll ds).1 := by
  rw [registerAll_eq_foldl, registerAll_eq_foldl, List.filterMap_filter]
  congr 1
  refine List.filterMap_congr fun d _ => ?_
  cases hd : d.register with
  | ok x => simp [Document.collision?, hd]
  | error collision => simp [Document.collision?, hd, Except.toOption]

end Registry

/-! ## A whole run -/

/-- Looking up links only warns. -/
lemma Registry.onlyWarnings_resolve (r : Registry) (d : Document) :
    OnlyWarnings (r.resolve d).2 := by
  refine OnlyWarnings.flatMap fun i _ => ?_
  split
  · refine OnlyWarnings.flatMap fun m _ => ?_
    unfold Member.linkProblems
    split
    · exact OnlyWarnings.nil
    · intro p hp
      obtain ⟨id, -, hp⟩ := List.mem_filterMap.1 hp
      obtain ⟨e, -, rfl⟩ := Option.map_eq_some_iff.1 hp
      rfl
  · exact OnlyWarnings.nil

section Run

variable {settings : Settings} {reader : TextReader} {sources : List Source}

/-- The document that a run hands out for a source. -/
lemma document?_run (hids : (sources.map (·.id)).Nodup) {s : Source} (hs : s ∈ sources) :
    (run settings sources reader).document? s.id
      = some (output settings reader (run settings sources reader).registry s) := by
  apply (find?_id_eq_some_iff _).2
  · exact (mem_run_documents_iff hids hs _).2 rfl
  · rwa [map_id_run_documents]

/-- A source is registered exactly if it does not collide. -/
lemma isRegistered_run (hids : (sources.map (·.id)).Nodup) {s : Source} (hs : s ∈ sources) :
    (run settings sources reader).registry.isRegistered s.id = !s.collides settings reader := by
  rw [Bool.eq_iff_iff, run_registry, Registry.isRegistered_registerAll, Source.collides]
  constructor
  · rintro (⟨d, hd, hid, hnone⟩ | hempty)
    · obtain ⟨s', hs', rfl⟩ := List.mem_map.1 hd
      have hsame : s' = s := List.inj_on_of_nodup_map hids hs' hs hid
      subst hsame
      have : (s'.assembled settings reader).collision? = none := hnone
      simp [this]
    · cases hempty
  · intro h
    exact .inl ⟨s.assembled settings reader, List.mem_map_of_mem hs, rfl, by simpa using h⟩

/-- **The registry of a run is that of the sources that do not collide.** -/
lemma run_filter_registry (settings : Settings) (reader : TextReader) (sources : List Source) :
    (run settings (sources.filter fun s => !s.collides settings reader) reader).registry
      = (run settings sources reader).registry := by
  rw [run_registry, run_registry, ← Registry.registerAll_filter _ (sources.map _), List.filter_map]
  congr 3
  refine List.filter_congr fun s _ => ?_
  simp only [Source.collides, Function.comp_apply]
  exact Option.not_isSome _

/-- The problems with links are those of the sources that do not collide. -/
lemma flatMap_linkProblems (hids : (sources.map (·.id)).Nodup) :
    sources.flatMap (Source.linkProblems settings reader (run settings sources reader).registry)
      = (sources.filter fun s => !s.collides settings reader).flatMap
          fun s =>
            ((run settings sources reader).registry.resolve (s.assembled settings reader)).2 := by
  have hproblems : ∀ s ∈ sources,
      s.linkProblems settings reader (run settings sources reader).registry
      = if s.collides settings reader then []
        else ((run settings sources reader).registry.resolve (s.assembled settings reader)).2 := by
    intro s hs
    rw [Source.linkProblems, isRegistered_run hids hs]
    cases s.collides settings reader <;> rfl
  generalize (run settings sources reader).registry = r at hproblems ⊢
  clear hids
  induction sources with
  | nil => rfl
  | cons s sources ih =>
    have hrest := ih fun s' hs' => hproblems s' (List.mem_cons_of_mem _ hs')
    rw [List.flatMap_cons, hrest, hproblems s List.mem_cons_self]
    by_cases hcollides : s.collides settings reader = true
    · rw [List.filter_cons_of_neg (by simp [hcollides]), if_pos hcollides, List.nil_append]
    · rw [List.filter_cons_of_pos (by simp [hcollides]), if_neg hcollides, List.flatMap_cons]

/-- The collisions of a run are those of the sources that collide, one for each. -/
lemma map_some_run_collisions (settings : Settings) (reader : TextReader) (sources : List Source) :
    (run settings sources reader).collisions.map some
      = (sources.filter (Source.collides settings reader)).map
          fun s => (s.assembled settings reader).collision? := by
  rw [run_collisions]
  induction sources with
  | nil => rfl
  | cons s sources ih =>
    cases hs : (s.assembled settings reader).collision? with
    | none => simp [Source.collides, hs, ih]
    | some collision => simp [Source.collides, hs, ih]

/-- Sources that do not collide give no collisions. -/
lemma run_filter_collisions (settings : Settings) (reader : TextReader) (sources : List Source) :
    (run settings (sources.filter fun s => !s.collides settings reader) reader).collisions
      = [] := by
  have hnone := map_some_run_collisions settings reader
    (sources.filter fun s => !s.collides settings reader)
  rw [List.filter_filter] at hnone
  simpa using hnone

/-- The errors that a run reports are its collisions. -/
lemma filter_error_run_diagnostics (settings : Settings) (reader : TextReader)
    (sources : List Source) :
    (run settings sources reader).diagnostics.filter (·.severity == .error)
      = (run settings sources reader).collisions.map (·.diagnostic) := by
  have hassembled :
      OnlyWarnings (sources.flatMap fun s => (assemble settings s.id s.root reader).2) :=
    OnlyWarnings.flatMap fun s _ => onlyWarnings_assemble settings reader s.id s.root
  have hlinks : OnlyWarnings
      (sources.flatMap
        (Source.linkProblems settings reader (run settings sources reader).registry)) := by
    refine OnlyWarnings.flatMap fun s _ => ?_
    unfold Source.linkProblems
    split
    · exact Registry.onlyWarnings_resolve _ _
    · exact OnlyWarnings.nil
  have hcollisions : ((run settings sources reader).collisions.map (·.diagnostic)).filter
      (·.severity == .error) = (run settings sources reader).collisions.map (·.diagnostic) := by
    refine List.filter_eq_self.2 fun p hp => ?_
    obtain ⟨collision, -, rfl⟩ := List.mem_map.1 hp
    rfl
  rw [run_diagnostics, List.filter_append, List.filter_append, hassembled.filter_error,
    hlinks.filter_error, hcollisions, List.nil_append, List.append_nil]

/-- **A collision leaves out its own document only.** Let the sources of a run have different ids.
The run reports one collision for every source that collides, in their order, and its errors are
these collisions; the documents of these sources are handed out as they were assembled. A run over
the other sources alone makes the same registry, hands out the same documents and reports the same
problems with links. It does not matter whether documents are registered together, which collects
all registrations before they are merged, or one at a time. The text of the comments may be read by
any reader.

**Proof sketch.** A document with a collision has no registration, so it is left out of the registry,
and since no other document has its id it does not count as registered. Everything that is done for
another document depends on that document and on the registry only. -/
theorem run_isolates_collisions (settings : Settings) (reader : TextReader) {sources : List Source}
    (hids : (sources.map (·.id)).Nodup) :
    (run settings sources reader).collisions.map some
      = (sources.filter (Source.collides settings reader)).map
          (fun s => (s.assembled settings reader).collision?) ∧
    (run settings sources reader).diagnostics.filter (·.severity == .error)
      = (run settings sources reader).collisions.map (·.diagnostic) ∧
    (∀ s ∈ sources, s.collides settings reader = true →
      (run settings sources reader).document? s.id = some (s.assembled settings reader)) ∧
    (run settings (sources.filter fun s => !s.collides settings reader) reader).registry
      = (run settings sources reader).registry ∧
    (∀ s ∈ sources, s.collides settings reader = false → ∃ d,
      (run settings sources reader).document? s.id = some d ∧
      (run settings (sources.filter fun s => !s.collides settings reader) reader).document? s.id
        = some d) ∧
    (run settings sources reader).diagnostics
      = sources.flatMap (fun s => (assemble settings s.id s.root reader).2)
        ++ ((run settings sources reader).collisions.map (·.diagnostic)
          ++ (sources.filter fun s => !s.collides settings reader).flatMap fun s =>
              ((run settings sources reader).registry.resolve (s.assembled settings reader)).2) ∧
    (run settings (sources.filter fun s => !s.collides settings reader) reader).diagnostics
      = (sources.filter fun s => !s.collides settings reader).flatMap
          (fun s => (assemble settings s.id s.root reader).2)
        ++ (sources.filter fun s => !s.collides settings reader).flatMap (fun s =>
            ((run settings sources reader).registry.resolve (s.assembled settings reader)).2) ∧
    ∀ (r : Registry) (ds : List Document),
      ds.foldl Registry.attempt (r, []) = r.registerAll ds ∧
      r.registerAll ds = ((ds.filterMap fun d => d.register.toOption).foldl Registry.merge r,
        ds.filterMap Document.collision?) := by
  have hregistry := run_filter_registry settings reader sources
  have hids' : ((sources.filter fun s => !s.collides settings reader).map (·.id)).Nodup :=
    (List.filter_sublist.map _).nodup hids
  refine ⟨map_some_run_collisions settings reader sources,
    filter_error_run_diagnostics settings reader sources,
    ?_, hregistry, ?_, ?_, ?_, ?_⟩
  · intro s hs hcollides
    rw [document?_run hids hs, output, isRegistered_run hids hs, hcollides]
    rfl
  · intro s hs hcollides
    have hrest : s ∈ sources.filter fun s => !s.collides settings reader :=
      List.mem_filter.2 ⟨hs, by simp [hcollides]⟩
    refine ⟨_, document?_run hids hs, ?_⟩
    rw [document?_run hids' hrest, hregistry]
  · rw [run_diagnostics, flatMap_linkProblems hids]
  · rw [run_diagnostics, flatMap_linkProblems hids', run_filter_collisions, hregistry,
      List.filter_filter]
    simp only [Bool.and_self]
    rfl
  · intro r ds
    refine ⟨Registry.foldl_attempt r ds, Prod.ext ?_ ?_⟩
    · exact Registry.registerAll_eq_foldl r ds
    · exact Registry.collisions_registerAll r ds

end Run

/-- A file in which two functions ask for the same id, and which has a link to one of them. -/
def clashingFile : Source :=
  { id := "c"
    root := {
      kind := .file, name := "c", qualifiedName := "c", signature := "c"
      comment := some "[f]()"
      children := [
        { kind := .function, name := "f", qualifiedName := "f", signature := "f()" },
        { kind := .function, name := "g", qualifiedName := "g", signature := "g()"
          comment := some "\\unique_name f" }] } }

/-- A file that collides is handed out as it was assembled, and the file beside it is handed out as
if it were alone. -/
theorem run_isolates_collisions_clashingFile :
    (∃ c, (clashingFile.assembled {} Markup.events).collision? = some c ∧
      (run {} [clashingFile, linkingFile "a" "f" "f"]).collisions = [c]) ∧
    (run {} [clashingFile, linkingFile "a" "f" "f"]).document? "c"
      = some (clashingFile.assembled {} Markup.events) ∧
    (run {} [linkingFile "a" "f" "f"]).registry
      = (run {} [clashingFile, linkingFile "a" "f" "f"]).registry := by
  have hids : ([clashingFile, linkingFile "a" "f" "f"].map (·.id)).Nodup := by decide
  have hclash : clashingFile.collides {} Markup.events = true := by decide +kernel
  have hfine : (linkingFile "a" "f" "f").collides {} Markup.events = false := by decide +kernel
  obtain ⟨hcollisions, -, hkept, hregistry, -⟩ := run_isolates_collisions {} Markup.events hids
  obtain ⟨c, hc⟩ := Option.isSome_iff_exists.1 hclash
  refine ⟨⟨c, hc, ?_⟩, hkept clashingFile (by simp) hclash, ?_⟩
  · simpa [hclash, hfine, hc] using hcollisions
  · simpa [hclash, hfine] using hregistry

end DocComments
