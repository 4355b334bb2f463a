import DocComments.Proofs.Link.Commuting
import DocComments.Proofs.Link.Destinations
import Mathlib.Data.List.Perm.Basic

set_option autoImplicit false

/-!
# The order of the documents does not matter

A run over documents with different ids makes one registry, whatever their order, and looks up the
links of each document with that registry. So every document comes out the same, and the problems
found are the same up to their order.

## Main definitions

* `Document.collision?` — what keeps a document from being registered.
* `Report.document?` — the document of a report with a given id.
* `Source.assembled`, `Source.linkProblems` — the document made from a source, and the problems with
  its links.

## Main results

* `Registry.collisions_registerAll` — every document that cannot be registered gives one collision.
* `run_collisions`, `run_diagnostics` — what a run reports, source by source.
* `run_of_perm` — a run over the same documents in another order.
-/

namespace DocComments

open Markup (TextReader)

/-- What keeps a document from being registered. -/
def Document.collision? (d : Document) : Option Collision :=
  match d.register with
  | .ok _ => none
  | .error collision => some collision

/-- The document of a report with a given id. -/
def Report.document? (x : Report) (id : String) : Option Document :=
  x.documents.find? fun d => d.id == id

namespace Source

/-- The document that is made from a source, before links are looked up. -/
def assembled (settings : Settings) (reader : TextReader) (s : Source) : Document :=
  (assemble settings s.id s.root reader).1

/-- An assembled document has the id of its source. -/
@[simp]
lemma id_assembled (settings : Settings) (reader : TextReader) (s : Source) :
    (s.assembled settings reader).id = s.id := rfl

/-- The problems with the links of the document of a source; the links of a document that is not
registered are not looked up. -/
def linkProblems (settings : Settings) (reader : TextReader) (r : Registry) (s : Source) :
    List Diagnostic :=
  if r.isRegistered s.id then (r.resolve (s.assembled settings reader)).2 else []

end Source

/-! ## Finding by id -/

/-- Where ids differ, the element with a given id is found. -/
lemma find?_id_eq_some_iff {α : Type} {id : α → String} {xs : List α} (hids : (xs.map id).Nodup)
    {name : String} {x : α} : xs.find? (fun y => id y == name) = some x ↔ x ∈ xs ∧ id x = name := by
  constructor
  · intro h
    exact ⟨List.mem_of_find?_eq_some h, by simpa using List.find?_some h⟩
  · rintro ⟨hx, hname⟩
    have hfound : (xs.find? fun y => id y == name).isSome = true :=
      List.find?_isSome.2 ⟨x, hx, by simpa using hname⟩
    obtain ⟨y, hy⟩ := Option.isSome_iff_exists.1 hfound
    have hyname : id y = name := by simpa using List.find?_some hy
    rw [hy, List.inj_on_of_nodup_map hids (List.mem_of_find?_eq_some hy) hx
      (hyname.trans hname.symm)]

/-- Where ids differ, the order does not matter for what is found. -/
lemma find?_id_of_perm {α : Type} {id : α → String} {xs ys : List α} (hperm : xs.Perm ys)
    (hids : (ys.map id).Nodup) (name : String) :
    xs.find? (fun x => id x == name) = ys.find? fun y => id y == name := by
  have hids' : (xs.map id).Nodup := (hperm.map id).nodup_iff.2 hids
  apply Option.ext
  intro x
  rw [find?_id_eq_some_iff hids', find?_id_eq_some_iff hids, hperm.mem_iff]

/-! ## Registering documents -/

namespace Registry

/-- **Every document that cannot be registered gives one collision**, in the order of the
documents. -/
lemma collisions_registerAll (r : Registry) (ds : List Document) :
    (r.registerAll ds).2 = ds.filterMap Document.collision? := by
  induction ds generalizing r with
  | nil => rfl
  | cons d ds ih =>
    unfold registerAll register
    cases hd : d.register with
    | ok x =>
      have hnone : d.collision? = none := by simp [Document.collision?, hd]
      rw [List.filterMap_cons_none hnone]
      exact ih (r.merge x)
    | error collision =>
      have hsome : d.collision? = some collision := by simp [Document.collision?, hd]
      rw [List.filterMap_cons_some hsome, ← ih r]
      rfl

/-- Registrations are made for different documents if documents have different ids. -/
lemma sublist_documents (ds : List Document) :
    ((ds.filterMap fun d => d.register.toOption).map (·.document)).Sublist (ds.map (·.id)) := by
  induction ds with
  | nil => exact List.Sublist.refl _
  | cons d ds ih =>
    cases hd : d.register with
    | error collision =>
      rw [List.filterMap_cons_none (by rw [hd]; rfl)]
      exact ih.cons d.id
    | ok x =>
      rw [List.filterMap_cons_some (by rw [hd]; rfl), List.map_cons, List.map_cons,
        (Document.register_eq_ok hd).1]
      exact ih.cons_cons d.id

/-- The order of the documents does not matter for the registry. -/
lemma registerAll_of_perm {ds ds' : List Document} (hperm : ds'.Perm ds)
    (hids : (ds.map (·.id)).Nodup) (r : Registry) :
    (r.registerAll ds').1 = (r.registerAll ds).1 := by
  have hids' : (ds'.map (·.id)).Nodup := (hperm.map _).nodup_iff.2 hids
  rw [registerAll_eq_foldl, registerAll_eq_foldl]
  exact foldl_merge_perm (hperm.filterMap _) ((sublist_documents ds').nodup hids') r

end Registry

/-! ## A whole run -/

section Run

variable (settings : Settings) (reader : TextReader) (sources : List Source)

/-- The collisions that a run reports, source by source. -/
lemma run_collisions : (run settings sources reader).collisions
    = sources.filterMap fun s => (s.assembled settings reader).collision? := by
  simp only [run, linkAll, assembleAll, Registry.collisions_registerAll, List.map_map,
    List.filterMap_map]
  rfl

/-- **The problems that a run reports**: first those found while assembling, then the collisions,
then the problems with links. -/
lemma run_diagnostics : (run settings sources reader).diagnostics
    = sources.flatMap (fun s => (assemble settings s.id s.root reader).2)
      ++ ((run settings sources reader).collisions.map (·.diagnostic)
        ++ sources.flatMap
            (Source.linkProblems settings reader (run settings sources reader).registry)) := by
  have hlinks : ∀ r : Registry, (r.resolveAll (sources.map (Source.assembled settings reader))).2
      = sources.flatMap (Source.linkProblems settings reader r) := by
    intro r
    simp only [Registry.resolveAll, List.map_map, List.flatMap_map]
    refine List.flatMap_congr fun s _ => ?_
    by_cases hr : r.isRegistered s.id = true
    · simp [Source.linkProblems, hr]
    · simp [Source.linkProblems, hr]
  rw [run_registry, ← hlinks]
  simp only [run, linkAll, assembleAll, List.map_map, List.flatMap_map]
  rfl

/-- A run hands out one document for each source, in the same order. -/
lemma map_id_run_documents :
    (run settings sources reader).documents.map (·.id) = sources.map (·.id) := by
  rw [run_documents, List.map_map]
  exact List.map_congr_left fun s _ => id_output _ s

variable {sources}

/-- **The order of the documents does not matter.** Let the sources of a run have different ids. A
run over the same sources in another order hands out one document for each of them, and for every id
the same document, with all its link targets. It makes the same registry, and it reports the same
collisions and the same problems, up to their order. Both runs read the text of the comments with
the same reader, which may be any.

**Proof sketch.** The registry is that of the registrations, which commute because they are those of
different documents. Everything else is made source by source from that registry. -/
theorem run_of_perm {sources' : List Source} (hids : (sources.map (·.id)).Nodup)
    (hperm : sources'.Perm sources) :
    (run settings sources' reader).documents.map (·.id) = sources'.map (·.id) ∧
    (∀ id, (run settings sources' reader).document? id
      = (run settings sources reader).document? id) ∧
    (run settings sources' reader).registry = (run settings sources reader).registry ∧
    (run settings sources' reader).collisions.Perm (run settings sources reader).collisions ∧
    (run settings sources' reader).diagnostics.Perm (run settings sources reader).diagnostics := by
  have hregistry : (run settings sources' reader).registry
      = (run settings sources reader).registry := by
    rw [run_registry, run_registry]
    apply Registry.registerAll_of_perm (hperm.map _)
    rwa [List.map_map]
  have hcollisions : (run settings sources' reader).collisions.Perm
      (run settings sources reader).collisions := by
    rw [run_collisions, run_collisions]
    exact hperm.filterMap _
  refine ⟨map_id_run_documents settings reader sources', ?_, hregistry, hcollisions, ?_⟩
  · intro id
    apply find?_id_of_perm
    · rw [run_documents, run_documents, hregistry]
      exact hperm.map _
    · rwa [map_id_run_documents]
  · rw [run_diagnostics settings reader sources', run_diagnostics settings reader sources,
      hregistry]
    refine (hperm.flatMap_right _).append ((hcollisions.map _).append ?_)
    exact hperm.flatMap_right _

end Run

/-- A file whose comment has a link to something else. -/
def linkingFile (id name target : String) : Source :=
  { id
    root := {
      kind := .file, name, qualifiedName := name, signature := name
      comment := some ("[" ++ target ++ "]()") } }

/-- Two files that link to each other come out the same in either order. -/
theorem run_of_perm_linkingFiles :
    ∃ d, (run {} [linkingFile "a" "f" "g", linkingFile "b" "g" "f"]).document? "a" = some d ∧
      (run {} [linkingFile "b" "g" "f", linkingFile "a" "f" "g"]).document? "a" = some d ∧
      d.HasTarget (.resolved ⟨"b", "g"⟩) := by
  have hids : ([linkingFile "a" "f" "g", linkingFile "b" "g" "f"].map (·.id)).Nodup := by decide
  obtain ⟨-, hdocuments, -⟩ := run_of_perm {} Markup.events hids (List.Perm.swap _ _ [])
  have hlink : (((((run {} [linkingFile "a" "f" "g", linkingFile "b" "g" "f"]).document? "a").bind
      (·.get? 0)).bind (·.members[0]?)).bind (·.comment)).bind (·.node? 2)
        = some (.link ['g'] (.resolved ⟨"b", "g"⟩)) := by
    decide +kernel
  simp only [Option.bind_eq_some_iff] at hlink
  obtain ⟨c, ⟨m, ⟨e, ⟨d, hd, he⟩, hm⟩, hc⟩, hnode⟩ := hlink
  exact ⟨d, hd, (hdocuments "a").trans hd, 0, e, m, c, 2, ['g'], he, List.mem_of_getElem? hm, hc,
    hnode⟩

end DocComments
