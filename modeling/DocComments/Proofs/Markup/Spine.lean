import DocComments.Markup.Tree
import DocComments.Proofs.Arena.Layout

set_option autoImplicit false

/-!
# The tree of an event stream is laid out in document order

While a markup tree is built, the open nodes make a spine from the root to the innermost open node,
and every node of the spine has some finished trees below it already. New nodes and new text only
ever go to the end of the innermost open node. So at every moment the arena is the one that planting
would give, and in the end it is the arena of a tree whose root is the document.

## Main definitions

* `OpenNode` — an open node with the finished trees below it.
* `Building.ofSpine` — the state of building for a spine.

## Main results

* `Building.step_ofSpine` — an event leads from a spine to a spine with the same root.
* `Tree.ofEvents_eq_ofRose` — the tree of an event stream is the arena of a tree.
-/

namespace DocComments.Markup

open Arena Rose

/-- An open node and the finished trees below it. -/
structure OpenNode where
  value : Placed Kind
  done : List (Rose (Placed Kind))

namespace Building

/-- The state of building in which the given nodes are open, innermost first. -/
def ofSpine : OpenNode → List OpenNode → Building
  | f, [] => { tree := (Arena.singleton f.value).plantAll 0 f.done }
  | f, g :: outer =>
    let b := ofSpine g outer
    { tree := (b.tree.push b.top f.value).plantAll b.tree.size f.done
      stack := b.tree.size :: b.stack }

/-- The arena up to an open node, given the nodes around it. -/
def stem (v : Placed Kind) : List OpenNode → Tree
  | [] => Arena.singleton v
  | g :: outer => (ofSpine g outer).tree.push (ofSpine g outer).top v

/-- The index of the innermost open node, given the nodes around it. -/
def tip : List OpenNode → Nat
  | [] => 0
  | g :: outer => (ofSpine g outer).tree.size

/-- The content of the outermost node of a spine. -/
def rootValue : OpenNode → List OpenNode → Placed Kind
  | f, [] => f.value
  | _, g :: outer => rootValue g outer

/-! ## The innermost open node -/

/-- The tree so far: the stem, with the finished trees planted at its end. -/
lemma tree_ofSpine (f : OpenNode) (outer : List OpenNode) :
    (ofSpine f outer).tree = (stem f.value outer).plantAll (tip outer) f.done := by
  cases outer <;> rfl

/-- The innermost open node is at the end of the stem. -/
@[simp]
lemma top_ofSpine (f : OpenNode) (outer : List OpenNode) : (ofSpine f outer).top = tip outer := by
  cases outer <;> rfl

/-- The innermost open node is the last one of its stem. -/
lemma size_stem (v : Placed Kind) (outer : List OpenNode) :
    (stem v outer).size = tip outer + 1 := by
  cases outer <;> simp [stem, tip]

/-- The innermost open node is a node of the tree. -/
lemma tip_lt_size (f : OpenNode) (outer : List OpenNode) :
    tip outer < (ofSpine f outer).tree.size := by
  rw [tree_ofSpine, size_plantAll, size_stem]
  omega

/-- The slot of the innermost open node. -/
lemma slot_tip (f : OpenNode) (outer : List OpenNode) : ∃ parent,
    (ofSpine f outer).tree.slots[tip outer]? = some
      { value := f.value, parent, children := roots (tip outer + 1) f.done } := by
  have hstem : ∃ parent, (stem f.value outer).slots[tip outer]?
      = some { value := f.value, parent, children := [] } := by
    cases outer with
    | nil => exact ⟨none, rfl⟩
    | cons g outer =>
      refine ⟨some (tip outer), ?_⟩
      rw [stem, tip, top_ofSpine]
      exact slots_push_self _ _ (tip_lt_size g outer)
  obtain ⟨parent, hslot⟩ := hstem
  refine ⟨parent, ?_⟩
  rw [tree_ofSpine, slots_plantAll _ _ _ (by rw [size_stem]; omega), hslot, size_stem]
  simp

/-- A new content of the innermost open node. -/
lemma modifyValue_stem (v : Placed Kind) (outer : List OpenNode)
    (f : Placed Kind → Placed Kind) :
    (stem v outer).modifyValue (tip outer) f = stem (f v) outer := by
  cases outer with
  | nil => rfl
  | cons g outer => exact modifyValue_push_self _ _ _ _

/-! ## Changes of the innermost open node -/

/-- One more finished tree is planted below the innermost open node. -/
lemma ofSpine_append (f : OpenNode) (outer : List OpenNode) (ts : List (Rose (Placed Kind))) :
    ofSpine { f with done := f.done ++ ts } outer = { ofSpine f outer with
      tree := (ofSpine f outer).tree.plantAll (tip outer) ts } := by
  cases outer with
  | nil => simp [ofSpine, tip, plantAll_append]
  | cons g outer => simp [ofSpine, tip, plantAll_append]

/-- Closing the innermost open node leaves the arena as it is. -/
lemma ofSpine_close (f g : OpenNode) (outer : List OpenNode) :
    ofSpine { g with done := g.done ++ [.node f.value f.done] } outer
      = { tree := (ofSpine f (g :: outer)).tree, stack := (ofSpine g outer).stack } := by
  rw [ofSpine_append, plantAll_cons, plantAll_nil]
  simp [ofSpine]

/-- The innermost open node gets a new content. -/
lemma ofSpine_modify (f : OpenNode) (outer : List OpenNode) (change : Placed Kind → Placed Kind) :
    { ofSpine f outer with tree := (ofSpine f outer).tree.modifyValue (tip outer) change }
      = ofSpine { f with value := change f.value } outer := by
  have htree : (ofSpine f outer).tree.modifyValue (tip outer) change
      = (ofSpine { f with value := change f.value } outer).tree := by
    rw [tree_ofSpine, tree_ofSpine, modifyValue_plantAll _ _ _ _ (by rw [size_stem]; omega),
      modifyValue_stem]
  rw [htree]
  cases outer <;> rfl

/-- The last finished tree below the innermost open node gets a new content of its root. -/
lemma ofSpine_modify_last (f : OpenNode) (outer : List OpenNode) (v : Placed Kind)
    (below ts : List (Rose (Placed Kind))) (change : Placed Kind → Placed Kind)
    (h : f.done = ts ++ [.node v below]) :
    { ofSpine f outer with
      tree := (ofSpine f outer).tree.modifyValue (tip outer + 1 + sizeAll ts) change }
      = ofSpine { f with done := ts ++ [.node (change v) below] } outer := by
  have hf : f = { value := f.value, done := ts ++ [.node v below] } := by
    rw [← h]
  have hsize : (ofSpine { value := f.value, done := ts } outer).tree.size
      = tip outer + 1 + sizeAll ts := by
    rw [tree_ofSpine, size_plantAll, size_stem]
  have hold := ofSpine_append { value := f.value, done := ts } outer [.node v below]
  have hnew := ofSpine_append { value := f.value, done := ts } outer [.node (change v) below]
  rw [hnew, hf, hold]
  simp only [plantAll_cons, plantAll_nil]
  rw [← hsize, modifyValue_plantAll _ _ _ _ (by rw [size_push]; omega), modifyValue_push_self]

/-! ## Events -/

/-- The content of the innermost open node is what the arena says. -/
lemma node?_tip (f : OpenNode) (outer : List OpenNode) :
    (ofSpine f outer).tree.node? (tip outer) = some f.value.value := by
  obtain ⟨parent, hslot⟩ := slot_tip f outer
  simp [node?, (views_of_slot hslot).1]

/-- A text that the innermost open node ends in is the root of its last finished tree. -/
lemma exists_of_lastText? {f : OpenNode} {outer : List OpenNode} {id : Nat}
    (h : (ofSpine f outer).lastText? = some id) : ∃ ts v below,
      f.done = ts ++ [.node v below] ∧ id = tip outer + 1 + sizeAll ts := by
  obtain ⟨parent, hslot⟩ := slot_tip f outer
  have hkids : (ofSpine f outer).tree.children (tip outer) = roots (tip outer + 1) f.done :=
    (views_of_slot hslot).2.2
  rw [lastText?, top_ofSpine, hkids] at h
  rcases List.eq_nil_or_concat f.done with hnil | ⟨ts, ⟨v, below⟩, hts⟩
  · rw [hnil] at h
    simp at h
  · refine ⟨ts, v, below, by simpa using hts, ?_⟩
    rw [hts, List.concat_eq_append, roots_append, roots_cons, roots_nil,
      List.getLast?_concat] at h
    simp only at h
    split at h
    · simpa using h.symm
    · cases h

/-- The root stays the same when the innermost open node keeps its content. -/
lemma rootValue_of_value (f g : OpenNode) (outer : List OpenNode) (h : g.value = f.value) :
    rootValue g outer = rootValue f outer := by
  cases outer with
  | nil => exact h
  | cons g' outer => rfl

/-- Text goes to the innermost open node, to the text before it, or makes a node of its own. -/
lemma addText_ofSpine (f : OpenNode) (outer : List OpenNode) (value : List Char)
    (position : Position) (hroot : (rootValue f outer).value = .document) :
    ∃ g, (ofSpine f outer).addText value position = ofSpine g outer ∧
      rootValue g outer = rootValue f outer := by
  rw [addText, top_ofSpine, node?_tip]
  split
  · rename_i htakes
    refine ⟨_, ofSpine_modify f outer _, ?_⟩
    cases outer with
    | nil =>
      -- the document takes no text into itself
      rw [rootValue] at hroot
      simp [hroot, takesText] at htakes
    | cons g outer => rfl
  · split
    · rename_i id hlast
      obtain ⟨ts, v, below, hdone, rfl⟩ := exists_of_lastText? hlast
      exact ⟨_, ofSpine_modify_last f outer v below ts _ hdone, rootValue_of_value _ _ _ rfl⟩
    · refine ⟨{ f with done := f.done ++ [.node ⟨.text value, position⟩ []] }, ?_,
        rootValue_of_value _ _ _ rfl⟩
      rw [ofSpine_append, push_eq_plantAll]

/-- **An event leads from a spine to a spine with the same root.** -/
theorem step_ofSpine (position : Nat → Position) (f : OpenNode) (outer : List OpenNode)
    (event : Event) (hroot : (rootValue f outer).value = .document) :
    ∃ g outer', step position (ofSpine f outer) event = ofSpine g outer' ∧
      rootValue g outer' = rootValue f outer := by
  cases event with
  | enter kind offset =>
    refine ⟨⟨⟨kind, position offset⟩, []⟩, f :: outer, ?_, rfl⟩
    simp [step, ofSpine]
  | leave =>
    cases outer with
    | nil => exact ⟨f, [], rfl, rfl⟩
    | cons g outer =>
      refine ⟨{ g with done := g.done ++ [.node f.value f.done] }, outer, ?_,
        rootValue_of_value g _ outer rfl⟩
      rw [ofSpine_close f g outer, step]
      simp [ofSpine]
  | text value offset =>
    obtain ⟨g, hg, hvalue⟩ := addText_ofSpine f outer value (position offset) hroot
    exact ⟨g, outer, hg, hvalue⟩
  | leaf kind offset =>
    refine ⟨{ f with done := f.done ++ [.node ⟨kind, position offset⟩ []] }, outer, ?_,
      rootValue_of_value _ _ _ rfl⟩
    rw [ofSpine_append, step, push_eq_plantAll, top_ofSpine]

/-- Events lead from a spine to a spine with the same root. -/
lemma foldl_step_ofSpine (position : Nat → Position) (events : List Event) (f : OpenNode)
    (outer : List OpenNode) (hroot : (rootValue f outer).value = .document) :
    ∃ g outer', events.foldl (step position) (ofSpine f outer) = ofSpine g outer' ∧
      rootValue g outer' = rootValue f outer := by
  induction events generalizing f outer with
  | nil => exact ⟨f, outer, rfl, rfl⟩
  | cons event events ih =>
    obtain ⟨g, outer', hstep, hvalue⟩ := step_ofSpine position f outer event hroot
    obtain ⟨g', outer'', hrun, hvalue'⟩ := ih g outer' (by rw [hvalue]; exact hroot)
    refine ⟨g', outer'', ?_, hvalue'.trans hvalue⟩
    rw [List.foldl_cons, hstep, hrun]

/-- The arena of a spine is the arena of a tree, which closing all open nodes gives. -/
lemma exists_tree_ofSpine (f : OpenNode) (outer : List OpenNode) :
    ∃ below, (ofSpine f outer).tree = Arena.ofRose (.node (rootValue f outer) below) := by
  induction outer generalizing f with
  | nil => exact ⟨f.done, rfl⟩
  | cons g outer ih =>
    obtain ⟨below, hbelow⟩ := ih { g with done := g.done ++ [.node f.value f.done] }
    rw [ofSpine_close] at hbelow
    refine ⟨below, ?_⟩
    have hvalue := rootValue_of_value g { g with done := g.done ++ [.node f.value f.done] } outer rfl
    rwa [hvalue] at hbelow

end Building

/-- **The tree of an event stream is the arena of a tree** whose root is the document.

**Proof sketch.** Building starts with the document as the only open node. Every event leads from a
spine to a spine with the same root, and closing what is still open at the end does not touch the
arena. -/
theorem Tree.ofEvents_eq_ofRose (position : Nat → Position) (events : List Event) :
    ∃ below, Tree.ofEvents position events = Arena.ofRose (.node ⟨.document, ⟨1, 1⟩⟩ below) := by
  have hstart : ({} : Building) = Building.ofSpine ⟨⟨.document, ⟨1, 1⟩⟩, []⟩ [] := by
    simp [Building.ofSpine]
  obtain ⟨g, outer, hrun, hvalue⟩ := Building.foldl_step_ofSpine position events
    ⟨⟨.document, ⟨1, 1⟩⟩, []⟩ [] rfl
  obtain ⟨below, hbelow⟩ := Building.exists_tree_ofSpine g outer
  refine ⟨below, ?_⟩
  rw [Tree.ofEvents, hstart, hrun, hbelow, hvalue]
  rfl

end DocComments.Markup
