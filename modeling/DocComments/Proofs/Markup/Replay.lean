import DocComments.Proofs.Markup.Siblings
import DocComments.Proofs.Markup.Stream

set_option autoImplicit false

/-!
# A walk over the tree of a stream replays the stream

The walk finds its way by the links of the arena: to the first child, to the next sibling, back to
the parent. In the arena of a tree this is the recursive visit of the tree, and for the tree of a
well nested stream that visit gives the replay of the stream.

## Main definitions

* `Tree.Follows` — following `advance` from an event on until there is none gives a list of events.
* `tour`, `tourAll` — the events of a recursive visit of stored trees.
* `Tree.visit?` — what an event of a walk meets.
* `Tree.meets` — the events that a walk should have.

## Main results

* `Tree.follows_ofRose` — the walk over the arena of a tree is the recursive visit of the tree.
* `count_tourAll` — a recursive visit enters every node once and leaves every container once.
* `walk_replays_events` — the walk over the tree of a well nested stream replays the stream.
-/

namespace DocComments.Markup

open Arena
open Rose (FamiliesAll familiesAll_cons forest_induct roots roots_cons size_node sizeAll
  sizeAll_cons)

/-! ## Following the walk -/

/-- Following `advance` from an event on until there is none gives the listed events. -/
inductive Tree.Follows (t : Tree) : Option Walk → List Walk → Prop where
  | done : Follows t none []
  | step {event : Walk} {rest : List Walk} :
      Follows t (t.advance event) rest → Follows t (some event) (event :: rest)

/-- The bounded walk has all events if the bound is large enough. -/
lemma Tree.Follows.walkFrom_eq {t : Tree} {start : Option Walk} {events : List Walk}
    (h : t.Follows start events) {fuel : Nat} (hfuel : events.length ≤ fuel) :
    t.walkFrom fuel start = events := by
  induction h generalizing fuel with
  | done => cases fuel <;> rfl
  | step _ ih =>
    cases fuel with
    | zero => simp at hfuel
    | succ fuel => rw [walkFrom, ih (by simpa using hfuel)]

mutual

/-- The events of a recursive visit of a tree whose nodes are stored from `first` on. -/
def tour (first : Nat) : Rose (Placed Kind) → List Walk
  | .node v below =>
    if v.value.isContainer then .enter first :: (tourAll (first + 1) below ++ [.leave first])
    else [.enter first]

/-- The events of a recursive visit of trees whose nodes are stored from `first` on. -/
def tourAll (first : Nat) : List (Rose (Placed Kind)) → List Walk
  | [] => []
  | t :: ts => tour first t ++ tourAll (first + t.size) ts

end

/-- **Below a node the walk visits the trees before it recursively, and then leaves the node.**

**Proof sketch.** Induction over the trees. The walk enters the first root. If it is a container, the
walk goes through what is below it and leaves it; in both cases it goes on with the next tree. -/
lemma Tree.Below.follows {t : Tree} {p next : Nat} {done : List Nat}
    {ts : List (Rose (Placed Kind))} (h : t.Below p done next ts) {rest : List Walk}
    (hrest : t.Follows (some (.leave p)) rest) :
    t.Follows (some (Walk.into p (roots next ts))) (tourAll next ts ++ rest) := by
  induction ts using forest_induct generalizing p next done rest with
  | nil => simpa [tourAll, Walk.into] using hrest
  | cons v below ts ihb iht =>
    have hothers := iht h.skip hrest
    have hnext := h.skip.next?_eq
    rw [tourAll, tour, roots_cons, Walk.into]
    by_cases hc : v.value.isContainer = true
    · rw [if_pos hc, List.cons_append, List.append_assoc, List.cons_append, List.append_assoc]
      refine .step ?_
      rw [(h.inner hc).advance_enter]
      refine ihb (h.inner hc) (.step ?_)
      rw [Tree.advance, hnext]
      exact hothers
    · rw [if_neg hc]
      refine .step ?_
      rw [Tree.advance, isContainer_eq (storesAll_cons.1 h.stored).1, if_neg hc, hnext]
      exact hothers

/-- **The walk over the arena of a tree is the recursive visit of the tree.** -/
theorem Tree.follows_ofRose {v : Placed Kind} (hv : v.value.isContainer = true)
    (below : List (Rose (Placed Kind))) :
    Tree.Follows (ofRose (.node v below)) (some (.enter 0)) (tourAll 0 [.node v below]) := by
  have hbelow := Below.of_stores (stores_ofRose (.node v below)) hv
  rw [tourAll, tour, if_pos hv, tourAll, List.append_nil]
  refine .step ?_
  rw [hbelow.advance_enter]
  exact hbelow.follows (.step .done)

/-! ## What a recursive visit has -/

/-- What an event of a walk meets. -/
def Tree.visit? (t : Tree) : Walk → Option Visit
  | .enter id => (t.value? id).map .enter
  | .leave id => (t.value? id).map .leave

/-- The events that a walk should have: nodes are entered, and containers are left. -/
def Tree.meets (t : Tree) : Walk → Bool
  | .enter id => id < t.size
  | .leave id => t.isContainer id

/-- Only nodes of the tree are containers. -/
lemma Tree.lt_size_of_isContainer {t : Tree} {id : Nat} (h : t.isContainer id = true) :
    id < t.size := by
  obtain ⟨kind, hkind, -⟩ := (Option.any_eq_true _ _).1 h
  obtain ⟨v, hv, -⟩ := Option.map_eq_some_iff.1 hkind
  obtain ⟨slot, hslot, -⟩ := Option.map_eq_some_iff.1 hv
  exact lt_size_of_slots hslot

/-- A recursive visit of stored trees meets what a recursive visit of the trees meets. -/
lemma map_visit?_tourAll {t : Tree} {parent : Option Nat} {first : Nat}
    {ts : List (Rose (Placed Kind))} (h : t.StoresAll parent first ts) :
    (tourAll first ts).map t.visit? = (visitsAll ts).map some := by
  induction ts using forest_induct generalizing parent first with
  | nil => rfl
  | cons v below ts ihb iht =>
    obtain ⟨hroot, hothers⟩ := storesAll_cons.1 h
    obtain ⟨hslot, hbelow⟩ := stores_node.1 hroot
    have hvalue := (views_of_slot hslot).1
    rw [tourAll, tour, visitsAll, visits, List.map_append, iht hothers, List.map_append]
    by_cases hc : v.value.isContainer = true
    · simp [hc, Tree.visit?, hvalue, ihb hbelow]
    · simp [hc, Tree.visit?, hvalue]

/-- A recursive visit has at most two events for each node. -/
lemma length_tourAll_le (first : Nat) (ts : List (Rose (Placed Kind))) :
    (tourAll first ts).length ≤ 2 * sizeAll ts := by
  induction ts using forest_induct generalizing first with
  | nil => simp [tourAll]
  | cons v below ts ihb iht =>
    have hbelow := ihb (first + 1)
    have hothers := iht (first + (Rose.node v below).size)
    rw [tourAll, tour, List.length_append, sizeAll_cons]
    split
    · simp only [List.length_cons, List.length_append, List.length_nil, size_node] at *
      omega
    · simp only [List.length_cons, List.length_nil, size_node] at *
      omega

/-- **A recursive visit of tidy trees enters every node once and leaves every container once**, and
has no other events. -/
lemma count_tourAll {t : Tree} {parent : Option Nat} {first : Nat}
    {ts : List (Rose (Placed Kind))} (h : t.StoresAll parent first ts)
    (htidy : FamiliesAll Tidy ts) (event : Walk) :
    (tourAll first ts).count event
      = if first ≤ event.id ∧ event.id < first + sizeAll ts ∧ t.meets event = true then 1
        else 0 := by
  induction ts using forest_induct generalizing parent first with
  | nil =>
    rw [tourAll, List.count_nil, if_neg]
    rw [Rose.sizeAll_nil]
    omega
  | cons v below ts ihb iht =>
    obtain ⟨hroot, hothers⟩ := storesAll_cons.1 h
    obtain ⟨⟨hleaf, -⟩, htidyBelow, htidyOthers⟩ := familiesAll_cons.1 htidy
    have hsize := hroot.le_size
    have hcontainer := Tree.isContainer_eq hroot
    have hb := ihb (stores_node.1 hroot).2 htidyBelow
    have ho := iht hothers htidyOthers
    rw [tourAll, tour, List.count_append, ho, sizeAll_cons, size_node]
    rw [size_node] at hsize
    by_cases hc : v.value.isContainer = true
    · rw [if_pos hc, List.count_cons, List.count_append, hb, List.count_singleton]
      cases event with
      | enter id =>
        simp only [Walk.id, Tree.meets, decide_eq_true_eq, beq_iff_eq, Walk.enter.injEq,
          reduceCtorEq, reduceIte]
        split_ifs <;> omega
      | leave id =>
        have hself : id = first → Tree.isContainer t id = true := by
          rintro rfl
          rw [hcontainer, hc]
        simp only [Walk.id, Tree.meets, beq_iff_eq, Walk.leave.injEq, reduceCtorEq, reduceIte]
        split_ifs <;> grind
    · have hbelow : sizeAll below = 0 := by
        rw [List.map_eq_nil_iff.1 (hleaf (by simpa using hc)), Rose.sizeAll_nil]
      rw [if_neg hc, List.count_singleton, hbelow]
      cases event with
      | enter id =>
        simp only [Walk.id, Tree.meets, decide_eq_true_eq, beq_iff_eq, Walk.enter.injEq]
        split_ifs <;> omega
      | leave id =>
        have hself : id = first → Tree.isContainer t id = false := by
          rintro rfl
          rw [hcontainer]
          simpa using hc
        simp only [Walk.id, Tree.meets, beq_iff_eq, reduceCtorEq, reduceIte]
        split_ifs <;> grind

/-! ## The tree of a stream -/

/-- The content of the root of every markup tree. -/
def documentRoot : Placed Kind :=
  ⟨.document, ⟨1, 1⟩⟩

/-- The node is text. -/
def Tree.isText (t : Tree) (id : Nat) : Bool :=
  (t.node? id).any Kind.isText

/-- The tree of a well nested stream is the arena of a tidy tree, which gives the replay of the
stream when it is visited. -/
lemma Tree.exists_tidy_ofEvents (position : Nat → Position) {events : List Event}
    (h : isWellNested [] events = true) : ∃ below,
      Tree.ofEvents position events = ofRose (.node documentRoot below) ∧
      FamiliesAll Tidy [.node documentRoot below] ∧
      visitsAll below = replay position [] events := by
  have hstart : ({} : Building) = Building.ofSpine ⟨documentRoot, []⟩ [] := by
    simp [Building.ofSpine, documentRoot]
  have hready : Building.Ready [] ⟨documentRoot, []⟩ [] events :=
    ⟨rfl, h, ⟨rfl, by simp, List.isChain_nil⟩, by simp, by simp [Building.endsInText]⟩
  obtain ⟨g, hrun, hvalue, htidy, hmet⟩ := Building.foldl_step_replay position hready
  obtain ⟨value, below⟩ := g
  obtain rfl : value = documentRoot := hvalue
  refine ⟨below, ?_, familiesAll_cons.2 ⟨⟨by simp [documentRoot, Kind.isContainer], htidy.apart⟩,
    htidy.families, by simp⟩, by simpa [Building.metSoFar, visitsAll] using hmet⟩
  rw [Tree.ofEvents, hstart, hrun]
  rfl

/-- No two neighbouring children of a node are both text in the arena of a tidy tree. -/
lemma Tree.isChain_children {t : Rose (Placed Kind)} (h : FamiliesAll Tidy [t]) (p : Nat) :
    (children (ofRose t) p).IsChain fun i j =>
      ¬(Tree.isText (ofRose t) i = true ∧ Tree.isText (ofRose t) j = true) := by
  cases hx : t.values[p]? with
  | none =>
    have hnone : (ofRose t).slots[p]? = none := by
      rw [← value?_ofRose] at hx
      simpa [value?] using hx
    rw [children, hnone]
    exact List.isChain_nil
  | some x =>
    obtain ⟨ys, hys, -, hchain⟩ := exists_family_ofRose h hx
    have happart := (List.isChain_map (R := fun v w : Option (Placed Kind) =>
      ¬((v.map (·.value)).any Kind.isText = true ∧ (w.map (·.value)).any Kind.isText = true))
      (some : Placed Kind → _) (l := ys)).2 hchain
    rw [← hys, List.isChain_map] at happart
    exact happart

/-- **The walk over the tree of a well nested stream replays the stream.** Followed from where the
root is entered until there is no event, it meets the document, then what the stream says, and then
leaves the document: a run of texts is one node, a block has its text itself, and only containers
are left. So every node is entered once and every container is left once, no two neighbouring
siblings are both text, and all text is met once and in its order. The stream of every text is well
nested (`isWellNested_events`).

**Proof sketch.** The tree is the arena of a tidy tree (`Tree.exists_tidy_ofEvents`), and the walk is
the recursive visit of that tree (`Tree.follows_ofRose`). What the visit meets is what the tree has,
which is the replay; how often it has an event, and what the children of a node are, is known for
every tidy tree; and replaying keeps the text. -/
theorem walk_replays_events (position : Nat → Position) (events : List Event)
    (hnested : isWellNested [] events = true) :
    let t := Tree.ofEvents position events
    t.Follows (some (.enter 0)) t.walk ∧
    t.walk.map t.visit?
      = (.enter documentRoot :: (replay position [] events ++ [.leave documentRoot])).map some ∧
    (∀ id, t.walk.count (.enter id) = if id < t.size then 1 else 0) ∧
    (∀ id, t.walk.count (.leave id) = if t.isContainer id then 1 else 0) ∧
    (∀ p, (t.children p).IsChain fun i j => ¬(t.isText i = true ∧ t.isText j = true)) ∧
    (t.walk.filterMap t.visit?).flatMap Visit.ownText = events.flatMap Event.ownText := by
  obtain ⟨below, hrose, htidy, hvisits⟩ := Tree.exists_tidy_ofEvents position hnested
  rw [hrose]
  intro t
  have hstored : t.StoresAll none 0 [.node documentRoot below] :=
    storesAll_cons.2 ⟨stores_ofRose _, storesAll_nil _ _ _⟩
  have hsize : t.size = sizeAll [.node documentRoot below] := by
    rw [size_ofRose, sizeAll_cons, Rose.sizeAll_nil, Nat.add_zero]
  have hfollows : t.Follows (some (.enter 0)) (tourAll 0 [.node documentRoot below]) :=
    Tree.follows_ofRose rfl below
  have hwalk : t.walk = tourAll 0 [.node documentRoot below] :=
    hfollows.walkFrom_eq (hsize ▸ length_tourAll_le 0 _)
  have hmeets : visitsAll [.node documentRoot below]
      = .enter documentRoot :: (replay position [] events ++ [.leave documentRoot]) := by
    have hcontainer : documentRoot.value.isContainer = true := rfl
    rw [visitsAll, visitsAll, visits, if_pos hcontainer, hvisits, List.append_nil]
  have hmap : t.walk.map t.visit? = (visitsAll [.node documentRoot below]).map some := by
    rw [hwalk, map_visit?_tourAll hstored]
  refine ⟨hwalk ▸ hfollows, by rw [hmap, hmeets], fun id => ?_, fun id => ?_,
    Tree.isChain_children htidy, ?_⟩
  · rw [hwalk, count_tourAll hstored htidy, ← hsize]
    simp [Walk.id, Tree.meets]
  · rw [hwalk, count_tourAll hstored htidy, ← hsize]
    have hlt : t.isContainer id = true → id < t.size := Tree.lt_size_of_isContainer
    simp only [Walk.id, Tree.meets, Nat.zero_le, true_and, Nat.zero_add]
    split_ifs <;> grind
  · have hfilter : t.walk.filterMap t.visit? = visitsAll [.node documentRoot below] := by
      have := congrArg (List.filterMap id) hmap
      simpa [List.filterMap_map] using this
    have htext : (replay position [] events).flatMap Visit.ownText = events.flatMap Event.ownText :=
      flatMap_ownText_replay position hnested
    rw [hfilter, hmeets, List.flatMap_cons, List.flatMap_append, htext]
    simp [Visit.ownText, documentRoot, Kind.ownText]

/-- A paragraph with emphasis between two texts, each in two pieces, and a code block with two lines;
offsets are columns. -/
def splitTexts : List Event :=
  [.enter .paragraph 0, .text ['a'] 0, .text ['b'] 1, .enter .emphasis 2, .text ['c'] 3, .leave,
    .text ['d'] 5, .text ['e'] 6, .leave, .enter (.codeBlock none []) 8, .text ['x', '\n'] 8,
    .text ['y'] 10, .leave]

/-- The pieces are met together, the code belongs to its block, and the block is not left. -/
theorem walk_replays_events_splitTexts :
    let at_ := fun offset => (⟨1, offset⟩ : Position)
    let t := Tree.ofEvents at_ splitTexts
    isWellNested [] splitTexts = true ∧
    t.walk.map t.visit? = [.enter documentRoot, .enter ⟨.paragraph, at_ 0⟩,
      .enter ⟨.text ['a', 'b'], at_ 0⟩, .enter ⟨.emphasis, at_ 2⟩, .enter ⟨.text ['c'], at_ 3⟩,
      .leave ⟨.emphasis, at_ 2⟩, .enter ⟨.text ['d', 'e'], at_ 5⟩, .leave ⟨.paragraph, at_ 0⟩,
      .enter ⟨.codeBlock none ['x', '\n', 'y'], at_ 8⟩, .leave documentRoot].map some := by
  intro at_ t
  have hnested : isWellNested [] splitTexts = true := by decide
  obtain ⟨-, hwalk, -⟩ := walk_replays_events at_ splitTexts hnested
  refine ⟨hnested, hwalk.trans ?_⟩
  decide +kernel

end DocComments.Markup
