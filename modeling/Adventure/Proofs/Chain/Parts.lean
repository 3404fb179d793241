import Adventure.Proofs.Chain.Subgoals
import Adventure.Proofs.State.Built

namespace Adventure

/-- One of some actions added the fact, and none after it removed it. -/
def Live (actions : List Action) (fact : Fact) : Prop :=
  ∃ earlier action later, actions = earlier ++ action :: later ∧ fact ∈ action.added ∧
    ∀ other ∈ later, fact ∉ other.removed

/-- After some actions, an action relies on no fact that one of them brought about. -/
def Opens (actions : List Action) (action : Action) : Prop := ∀ fact ∈ action.before, ¬ Live actions fact

theorem not_live_nil (fact : Fact) : ¬ Live [] fact := by
  rintro ⟨earlier, action, later, split, -⟩
  simp at split

theorem live_concat {actions : List Action} {action : Action} {fact : Fact} :
    Live (actions ++ [action]) fact ↔ fact ∈ action.added ∨ Live actions fact ∧ fact ∉ action.removed := by
  constructor
  · rintro ⟨earlier, adding, later, split, added, stays⟩
    rcases List.eq_nil_or_concat' later with rfl | ⟨middle, last, rfl⟩
    · obtain ⟨-, same⟩ := List.append_inj' split rfl
      cases same
      exact .inl added
    · rw [← List.cons_append, ← List.append_assoc] at split
      obtain ⟨rfl, same⟩ := List.append_inj' split rfl
      cases same
      obtain ⟨between, spared⟩ := List.forall_mem_append.mp stays
      exact .inr ⟨⟨earlier, adding, middle, rfl, added, between⟩, spared action List.mem_cons_self⟩
  · rintro (added | ⟨⟨earlier, adding, later, rfl, added, stays⟩, spared⟩)
    · exact ⟨actions, action, [], rfl, added, by simp⟩
    · refine ⟨earlier, adding, later ++ [action], by simp, added, ?_⟩
      exact List.forall_mem_append.mpr ⟨stays, by simpa using spared⟩

namespace Dependencies

variable {links : Dependencies} {actions : List Action} {action : Action} {number place : Nat}

theorem mem_erased {facts : SortedMap Fact Nat} {removed : List Fact} {fact : Fact} :
    fact ∈ removed.foldl (fun facts fact => facts.erase fact) facts ↔ fact ∈ facts ∧ fact ∉ removed := by
  induction removed generalizing facts with
  | nil => simp
  | cons first removed ih =>
    rw [List.foldl_cons, ih, Std.ExtTreeMap.mem_erase, List.mem_cons, ne_eq, Std.LawfulEqOrd.compare_eq_iff_eq]
    grind

theorem mem_inserted {facts : SortedMap Fact Nat} {added : List Fact} {fact : Fact} {subgoal : Nat} :
    fact ∈ added.foldl (fun facts fact => facts.insert fact subgoal) facts ↔ fact ∈ added ∨ fact ∈ facts := by
  induction added generalizing facts with
  | nil => simp
  | cons first added ih =>
    rw [List.foldl_cons, ih, Std.ExtTreeMap.mem_insert, List.mem_cons, Std.LawfulEqOrd.compare_eq_iff_eq]
    grind

theorem mem_follow {fact : Fact} :
    fact ∈ (links.follow action).facts ↔ fact ∈ action.added ∨ fact ∈ links.facts ∧ fact ∉ action.removed := by
  rw [← Std.ExtTreeSet.mem_toList (t := action.added), ← Std.ExtTreeSet.mem_toList (t := action.removed)]
  exact mem_inserted.trans (or_congr_right mem_erased)

theorem ofActions_concat (actions : List Action) (action : Action) :
    ofActions (actions ++ [action]) = (ofActions actions).follow action := by
  rw [ofActions, List.foldl_append]
  rfl

/-- The facts that are followed are those that were brought about and still hold. -/
theorem mem_ofActions {fact : Fact} : fact ∈ (ofActions actions).facts ↔ Live actions fact := by
  induction actions using List.reverseRecOn with
  | nil => simp [ofActions, empty, not_live_nil]
  | append_singleton actions action ih => rw [ofActions_concat, mem_follow, live_concat, ih]

theorem joined_eq_none_iff : links.joined action = none ↔ ∀ fact ∈ action.before, fact ∉ links.facts := by
  rw [joined, List.min?_eq_none_iff, List.filterMap_eq_nil_iff]
  simp only [Std.ExtTreeSet.mem_toList, SortedMap.mem_iff, not_exists, Option.eq_none_iff_forall_ne_some, ne_eq]

theorem opens_iff_joined : Opens actions action ↔ (ofActions actions).joined action = none := by
  simp only [Opens, joined_eq_none_iff, mem_ofActions]

theorem numbered_ofActions (actions : List Action) : (ofActions actions).Numbered := by
  induction actions using List.reverseRecOn with
  | nil => exact .empty
  | append_singleton actions action ih =>
    rw [ofActions_concat]
    exact ih.record action

theorem record_of_opens (opens : Opens actions action) :
    ((ofActions actions).record action).1 = (ofActions actions).subgoals ∧
      (ofActions (actions ++ [action])).subgoals = (ofActions actions).subgoals + 1 := by
  rw [opens_iff_joined] at opens
  rw [ofActions_concat, follow, record, opens]
  exact ⟨rfl, rfl⟩

theorem record_of_not_opens (joins : ¬ Opens actions action) :
    ((ofActions actions).record action).1 < (ofActions actions).subgoals ∧
      (ofActions (actions ++ [action])).subgoals = (ofActions actions).subgoals := by
  rw [opens_iff_joined] at joins
  obtain ⟨number, joined⟩ := Option.ne_none_iff_exists'.mp joins
  have older := (numbered_ofActions actions).joined_lt joined
  rw [ofActions_concat, follow, record, joined]
  exact ⟨older, rfl⟩

/-- The subgoals that actions are put to. -/
def labels (actions : List Action) : List Nat := (empty.labelled actions).map Prod.fst

theorem labelled_append (links : Dependencies) (actions more : List Action) : links.labelled (actions ++ more) =
    links.labelled actions ++ (actions.foldl follow links).labelled more := by
  induction actions generalizing links with
  | nil => rfl
  | cons action rest ih => exact congrArg _ (ih _)

theorem labels_append_cons (actions : List Action) (action : Action) (later : List Action) :
    labels (actions ++ action :: later) = labels actions ++ ((ofActions actions).record action).1 ::
      (((ofActions actions).follow action).labelled later).map Prod.fst := by
  rw [labels, labelled_append, List.map_append]
  rfl

theorem length_labels (actions : List Action) : (labels actions).length = actions.length := by
  rw [labels, List.length_map, ← List.length_map Prod.snd, labelled_actions]

/-- The subgoals that actions are put to are those that were opened. -/
theorem mem_labels : number ∈ labels actions ↔ number < (ofActions actions).subgoals := by
  induction actions using List.reverseRecOn with
  | nil => simp [labels, labelled, ofActions, empty]
  | append_singleton actions action ih =>
    rw [labels_append_cons, List.mem_append, ih]
    by_cases opens : Opens actions action
    · obtain ⟨new, grown⟩ := record_of_opens opens
      rw [new, grown]
      simp [labelled]
      omega
    · obtain ⟨old, same⟩ := record_of_not_opens opens
      rw [same]
      simp [labelled]
      omega

/-- The places at which a subgoal stands. -/
def placesOf (number : Nat) (labels : List Nat) : List Nat :=
  (List.range labels.length).filter fun place => labels[place]? = some number

theorem mem_placesOf {labels : List Nat} : place ∈ placesOf number labels ↔ labels[place]? = some number := by
  rw [placesOf, List.mem_filter, List.mem_range, decide_eq_true_iff]
  exact and_iff_right_of_imp fun here => (List.getElem?_eq_some_iff.mp here).1

theorem placesOf_concat (number : Nat) (labels : List Nat) (label : Nat) : placesOf number (labels ++ [label]) =
    placesOf number labels ++ if label = number then [labels.length] else [] := by
  rw [placesOf, List.length_append, List.length_singleton, List.range_succ, List.filter_append, placesOf]
  congr 1
  · refine List.filter_congr fun place inside => ?_
    rw [List.getElem?_append_left (List.mem_range.mp inside)]
  · simp [List.filter_cons]

theorem pairwise_placesOf (number : Nat) (labels : List Nat) : (placesOf number labels).Pairwise (· < ·) :=
  List.pairwise_lt_range.filter _

/-- A subgoal first stands where it was not met before. -/
theorem head?_placesOf {labels : List Nat} : (placesOf number labels).head? = some place ↔
    labels[place]? = some number ∧ number ∉ labels.take place := by
  rw [placesOf, List.head?_filter, List.find?_range_eq_some, decide_eq_true_iff]
  refine and_congr_right fun here => ?_
  have inside := (List.getElem?_eq_some_iff.mp here).1
  rw [and_iff_right (List.mem_range.mpr inside)]
  simp only [List.mem_iff_getElem?, List.getElem?_take, not_exists]
  grind

/-- The places of all subgoals are all places, each once. -/
theorem flatten_placesOf_perm {labels : List Nat} {count : Nat} (inside : ∀ label ∈ labels, label < count) :
    ((List.range count).map (placesOf · labels)).flatten.Perm (List.range labels.length) := by
  refine (List.perm_ext_iff_of_nodup (List.nodup_flatten.mpr ⟨?_, ?_⟩) List.nodup_range).mpr fun place => ?_
  · simp only [List.mem_map]
    rintro _ ⟨number, -, rfl⟩
    exact (pairwise_placesOf number labels).imp Nat.ne_of_lt
  · refine List.pairwise_map.mpr (List.pairwise_lt_range.imp fun {first second} before place one other => ?_)
    rw [mem_placesOf] at one other
    cases one.symm.trans other
    exact Nat.lt_irrefl _ before
  · simp only [List.mem_flatten, List.mem_map, exists_exists_and_eq_and, mem_placesOf, List.mem_range]
    constructor
    · rintro ⟨number, -, here⟩
      exact (List.getElem?_eq_some_iff.mp here).1
    · intro bound
      exact ⟨labels[place], inside _ (List.getElem_mem bound), List.getElem?_eq_getElem bound⟩

end Dependencies

/-- The actions of a subgoal are those at its places. -/
theorem stepsOf_eq_places (number : Nat) (steps : List (Nat × Action)) : stepsOf number steps =
    (Dependencies.placesOf number (steps.map Prod.fst)).filterMap ((steps.map Prod.snd)[·]?) := by
  induction steps using List.reverseRecOn with
  | nil => rfl
  | append_singleton steps step ih =>
    obtain ⟨label, action⟩ := step
    rw [stepsOf_append, List.map_append, List.map_append, List.map_singleton, List.map_singleton,
      Dependencies.placesOf_concat, List.filterMap_append, ih]
    congr 1
    · refine List.filterMap_congr fun place listed => ?_
      have inside := (List.getElem?_eq_some_iff.mp (Dependencies.mem_placesOf.mp listed)).1
      rw [List.getElem?_append_left (by simpa using inside)]
    · by_cases same : label = number
      · subst same
        simp
      · simp [stepsOf_cons_of_ne same, same]

namespace Dependencies

variable {actions : List Action} {action : Action} {place : Nat}

/-- The action at a place is the first of its subgoal exactly if it opens one. -/
theorem first_iff_opens (here : actions[place]? = some action) :
    (∃ number, (placesOf number (labels actions)).head? = some place) ↔ Opens (actions.take place) action := by
  obtain ⟨inside, same⟩ := List.getElem?_eq_some_iff.mp here
  have whole : labels actions = _ :=
    (congrArg labels (List.take_append_drop place actions).symm).trans
      (by rw [List.drop_eq_getElem_cons inside, same, labels_append_cons])
  have length : (labels (actions.take place)).length = place := by
    rw [length_labels, List.length_take]
    omega
  simp only [head?_placesOf, whole, List.take_left' length, List.getElem?_append_right (Nat.le_of_eq length), length,
    Nat.sub_self, List.getElem?_cons_zero, Option.some.injEq, exists_eq_left', mem_labels]
  by_cases opens : Opens (actions.take place) action
  · have new := (record_of_opens opens).1
    simp only [opens, iff_true]
    omega
  · have old := (record_of_not_opens opens).1
    simp only [opens, iff_false]
    omega

theorem getElem?_breadths_iff {breadth : Nat} : (empty.breadths actions)[place]? = some breadth ↔
    place < actions.length ∧ (ofActions (actions.take (place + 1))).subgoals = breadth := by
  rw [breadths_empty, runningBreadths, List.getElem?_map, Option.map_eq_some_iff]
  simp only [List.getElem?_eq_some_iff, List.length_range, List.getElem_range, exists_prop, and_assoc, exists_and_left,
    exists_eq_left']

theorem getLast?_breadths (actions : List Action) :
    (empty.breadths actions).getLast?.getD 0 = (ofActions actions).subgoals := by
  rw [breadths_empty]
  induction actions using List.reverseRecOn with
  | nil => rfl
  | append_singleton actions action =>
    rw [runningBreadths_concat, List.getLast?_append]
    rfl

theorem length_breadths (actions : List Action) : (empty.breadths actions).length = actions.length := by
  rw [breadths_empty, runningBreadths, List.length_map, List.length_range]

/-- An action that opens a subgoal makes one more, and no other does. -/
theorem subgoals_succ (here : actions[place]? = some action) :
    (Opens (actions.take place) action →
      (ofActions (actions.take (place + 1))).subgoals = (ofActions (actions.take place)).subgoals + 1) ∧
    (¬ Opens (actions.take place) action →
      (ofActions (actions.take (place + 1))).subgoals = (ofActions (actions.take place)).subgoals) := by
  rw [List.take_add_one, here]
  exact ⟨fun opens => (record_of_opens opens).2, fun joins => (record_of_not_opens joins).2⟩

theorem head?_breadths {breadth : Nat} (first : (empty.breadths actions).head? = some breadth) : breadth = 1 := by
  rw [List.head?_eq_getElem?, getElem?_breadths_iff] at first
  obtain ⟨inside, rfl⟩ := first
  exact (subgoals_succ (List.getElem?_eq_getElem inside)).1 fun fact _ => not_live_nil fact

/-- From one action to the next the breadth grows by one if the next opens a subgoal, and stays otherwise. -/
theorem breadths_succ {breadth next : Nat} (now : (empty.breadths actions)[place]? = some breadth)
    (later : (empty.breadths actions)[place + 1]? = some next) : ∃ action, actions[place + 1]? = some action ∧
      (Opens (actions.take (place + 1)) action → next = breadth + 1) ∧
      (¬ Opens (actions.take (place + 1)) action → next = breadth) := by
  rw [getElem?_breadths_iff] at now later
  obtain ⟨-, rfl⟩ := now
  obtain ⟨inside, rfl⟩ := later
  exact ⟨_, List.getElem?_eq_getElem inside, subgoals_succ (List.getElem?_eq_getElem inside)⟩

end Dependencies

namespace Chain

open Dependencies

/-- The places of the parts of a chain. -/
def places (chain : Chain) : List (List Nat) :=
  (List.range (ofActions chain.actions).subgoals).map fun number => placesOf number (labels chain.actions)

/-- A part begins at a place. -/
def Begins (places : List (List Nat)) (place : Nat) : Prop := ∃ part ∈ places, part.head? = some place

theorem splitByBreadth_eq_places (chain : Chain) :
    chain.splitByBreadth = chain.places.map fun part => part.filterMap (chain.actions[·]?) := by
  rw [splitByBreadth_eq, places, List.map_map]
  refine List.map_congr_left fun number _ => ?_
  rw [stepsOf_eq_places, labelled, labelled_actions]
  rfl

theorem begins_iff_opens {chain : Chain} {place : Nat} {action : Action} (here : chain.actions[place]? = some action) :
    Begins chain.places place ↔ Opens (chain.actions.take place) action := by
  rw [← first_iff_opens here]
  constructor
  · rintro ⟨_, listed, first⟩
    obtain ⟨number, -, rfl⟩ := List.mem_map.mp listed
    exact ⟨number, first⟩
  · rintro ⟨number, first⟩
    have met := List.mem_of_getElem? (head?_placesOf.mp first).1
    exact ⟨_, List.mem_map.mpr ⟨number, List.mem_range.mpr (mem_labels.mp met), rfl⟩, first⟩

theorem filled_of_mem_places {chain : Chain} {part : List Nat} (listed : part ∈ chain.places) :
    part ≠ [] ∧ part.Pairwise (· < ·) := by
  obtain ⟨number, inside, rfl⟩ := List.mem_map.mp listed
  refine ⟨?_, pairwise_placesOf _ _⟩
  obtain ⟨place, here⟩ := List.mem_iff_getElem?.mp (mem_labels.mpr (List.mem_range.mp inside))
  exact List.ne_nil_of_mem (mem_placesOf.mpr here)

/-- The parts of a chain cut it up: none is empty, each keeps the order of the actions, and every place belongs to
exactly one. There are as many as the last breadth says. The breadth is 1 at first and grows by one where a part begins
and nowhere else, which is at the actions that rely on nothing that was brought about before. -/
theorem splitByBreadth_partition (chain : Chain) : ∃ places : List (List Nat),
    chain.splitByBreadth = places.map (fun part => part.filterMap (chain.actions[·]?)) ∧
    (∀ part ∈ places, part ≠ [] ∧ part.Pairwise (· < ·)) ∧
    places.flatten.Perm (List.range chain.actions.length) ∧
    (∀ part ∈ chain.splitByBreadth, part ≠ [] ∧ part.Sublist chain.actions) ∧
    (empty.breadths chain.actions).length = chain.actions.length ∧
    chain.splitByBreadth.length = (empty.breadths chain.actions).getLast?.getD 0 ∧
    (∀ breadth ∈ (empty.breadths chain.actions).head?, breadth = 1) ∧
    (∀ place breadth next, (empty.breadths chain.actions)[place]? = some breadth →
      (empty.breadths chain.actions)[place + 1]? = some next →
      (next = breadth ∨ next = breadth + 1) ∧ (next = breadth + 1 ↔ Begins places (place + 1))) ∧
    ∀ place action, chain.actions[place]? = some action →
      (Begins places place ↔ Opens (chain.actions.take place) action) := by
  refine ⟨chain.places, chain.splitByBreadth_eq_places, fun _ => filled_of_mem_places, ?_, ?_, length_breadths _, ?_,
    fun breadth => head?_breadths, ?_, fun _ _ => begins_iff_opens⟩
  · rw [← length_labels]
    exact flatten_placesOf_perm fun label => mem_labels.mp
  · rw [splitByBreadth_eq]
    intro part listed
    obtain ⟨number, inside, rfl⟩ := List.mem_map.mp listed
    refine ⟨?_, ?_⟩
    · obtain ⟨⟨_, action⟩, member, rfl⟩ := List.mem_map.mp (mem_labels.mpr (List.mem_range.mp inside))
      exact List.ne_nil_of_mem (mem_stepsOf.mpr member)
    · have whole := labelled_actions empty chain.actions
      rw [stepsOf]
      exact whole ▸ (List.filter_sublist ..).map Prod.snd
  · rw [getLast?_breadths, splitByBreadth_eq, List.length_map, List.length_range]
  · intro place breadth next now later
    obtain ⟨action, here, grows, stays⟩ := breadths_succ now later
    rw [begins_iff_opens here]
    by_cases opens : Opens (chain.actions.take (place + 1)) action
    · simp [opens, grows opens]
    · simp [opens, stays opens]

end Chain

end Adventure
