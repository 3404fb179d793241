import Adventure.Chain.Finding
import Adventure.Proofs.Chain.Exploration
import Adventure.Proofs.Chain.Subgoals
import Adventure.Proofs.Play.Moves
import Adventure.Proofs.Random.Shuffle

namespace Adventure

/-- An action fails only by a fact that cannot be stated. -/
theorem State.apply_eq_error {s : State} {action : Action} {error : Error} (failed : s.apply action = .error error) :
    ∃ fact fault, error = .invalidFact fact fault := by
  rw [State.apply] at failed
  split at failed
  next =>
    rcases bind_eq_error_iff.mp failed with checks | ⟨_, -, done⟩
    · exact KnowledgeBase.checkFacts_eq_error checks
    · cases done
  next => cases failed

theorem State.beq_iff {s t : State} : (s == t) = true ↔ s.facts = t.facts :=
  beq_iff_eq (α := FactSet)

/-- The number of subgoals that the actions of moves have. -/
def Moves.breadth (moves : Moves) : Nat := (Dependencies.ofActions moves.actions).subgoals

namespace Forward

/-- An action that a chain may take after moves: one of the rules for its depth that changes something, spares what
must be left alone, passes the check and can be taken. It leads to a state that is new on the way, does not make the
chain too broad, and the chain is not at full depth yet. -/
structure Continues (options : ChainOptions) (s : State) (moves : Moves) (action : Action) (t : State) : Prop where
  listed : action ∈ (moves.state s).actions (options.rulesAt s.kb moves.length) options.fixed
  changes : action.idle = false
  spares : options.restrictExisting = true → options.touchesRestricted s action = false
  checked : options.checkAction (moves.state s) (moves.head?.map Prod.fst) action = true
  applied : (moves.state s).apply action = .ok (some t)
  new : ∀ earlier ∈ s :: moves.states, t.facts ≠ earlier.facts
  narrow : Moves.breadth ((action, t) :: moves) ≤ options.maxBreadth
  short : moves.length < options.maxDepth

/-- Moves each of which a chain may make after those before it. -/
inductive Admissible (options : ChainOptions) (s : State) : Moves → Prop
  | start : Admissible options s []
  | next {moves : Moves} {action : Action} {t : State} : Admissible options s moves →
      Continues options s moves action t → Admissible options s ((action, t) :: moves)

/-- Moves that are enough for a chain: they are long and broad enough and lead to the goal. Without a goal they have
full length or cannot be continued. -/
def Meets (options : ChainOptions) (s : State) (moves : Moves) : Prop :=
  options.minDepth ≤ moves.length ∧ options.minBreadth ≤ moves.breadth ∧
    match options.goal with
    | some goal => ∀ fact ∈ goal, fact ∈ (moves.state s).facts
    | none => moves.length = options.maxDepth ∨ ∀ action t, ¬ Continues options s moves action t

variable {options : ChainOptions} {s t : State} {moves : Moves} {action : Action}

theorem Admissible.length_le (admissible : Admissible options s moves) : moves.length ≤ options.maxDepth := by
  cases admissible with
  | start => exact Nat.zero_le _
  | next _ continues => exact continues.short

theorem Admissible.kb (admissible : Admissible options s moves) : (moves.state s).kb = s.kb := by
  induction admissible with
  | start => rfl
  | next _ continues ih => exact (State.apply_kb continues.applied).trans ih

theorem Admissible.taken (admissible : Admissible options s moves) : moves.Taken s := by
  induction admissible with
  | start => exact .start
  | next _ continues ih => exact .next ih continues.applied

/-- The node of a search at the end of moves. -/
def nodeAt (s : State) : Moves → Node State
  | [] => ⟨s, [], .empty⟩
  | (action, t) :: moves => (nodeAt s moves).child action t ((nodeAt s moves).links.follow action)

theorem nodeAt_root (s : State) (moves : Moves) : (nodeAt s moves).root = s := by
  induction moves with
  | nil => rfl
  | cons move moves ih => exact ih

theorem nodeAt_value (s : State) (moves : Moves) : (nodeAt s moves).value = moves.state s := by
  cases moves <;> rfl

theorem nodeAt_depth (s : State) (moves : Moves) : (nodeAt s moves).depth = moves.length := by
  induction moves with
  | nil => rfl
  | cons move moves ih => exact congrArg Nat.succ ih

theorem nodeAt_lastAction (s : State) (moves : Moves) : (nodeAt s moves).lastAction = moves.head?.map Prod.fst := by
  cases moves <;> rfl

theorem nodeAt_links (s : State) (moves : Moves) : (nodeAt s moves).links = .ofActions moves.actions := by
  induction moves with
  | nil => rfl
  | cons move moves ih =>
    rw [nodeAt, Node.child, ih, Moves.actions_cons, Dependencies.ofActions, Dependencies.ofActions, List.foldl_append]
    rfl

theorem nodeAt_lineage (s : State) (moves : Moves) : (nodeAt s moves).lineage = moves.map Prod.snd ++ [s] := by
  induction moves with
  | nil => rfl
  | cons move moves ih => exact congrArg (move.2 :: ·) ih

/-- A child of a node is made by a step with one of the actions of the rules for its depth. -/
def Child (options : ChainOptions) (node child : Node State) : Prop :=
  ∃ action ∈ node.value.actions (options.rulesAt node.value.kb node.depth) options.fixed,
    step options node action = .ok (some child)

theorem step_eq_some_iff {node child : Node State} : step options node action = .ok (some child) ↔
    options.allows node.root node.value node.lastAction action = true ∧
    ∃ next, node.value.apply action = .ok (some next) ∧ (∀ earlier ∈ node.lineage, next.facts ≠ earlier.facts) ∧
      (node.links.follow action).subgoals ≤ options.maxBreadth ∧
      child = node.child action next (node.links.follow action) := by
  have met (next : State) :
      node.lineage.contains next = true ↔ ∃ earlier ∈ node.lineage, next.facts = earlier.facts := by
    simp only [List.contains_eq_any_beq, List.any_eq_true, State.beq_iff]
  rw [step]
  by_cases allowed : options.allows node.root node.value node.lastAction action = true
  · rw [if_pos allowed, and_iff_right allowed, bind_eq_ok_iff]
    constructor
    · rintro ⟨_ | next, applied, run⟩
      · cases run
      · dsimp only at run
        split at run
        next => cases run
        next goesOn =>
          cases run
          simp only [Bool.or_eq_true, met, decide_eq_true_eq, not_or, not_exists, not_and, Nat.not_lt] at goesOn
          exact ⟨next, applied, goesOn.1, goesOn.2, rfl⟩
    · rintro ⟨next, applied, new, narrow, rfl⟩
      refine ⟨some next, applied, ?_⟩
      dsimp only
      rw [if_neg]
      · rfl
      · simp only [Bool.or_eq_true, met, decide_eq_true_eq, not_or, not_exists, not_and, Nat.not_lt]
        exact ⟨new, narrow⟩
  · rw [if_neg allowed]
    simp [allowed, pure, Except.pure]

theorem mem_stepAll {node child : Node State} {actions : List Action} {children : List (Node State)}
    (run : stepAll options node actions = .ok children) :
    child ∈ children ↔ ∃ action ∈ actions, step options node action = .ok (some child) := by
  induction actions generalizing children with
  | nil =>
    cases run
    simp
  | cons action actions ih =>
    obtain ⟨result, first, run⟩ := bind_eq_ok_iff.mp run
    obtain ⟨rest, others, run⟩ := bind_eq_ok_iff.mp run
    cases run
    rw [List.mem_append, Option.mem_toList, ih others, List.exists_mem_cons_iff, first]
    simp

theorem expands : Search.Expands (strategy options) (Child options) where
  children {node rng children rest} run child := by
    obtain ⟨nodes, stepped, same⟩ := bind_eq_ok_iff.mp run
    cases same
    rw [mem_stepAll stepped, Child]
    exact exists_congr fun action => and_congr_left fun _ => (reorder_perm _ _).mem_iff
  deeper {node child} grows := by
    obtain ⟨action, -, stepped⟩ := grows
    obtain ⟨-, next, -, -, -, rfl⟩ := step_eq_some_iff.mp stepped
    rfl

theorem step_eq_error {node : Node State} {error : Error} (failed : step options node action = .error error) :
    ∃ fact fault, error = .invalidFact fact fault := by
  rw [step] at failed
  split at failed
  next =>
    cases applied : node.value.apply action with
    | error =>
      simp only [applied, bind, Except.bind] at failed
      cases failed
      exact State.apply_eq_error applied
    | ok result =>
      simp only [applied, bind, Except.bind] at failed
      cases result with
      | none => cases failed
      | some next =>
        dsimp only at failed
        split at failed <;> cases failed
  next => cases failed

theorem stepAll_eq_error {node : Node State} {error : Error} {actions : List Action}
    (failed : stepAll options node actions = .error error) : ∃ fact fault, error = .invalidFact fact fault := by
  induction actions with
  | nil => cases failed
  | cons action actions ih =>
    rw [stepAll] at failed
    cases first : step options node action with
    | error =>
      simp only [first, bind, Except.bind] at failed
      cases failed
      exact step_eq_error first
    | ok =>
      cases others : stepAll options node actions with
      | error =>
        simp only [first, others, bind, Except.bind] at failed
        cases failed
        exact ih others
      | ok =>
        simp only [first, others, bind, Except.bind] at failed
        cases failed

theorem telling : Search.Telling (strategy options) where
  expand node rng failed := by
    cases stepped : stepAll options node
        (reorder rng (node.value.actions (options.rulesAt node.value.kb node.depth) options.fixed)).1 with
    | ok =>
      simp only [strategy, Forward.expand, stepped, bind, Except.bind] at failed
      cases failed
    | error =>
      simp only [strategy, Forward.expand, stepped, bind, Except.bind] at failed
      cases failed
      obtain ⟨_, _, same⟩ := stepAll_eq_error stepped
      cases same
  budget nodes same := by cases same

theorem allows_iff {previous : Option Action} : options.allows s t previous action = true ↔ action.idle = false ∧
    (options.restrictExisting = true → options.touchesRestricted s action = false) ∧
    options.checkAction t previous action = true := by
  simp only [ChainOptions.allows, Bool.and_eq_true, Bool.not_eq_true', Bool.and_eq_false_imp, and_assoc]

/-- The children of the node at the end of admissible moves are the nodes at the end of one move more. -/
theorem child_nodeAt_iff (admissible : Admissible options s moves) (short : moves.length < options.maxDepth)
    {child : Node State} : Child options (nodeAt s moves) child ↔
      ∃ action t, Continues options s moves action t ∧ child = nodeAt s ((action, t) :: moves) := by
  have breadth (action : Action) (t : State) :
      ((nodeAt s moves).links.follow action).subgoals = Moves.breadth ((action, t) :: moves) := by
    rw [Moves.breadth, ← nodeAt_links s]
    rfl
  have lineage (next : State) : (∀ earlier ∈ (nodeAt s moves).lineage, next.facts ≠ earlier.facts) ↔
      ∀ earlier ∈ s :: moves.states, next.facts ≠ earlier.facts := by
    simp only [nodeAt_lineage, Moves.states, List.forall_mem_append, List.forall_mem_cons, List.mem_reverse,
      List.not_mem_nil, false_implies, implies_true, and_true]
    exact and_comm
  simp only [Child, step_eq_some_iff, allows_iff, lineage]
  rw [nodeAt_value, admissible.kb, nodeAt_depth, nodeAt_root, nodeAt_lastAction]
  constructor
  · rintro ⟨action, listed, ⟨changes, spares, checked⟩, t, applied, new, narrow, rfl⟩
    exact ⟨action, t, ⟨listed, changes, spares, checked, applied, new, breadth action t ▸ narrow, short⟩, rfl⟩
  · rintro ⟨action, t, continues, rfl⟩
    exact ⟨action, continues.listed, ⟨continues.changes, continues.spares, continues.checked⟩, t, continues.applied,
      continues.new, breadth action t ▸ continues.narrow, rfl⟩

/-- The nodes that a search can meet are those at the end of admissible moves. -/
theorem leads_iff {node : Node State} : Search.Leads (strategy options) (Child options) (nodeAt s []) node ↔
    ∃ moves, Admissible options s moves ∧ node = nodeAt s moves := by
  constructor
  · intro leads
    induction leads with
    | refl => exact ⟨[], .start, rfl⟩
    | tail _ grows ih =>
      obtain ⟨moves, admissible, rfl⟩ := ih
      obtain ⟨shallow, child⟩ := grows
      rw [nodeAt_depth] at shallow
      obtain ⟨action, t, continues, rfl⟩ := (child_nodeAt_iff admissible shallow).mp child
      exact ⟨(action, t) :: moves, .next admissible continues, rfl⟩
  · rintro ⟨moves, admissible, rfl⟩
    induction admissible with
    | start => exact .refl
    | @next moves action t admissible continues ih =>
      refine ih.tail ⟨?_, (child_nodeAt_iff admissible continues.short).mpr ⟨action, t, continues, rfl⟩⟩
      rw [nodeAt_depth]
      exact continues.short

theorem ample_nodeAt : ample options (nodeAt s moves) = true ↔
    options.minDepth ≤ moves.length ∧ options.minBreadth ≤ moves.breadth := by
  rw [ample, nodeAt_depth, Node.breadth, nodeAt_links, Bool.and_eq_true, decide_eq_true_eq, decide_eq_true_eq]
  rfl

theorem reached_nodeAt : reached options (nodeAt s moves) = true ↔
    match options.goal with
    | some goal => ∀ fact ∈ goal, fact ∈ (moves.state s).facts
    | none => moves.length = options.maxDepth := by
  rw [reached, nodeAt_value, nodeAt_depth]
  cases options.goal with
  | none => exact beq_iff_eq
  | some goal => simp only [List.all_eq_true, State.contains, Std.ExtTreeSet.contains_iff_mem]

/-- The chain that makes moves from a state. -/
def chainOf (s : State) (moves : Moves) : Chain :=
  ⟨s, moves.actions, moves.states, Dependencies.runningBreadths moves.actions⟩

theorem chainTo_nodeAt (s : State) (moves : Moves) : chainTo (nodeAt s moves) = chainOf s moves := by
  induction moves with
  | nil => rfl
  | cons move moves ih =>
    obtain ⟨action, t⟩ := move
    obtain ⟨-, actions, states, breadths⟩ := Chain.mk.inj ih
    have last : ((nodeAt s moves).links.follow action).subgoals =
        (Dependencies.ofActions (Moves.actions moves ++ [action])).subgoals := by
      rw [← Moves.actions_cons action t, ← nodeAt_links s]
      rfl
    rw [chainOf, Moves.actions_cons, Dependencies.runningBreadths_concat, ← last, ← breadths, ← actions]
    simp only [chainTo, nodeAt, Node.child, nodeAt_root, List.reverse_cons, List.map_append, List.map_cons,
      List.map_nil, states, Moves.states]

/-- A node makes a chain where the moves to it are enough. -/
theorem finished_nodeAt {chain : Chain} (finished : (strategy options).finished (nodeAt s moves) = some chain) :
    Meets options s moves ∧ chain = chainOf s moves := by
  obtain ⟨good, made⟩ := Option.ite_none_right_eq_some.mp finished
  obtain ⟨ample, reached⟩ := Bool.and_eq_true_iff.mp good
  obtain ⟨long, broad⟩ := ample_nodeAt.mp ample
  refine ⟨⟨long, broad, ?_⟩, (Option.some.inj made).symm.trans (chainTo_nodeAt s moves)⟩
  have reached := reached_nodeAt.mp reached
  cases goal : options.goal with
  | none =>
    simp only [goal] at reached
    exact .inl reached
  | some facts => simpa only [goal] using reached

theorem stuck_nodeAt {chain : Chain} (stuck : (strategy options).stuck (nodeAt s moves) = some chain)
    (final : ∀ action t, ¬ Continues options s moves action t) : options.goal = none ∧
    Meets options s moves ∧ chain = chainOf s moves := by
  obtain ⟨good, made⟩ := Option.ite_none_right_eq_some.mp stuck
  obtain ⟨aimless, ample⟩ := Bool.and_eq_true_iff.mp good
  obtain ⟨long, broad⟩ := ample_nodeAt.mp ample
  have aimless := Option.isNone_iff_eq_none.mp aimless
  refine ⟨aimless, ⟨long, broad, ?_⟩, (Option.some.inj made).symm.trans (chainTo_nodeAt s moves)⟩
  rw [aimless]
  exact .inr final

/-- Moves that are enough make a chain, where they end or since they cannot go on. -/
theorem Meets.made (meets : Meets options s moves) (admissible : Admissible options s moves) :
    (strategy options).finished (nodeAt s moves) ≠ none ∨
      options.goal = none ∧ moves.length < options.maxDepth ∧
        (∀ action t, ¬ Continues options s moves action t) ∧ (strategy options).stuck (nodeAt s moves) ≠ none := by
  obtain ⟨long, broad, ends⟩ := meets
  have ample : ample options (nodeAt s moves) = true := ample_nodeAt.mpr ⟨long, broad⟩
  have finished (reaches : reached options (nodeAt s moves) = true) :
      (strategy options).finished (nodeAt s moves) ≠ none := by
    simp [strategy, ample, reaches]
  cases goal : options.goal with
  | some facts =>
    simp only [goal] at ends
    exact .inl (finished (reached_nodeAt.mpr (by simpa only [goal] using ends)))
  | none =>
    simp only [goal] at ends
    by_cases full : moves.length = options.maxDepth
    · exact .inl (finished (reached_nodeAt.mpr (by simpa only [goal] using full)))
    · have shallow : moves.length < options.maxDepth := by
        have := admissible.length_le
        omega
      exact .inr ⟨rfl, shallow, ends.resolve_left full, by simp [strategy, goal, ample]⟩

theorem childless_iff (admissible : Admissible options s moves) (shallow : moves.length < options.maxDepth) :
    (∀ child, ¬ Child options (nodeAt s moves) child) ↔ ∀ action t, ¬ Continues options s moves action t := by
  simp only [child_nodeAt_iff admissible shallow]
  exact ⟨fun none action t continues => none _ ⟨action, t, continues, rfl⟩,
    fun none child ⟨action, t, continues, _⟩ => none action t continues⟩

theorem search_meets {chain : Chain} (found : search s options = .ok chain) :
    ∃ moves, Admissible options s moves ∧ Meets options s moves ∧ chain = chainOf s moves ∧
      (options.goal.isSome = true → ∀ other, Admissible options s other → Meets options s other →
        moves.length ≤ other.length) := by
  have correct := Search.fromRoot_correct (expands : Search.Expands (strategy options) _) s options.rng
  rw [← search, found] at correct
  obtain ⟨node, leads, made⟩ := correct
  obtain ⟨moves, admissible, rfl⟩ := leads_iff.mp leads
  refine ⟨moves, admissible, ?_⟩
  rcases made with ⟨finished, first⟩ | ⟨shallow, last, stuck⟩
  · obtain ⟨meets, same⟩ := finished_nodeAt finished
    refine ⟨meets, same, fun aimed other possible enough => ?_⟩
    have ends := (enough.made possible).resolve_right fun ⟨aimless, _⟩ => by simp [aimless] at aimed
    have least := first aimed (nodeAt s other) (leads_iff.mpr ⟨other, possible, rfl⟩) ends
    rwa [nodeAt_depth, nodeAt_depth] at least
  · rw [nodeAt_depth] at shallow
    obtain ⟨aimless, meets, same⟩ := stuck_nodeAt stuck ((childless_iff admissible shallow).mp last)
    exact ⟨meets, same, fun aimed => by simp [aimless] at aimed⟩

theorem search_exhausts (failed : search s options = .error (.noChain .forwardExhausted))
    (admissible : Admissible options s moves) : ¬ Meets options s moves := by
  intro meets
  have correct := Search.fromRoot_correct (expands : Search.Expands (strategy options) _) s options.rng
  rw [← search, failed] at correct
  obtain ⟨unfinished, unstuck⟩ := correct telling rfl (nodeAt s moves) (leads_iff.mpr ⟨moves, admissible, rfl⟩)
  rw [nodeAt_depth] at unstuck
  rcases meets.made admissible with finished | ⟨-, shallow, last, stuck⟩
  · exact finished unfinished
  · exact stuck (unstuck shallow ((childless_iff admissible shallow).mpr last))

theorem search_taken {chain : Chain} (found : search s options = .ok chain) :
    ∃ moves, Moves.Taken s moves ∧ chain.actions = (moves.map Prod.fst).reverse := by
  obtain ⟨moves, admissible, -, rfl, -⟩ := search_meets found
  exact ⟨moves, admissible.taken, rfl⟩

/-- The chain that a forward search finds makes admissible moves that are enough, and with a goal no fewer moves are.
A search is exhausted only where no admissible moves are enough. -/
theorem find_meets_or_exhausts (s : State) (options : ChainOptions) (forward : options.backward = false) :
    (∀ chain, Chain.find s options = .ok chain → ∃ moves, Admissible options s moves ∧ Meets options s moves ∧
      chain = chainOf s moves ∧ (options.goal.isSome = true → ∀ other, Admissible options s other →
        Meets options s other → moves.length ≤ other.length)) ∧
    (Chain.find s options = .error (.noChain .forwardExhausted) → ∀ moves, Admissible options s moves →
      ¬ Meets options s moves) := by
  rw [Chain.find, forward, if_neg Bool.false_ne_true]
  exact ⟨fun _ found => search_meets found, fun failed _ admissible => search_exhausts failed admissible⟩

/-- A search for a chain of so many actions at most that puts the carrot into the chest and closes it. -/
def stowing (most : Nat) : ChainOptions :=
  { ChainOptions.usual with
    maxDepth := most
    maxBreadth := 2
    goal := some [⟨"in", [⟨"carrot", "f"⟩, ⟨"chest", "c"⟩]⟩, ⟨"closed", [⟨"chest", "c"⟩]⟩] }

theorem find_meets_or_exhausts_kitchen :
    (∃ chain, Chain.find State.kitchen (stowing 3) = .ok chain ∧
      chain.actions.map Action.command = ["take carrot", "insert carrot into chest", "close chest"] ∧
      ∃ moves, Admissible (stowing 3) State.kitchen moves ∧ Meets (stowing 3) State.kitchen moves ∧
        chain = chainOf State.kitchen moves ∧
        ∀ other, Admissible (stowing 3) State.kitchen other → Meets (stowing 3) State.kitchen other →
          moves.length ≤ other.length) ∧
    Chain.find State.kitchen (stowing 2) = .error (.noChain .forwardExhausted) ∧
    ∀ moves, Admissible (stowing 2) State.kitchen moves → ¬ Meets (stowing 2) State.kitchen moves := by
  have search (most : Nat) : Chain.find State.kitchen (stowing most) =
      Search.tour (strategy (stowing most)) ((stowing most).maxNodes + 2)
        (Search.add (strategy (stowing most)) ⟨∅, 0, none⟩ ⟨State.kitchen, [], .empty⟩) :=
    Search.fromRoot_eq_tour ..
  have enough : (Chain.find State.kitchen (stowing 3)).map (·.actions.map Action.command) =
      .ok ["take carrot", "insert carrot into chest", "close chest"] := by
    rw [search]
    decide +kernel
  have few : (Chain.find State.kitchen (stowing 2)).map (·.actions.map Action.command) =
      .error (.noChain .forwardExhausted) := by
    rw [search]
    decide +kernel
  obtain ⟨chain, found, commands⟩ := map_eq_ok_iff.mp enough
  have failed := map_eq_error_iff.mp few
  obtain ⟨moves, admissible, meets, same, shortest⟩ := (find_meets_or_exhausts _ _ rfl).1 chain found
  exact ⟨⟨chain, found, commands, moves, admissible, meets, same, shortest rfl⟩, failed,
    (find_meets_or_exhausts _ _ rfl).2 failed⟩

end Forward

end Adventure
