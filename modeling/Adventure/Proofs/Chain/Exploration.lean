import Adventure.Chain.Search
import Adventure.Proofs.Play.Explored
import Mathlib.Logic.Relation

namespace Adventure

namespace Search

variable {σ : Type}

/-- A node that is not too deep has a child. -/
def Grows (strategy : Strategy σ) (Child : Node σ → Node σ → Prop) (node child : Node σ) : Prop :=
  node.depth < strategy.maxDepth ∧ Child node child

/-- A node leads to itself, to its children, to their children and so on. -/
abbrev Leads (strategy : Strategy σ) (Child : Node σ → Node σ → Prop) : Node σ → Node σ → Prop :=
  Relation.ReflTransGen (Grows strategy Child)

/-- Expanding a node gives its children, whatever is drawn. -/
structure Expands (strategy : Strategy σ) (Child : Node σ → Node σ → Prop) : Prop where
  children : ∀ {node rng children rest}, strategy.expand node rng = .ok (children, rest) →
    ∀ child, child ∈ children ↔ Child node child
  deeper : ∀ {node child}, Child node child → child.depth = node.depth + 1

/-- The fault of a search that found nothing has no other cause. -/
structure Telling (strategy : Strategy σ) : Prop where
  expand : ∀ node rng, strategy.expand node rng ≠ .error (.noChain strategy.fault)
  budget : ∀ nodes, strategy.fault ≠ .nodeBudget nodes

/-- No chain is made from a node, neither as it is nor since nothing follows it. -/
structure Passed (strategy : Strategy σ) (Child : Node σ → Node σ → Prop) (node : Node σ) : Prop where
  unfinished : strategy.finished node = none
  unstuck : node.depth < strategy.maxDepth → (∀ child, ¬ Child node child) → strategy.stuck node = none

/-- What a search knows on its way, when some nodes were taken and some have still to be dealt with: every node that
the root leads to has been passed, or a node that leads to it waits or is pending. -/
structure Explored (strategy : Strategy σ) (Child : Node σ → Node σ → Prop) (root : Node σ)
    (waiting : SortedMap Priority (Node σ)) (made taken : Nat) (pending : List (Node σ)) : Prop where
  keyed : ∀ (key : Priority) (node : Node σ), waiting[key]? = some node →
    key = priority strategy node key.turn ∧ key.turn < made
  reached : ∀ (key : Priority) (node : Node σ), waiting[key]? = some node → Leads strategy Child root node
  begun : ∀ node ∈ pending, Leads strategy Child root node
  covered : ∀ node, Leads strategy Child root node → Passed strategy Child node ∨
    (∃ (key : Priority) (above : Node σ), waiting[key]? = some above ∧ Leads strategy Child above node) ∨
    ∃ above ∈ pending, Leads strategy Child above node
  few : made ≤ strategy.maxNodes + 1
  tally : made = waiting.size + taken

/-- What the result of a search says. A chain is made from a node that the root leads to. If small depth goes first,
no node that makes a chain as it is lies higher, unless the chain was made since nothing follows its node. When nothing
is found, no node makes a chain. -/
def Correct (strategy : Strategy σ) (Child : Node σ → Node σ → Prop) (root : Node σ) : Except Error Chain → Prop
  | .ok chain => ∃ node, Leads strategy Child root node ∧
      ((strategy.finished node = some chain ∧ (strategy.shallowFirst = true → ∀ other,
          Leads strategy Child root other → strategy.finished other ≠ none → node.depth ≤ other.depth)) ∨
        (node.depth < strategy.maxDepth ∧ (∀ child, ¬ Child node child) ∧ strategy.stuck node = some chain))
  | .error error => Telling strategy → error = .noChain strategy.fault →
      ∀ node, Leads strategy Child root node → Passed strategy Child node

variable {strategy : Strategy σ} {Child : Node σ → Node σ → Prop} {root node : Node σ}
  {waiting : SortedMap Priority (Node σ)} {made taken : Nat} {pending : List (Node σ)} {chain : Chain}

theorem depth_le_of_leads (expands : Expands strategy Child) {below : Node σ}
    (leads : Leads strategy Child node below) : node.depth ≤ below.depth := by
  induction leads with
  | refl => exact Nat.le_refl _
  | tail _ grows ih =>
    have deeper := expands.deeper grows.2
    omega

namespace Explored

/-- At the start of a search the root has still to be dealt with. -/
theorem start : Explored strategy Child root ∅ 0 0 [root] where
  keyed key node waits := by simp at waits
  reached key node waits := by simp at waits
  begun node member := by
    rw [List.mem_singleton.mp member]
  covered node leads := .inr (.inr ⟨root, List.mem_singleton_self root, leads⟩)
  few := Nat.zero_le _
  tally := by simp

theorem fresh (explored : Explored strategy Child root waiting made taken pending) (node : Node σ) :
    priority strategy node made ∉ waiting := by
  intro used
  rw [Std.ExtTreeMap.mem_iff_isSome_getElem?, Option.isSome_iff_exists] at used
  obtain ⟨other, waits⟩ := used
  exact Nat.lt_irrefl _ (explored.keyed _ other waits).2

/-- A node that has to be dealt with is let wait. -/
theorem enter (explored : Explored strategy Child root waiting made taken (node :: pending))
    (room : made ≤ strategy.maxNodes) :
    Explored strategy Child root (waiting.insert (priority strategy node made) node) (made + 1) taken pending := by
  obtain ⟨first, others⟩ := List.forall_mem_cons.mp explored.begun
  -- The key is new, so no node that waits loses its place.
  have kept {key : Priority} {other : Node σ} (waits : waiting[key]? = some other) :
      (waiting.insert (priority strategy node made) node)[key]? = some other := by
    rw [Std.ExtTreeMap.getElem?_insert, if_neg, waits]
    intro same
    apply explored.fresh node
    rw [Std.LawfulEqOrd.eq_of_compare same, Std.ExtTreeMap.mem_iff_isSome_getElem?, waits]
    rfl
  refine ⟨?keyed, ?reached, others, ?covered, Nat.succ_le_succ room, ?tally⟩
  case keyed =>
    intro key other waits
    rcases SortedMap.eq_or_of_insert waits with ⟨rfl, rfl⟩ | old
    · exact ⟨rfl, Nat.lt_succ_self _⟩
    · exact ⟨(explored.keyed key other old).1, Nat.lt_succ_of_lt (explored.keyed key other old).2⟩
  case reached =>
    intro key other waits
    rcases SortedMap.eq_or_of_insert waits with ⟨-, rfl⟩ | old
    · exact first
    · exact explored.reached key other old
  case covered =>
    intro other leads
    rcases explored.covered other leads with passed | ⟨key, above, waits, leads⟩ | ⟨above, member, leads⟩
    · exact .inl passed
    · exact .inr (.inl ⟨key, above, kept waits, leads⟩)
    · rcases List.mem_cons.mp member with rfl | later
      · exact .inr (.inl ⟨_, above, Std.ExtTreeMap.getElem?_insert_self, leads⟩)
      · exact .inr (.inr ⟨above, later, leads⟩)
  case tally =>
    have tally := explored.tally
    rw [Std.ExtTreeMap.size_insert, if_neg (mt Std.ExtTreeMap.contains_iff_mem.mp (explored.fresh node))]
    omega

/-- When a node is taken, it has to be dealt with. -/
theorem take (explored : Explored strategy Child root waiting made taken []) {key : Priority}
    (waits : waiting[key]? = some node) :
    Explored strategy Child root (waiting.erase key) made (taken + 1) [node] := by
  refine ⟨fun other found here => explored.keyed other found (SortedMap.getElem?_of_erase here),
    fun other found here => explored.reached other found (SortedMap.getElem?_of_erase here), ?begun, ?covered,
    explored.few, ?tally⟩
  case begun =>
    intro other member
    rw [List.mem_singleton.mp member]
    exact explored.reached key node waits
  case covered =>
    intro other leads
    rcases explored.covered other leads with passed | ⟨place, above, here, leads⟩ | ⟨above, member, -⟩
    · exact .inl passed
    · right
      by_cases same : compare key place = .eq
      · rw [← Std.LawfulEqOrd.eq_of_compare same, waits] at here
        cases here
        exact .inr ⟨node, List.mem_singleton_self node, leads⟩
      · refine .inl ⟨place, above, ?_, leads⟩
        rw [Std.ExtTreeMap.getElem?_erase, if_neg same, here]
    · cases member
  case tally =>
    have tally := explored.tally
    have size := SortedMap.size_erase_of_found waits
    omega

/-- A node is dealt with when it has been passed; its children have to be dealt with then. -/
theorem replace (explored : Explored strategy Child root waiting made taken [node])
    (passed : Passed strategy Child node) {children : List (Node σ)}
    (grown : ∀ child, child ∈ children ↔ Grows strategy Child node child) :
    Explored strategy Child root waiting made taken children where
  keyed := explored.keyed
  reached := explored.reached
  begun child member :=
    (explored.begun node (List.mem_singleton_self node)).tail ((grown child).mp member)
  covered other leads := by
    rcases explored.covered other leads with passed | waits | ⟨above, member, leads⟩
    · exact .inl passed
    · exact .inr (.inl waits)
    · rw [List.mem_singleton.mp member] at leads
      rcases leads.cases_head with rfl | ⟨child, grows, leads⟩
      · exact .inl passed
      · exact .inr (.inr ⟨child, (grown child).mpr grows, leads⟩)
  few := explored.few
  tally := explored.tally

theorem addAll {search after : Search σ}
    (explored : Explored strategy Child root search.waiting search.made taken pending)
    (added : search.addAll strategy pending = .ok after) :
    Explored strategy Child root after.waiting after.made taken [] := by
  induction pending generalizing search with
  | nil =>
    cases added
    exact explored
  | cons node pending ih =>
    rw [Search.addAll] at added
    split at added
    next => cases added
    next room => exact ih (explored.enter (by omega)) added

/-- Of nodes by small depth the first that waits is the highest. -/
theorem first_highest (explored : Explored strategy Child root waiting made taken pending) {key other : Priority}
    {found : Node σ} (shallow : strategy.shallowFirst = true) (first : waiting.minEntry? = some (key, node))
    (waits : waiting[other]? = some found) : node.depth ≤ found.depth := by
  obtain ⟨here, least⟩ := SortedMap.minEntry?_eq_some first
  refine Nat.le_of_not_lt fun higher => ?_
  apply least other found waits
  rw [(explored.keyed other found waits).1, (explored.keyed key node here).1]
  refine Priority.compare_eq_lt ?_
  simp only [priority, shallow, if_true]
  exact Int.ofNat_lt.mpr higher

/-- When no node waits any more, all have been passed. -/
theorem passed (explored : Explored strategy Child root waiting made taken []) (nothing : waiting.minEntry? = none)
    (leads : Leads strategy Child root node) : Passed strategy Child node := by
  rcases explored.covered node leads with passed | ⟨key, above, waits, -⟩ | ⟨above, member, -⟩
  · exact passed
  · rw [SortedMap.minEntry?_eq_none nothing key] at waits
    cases waits
  · cases member

theorem correct_finished (explored : Explored strategy Child root waiting made taken [])
    (expands : Expands strategy Child) {key : Priority} (first : waiting.minEntry? = some (key, node))
    (finished : strategy.finished node = some chain) : Correct strategy Child root (.ok chain) := by
  have waits := (SortedMap.minEntry?_eq_some first).1
  refine ⟨node, explored.reached key node waits, .inl ⟨finished, fun shallow other leads makes => ?_⟩⟩
  rcases explored.covered other leads with passed | ⟨place, above, here, leads⟩ | ⟨above, member, -⟩
  · exact absurd passed.unfinished makes
  · exact Nat.le_trans (explored.first_highest shallow first here) (depth_le_of_leads expands leads)
  · cases member

end Explored

theorem addAll_eq_error {search : Search σ} {error : Error} (failed : search.addAll strategy pending = .error error) :
    error = .noChain (.nodeBudget strategy.maxNodes) := by
  induction pending generalizing search with
  | nil => cases failed
  | cons node pending ih =>
    rw [Search.addAll] at failed
    split at failed
    next =>
      cases failed
      rfl
    next => exact ih failed

/-- A node that makes no chain is passed once it was expanded and is not stuck. -/
theorem Passed.of_expanded {children : List (Node σ)} (unfinished : strategy.finished node = none)
    (members : ∀ child, child ∈ children ↔ Child node child)
    (unstuck : (if children.isEmpty then strategy.stuck node else none) = none) : Passed strategy Child node := by
  refine ⟨unfinished, fun _ childless => ?_⟩
  have none : children = [] :=
    List.eq_nil_iff_forall_not_mem.mpr fun child member => childless child ((members child).mp member)
  rwa [none] at unstuck

/-- A search that knows what it should has a right result. -/
theorem run_correct (expands : Expands strategy Child) {fuel : Nat} {search : Search σ}
    (explored : Explored strategy Child root search.waiting search.made taken [])
    (enough : strategy.maxNodes + 2 ≤ fuel + taken) : Correct strategy Child root (run strategy fuel search) := by
  induction fuel generalizing search taken with
  | zero =>
    -- The rounds do not run out: each takes a node, and there were more of them than nodes can be made.
    have few := explored.few
    have tally := explored.tally
    omega
  | succ fuel ih =>
    rw [run]
    split
    next nothing => exact fun _ _ node leads => explored.passed nothing leads
    next key node first =>
      have waits := (SortedMap.minEntry?_eq_some first).1
      have dealt := explored.take waits
      split
      next chain finished => exact explored.correct_finished expands first finished
      next unfinished =>
        dsimp only
        split
        next deep =>
          have passed : Passed strategy Child node := ⟨unfinished, fun shallow => absurd shallow (Nat.not_lt.mpr deep)⟩
          have grown : ∀ child, child ∈ [] ↔ Grows strategy Child node child := fun child =>
            ⟨fun member => absurd member List.not_mem_nil, fun grows => absurd grows.1 (Nat.not_lt.mpr deep)⟩
          exact ih (dealt.replace passed grown) (by omega)
        next shallow =>
          have shallow := Nat.lt_of_not_le shallow
          cases expanded : strategy.expand node search.rng with
          | error error =>
            intro telling fault
            exact absurd (fault ▸ expanded) (telling.expand node search.rng)
          | ok result =>
            obtain ⟨children, rng⟩ := result
            have members := expands.children expanded
            simp only [bind, Except.bind]
            split
            next chain stuck =>
              split at stuck
              next none =>
                rw [List.isEmpty_iff.mp none] at members
                have childless : ∀ child, ¬ Child node child := fun child grows =>
                  List.not_mem_nil ((members child).mpr grows)
                exact ⟨node, explored.reached key node waits, .inr ⟨shallow, childless, stuck⟩⟩
              next => cases stuck
            next unstuck =>
              have passed := Passed.of_expanded unfinished members unstuck
              have grown : ∀ child, child ∈ children ↔ Grows strategy Child node child := fun child =>
                (members child).trans (and_iff_right shallow).symm
              split
              next error failed =>
                intro telling fault
                exact absurd (Error.noChain.inj (fault.symm.trans (addAll_eq_error failed))) (telling.budget _)
              next after added => exact ih ((dealt.replace passed grown).addAll added) (by omega)

theorem fromRoot_correct (expands : Expands strategy Child) (start : σ) (rng : Option Rng) :
    Correct strategy Child ⟨start, [], .empty⟩ (fromRoot strategy start rng) :=
  run_correct expands (Explored.start.enter (Nat.zero_le _)) (Nat.le_refl (strategy.maxNodes + 2 + 0))

/-- The chain at the end of the way from a node, as long as every node has just one child. -/
def descend (strategy : Strategy σ) : (steps : Nat) → Node σ → Option Rng → Option Chain
  | 0, node, _ => strategy.finished node
  | steps + 1, node, rng =>
    if (strategy.finished node).isSome ∨ strategy.maxDepth ≤ node.depth then none
    else
      match strategy.expand node rng with
      | .ok ([child], rng) => descend strategy steps child rng
      | _ => none

/-- Where there is only one way to go, a search goes it. -/
theorem run_of_descend {steps fuel made : Nat} {key : Priority} {node : Node σ} {rng : Option Rng}
    (way : descend strategy steps node rng = some chain) (room : made + steps ≤ strategy.maxNodes)
    (enough : steps < fuel) :
    run strategy fuel ⟨(∅ : SortedMap Priority (Node σ)).insert key node, made, rng⟩ = .ok chain := by
  induction steps generalizing fuel made key node rng with
  | zero =>
    obtain ⟨fuel, rfl⟩ := Nat.exists_eq_succ_of_ne_zero (Nat.ne_of_gt enough)
    have finished : strategy.finished node = some chain := way
    rw [run, SortedMap.minEntry?_insert_empty]
    dsimp only
    rw [finished]
  | succ steps ih =>
    obtain ⟨fuel, rfl⟩ := Nat.exists_eq_succ_of_ne_zero (Nat.ne_of_gt (Nat.zero_lt_of_lt enough))
    rw [descend] at way
    split at way
    next => cases way
    next goesOn =>
      obtain ⟨unfinished, shallow⟩ := not_or.mp goesOn
      rw [Option.isSome_iff_ne_none, ne_eq, Classical.not_not] at unfinished
      split at way
      next child rest expanded =>
        have added : addAll strategy ⟨∅, made, rest⟩ [child] = .ok (add strategy ⟨∅, made, rest⟩ child) := by
          rw [addAll, if_neg (by dsimp only; omega)]
          rfl
        rw [run, SortedMap.minEntry?_insert_empty]
        dsimp only
        rw [unfinished, if_neg shallow, expanded, SortedMap.erase_insert_empty]
        simp only [bind, Except.bind]
        rw [if_neg (by simp), added]
        exact ih way (show made + 1 + steps ≤ strategy.maxNodes by omega) (by omega)
      next => cases way

theorem fromRoot_of_descend {steps : Nat} {root : σ} {rng : Option Rng}
    (way : descend strategy steps ⟨root, [], .empty⟩ rng = some chain) (room : steps < strategy.maxNodes) :
    fromRoot strategy root rng = .ok chain :=
  run_of_descend way (show 0 + 1 + steps ≤ strategy.maxNodes by omega) (by omega)

/-- A search that reads the next node off the list of those that wait, and can be evaluated in a proof. -/
def tour (strategy : Strategy σ) : (fuel : Nat) → Search σ → Except Error Chain
  | 0, _ => .error (.noChain strategy.fault)
  | fuel + 1, search =>
    match search.waiting.toList.head? with
    | none => .error (.noChain strategy.fault)
    | some (key, node) =>
      match strategy.finished node with
      | some chain => .ok chain
      | none =>
        let search := { search with waiting := search.waiting.erase key }
        if node.depth ≥ strategy.maxDepth then tour strategy fuel search
        else do
          let (children, rng) ← strategy.expand node search.rng
          match if children.isEmpty then strategy.stuck node else none with
          | some chain => return chain
          | none => tour strategy fuel (← addAll strategy { search with rng } children)

theorem run_eq_tour (fuel : Nat) (search : Search σ) : run strategy fuel search = tour strategy fuel search := by
  induction fuel generalizing search with
  | zero => rfl
  | succ fuel ih =>
    have rest : run strategy fuel = tour strategy fuel := funext ih
    rw [run, SortedMap.minEntry?_eq, rest]
    rfl

theorem fromRoot_eq_tour (root : σ) (rng : Option Rng) : fromRoot strategy root rng =
    tour strategy (strategy.maxNodes + 2) (add strategy ⟨∅, 0, rng⟩ ⟨root, [], .empty⟩) :=
  run_eq_tour ..

end Search

end Adventure
