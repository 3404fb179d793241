import Adventure.Proofs.Matching.Enumeration
import Adventure.Proofs.Play.Explored

namespace Adventure

namespace Policy

/-- What the answer of a search says: a plan wins within the depth and no other plan that wins is shorter, or no
plan wins at all, or one of the limits is in the way. -/
def Correct (quests : List Quest) (options : PolicyOptions) (s : State) (trackers : List Tracker) : Policy → Prop
  | .found plan =>
      Wins quests s trackers plan ∧ plan.length ≤ options.maxDepth ∧
      ∀ other, Wins quests s trackers other → plan.length ≤ other.length
  | .unreachable => ∀ plan, ¬ Wins quests s trackers plan
  | .unknown => (∀ plan, Wins quests s trackers plan → options.maxDepth < plan.length) ∨
      ∃ situations : List Situation, situations.Nodup ∧ options.maxNodes ≤ situations.length ∧
        ∀ situation ∈ situations, Reached quests s trackers situation

variable {quests : List Quest} {options : PolicyOptions} {s : State} {trackers : List Tracker}

theorem Spot.after_eq_some_iff {spot next : Spot} {action : Action}
    (listed : action ∈ spot.state.actions spot.state.kb.chainingRules Binding.fixed) :
    spot.after quests action = some next ↔
      Advances quests action spot.state spot.trackers next.state next.trackers ∧ next.trail = action :: spot.trail := by
  unfold Spot.after
  constructor
  · intro run
    split at run
    next => cases run
    next changes =>
      split at run
      next u applied =>
        dsimp only at run
        split at run
        next => cases run
        next unfailed =>
          cases run
          rw [Bool.not_eq_true] at changes unfailed
          exact ⟨⟨listed, changes, applied, rfl, anyFailed_eq_false_iff.mp unfailed⟩, rfl⟩
      next => cases run
  · rintro ⟨advances, trail⟩
    have unfailed := anyFailed_eq_false_iff.mpr advances.unfailed
    rw [advances.progressed] at unfailed
    simp only [advances.changes, Bool.false_eq_true, if_false, advances.applied, unfailed]
    rw [← advances.progressed, ← trail]

/-- A spot at which a list of actions is left to try, after some number of spots was taken. All that lies no deeper
than the spot has been met. -/
structure Trying (quests : List Quest) (options : PolicyOptions) (s : State) (trackers : List Tracker) (spot : Spot)
    (taken : Nat) (progress : Progress) (actions : List Action) : Prop where
  leads : Leads quests s trackers spot.trail.reverse spot.state spot.trackers
  shallow : spot.trail.length < options.maxDepth
  listed : ∀ action ∈ actions, action ∈ spot.state.actions spot.state.kb.chainingRules Binding.fixed
  explored : Explored quests options s trackers progress (Untried spot actions)
  uncut : progress.cut = false
  near : ∀ plan t after, Leads quests s trackers plan t after → plan.length ≤ spot.trail.length →
    ⟨t.facts, after⟩ ∈ progress.met
  tally : progress.made = progress.waiting.size + taken

variable {progress : Progress} {spot next : Spot} {taken : Nat} {action : Action} {rest : List Action}

theorem Trying.skip (trying : Trying quests options s trackers spot taken progress (action :: rest))
    (done : ∀ {u after}, Advances quests action spot.state spot.trackers u after → ⟨u.facts, after⟩ ∈ progress.met) :
    Trying quests options s trackers spot taken progress rest where
  leads := trying.leads
  shallow := trying.shallow
  listed other member := trying.listed other (List.mem_cons_of_mem _ member)
  explored := by
    refine trying.explored.relax ?_
    rintro other t before u after advances ⟨rfl, rfl, member⟩
    rcases List.mem_cons.mp member with rfl | later
    · exact .inl (done advances)
    · exact .inr ⟨rfl, rfl, later⟩
  uncut := trying.uncut
  near := trying.near
  tally := trying.tally

/-- No way to a situation that was not met is shorter than one step more than the spot. -/
theorem Trying.far {actions : List Action} (trying : Trying quests options s trackers spot taken progress actions)
    {plan : List Action} {t : State} {after : List Tracker} (leads : Leads quests s trackers plan t after)
    (unmet : ⟨t.facts, after⟩ ∉ progress.met) : spot.trail.length + 1 ≤ plan.length :=
  Nat.lt_of_not_le fun short => unmet (trying.near plan t after leads short)

theorem Trying.leads_next (trying : Trying quests options s trackers spot taken progress (action :: rest))
    (advances : Advances quests action spot.state spot.trackers next.state next.trackers)
    (trail : next.trail = action :: spot.trail) :
    Leads quests s trackers next.trail.reverse next.state next.trackers := by
  rw [trail, List.reverse_cons]
  exact .next trying.leads advances

theorem Trying.enter (trying : Trying quests options s trackers spot taken progress (action :: rest))
    (indexed : s.Indexed) (advances : Advances quests action spot.state spot.trackers next.state next.trackers)
    (trail : next.trail = action :: spot.trail) (unmet : ⟨next.state.facts, next.trackers⟩ ∉ progress.met)
    (unwon : ¬ Won quests next.trackers) (allowed : progress.made ≤ options.maxNodes) :
    Trying quests options s trackers spot taken (progress.enter next) rest := by
  have nearest : ∀ plan, Leads quests s trackers plan next.state next.trackers → next.trail.length ≤ plan.length := by
    intro plan leads
    rw [trail, List.length_cons]
    exact trying.far leads unmet
  have entered : Trying quests options s trackers spot taken (progress.enter next) (action :: rest) := by
    refine ⟨trying.leads, trying.shallow, trying.listed,
      trying.explored.enter indexed trying.uncut (trying.leads_next advances trail) nearest unmet unwon allowed,
      trying.uncut, ?near, ?tally⟩
    case near =>
      intro plan t after leads short
      exact Std.HashSet.mem_insert.mpr (.inr (trying.near plan t after leads short))
    case tally =>
      have tally := trying.tally
      change progress.made + 1 = (progress.waiting.insert _ _).size + taken
      rw [Std.ExtTreeMap.size_insert, if_neg (mt Std.ExtTreeMap.contains_iff_mem.mp (trying.explored.fresh next))]
      omega
  refine entered.skip fun {u after} another => ?_
  obtain ⟨rfl, rfl⟩ := another.unique advances
  exact Std.HashSet.mem_insert_self

/-- The plan of a spot that wins one step further is a shortest one. -/
theorem Trying.correct_found (trying : Trying quests options s trackers spot taken progress (action :: rest))
    (advances : Advances quests action spot.state spot.trackers next.state next.trackers)
    (trail : next.trail = action :: spot.trail) (won : Won quests next.trackers) :
    Correct quests options s trackers (.found next.trail.reverse) := by
  have length : next.trail.reverse.length = spot.trail.length + 1 := by
    rw [List.length_reverse, trail, List.length_cons]
  refine ⟨⟨_, _, trying.leads_next advances trail, won⟩, length ▸ trying.shallow, ?_⟩
  rintro other ⟨t, after, leads, wins⟩
  rw [length]
  exact trying.far leads fun met => trying.explored.unwon _ met wins

/-- When there is no room for a spot, its situation and those met are as many as the limit. -/
theorem Trying.correct_unknown (trying : Trying quests options s trackers spot taken progress (action :: rest))
    (advances : Advances quests action spot.state spot.trackers next.state next.trackers)
    (trail : next.trail = action :: spot.trail) (unmet : ⟨next.state.facts, next.trackers⟩ ∉ progress.met)
    (full : options.maxNodes ≤ progress.made + 1) : Correct quests options s trackers .unknown := by
  refine .inr ⟨⟨next.state.facts, next.trackers⟩ :: progress.met.toList, ?nodup, ?many, ?reached⟩
  case nodup =>
    refine List.nodup_cons.mpr ⟨fun member => unmet (Std.HashSet.mem_toList.mp member), ?_⟩
    exact Std.HashSet.distinct_toList.imp fun different => ne_of_beq_false different
  case many =>
    rw [List.length_cons, Std.HashSet.length_toList, trying.explored.counted]
    exact full
  case reached =>
    intro situation member
    rcases List.mem_cons.mp member with rfl | met
    · exact ⟨_, _, _, trying.leads_next advances trail, rfl⟩
    · exact trying.explored.reached situation (Std.HashSet.mem_toList.mp met)

/-- What is known when the actions at a spot have been tried, whether or not the search has ended there. -/
def Settled (quests : List Quest) (options : PolicyOptions) (s : State) (trackers : List Tracker) (taken : Nat) :
    Except Policy Progress → Prop
  | .ok progress => Explored quests options s trackers progress Nothing ∧
      progress.made = progress.waiting.size + taken
  | .error outcome => Correct quests options s trackers outcome

theorem tryAll_settled {actions : List Action} (indexed : s.Indexed)
    (trying : Trying quests options s trackers spot taken progress actions) :
    Settled quests options s trackers taken (tryAll quests options spot actions progress) := by
  induction actions generalizing progress with
  | nil =>
    refine ⟨trying.explored.relax fun _ untried => ?_, trying.tally⟩
    exact absurd untried.2.2 List.not_mem_nil
  | cons action rest ih =>
    have listed := trying.listed action List.mem_cons_self
    unfold tryAll
    split
    next fails =>
      refine ih (trying.skip fun {u after} advances => ?_)
      have passes : spot.after quests action = some ⟨u, after, action :: spot.trail⟩ :=
        (Spot.after_eq_some_iff listed).mpr ⟨advances, rfl⟩
      rw [fails] at passes
      cases passes
    next next passes =>
      obtain ⟨advances, trail⟩ := (Spot.after_eq_some_iff listed).mp passes
      dsimp only
      split
      next met =>
        refine ih (trying.skip fun {u after} another => ?_)
        obtain ⟨rfl, rfl⟩ := another.unique advances
        exact Std.HashSet.contains_iff_mem.mp met
      next unmet =>
        rw [Std.HashSet.contains_iff_mem] at unmet
        split
        next won => exact trying.correct_found advances trail (allWon_iff.mp won)
        next unwon =>
          rw [allWon_iff] at unwon
          split
          next full => exact trying.correct_unknown advances trail unmet full
          next room => exact ih (trying.enter indexed advances trail unmet unwon (by omega))

/-- A search that knows what it should gives a right answer. The rounds and the spots taken before are more than
the spots that can be made, so the rounds do not run out. -/
theorem run_correct (indexed : s.Indexed) {fuel : Nat} (explored : Explored quests options s trackers progress Nothing)
    (tally : progress.made = progress.waiting.size + taken) (enough : options.maxNodes + 2 ≤ fuel + taken) :
    Correct quests options s trackers (run quests options fuel progress) := by
  induction fuel generalizing progress taken with
  | zero =>
    have few := explored.few
    omega
  | succ fuel ih =>
    unfold run
    split
    next nothing =>
      have idle : ∀ (key : Priority) (spot : Spot), progress.waiting[key]? ≠ some spot := by
        intro key spot waits
        rw [SortedMap.minEntry?_eq_none nothing key] at waits
        cases waits
      split
      next cut =>
        refine .inl fun plan ⟨t, after, leads, won⟩ => Nat.lt_of_not_le fun short => ?_
        exact explored.unwon _ (explored.whole cut plan t after leads short) won
      next uncut =>
        rw [Bool.not_eq_true] at uncut
        rintro plan ⟨t, after, leads, won⟩
        refine explored.unwon _ (explored.met_of_leads uncut ?_ leads (Nat.le_refl _)) won
        exact fun key spot waits => absurd waits (idle key spot)
    next key spot first =>
      have waits := (SortedMap.minEntry?_eq_some first).1
      have nearest : ∀ (other : Priority) (found : Spot), progress.waiting[other]? = some found →
          spot.trail.length ≤ found.trail.length := fun _ _ => explored.first_nearest first
      have tally : progress.made = (progress.waiting.erase key).size + (taken + 1) := by
        rw [tally, ← SortedMap.size_erase_of_found waits]
        omega
      dsimp only
      split
      next full =>
        -- Spots are taken by depth, so with this one all that still waits is at full depth.
        have deep : ∀ (other : Priority) (found : Spot), progress.waiting[other]? = some found →
            options.maxDepth ≤ found.trail.length :=
          fun other found later => Nat.le_trans full (nearest other found later)
        refine ih (explored.take waits |>.leave ?_ ?_) tally (by omega)
        · exact fun other found later => deep other found (SortedMap.getElem?_of_erase later)
        · intro plan t after leads short
          cases cut : progress.cut with
          | true => exact explored.whole cut plan t after leads short
          | false => exact explored.met_of_leads cut deep leads short
      next shallow =>
        have shallow := Nat.lt_of_not_le shallow
        -- Had a spot been left at full depth before, this one could not be nearer.
        have uncut : progress.cut = false := by
          rw [← Bool.not_eq_true]
          exact fun cut => Nat.lt_irrefl _ (Nat.lt_of_lt_of_le shallow (explored.deep cut key spot waits))
        have trying : Trying quests options s trackers spot (taken + 1)
            { progress with waiting := progress.waiting.erase key }
            (spot.state.actions spot.state.kb.chainingRules Binding.fixed) :=
          ⟨explored.leads key spot waits, shallow, fun _ => id, explored.take waits, uncut,
            fun _ _ _ leads short => explored.met_of_leads uncut nearest leads short, tally⟩
        have settled := tryAll_settled indexed trying
        split
        next result tried =>
          rw [tried] at settled
          exact ih settled.1 settled.2 (by omega)
        next outcome tried =>
          rw [tried] at settled
          exact settled

theorem search_of_failed (failed : ¬ Unfailed trackers) : search s quests trackers options = .unreachable := by
  rw [← anyFailed_eq_false_iff, Bool.not_eq_false] at failed
  rw [search, if_pos failed]

theorem search_of_won (unfailed : Unfailed trackers) (won : Won quests trackers) :
    search s quests trackers options = .found [] := by
  rw [search, anyFailed_eq_false_iff.mpr unfailed, allWon_iff.mpr won]
  rfl

theorem search_correct (indexed : s.Indexed) (unfailed : Unfailed trackers) :
    Correct quests options s trackers (search s quests trackers options) := by
  by_cases won : Won quests trackers
  · rw [search_of_won unfailed won]
    exact ⟨Wins.nil_iff.mpr won, Nat.zero_le _, fun _ _ => Nat.zero_le _⟩
  · have start : Explored quests options s trackers _ Nothing := .start indexed won
    rw [search, anyFailed_eq_false_iff.mpr unfailed, if_neg Bool.false_ne_true, if_neg (mt allWon_iff.mp won)]
    exact run_correct indexed start rfl (Nat.le_refl (options.maxNodes + 2 + 0))

/-- The first action of the state is the plan when it wins. -/
theorem search_of_first {t : State} {after : List Tracker} (unfailed : Unfailed trackers)
    (unwon : ¬ Won quests trackers) (deep : 0 < options.maxDepth)
    (first : s.actions s.kb.chainingRules Binding.fixed = action :: rest)
    (advances : Advances quests action s trackers t after) (won : Won quests after) :
    search s quests trackers options = .found [action] := by
  have passes : Spot.after quests ⟨s, trackers, []⟩ action = some ⟨t, after, [action]⟩ := by
    refine (Spot.after_eq_some_iff ?_).mpr ⟨advances, rfl⟩
    exact advances.listed
  have unmet : ¬ ((∅ : Std.HashSet Situation).insert ⟨s.facts, trackers⟩).contains ⟨t.facts, after⟩ = true := by
    rw [Std.HashSet.contains_iff_mem, Std.HashSet.mem_insert]
    rintro (same | other)
    · obtain ⟨-, rfl⟩ := Situation.mk.inj (eq_of_beq same)
      exact unwon won
    · exact absurd other Std.HashSet.not_mem_empty
  have tried : ∀ waiting, tryAll quests options ⟨s, trackers, []⟩ (action :: rest)
      ⟨waiting, (∅ : Std.HashSet Situation).insert ⟨s.facts, trackers⟩, 1, false⟩ = .error (.found [action]) := by
    intro waiting
    rw [tryAll, passes]
    dsimp only
    rw [if_neg unmet, if_pos (allWon_iff.mpr won)]
    rfl
  rw [search, anyFailed_eq_false_iff.mpr unfailed, if_neg Bool.false_ne_true, if_neg (mt allWon_iff.mp unwon)]
  have shallow : ¬ ([] : List Action).length ≥ options.maxDepth := Nat.not_le_of_lt deep
  rw [run, SortedMap.minEntry?_insert_empty]
  dsimp only
  rw [if_neg shallow, first, tried]

/-- A plan that is found wins, is no longer than allowed, and no shorter one wins. When the answer is that there is
none, a quest had already failed, or no plan of any length wins. There is no answer only if the plans that win are
too long, or the situations within reach too many. -/
theorem search_shortest (built : s.Built) (quests : List Quest) (trackers : List Tracker) (options : PolicyOptions) :
    (∀ plan, search s quests trackers options = .found plan →
      Wins quests s trackers plan ∧ plan.length ≤ options.maxDepth ∧
        ∀ other, Wins quests s trackers other → plan.length ≤ other.length) ∧
    (search s quests trackers options = .unreachable →
      (∃ tracker ∈ trackers, tracker.status = .failed) ∨ ∀ plan, ¬ Wins quests s trackers plan) ∧
    (search s quests trackers options = .unknown →
      (∀ plan, Wins quests s trackers plan → options.maxDepth < plan.length) ∨
      ∃ situations : List Situation, situations.Nodup ∧ options.maxNodes ≤ situations.length ∧
        ∀ situation ∈ situations, Reached quests s trackers situation) := by
  by_cases unfailed : Unfailed trackers
  · have correct : Correct quests options s trackers _ := search_correct built.indexed unfailed
    refine ⟨fun plan found => ?_, fun unreachable => .inr ?_, fun unknown => ?_⟩
    · rwa [found] at correct
    · rwa [unreachable] at correct
    · rwa [unknown] at correct
  · rw [search_of_failed unfailed]
    simp only [Unfailed, Classical.not_forall, Classical.not_not] at unfailed
    obtain ⟨tracker, member, failed⟩ := unfailed
    refine ⟨fun plan found => ?_, fun _ => .inl ⟨tracker, member, failed⟩, fun unknown => ?_⟩
    · cases found
    · cases unknown

end Policy

/-- To have the chest closed. -/
def closedChest : Quest := ⟨[⟨[], SortedSet.of [⟨"closed", [⟨"chest", "c"⟩]⟩]⟩], [], 1, none⟩

def closeChest : Action :=
  ⟨"close/c",
    SortedSet.of [⟨"at", [⟨"P", "P"⟩, ⟨"kitchen", "r"⟩]⟩, ⟨"at", [⟨"chest", "c"⟩, ⟨"kitchen", "r"⟩]⟩,
      ⟨"open", [⟨"chest", "c"⟩]⟩],
    SortedSet.of [⟨"at", [⟨"P", "P"⟩, ⟨"kitchen", "r"⟩]⟩, ⟨"at", [⟨"chest", "c"⟩, ⟨"kitchen", "r"⟩]⟩,
      ⟨"closed", [⟨"chest", "c"⟩]⟩],
    some "close \x7bchest\x7d"⟩

def closedKitchen : State :=
  (State.kitchen.eraseAll closeChest.removed.toList).insertAll closeChest.added.toList

theorem closeChest_first : State.kitchen.actions State.kitchen.kb.chainingRules Binding.fixed =
    closeChest :: (State.kitchen.actions State.kitchen.kb.chainingRules Binding.fixed).tail := by
  decide +kernel

theorem closeChest_applied : State.kitchen.apply closeChest = .ok (some closedKitchen) :=
  State.apply_of_faultless (by decide +kernel) (by decide +kernel)

theorem closeChest_advances : Advances [closedChest] closeChest State.kitchen [.ofQuest closedChest] closedKitchen
    [⟨.completed, [0], []⟩] where
  listed := by
    rw [closeChest_first]
    exact List.mem_cons_self
  changes := by decide +kernel
  applied := closeChest_applied
  progressed := by decide +kernel
  unfailed := anyFailed_eq_false_iff.mp rfl

theorem search_closedChest :
    Policy.search State.kitchen [closedChest] [.ofQuest closedChest] ⟨3, 10⟩ = .found [closeChest] :=
  Policy.search_of_first (anyFailed_eq_false_iff.mp rfl) (fun won => Bool.false_ne_true (allWon_iff.mpr won))
    (by decide) closeChest_first closeChest_advances (allWon_iff.mp rfl)

theorem search_shortest_closedChest : State.kitchen.Built ∧
    Policy.search State.kitchen [closedChest] [.ofQuest closedChest] ⟨3, 10⟩ = .found [closeChest] ∧
    Wins [closedChest] State.kitchen [.ofQuest closedChest] [closeChest] ∧ [closeChest].length ≤ 3 ∧
    ∀ other, Wins [closedChest] State.kitchen [.ofQuest closedChest] other → [closeChest].length ≤ other.length :=
  ⟨State.kitchen_built, search_closedChest,
    (Policy.search_shortest State.kitchen_built [closedChest] [.ofQuest closedChest] ⟨3, 10⟩).1 [closeChest]
      search_closedChest⟩

end Adventure
