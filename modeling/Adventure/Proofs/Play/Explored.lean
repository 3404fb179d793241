import Adventure.Proofs.Play.Winning
import Adventure.Proofs.Sorted

namespace Adventure

theorem Priority.compare_eq_lt {p q : Priority} (before : p.major < q.major) : compare p q = .lt := by
  have major : compare p.major q.major = .lt := Int.compare_eq_lt.mpr before
  change ((compare p.major q.major).then (compare p.minor q.minor)).then (compare p.turn q.turn) = .lt
  rw [major]
  rfl

namespace Policy

/-- A situation that some actions of ways to win lead to. -/
def Reached (quests : List Quest) (s : State) (trackers : List Tracker) (situation : Situation) : Prop :=
  ∃ plan t after, Leads quests s trackers plan t after ∧ situation = ⟨t.facts, after⟩

/-- What a search knows on its way. No situation met is won. A waiting spot is as near as its situation can be.
What can be done in a situation met leads to one met, unless a spot of it waits, spots were left at full depth,
or the action is one of those `left`. Once spots were left, all there is up to full depth has been met. -/
structure Explored (quests : List Quest) (options : PolicyOptions) (s : State) (trackers : List Tracker)
    (progress : Progress) (left : State → List Tracker → Action → Prop) : Prop where
  begun : ⟨s.facts, trackers⟩ ∈ progress.met
  reached : ∀ situation ∈ progress.met, Reached quests s trackers situation
  unwon : ∀ situation ∈ progress.met, ¬ Won quests situation.trackers
  counted : progress.met.size = progress.made
  few : progress.made ≤ options.maxNodes + 1
  keyed : ∀ (key : Priority) (spot : Spot), progress.waiting[key]? = some spot →
    key = priority spot key.turn ∧ key.turn < progress.made
  leads : ∀ (key : Priority) (spot : Spot), progress.waiting[key]? = some spot →
    Leads quests s trackers spot.trail.reverse spot.state spot.trackers
  nearest : ∀ (key : Priority) (spot : Spot), progress.waiting[key]? = some spot →
    ∀ plan, Leads quests s trackers plan spot.state spot.trackers → spot.trail.length ≤ plan.length
  closed : ∀ plan t after, Leads quests s trackers plan t after → ⟨t.facts, after⟩ ∈ progress.met →
    progress.cut = true ∨
    (∃ (key : Priority) (spot : Spot), progress.waiting[key]? = some spot ∧ spot.state = t ∧ spot.trackers = after) ∨
    ∀ action u next, Advances quests action t after u next → ⟨u.facts, next⟩ ∈ progress.met ∨ left t after action
  deep : progress.cut = true → ∀ (key : Priority) (spot : Spot), progress.waiting[key]? = some spot →
    options.maxDepth ≤ spot.trail.length
  whole : progress.cut = true → ∀ plan t after, Leads quests s trackers plan t after →
    plan.length ≤ options.maxDepth → ⟨t.facts, after⟩ ∈ progress.met

/-- The progress with one spot more that waits. -/
def Progress.enter (progress : Progress) (spot : Spot) : Progress :=
  { progress with
    waiting := progress.waiting.insert (priority spot progress.made) spot
    met := progress.met.insert ⟨spot.state.facts, spot.trackers⟩
    made := progress.made + 1 }

/-- No action is left to try. -/
abbrev Nothing : State → List Tracker → Action → Prop := fun _ _ _ => False

/-- The actions of a list are left to try at a spot. -/
def Untried (spot : Spot) (actions : List Action) : State → List Tracker → Action → Prop :=
  fun t after action => t = spot.state ∧ after = spot.trackers ∧ action ∈ actions

variable {quests : List Quest} {options : PolicyOptions} {s : State} {trackers : List Tracker} {progress : Progress}
  {left : State → List Tracker → Action → Prop}

theorem Explored.relax {fewer : State → List Tracker → Action → Prop}
    (explored : Explored quests options s trackers progress left)
    (done : ∀ {action t after u next}, Advances quests action t after u next → left t after action →
      ⟨u.facts, next⟩ ∈ progress.met ∨ fewer t after action) :
    Explored quests options s trackers progress fewer where
  begun := explored.begun
  reached := explored.reached
  unwon := explored.unwon
  counted := explored.counted
  few := explored.few
  keyed := explored.keyed
  leads := explored.leads
  nearest := explored.nearest
  closed plan t after reached met := by
    refine (explored.closed plan t after reached met).imp_right (Or.imp_right fun tried => ?_)
    intro action u next advances
    exact (tried action u next advances).elim .inl (done advances)
  deep := explored.deep
  whole := explored.whole

/-- While nothing was cut, all that lies no deeper than the waiting spots has been met. -/
theorem Explored.met_of_leads (explored : Explored quests options s trackers progress Nothing)
    (uncut : progress.cut = false) {depth : Nat}
    (waiting : ∀ (key : Priority) (spot : Spot), progress.waiting[key]? = some spot → depth ≤ spot.trail.length)
    {plan : List Action} {t : State} {after : List Tracker} (leads : Leads quests s trackers plan t after)
    (near : plan.length ≤ depth) : ⟨t.facts, after⟩ ∈ progress.met := by
  -- A step of the way starts in a situation met before, and no spot of that situation waits: it would be too near.
  induction leads with
  | start => exact explored.begun
  | @next plan action t u before after leads advances ih =>
    rw [List.length_append, List.length_singleton] at near
    rcases explored.closed plan t before leads (ih (by omega)) with cut | ⟨key, spot, waits, rfl, rfl⟩ | tried
    · cases uncut.symm.trans cut
    · have far := waiting key spot waits
      have close := explored.nearest key spot waits plan leads
      omega
    · exact (tried action u after advances).resolve_right id

/-- Every key in use is of an earlier turn than the next one. -/
theorem Explored.fresh (explored : Explored quests options s trackers progress left) (spot : Spot) :
    priority spot progress.made ∉ progress.waiting := by
  intro used
  rw [Std.ExtTreeMap.mem_iff_isSome_getElem?, Option.isSome_iff_exists] at used
  obtain ⟨other, waits⟩ := used
  exact Nat.lt_irrefl _ (explored.keyed _ other waits).2

/-- A spot of a situation not met before waits from now on, where no way to it is shorter than its own. -/
theorem Explored.enter (explored : Explored quests options s trackers progress left) (indexed : s.Indexed)
    (uncut : progress.cut = false) {spot : Spot}
    (leads : Leads quests s trackers spot.trail.reverse spot.state spot.trackers)
    (nearest : ∀ plan, Leads quests s trackers plan spot.state spot.trackers → spot.trail.length ≤ plan.length)
    (unmet : ⟨spot.state.facts, spot.trackers⟩ ∉ progress.met) (unwon : ¬ Won quests spot.trackers)
    (allowed : progress.made ≤ options.maxNodes) :
    Explored quests options s trackers (progress.enter spot) left := by
  -- The key is fresh, so no spot that waits loses its place.
  have kept : ∀ {key : Priority} {other : Spot}, progress.waiting[key]? = some other →
      (progress.waiting.insert (priority spot progress.made) spot)[key]? = some other := by
    intro key other found
    rw [Std.ExtTreeMap.getElem?_insert, if_neg, found]
    intro same
    apply explored.fresh spot
    rw [Std.LawfulEqOrd.eq_of_compare same, Std.ExtTreeMap.mem_iff_isSome_getElem?, found]
    rfl
  have stay : ∀ {situation : Situation}, situation ∈ progress.met →
      situation ∈ progress.met.insert ⟨spot.state.facts, spot.trackers⟩ :=
    fun met => Std.HashSet.mem_insert.mpr (.inr met)
  refine ⟨stay explored.begun, ?reached, ?unwon, ?counted, Nat.succ_le_succ allowed, ?keyed, ?leads, ?nearest, ?closed,
    ?deep, fun cut plan t after leads short => stay (explored.whole cut plan t after leads short)⟩
  case reached =>
    intro situation member
    rcases Std.HashSet.mem_insert.mp member with new | old
    · rw [← eq_of_beq new]
      exact ⟨_, _, _, leads, rfl⟩
    · exact explored.reached situation old
  case counted =>
    change (progress.met.insert _).size = progress.made + 1
    rw [Std.HashSet.size_insert, if_neg unmet, explored.counted]
  case unwon =>
    intro situation member
    rcases Std.HashSet.mem_insert.mp member with new | old
    · rw [← eq_of_beq new]
      exact unwon
    · exact explored.unwon situation old
  case keyed =>
    intro key other found
    rcases SortedMap.eq_or_of_insert found with ⟨rfl, rfl⟩ | old
    · exact ⟨rfl, Nat.lt_succ_self _⟩
    · exact ⟨(explored.keyed key other old).1, Nat.lt_succ_of_lt (explored.keyed key other old).2⟩
  case leads =>
    intro key other found
    rcases SortedMap.eq_or_of_insert found with ⟨-, rfl⟩ | old
    · exact leads
    · exact explored.leads key other old
  case nearest =>
    intro key other found
    rcases SortedMap.eq_or_of_insert found with ⟨-, rfl⟩ | old
    · exact nearest
    · exact explored.nearest key other old
  case closed =>
    intro plan t after reached member
    right
    rcases Std.HashSet.mem_insert.mp member with new | old
    · obtain ⟨facts, rfl⟩ := Situation.mk.inj (eq_of_beq new)
      exact .inl ⟨_, spot, Std.ExtTreeMap.getElem?_insert_self, leads.state_eq indexed reached facts, rfl⟩
    · rcases explored.closed plan t after reached old with cut | ⟨key, other, waits, here⟩ | tried
      · cases uncut.symm.trans cut
      · exact .inl ⟨key, other, kept waits, here⟩
      · exact .inr fun action u next advances => (tried action u next advances).imp_left stay
  case deep =>
    intro cut
    cases uncut.symm.trans cut

/-- At the start of a search there is one situation, and the spot of it waits. -/
theorem Explored.start (indexed : s.Indexed) (unwon : ¬ Won quests trackers) :
    Explored quests options s trackers
      ⟨(∅ : SortedMap Priority Spot).insert (priority ⟨s, trackers, []⟩ 0) ⟨s, trackers, []⟩,
        (∅ : Std.HashSet Situation).insert ⟨s.facts, trackers⟩, 1, false⟩ Nothing := by
  have only : ∀ {key : Priority} {spot : Spot},
      ((∅ : SortedMap Priority Spot).insert (priority ⟨s, trackers, []⟩ 0) ⟨s, trackers, []⟩)[key]? = some spot →
        key = priority ⟨s, trackers, []⟩ 0 ∧ spot = ⟨s, trackers, []⟩ := by
    intro key spot found
    rcases SortedMap.eq_or_of_insert found with ⟨key, spot⟩ | absent
    · exact ⟨key.symm, spot.symm⟩
    · rw [Std.ExtTreeMap.getElem?_empty] at absent
      cases absent
  refine ⟨Std.HashSet.mem_insert_self, ?reached, ?unwon, ?counted, Nat.le_add_left 1 _, ?keyed, ?leads, ?nearest,
    ?closed, nofun, nofun⟩
  case reached =>
    intro situation member
    rcases Std.HashSet.mem_insert.mp member with same | other
    · exact ⟨[], s, trackers, .start, (eq_of_beq same).symm⟩
    · exact absurd other Std.HashSet.not_mem_empty
  case counted =>
    rw [Std.HashSet.size_insert, if_neg Std.HashSet.not_mem_empty, Std.HashSet.size_empty]
  case unwon =>
    intro situation member
    rcases Std.HashSet.mem_insert.mp member with same | other
    · rw [← eq_of_beq same]
      exact unwon
    · exact absurd other Std.HashSet.not_mem_empty
  case keyed =>
    intro key spot found
    obtain ⟨rfl, rfl⟩ := only found
    exact ⟨rfl, Nat.zero_lt_one⟩
  case leads =>
    intro key spot found
    obtain ⟨-, rfl⟩ := only found
    exact .start
  case nearest =>
    intro key spot found plan _
    obtain ⟨-, rfl⟩ := only found
    exact Nat.zero_le _
  case closed =>
    intro plan t after reached member
    rcases Std.HashSet.mem_insert.mp member with same | other
    · obtain ⟨facts, rfl⟩ := Situation.mk.inj (eq_of_beq same)
      have here : s = t := Leads.start.state_eq indexed reached facts
      exact .inr (.inl ⟨_, _, Std.ExtTreeMap.getElem?_insert_self, here, rfl⟩)
    · exact absurd other Std.HashSet.not_mem_empty

theorem Explored.first_nearest (explored : Explored quests options s trackers progress left) {key : Priority}
    {spot : Spot} (first : progress.waiting.minEntry? = some (key, spot)) {other : Priority} {found : Spot}
    (waits : progress.waiting[other]? = some found) : spot.trail.length ≤ found.trail.length := by
  obtain ⟨here, least⟩ := SortedMap.minEntry?_eq_some first
  refine Nat.le_of_not_lt fun nearer => ?_
  apply least other found waits
  rw [(explored.keyed other found waits).1, (explored.keyed key spot here).1]
  exact Priority.compare_eq_lt (Int.ofNat_lt.mpr nearer)

/-- When a spot is taken, all the actions there are left to try. -/
theorem Explored.take (explored : Explored quests options s trackers progress Nothing) {key : Priority} {spot : Spot}
    (waits : progress.waiting[key]? = some spot) :
    Explored quests options s trackers { progress with waiting := progress.waiting.erase key }
      (Untried spot (spot.state.actions spot.state.kb.chainingRules Binding.fixed)) := by
  have earlier : ∀ {other : Priority} {found : Spot}, (progress.waiting.erase key)[other]? = some found →
      progress.waiting[other]? = some found := SortedMap.getElem?_of_erase
  refine ⟨explored.begun, explored.reached, explored.unwon, explored.counted, explored.few,
    fun other found waits => explored.keyed other found (earlier waits),
    fun other found waits => explored.leads other found (earlier waits),
    fun other found waits => explored.nearest other found (earlier waits), ?closed,
    fun cut other found waits => explored.deep cut other found (earlier waits), explored.whole⟩
  intro plan t after reached met
  rcases explored.closed plan t after reached met with cut | ⟨other, found, waiting, rfl, rfl⟩ | tried
  · exact .inl cut
  · right
    by_cases same : compare key other = .eq
    · rw [← Std.LawfulEqOrd.eq_of_compare same, waits] at waiting
      cases waiting
      exact .inr fun action u next advances => .inr ⟨rfl, rfl, advances.listed⟩
    · refine .inl ⟨other, found, ?_, rfl, rfl⟩
      rw [Std.ExtTreeMap.getElem?_erase, if_neg same, waiting]
  · exact .inr (.inr fun action u next advances => .inl ((tried action u next advances).resolve_right id))

/-- A spot at full depth is left as it is; then all that still waits is at full depth too. -/
theorem Explored.leave (explored : Explored quests options s trackers progress left)
    (full : ∀ (key : Priority) (spot : Spot), progress.waiting[key]? = some spot → options.maxDepth ≤ spot.trail.length)
    (whole : ∀ plan t after, Leads quests s trackers plan t after → plan.length ≤ options.maxDepth →
      ⟨t.facts, after⟩ ∈ progress.met) :
    Explored quests options s trackers { progress with cut := true } Nothing where
  begun := explored.begun
  reached := explored.reached
  unwon := explored.unwon
  counted := explored.counted
  few := explored.few
  keyed := explored.keyed
  leads := explored.leads
  nearest := explored.nearest
  closed _ _ _ _ _ := .inl rfl
  deep _ := full
  whole _ := whole

end Policy

end Adventure
