import Adventure.Proofs.Logic.Walks
import Mathlib.Data.Nat.Find

namespace Adventure

/-- So many steps along `next` lead to a name. -/
inductive Climbs (next : String → List String) (start : String) : Nat → String → Prop
  | start : Climbs next start 0 start
  | up {steps : Nat} {y z : String} : Climbs next start steps y → z ∈ next y → Climbs next start (steps + 1) z

/-- The fewest steps, but at least one, that lead to a name. A name that is above itself has such a distance too. -/
structure Distance (next : String → List String) (start name : String) (steps : Nat) : Prop where
  positive : 0 < steps
  climbs : Climbs next start steps name
  least : ∀ fewer, 0 < fewer → Climbs next start fewer name → steps ≤ fewer

/-- A name is no farther away than another. -/
def NoFarther (next : String → List String) (start a b : String) : Prop :=
  ∀ m n, Distance next start a m → Distance next start b n → m ≤ n

/-- How the queue of a climb stands in a round: first wait the names that so many steps lead to, then those that one
more leads to. All names nearer than those have been found, the nearest first, and what is one step above those found
has been found too or waits. -/
structure Climbed (next : String → List String) (start : String) (round : Nat) (found here later : List String) :
    Prop where
  positive : 0 < round
  away : ∀ y ∈ here, Climbs next start round y
  farther : ∀ y ∈ later, Climbs next start (round + 1) y
  nearer : ∀ steps y, 0 < steps → steps < round → Climbs next start steps y → y ∈ found
  level : ∀ y, Climbs next start round y → y ∈ found ∨ y ∈ here
  onward : ∀ y ∈ found, ∀ z ∈ next y, z ∈ found ∨ z ∈ here ∨ z ∈ later
  within : ∀ y ∈ found, ∃ steps, 0 < steps ∧ steps ≤ round ∧ Climbs next start steps y
  once : found.Nodup
  nearest : found.Pairwise (NoFarther next start)

section Climbing

variable {next : String → List String} {start name x y : String} {round steps : Nat}
  {found here later waiting result : List String}

theorem Climbs.above (climbs : Climbs next x steps y) (positive : 0 < steps) :
    Relation.TransGen (fun a b => b ∈ next a) x y := by
  induction climbs with
  | start => cases positive
  | @up steps y z climbs step ih =>
    cases steps with
    | zero =>
      cases climbs
      exact .single step
    | succ steps => exact .tail (ih (Nat.succ_pos steps)) step

theorem exists_climbs (above : Relation.TransGen (fun a b => b ∈ next a) x y) :
    ∃ steps, 0 < steps ∧ Climbs next x steps y := by
  induction above with
  | single step => exact ⟨1, Nat.one_pos, .up .start step⟩
  | tail _ step ih =>
    obtain ⟨steps, -, climbs⟩ := ih
    exact ⟨steps + 1, Nat.succ_pos steps, .up climbs step⟩

theorem exists_distance (above : Relation.TransGen (fun a b => b ∈ next a) x y) :
    ∃ steps, Distance next x y steps := by
  classical
  have some := exists_climbs above
  obtain ⟨positive, climbs⟩ := Nat.find_spec some
  exact ⟨Nat.find some, positive, climbs, fun fewer more climbs => Nat.find_min' some ⟨more, climbs⟩⟩

namespace Climbed

theorem begin : Climbed next start 1 [] (next start) [] where
  positive := Nat.one_pos
  away y step := .up .start step
  farther y none := absurd none List.not_mem_nil
  nearer steps y positive none := by omega
  level y climbs := by
    obtain _ | @⟨_, x, _, climbs, step⟩ := climbs
    cases climbs
    exact .inr step
  onward y none := absurd none List.not_mem_nil
  within y none := absurd none List.not_mem_nil
  once := List.nodup_nil
  nearest := List.Pairwise.nil

theorem skip (climbed : Climbed next start round found (name :: here) later) (old : name ∈ found) :
    Climbed next start round found here later where
  positive := climbed.positive
  away y waits := climbed.away y (List.mem_cons_of_mem _ waits)
  farther := climbed.farther
  nearer := climbed.nearer
  level y climbs := by
    rcases climbed.level y climbs with known | waits
    · exact .inl known
    · rcases List.mem_cons.mp waits with rfl | behind
      · exact .inl old
      · exact .inr behind
  onward y known z step := by
    rcases climbed.onward y known z step with known | waits | last
    · exact .inl known
    · rcases List.mem_cons.mp waits with rfl | behind
      · exact .inl old
      · exact .inr (.inl behind)
    · exact .inr (.inr last)
  within := climbed.within
  once := climbed.once
  nearest := climbed.nearest

/-- A name of this round that was not found before is no nearer than this round. -/
theorem le_distance (climbed : Climbed next start round found here later) (new : name ∉ found)
    (distance : Distance next start name steps) : round ≤ steps :=
  Nat.le_of_not_lt fun less => new (climbed.nearer steps name distance.positive less distance.climbs)

theorem take (climbed : Climbed next start round found (name :: here) later) (new : name ∉ found) :
    Climbed next start round (found ++ [name]) here (later ++ next name) where
  positive := climbed.positive
  away y waits := climbed.away y (List.mem_cons_of_mem _ waits)
  farther y waits := by
    rcases List.mem_append.mp waits with before | step
    · exact climbed.farther y before
    · exact .up (climbed.away name List.mem_cons_self) step
  nearer steps y positive less climbs := List.mem_append_left _ (climbed.nearer steps y positive less climbs)
  level y climbs := by
    have stands := climbed.level y climbs
    rw [List.mem_cons] at stands
    rw [List.mem_append, List.mem_singleton, or_assoc]
    exact stands
  onward y known z step := by
    rw [List.mem_append, List.mem_singleton, List.mem_append]
    rcases List.mem_append.mp known with before | same
    · rcases climbed.onward y before z step with old | waits | last
      · exact .inl (.inl old)
      · rcases List.mem_cons.mp waits with rfl | behind
        · exact .inl (.inr rfl)
        · exact .inr (.inl behind)
      · exact .inr (.inr (.inl last))
    · cases List.mem_singleton.mp same
      exact .inr (.inr (.inr step))
  within y known := by
    rcases List.mem_append.mp known with before | same
    · exact climbed.within y before
    · cases List.mem_singleton.mp same
      exact ⟨round, climbed.positive, Nat.le_refl round, climbed.away name List.mem_cons_self⟩
  once := by
    refine List.nodup_append.mpr ⟨climbed.once, List.pairwise_singleton _ _, ?_⟩
    rintro a before b same rfl
    exact new (List.mem_singleton.mp same ▸ before)
  nearest := by
    refine List.pairwise_append.mpr ⟨climbed.nearest, List.pairwise_singleton _ _, ?_⟩
    intro a before b same m n toA toB
    cases List.mem_singleton.mp same
    obtain ⟨steps, positive, few, climbs⟩ := climbed.within a before
    exact Nat.le_trans (Nat.le_trans (toA.least steps positive climbs) few) (climbed.le_distance new toB)

/-- When no name of a round waits any more, the next round begins. -/
theorem turn (climbed : Climbed next start round found [] later) : Climbed next start (round + 1) found later [] where
  positive := Nat.succ_pos round
  away := climbed.farther
  farther y none := absurd none List.not_mem_nil
  nearer steps y positive less climbs := by
    rcases Nat.lt_succ_iff_lt_or_eq.mp less with before | rfl
    · exact climbed.nearer steps y positive before climbs
    · exact (climbed.level y climbs).resolve_right List.not_mem_nil
  level y climbs := by
    obtain _ | @⟨_, x, _, climbs, step⟩ := climbs
    have known : x ∈ found := (climbed.level x climbs).resolve_right List.not_mem_nil
    exact (climbed.onward x known y step).imp_right fun waits => waits.resolve_left List.not_mem_nil
  onward y known z step := by
    rcases climbed.onward y known z step with old | none | waits
    · exact .inl old
    · cases none
    · exact .inr (.inl waits)
  within y known := by
    obtain ⟨steps, positive, few, climbs⟩ := climbed.within y known
    exact ⟨steps, positive, Nat.le_succ_of_le few, climbs⟩
  once := climbed.once
  nearest := climbed.nearest

/-- Whatever waits first is of the round, if need be of the next one. -/
theorem front (climbed : Climbed next start round found here later) (queue : here ++ later = name :: waiting) :
    ∃ round here later, Climbed next start round found (name :: here) later ∧ here ++ later = waiting := by
  cases here with
  | nil =>
    cases queue
    exact ⟨round + 1, waiting, [], climbed.turn, List.append_nil waiting⟩
  | cons first here =>
    cases queue
    exact ⟨round, here, later, climbed, rfl⟩

/-- When nothing waits any more, all that the start leads to has been found. -/
theorem mem_iff (climbed : Climbed next start round found [] []) :
    y ∈ found ↔ Relation.TransGen (fun a b => b ∈ next a) start y := by
  have onward : ∀ a ∈ found, ∀ b ∈ next a, b ∈ found := by
    intro a known b step
    rcases climbed.onward a known b step with old | none | none
    · exact old
    · cases none
    · cases none
  constructor
  · intro known
    obtain ⟨steps, positive, -, climbs⟩ := climbed.within y known
    exact climbs.above positive
  · intro above
    induction above with
    | single step =>
      rcases Nat.lt_or_eq_of_le climbed.positive with more | one
      · exact climbed.nearer 1 _ Nat.one_pos more (.up .start step)
      · exact (climbed.level _ (one ▸ .up .start step)).resolve_right List.not_mem_nil
    | tail _ step ih => exact onward _ ih _ step

end Climbed

/-- A climb that stands in a round ends with nothing waiting. -/
theorem Lists.climbed (lists : Lists next waiting found result) (queue : here ++ later = waiting)
    (climbed : Climbed next start round found here later) : ∃ round, Climbed next start round result [] [] := by
  induction lists generalizing round here later with
  | done =>
    obtain ⟨rfl, rfl⟩ := List.append_eq_nil_iff.mp queue
    exact ⟨round, climbed⟩
  | skip old _ ih =>
    obtain ⟨round, here, later, stands, rfl⟩ := climbed.front queue
    exact ih rfl (stands.skip old)
  | take new _ ih =>
    obtain ⟨round, here, later, stands, rfl⟩ := climbed.front queue
    exact ih (List.append_assoc ..).symm (stands.take new)

/-- A climb lists what its start leads to, each name once and the nearest first. -/
theorem Lists.exact (lists : Lists next (next start) [] result) :
    result.Nodup ∧ (∀ y, y ∈ result ↔ Relation.TransGen (fun a b => b ∈ next a) start y) ∧
      result.Pairwise (NoFarther next start) := by
  obtain ⟨round, climbed⟩ := lists.climbed (List.append_nil _) Climbed.begin
  exact ⟨climbed.once, fun y => climbed.mem_iff, climbed.nearest⟩

end Climbing

end Adventure
