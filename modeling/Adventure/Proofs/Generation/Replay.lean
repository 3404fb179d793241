import Adventure.Proofs.Generation.Games

namespace Adventure

namespace Streams

variable {streams : Streams} {concern : String} {seeds : SortedMap String UInt64} {root : UInt64}

/-- Nothing has been drawn yet: each source is at the start that its seed gives. -/
def Sown (streams : Streams) : Prop :=
  streams.rngs = streams.seeds.map fun _ seed => Rng.ofSeed seed

theorem Sown.override (sown : streams.Sown) (concern : String) (seed : UInt64) :
    (streams.override concern seed).Sown := by
  apply Std.ExtTreeMap.ext_getElem?
  intro other
  have here : streams.rngs[other]? = streams.seeds[other]?.map Rng.ofSeed := by
    rw [sown, Std.ExtTreeMap.getElem?_map]
  simp only [Streams.override, Std.ExtTreeMap.getElem?_map, Std.ExtTreeMap.getElem?_insert, here]
  split <;> rfl

theorem Sown.spawn (sown : streams.Sown) (concern : String) : (streams.spawn concern).Sown :=
  sown.override concern (Random.word64 streams.spawner).1

theorem sown_ofRoot (root : UInt64) : (ofRoot root).Sown :=
  List.foldlRecOn concerns Streams.spawn (rfl : Sown ⟨root, ∅, ∅, Rng.ofSeed root⟩)
    fun _ sown concern _ => sown.spawn concern

theorem sown_ofSeeds (root : UInt64) (seeds : SortedMap String UInt64) : (ofSeeds root seeds).Sown :=
  List.foldlRecOn seeds.toList _ (sown_ofRoot root) fun _ sown entry _ => sown.override entry.1 entry.2

theorem mem_seeds_foldl_spawn {listed : List String} :
    concern ∈ (listed.foldl Streams.spawn streams).seeds ↔ concern ∈ streams.seeds ∨ concern ∈ listed := by
  induction listed generalizing streams with
  | nil => simp
  | cons first rest ih =>
    rw [List.foldl_cons, ih, List.mem_cons]
    show concern ∈ streams.seeds.insert first _ ∨ _ ↔ _
    rw [Std.ExtTreeMap.mem_insert, Std.LawfulEqOrd.compare_eq_iff_eq]
    tauto

theorem mem_seeds_ofRoot : concern ∈ (ofRoot root).seeds ↔ concern ∈ concerns := by
  rw [ofRoot, mem_seeds_foldl_spawn]
  simp

theorem mem_seeds_ofSeeds (listed : concern ∈ concerns) : concern ∈ (ofSeeds root seeds).seeds :=
  List.foldlRecOn (motive := fun streams : Streams => concern ∈ streams.seeds) seeds.toList _ (mem_seeds_ofRoot.mpr listed)
    fun _ known _ _ => Std.ExtTreeMap.mem_insert.mpr (.inr known)

theorem Sown.complete (sown : streams.Sown) (seeded : ∀ concern ∈ concerns, concern ∈ streams.seeds) :
    ∀ concern ∈ concerns, concern ∈ streams.rngs := by
  intro concern listed
  rw [sown, Std.ExtTreeMap.mem_map]
  exact seeded concern listed

/-- Overriding all the seeds of a map gives the map, if nothing else has a seed that the map does not have. -/
theorem seeds_foldl_override {entries : List (String × UInt64)}
    (listed : ∀ entry ∈ entries, seeds[entry.1]? = some entry.2)
    (others : ∀ concern, concern ∉ entries.map Prod.fst → streams.seeds[concern]? = seeds[concern]?) :
    (entries.foldl (fun streams entry => streams.override entry.1 entry.2) streams).seeds = seeds := by
  induction entries generalizing streams with
  | nil =>
    apply Std.ExtTreeMap.ext_getElem?
    exact fun concern => others concern List.not_mem_nil
  | cons entry rest ih =>
    obtain ⟨here, later⟩ := List.forall_mem_cons.mp listed
    refine ih later fun concern unlisted => ?_
    show (streams.seeds.insert entry.1 entry.2)[concern]? = _
    rw [Std.ExtTreeMap.getElem?_insert]
    split
    next same =>
      cases Std.LawfulEqOrd.eq_of_compare same
      exact here.symm
    next different =>
      rw [Std.LawfulEqOrd.compare_eq_iff_eq] at different
      refine others concern ?_
      rw [List.map_cons, List.mem_cons, not_or]
      exact ⟨fun same => different same.symm, unlisted⟩

theorem seeds_ofSeeds (complete : ∀ concern ∈ concerns, concern ∈ seeds) : (ofSeeds root seeds).seeds = seeds := by
  refine seeds_foldl_override (fun entry => Std.ExtTreeMap.mem_toList_iff_getElem?_eq_some.mp) fun concern unlisted => ?_
  rw [Std.ExtTreeMap.map_fst_toList_eq_keys, Std.ExtTreeMap.mem_keys] at unlisted
  have unspawned : concern ∉ (ofRoot root).seeds :=
    fun spawned => unlisted (complete concern (mem_seeds_ofRoot.mp spawned))
  rw [Std.ExtTreeMap.getElem?_eq_none unlisted, Std.ExtTreeMap.getElem?_eq_none unspawned]

/-- The source of a part that has one. -/
def source (streams : Streams) (concern : String) : Rng := streams.rngs.getD concern streams.spawner

/-- Sources that have not been used are those of their seeds, wherever the seeds came from. -/
theorem Sown.source_ofSeeds (sown : streams.Sown) (complete : ∀ concern ∈ concerns, concern ∈ streams.seeds)
    (root : UInt64) (known : concern ∈ streams.rngs) :
    (ofSeeds root streams.seeds).source concern = streams.source concern := by
  have rngs : (ofSeeds root streams.seeds).rngs = streams.rngs := by
    rw [sown_ofSeeds root streams.seeds, seeds_ofSeeds complete, ← sown]
  obtain ⟨rng, found⟩ := SortedMap.mem_iff.mp known
  rw [source, source, rngs, Std.ExtTreeMap.getD_eq_getD_getElem?, Std.ExtTreeMap.getD_eq_getD_getElem?, found]
  rfl

/-- Drawing from the source of a part leaves those of the others as they are. -/
structure Draws (streams : Streams) (concern : String) (after : Streams) : Prop where
  seeds : after.seeds = streams.seeds
  known : ∀ other ∈ streams.rngs, other ∈ after.rngs
  source : ∀ other, other ≠ concern → after.source other = streams.source other

theorem draws_of_draw {α : Type} {random : Random α} {value : α} {after : Streams} (known : concern ∈ streams.rngs)
    (drawn : streams.draw concern random = (value, after)) :
    value = (random (streams.source concern)).1 ∧ streams.Draws concern after := by
  rw [draw, if_pos (Std.ExtTreeMap.contains_iff_mem.mpr known)] at drawn
  cases drawn
  refine ⟨rfl, rfl, fun other here => Std.ExtTreeMap.mem_insert.mpr (.inr here), fun other different => ?_⟩
  rw [source, source, Std.ExtTreeMap.getD_insert, if_neg]
  rw [Std.LawfulEqOrd.compare_eq_iff_eq]
  exact fun same => different same.symm

end Streams

section Replay

variable {options : GameOptions} {streams : Streams} {game : Game} {seeds : SortedMap String UInt64}

/-- A game from the sources of its parts, with the seeds to record. -/
def gameOf (options : GameOptions) (seeds : SortedMap String UInt64) (forMap forThings forQuests forNames : Rng) :
    Except Error Game := do
  let world ← (makeMap options.kb options.generation.rooms forMap).1
  let populated := (world.populate options.generation.objects (some options.generation.weights) forThings).1
  match populated.fault with
  | some error => throw error
  | none =>
    populated.world.check
    let (chain, quests) ← (makeQuests populated.world.state options.chainOptions forQuests).1
    let seed := (Random.word64 forNames).1
    let game := ((Game.of populated.world quests).dressed chain.actions (Rng.ofSeed seed)).1
    return { game with
      metadata := { game.metadata with seeds := seeds, uuid := "fable-" ++ Uuid.ofSeeds seeds } }

theorem makeGameFrom_eq_gameOf (complete : ∀ concern ∈ Streams.concerns, concern ∈ streams.rngs) :
    makeGameFrom options streams = gameOf options streams.seeds (streams.source "map") (streams.source "objects")
      (streams.source "quest") (streams.source "grammar") := by
  simp only [Streams.concerns, List.forall_mem_cons] at complete
  obtain ⟨map, objects, quest, grammar, -⟩ := complete
  rw [makeGameFrom, gameOf]
  cases first : streams.draw "map" (makeMap options.kb options.generation.rooms) with
  | mk drawn mapped =>
    obtain ⟨rfl, afterMap⟩ := Streams.draws_of_draw map first
    refine bind_congr fun world => ?_
    cases second : mapped.draw "objects"
        (world.populate options.generation.objects (some options.generation.weights)) with
    | mk populated furnished =>
      obtain ⟨rfl, afterThings⟩ := Streams.draws_of_draw (afterMap.known _ objects) second
      rw [afterMap.source "objects" (by decide)]
      generalize (world.populate options.generation.objects (some options.generation.weights)
        (streams.source "objects")).1 = things
      cases fault : things.fault with
      | some => simp only [fault]
      | none =>
        simp only [fault]
        refine bind_congr fun _ => ?_
        cases third : furnished.draw "quest" (makeQuests things.world.state options.chainOptions) with
        | mk made planned =>
          obtain ⟨rfl, afterQuests⟩ :=
            Streams.draws_of_draw (afterThings.known _ (afterMap.known _ quest)) third
          rw [afterThings.source "quest" (by decide), afterMap.source "quest" (by decide)]
          refine bind_congr fun made => ?_
          cases fourth : planned.draw "grammar" Random.word64 with
          | mk seed last =>
            obtain ⟨rfl, afterNames⟩ := Streams.draws_of_draw
              (afterQuests.known _ (afterThings.known _ (afterMap.known _ grammar))) fourth
            rw [afterQuests.source "grammar" (by decide), afterThings.source "grammar" (by decide),
              afterMap.source "grammar" (by decide), afterNames.seeds, afterQuests.seeds, afterThings.seeds,
              afterMap.seeds]

theorem seeds_of_gameOf {forMap forThings forQuests forNames : Rng}
    (made : gameOf options seeds forMap forThings forQuests forNames = .ok game) : game.metadata.seeds = seeds := by
  obtain ⟨world, -, made⟩ := bind_eq_ok_iff.mp made
  dsimp only at made
  split at made
  next => cases made
  next =>
    obtain ⟨_, -, made⟩ := bind_eq_ok_iff.mp made
    obtain ⟨⟨chain, quests⟩, -, made⟩ := bind_eq_ok_iff.mp made
    cases made
    rfl

/-- The seeds recorded with a game give the game again, whatever the root seed, also if it was not made at the first
try. -/
theorem recorded_seeds_replay (made : makeGame options = .ok game) (root : UInt64) :
    makeGame { options with seed := root, seeds := game.metadata.seeds } = .ok game := by
  obtain ⟨streams, first, source⟩ := exists_source made
  have sown : streams.Sown := by
    rcases source with rfl | ⟨seed, rfl⟩
    · exact Streams.sown_ofSeeds _ _
    · exact Streams.sown_ofRoot seed
  have seeded : ∀ concern ∈ Streams.concerns, concern ∈ streams.seeds := by
    intro concern listed
    rcases source with rfl | ⟨seed, rfl⟩
    · exact Streams.mem_seeds_ofSeeds listed
    · exact Streams.mem_seeds_ofRoot.mpr listed
  have complete : ∀ concern ∈ Streams.concerns, concern ∈ streams.rngs := sown.complete seeded
  rw [makeGameFrom_eq_gameOf complete] at first
  apply makeGame_of_first
  rw [seeds_of_gameOf first, makeGameFrom_eq_gameOf ((Streams.sown_ofSeeds _ _).complete fun _ => Streams.mem_seeds_ofSeeds),
    Streams.seeds_ofSeeds seeded]
  have same {concern : String} (listed : concern ∈ Streams.concerns) :
      (Streams.ofSeeds root streams.seeds).source concern = streams.source concern :=
    sown.source_ofSeeds seeded root (complete concern listed)
  rw [same (by decide), same (by decide), same (by decide), same (by decide)]
  exact first

/-- For a small game with a quest of its own seed. -/
def seededOptions : GameOptions := { smallOptions with seeds := SortedMap.of [("quest", 7)] }

theorem exists_seededGame : ∃ game, makeGame seededOptions = .ok game := by
  have evaluated : (directChain seededOptions (.ofSeeds seededOptions.seed seededOptions.seeds) 2).any (fun chain =>
      ∀ part ∈ chain.splitByBreadth, part ≠ []) = true := by decide +kernel
  obtain ⟨chain, way, filled⟩ := (Option.any_eq_true ..).mp evaluated
  obtain ⟨game, made⟩ := exists_game_of_directChain rfl way (by decide) (of_decide_eq_true filled)
  exact ⟨game, makeGame_of_first made⟩

theorem recorded_seeds_replay_small : ∃ game, makeGame seededOptions = .ok game ∧
    makeGame { seededOptions with seed := 1, seeds := game.metadata.seeds } = .ok game := by
  obtain ⟨game, made⟩ := exists_seededGame
  exact ⟨game, made, recorded_seeds_replay made 1⟩

end Replay

end Adventure
