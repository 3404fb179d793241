import Adventure.Proofs.Generation.Draft
import Adventure.Proofs.World.Preservation

namespace Adventure.Draft
open Adventure.Core

variable {draft : Draft} {s : State} {fact : Fact} {e a b : Entity}

theorem isA_of_minted {names : FreshNames} {type : String} (minted : names.Minted type e)
    (known : types.contains type = true) : IsA e type := by
  obtain ⟨number, -, rfl⟩ := minted
  exact ⟨known, types.descends_refl type⟩

namespace Sound

theorem isA_room (sound : draft.Sound) {cell : Cell} (here : draft.cells[cell]? = some e) : IsA e "r" :=
  isA_of_minted (sound.minted cell e here) (by decide)

theorem exists_cells (sound : draft.Sound) (joined : Joined draft.facts a b) : ∃ (cell : Cell) (direction : Direction),
    draft.cells[cell]? = some a ∧ draft.cells[cell.step direction]? = some b := by
  obtain ⟨direction, forward | back⟩ := joined
  · obtain ⟨cell, here, there⟩ := (sound.drawn _ forward).exists_cell
    exact ⟨cell, direction, here, there⟩
  · obtain ⟨cell, here, there⟩ := (sound.drawn _ back).exists_cell
    exact ⟨cell.step direction, direction.opposite, there, (cell.step_opposite direction).symm ▸ here⟩

/-- What lies in a direction is in the cell there. -/
theorem step (sound : draft.Sound) {cell : Cell} {direction : Direction} (here : draft.cells[cell]? = some a)
    (stated : ⟨direction.predicate, [b, a]⟩ ∈ draft.facts) : draft.cells[cell.step direction]? = some b := by
  obtain ⟨other, also, there⟩ := (sound.drawn _ stated).exists_cell
  rw [sound.apart cell other a here also]
  exact there

/-- All that is drawn can be stated. -/
theorem stated (sound : draft.Sound) (member : fact ∈ draft.facts) : knowledge.checkFact fact = .ok () := by
  cases sound.drawn fact member with
  | player here =>
    have player : IsA ⟨"P", "P"⟩ "P" := ⟨by decide, by decide⟩
    exact stated_of_signature (by decide : ⟨"at", ["P", "r"]⟩ ∈ signatures)
      (.cons player (.cons (sound.isA_room here) .nil))
  | @way _ direction _ _ here there =>
    have declared : ⟨direction.predicate, ["r", "r"]⟩ ∈ signatures := by cases direction <;> decide
    exact stated_of_signature declared (.cons (sound.isA_room there) (.cons (sound.isA_room here) .nil))
  | link joined minted =>
    obtain ⟨_, _, here, there⟩ := sound.exists_cells joined
    have door := isA_of_minted minted (by decide)
    exact stated_of_signature (by decide : ⟨"link", ["r", "d", "r"]⟩ ∈ signatures)
      (.cons (sound.isA_room here) (.cons door (.cons (sound.isA_room there) .nil)))
  | free joined =>
    obtain ⟨_, _, here, there⟩ := sound.exists_cells joined
    exact stated_of_signature (by decide : ⟨"free", ["r", "r"]⟩ ∈ signatures)
      (.cons (sound.isA_room here) (.cons (sound.isA_room there) .nil))
  | @door state _ among minted =>
    have declared : ∀ state ∈ World.openStates, ⟨state, ["d"]⟩ ∈ signatures := by decide
    exact stated_of_signature (declared state among) (.cons (isA_of_minted minted (by decide)) .nil)

/-- Nothing is mentioned but the player, rooms on the map, and doors in some state. -/
theorem mentioned (sound : draft.Sound) (member : fact ∈ draft.facts) (mentioned : e ∈ fact.arguments) :
    e = ⟨"P", "P"⟩ ∨ (∃ cell : Cell, draft.cells[cell]? = some e) ∨
      draft.world.names.Minted "d" e ∧ ∃ state ∈ World.openStates, ⟨state, [e]⟩ ∈ draft.facts := by
  cases sound.drawn fact member with
  | player here =>
    rcases List.mem_pair.mp mentioned with rfl | rfl
    · exact .inl rfl
    · exact .inr (.inl ⟨_, here⟩)
  | way here there =>
    rcases List.mem_pair.mp mentioned with rfl | rfl
    · exact .inr (.inl ⟨_, there⟩)
    · exact .inr (.inl ⟨_, here⟩)
  | link joined minted _ condition =>
    obtain ⟨_, _, here, there⟩ := sound.exists_cells joined
    simp only [List.mem_cons, List.not_mem_nil, or_false] at mentioned
    rcases mentioned with rfl | rfl | rfl
    · exact .inr (.inl ⟨_, here⟩)
    · exact .inr (.inr ⟨minted, condition⟩)
    · exact .inr (.inl ⟨_, there⟩)
  | free joined =>
    obtain ⟨_, _, here, there⟩ := sound.exists_cells joined
    rcases List.mem_pair.mp mentioned with rfl | rfl
    · exact .inr (.inl ⟨_, here⟩)
    · exact .inr (.inl ⟨_, there⟩)
  | door among minted =>
    cases List.mem_singleton.mp mentioned
    exact .inr (.inr ⟨minted, _, among, member⟩)

/-- Every room on the map is mentioned. -/
theorem exists_mention (sound : draft.Sound) {cell : Cell} (here : draft.cells[cell]? = some e) :
    ∃ fact ∈ draft.facts, e ∈ fact.arguments := by
  obtain ⟨start, -, player, connected⟩ := sound.connected
  rcases Relation.ReflTransGen.cases_tail (connected cell e here) with rfl | ⟨other, -, direction, forward | back⟩
  · exact ⟨_, player, by simp⟩
  · exact ⟨_, forward, by simp⟩
  · exact ⟨_, back, by simp⟩

theorem exists_player (sound : draft.Sound) (member : fact ∈ draft.facts) (settled : fact.aspect = some (.place, e)) :
    e = ⟨"P", "P"⟩ ∧ ∃ room, draft.cells[(⟨0, 0⟩ : Cell)]? = some room ∧ fact = ⟨"at", [⟨"P", "P"⟩, room]⟩ := by
  cases sound.drawn fact member with
  | player here =>
    cases settled
    exact ⟨rfl, _, here, rfl⟩
  | @way _ direction => cases direction <;> cases settled
  | link => cases settled
  | free => cases settled
  | @door state _ among =>
    rw [aspect_of_openStates among] at settled
    cases settled

theorem exists_door (sound : draft.Sound) (member : fact ∈ draft.facts) (settled : fact.aspect = some (.condition, e)) :
    ∃ state ∈ World.openStates, fact = ⟨state, [e]⟩ := by
  cases sound.drawn fact member with
  | player => cases settled
  | @way _ direction => cases direction <;> cases settled
  | link => cases settled
  | free => cases settled
  | @door state _ among =>
    rw [aspect_of_openStates among] at settled
    cases settled
    exact ⟨state, among, rfl⟩

/-- Nothing is said of keys or meals. -/
theorem predicate_ne (sound : draft.Sound) (member : fact ∈ draft.facts) {name : String}
    (other : name ∈ ["match", "eaten"]) : fact.predicate ≠ name := by
  have apart : ∀ predicate ∈ "at" :: "free" :: mapPredicates ++ World.openStates, ∀ name ∈ ["match", "eaten"],
      predicate ≠ name := by decide
  refine apart _ ?_ name other
  cases sound.drawn fact member with
  | player => simp
  | @way _ direction => simp [predicate_mem_mapPredicates direction]
  | link => simp [mapPredicates]
  | free => simp
  | door among => exact List.mem_append_right _ among

/-- Names start with the type, so that no two entities share one. -/
theorem named (sound : draft.Sound) {f g : Fact} (holdsF : f ∈ draft.facts) (holdsG : g ∈ draft.facts)
    (mentionedA : a ∈ f.arguments) (mentionedB : b ∈ g.arguments) (same : a.name = b.name) : a = b := by
  have room {x : Entity} {cell : Cell} (here : draft.cells[cell]? = some x) : x.name.toList.head? = some 'r' :=
    (sound.minted cell x here).head? rfl
  have door {x : Entity} (minted : draft.world.names.Minted "d" x) : x.name.toList.head? = some 'd' := minted.head? rfl
  have first : a.name.toList.head? = b.name.toList.head? := by rw [same]
  rcases sound.mentioned holdsF mentionedA with rfl | ⟨_, hereA⟩ | ⟨mintedA, -⟩ <;>
    rcases sound.mentioned holdsG mentionedB with rfl | ⟨_, hereB⟩ | ⟨mintedB, -⟩
  · rfl
  · cases first.trans (room hereB)
  · cases first.trans (door mintedB)
  · cases first.symm.trans (room hereA)
  · exact (sound.minted _ a hereA).eq_of_name (sound.minted _ b hereB) same
  · cases (room hereA).symm.trans (first.trans (door mintedB))
  · cases first.symm.trans (door mintedA)
  · cases (door mintedA).symm.trans (first.trans (room hereB))
  · exact mintedA.eq_of_name mintedB same

end Sound

/-- A state of which a draft says all. -/
structure Charts (draft : Draft) (s : State) : Prop where
  sound : draft.Sound
  complete : ∀ (direction : Direction) (a b : Entity), ⟨direction.predicate, [a, b]⟩ ∈ draft.facts →
    ⟨direction.opposite.predicate, [b, a]⟩ ∈ draft.facts
  built : s.Built
  core : s.kb = knowledge
  facts : ∀ fact, fact ∈ s.facts ↔ fact ∈ draft.facts

namespace Charts

theorem mentioned (charts : Charts draft s) (known : e ∈ s.entities) : ∃ fact ∈ draft.facts, e ∈ fact.arguments := by
  obtain ⟨fact, holds, mentioned⟩ := charts.built.indexed.mem_entities.mp known
  exact ⟨fact, (charts.facts fact).mp holds, mentioned⟩

/-- The rooms of the state are those on the map. -/
theorem mem_entities_iff (charts : Charts draft s) : e ∈ s.entities ∧ IsA e "r" ↔
    ∃ cell : Cell, draft.cells[cell]? = some e := by
  constructor
  · rintro ⟨known, room⟩
    obtain ⟨fact, member, mentioned⟩ := charts.mentioned known
    rcases charts.sound.mentioned member mentioned with rfl | here | ⟨minted, -⟩
    · have apart : types.descends "P" "r" = false := by decide
      cases apart.symm.trans room.descends
    · exact here
    · exact absurd (by decide) ((isA_of_minted minted (by decide)).not_disjoint room)
  · rintro ⟨cell, here⟩
    obtain ⟨fact, member, mentioned⟩ := charts.sound.exists_mention here
    exact ⟨charts.built.indexed.mem_entities.mpr ⟨fact, (charts.facts fact).mpr member, mentioned⟩,
      charts.sound.isA_room here⟩

theorem consistent (charts : Charts draft s) : s.Consistent := by
  have sound := charts.sound
  rintro f holdsF g holdsG ⟨_ | _, e⟩ settledF settledG
  case place =>
    obtain ⟨-, room, here, rfl⟩ := sound.exists_player ((charts.facts f).mp holdsF) settledF
    obtain ⟨-, other, there, rfl⟩ := sound.exists_player ((charts.facts g).mp holdsG) settledG
    cases here.symm.trans there
    rfl
  case condition =>
    obtain ⟨a, stateA, rfl⟩ := sound.exists_door ((charts.facts f).mp holdsF) settledF
    obtain ⟨b, stateB, rfl⟩ := sound.exists_door ((charts.facts g).mp holdsG) settledG
    rw [sound.doors a stateA b stateB e ((charts.facts _).mp holdsF) ((charts.facts _).mp holdsG)]

theorem unviolated (charts : Charts draft s) : s.violated = none := by
  have indexed := charts.built.indexed
  have patterned : ∀ constraint ∈ constraints, constraint.patterns ≠ [] := by decide
  refine State.violated_eq_none_iff.mpr fun constraint declared violated => ?_
  have core : constraint ∈ knowledge.constraints := charts.core ▸ declared
  rcases constraints_separate constraint core with separates | about
  · exact charts.consistent.not_violates indexed separates violated
  · obtain ⟨binding, solves⟩ := (State.violates_iff indexed).mp violated
    obtain ⟨pattern, member⟩ := List.exists_mem_of_ne_nil _ (patterned constraint core)
    obtain ⟨fact, holds, ground⟩ := solves.holds pattern member
    refine charts.sound.predicate_ne ((charts.facts fact).mp holds) (by simp : "match" ∈ _) ?_
    rw [← (Pattern.ground_eq_some_iff.mp ground).1]
    exact about pattern member

theorem tidy (charts : Charts draft s) : Tidy s := by
  have sound := charts.sound
  have place {e : Entity} (settles : s.Settles (.place, e)) : e = ⟨"P", "P"⟩ := by
    obtain ⟨fact, holds, settled⟩ := settles
    exact (sound.exists_player ((charts.facts fact).mp holds) settled).1
  refine ⟨⟨charts.built, charts.core, charts.unviolated⟩, charts.consistent, ?player, ?doors, ?openable, ?named⟩
  case player =>
    obtain ⟨start, origin, player, -⟩ := sound.connected
    exact ⟨⟨"P", "P"⟩, rfl, ⟨_, (charts.facts _).mpr player, rfl⟩, fun other _ settles => place settles⟩
  case doors =>
    intro e door settles
    have apart : types.descends "P" "d" = false := by decide
    have descends := door.descends
    rw [place settles, apart] at descends
    cases descends
  case openable =>
    intro e known kind
    have thing := IsA.thing kind
    obtain ⟨fact, member, mentioned⟩ := charts.mentioned known
    rcases sound.mentioned member mentioned with rfl | ⟨_, here⟩ | ⟨-, state, among, stated⟩
    · have apart : types.descends "P" "t" = false := by decide
      cases apart.symm.trans thing.descends
    · exact absurd (by decide) (thing.not_disjoint (sound.isA_room here))
    · exact ⟨_, (charts.facts _).mpr stated, aspect_of_openStates among e⟩
  case named =>
    intro x knownX y knownY _ _ same
    obtain ⟨f, holdsF, mentionedX⟩ := charts.mentioned knownX
    obtain ⟨g, holdsG, mentionedY⟩ := charts.mentioned knownY
    exact sound.named holdsF holdsG mentionedX mentionedY same

theorem mem_roomNames (charts : Charts draft s) {name : String} : name ∈ s.roomNames ↔
    ∃ (cell : Cell) (room : Entity), draft.cells[cell]? = some room ∧ room.name = name := by
  rw [charts.tidy.lawful.mem_roomNames]
  constructor
  · rintro ⟨e, known, isA, rfl⟩
    obtain ⟨cell, here⟩ := charts.mem_entities_iff.mp ⟨known, isA⟩
    exact ⟨cell, e, here, rfl⟩
  · rintro ⟨cell, e, here, rfl⟩
    obtain ⟨known, isA⟩ := charts.mem_entities_iff.mpr ⟨cell, here⟩
    exact ⟨e, known, isA, rfl⟩

/-- The exits of a room are as drawn. -/
theorem leads_iff (charts : Charts draft s) {cell : Cell} (here : draft.cells[cell]? = some a) {direction : Direction}
    {target : String} : ((Exits.ofFacts s.facts.toList).of a.name)[direction]? = some target ↔
      ∃ b, ⟨direction.predicate, [b, a]⟩ ∈ draft.facts ∧ b.name = target := by
  have sound := charts.sound
  have listed {fact : Fact} : fact ∈ s.facts.toList ↔ fact ∈ draft.facts := by
    rw [Std.ExtTreeSet.mem_toList, charts.facts]
  have stated {target : String} (leads : ((Exits.ofFacts s.facts.toList).of a.name)[direction]? = some target) :
      ∃ b, ⟨direction.predicate, [b, a]⟩ ∈ draft.facts ∧ b.name = target := by
    obtain ⟨⟨predicate, arguments⟩, member, b, c, read, rfl, shared⟩ := Exits.exists_of_ofFacts leads
    obtain ⟨rfl, rfl⟩ := Exits.direction?_eq_some read
    have drawn := listed.mp member
    obtain ⟨other, also, -⟩ := (sound.drawn _ drawn).exists_cell
    rw [(sound.minted other c also).eq_of_name (sound.minted cell a here) shared] at drawn
    exact ⟨b, drawn, rfl⟩
  refine ⟨stated, ?_⟩
  rintro ⟨b, drawn, rfl⟩
  obtain ⟨target, leads⟩ := Exits.exists_leads (listed.mpr drawn)
  obtain ⟨c, also, rfl⟩ := stated leads
  cases (sound.step here drawn).symm.trans (sound.step here also)
  exact leads

/-- A passage is on an exit and back on the opposite one. -/
theorem exists_way (charts : Charts draft s) (joined : Joined draft.facts a b) : ∃ direction : Direction,
    ⟨direction.predicate, [b, a]⟩ ∈ draft.facts ∧ ⟨direction.opposite.predicate, [a, b]⟩ ∈ draft.facts := by
  obtain ⟨direction, forward | back⟩ := joined
  · exact ⟨direction, forward, charts.complete direction b a forward⟩
  · refine ⟨direction.opposite, charts.complete direction a b back, ?_⟩
    rw [direction.opposite_opposite]
    exact back

theorem towards_eq (charts : Charts draft s) {cell : Cell} (here : draft.cells[cell]? = some a) {direction : Direction}
    (stated : ⟨direction.predicate, [b, a]⟩ ∈ draft.facts) :
    World.towards ((Exits.ofFacts s.facts.toList).of a.name) b.name = some direction := by
  have sound := charts.sound
  refine World.towards_eq_some ((charts.leads_iff here).mpr ⟨b, stated, rfl⟩) fun other leads => ?_
  obtain ⟨c, also, shared⟩ := (charts.leads_iff here).mp leads
  have there := sound.step here stated
  have elsewhere := sound.step here also
  cases (sound.minted _ c elsewhere).eq_of_name (sound.minted _ b there) shared
  exact Cell.step_injective (sound.apart _ _ _ elsewhere there)

theorem check {w : World} (charts : Charts draft w.state) : w.check = .ok () := by
  have tidy := charts.tidy
  have sound := charts.sound
  have indexed := charts.built.indexed
  refine World.check_eq_ok_iff.mpr ⟨tidy.playerPlacements, fun _ => tidy.thingFlaws, ?links, ?exits, charts.unviolated⟩
  case links =>
    intro fact member
    obtain ⟨holds, named⟩ := indexed.mem_factsNamed.mp member
    obtain ⟨room, door, target, rfl, isRoom, isTarget⟩ := exists_link tidy.lawful.built tidy.lawful.core holds named
    obtain ⟨-, joined, back⟩ := (sound.drawn _ ((charts.facts _).mp holds)).of_link
    obtain ⟨cell, _, here, there⟩ := sound.exists_cells joined
    obtain ⟨direction, forward, opposite⟩ := charts.exists_way joined
    refine (World.linkFlaws_eq_nil_iff (tidy.lawful.name_mem_roomNames holds (by simp) isRoom)
      (tidy.lawful.name_mem_roomNames holds (by simp) isTarget)).mpr ⟨(charts.facts _).mpr back, direction, ?_, ?_⟩
    · exact charts.towards_eq here forward
    · exact charts.towards_eq there opposite
  case exits =>
    refine World.exitFlaws_eq_nil_iff.mpr fun name known direction target leads => ?_
    obtain ⟨cell, room, here, rfl⟩ := charts.mem_roomNames.mp known
    obtain ⟨b, stated, rfl⟩ := (charts.leads_iff here).mp leads
    have there := sound.step here stated
    exact ⟨charts.mem_roomNames.mpr ⟨_, b, there, rfl⟩,
      (charts.leads_iff there).mpr ⟨room, charts.complete direction b room stated, rfl⟩⟩

end Charts

end Adventure.Draft
