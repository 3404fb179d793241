import Adventure.Proofs.Core.Commands
import Adventure.Proofs.Generation.Games
import Adventure.Proofs.Naming

namespace Adventure

namespace Naming

/-- The entries made for entities in turn. -/
def entries (kb : KnowledgeBase) (es : List Entity) : Naming (List (String × EntityInfo)) :=
  es.mapM fun entity => do return (entity.name, ← describe kb entity)

/-- Each entity is described, and filed under its name. -/
theorem entries_run (kb : KnowledgeBase) (es : List Entity) (used : SortedSet String) (rng : Rng) :
    ((entries kb es).run used rng).1.1 =
      ((describeAll (es.map fun e => (kb, e))).run used rng).1.1.map fun info => (info.id, info) := by
  induction es generalizing used rng with
  | nil => rfl
  | cons e es ih =>
    rw [entries, List.mapM_cons, ← entries, run_bind, List.map_cons, describeAll, List.mapM_cons, ← describeAll,
      run_bind]
    exact congrArg (List.cons _) (ih _ _)

/-- Entries for some entities under their names: they give titles, and no title is given twice. -/
structure Entered (kb : KnowledgeBase) (es : List Entity) (entries : List (String × EntityInfo)) : Prop where
  keys : entries.map Prod.fst = es.map Entity.name
  titled : ∀ e ∈ es, ∃ info given, (e.name, info) ∈ entries ∧ info.name = some given.text ∧ Titled (nouns kb e.type) given
  different : (entries.map fun entry => entry.2.name).Nodup

theorem entered_entries (kb : KnowledgeBase) (es : List Entity) (used : SortedSet String) (rng : Rng) :
    Entered kb es ((entries kb es).run used rng).1.1 := by
  have tells := tells_describeAll (es.map fun e => (kb, e)) used rng
  rw [entries_run]
  generalize ((describeAll (es.map fun e => (kb, e))).run used rng).1.1 = infos at tells
  refine ⟨?keys, fun e member => ?titled, ?different⟩
  case keys => simpa [Function.comp_def] using tells.ids
  case titled =>
    obtain ⟨info, listed, id, given, named⟩ := tells.told (kb, e) (List.mem_map.mpr ⟨e, member, rfl⟩)
    exact ⟨info, given, List.mem_map.mpr ⟨info, listed, by rw [id]⟩, named⟩
  case different =>
    rw [List.map_map]
    exact tells.nodup

end Naming

namespace Game

variable {game : Game}

/-- In a game that is dressed, entities of different names have titles, and no two have the same. -/
theorem titled_dressed (named : ∀ x ∈ game.named, ∀ y ∈ game.named, x.name = y.name → x = y)
    (walkthrough : List Action) (rng : Rng) :
    (∀ e ∈ game.named, ∃ given, (game.dressed walkthrough rng).1.nameOf e.name = given.text ∧
      Naming.Titled (Naming.nouns game.kb e.type) given) ∧
    ∀ x ∈ game.named, ∀ y ∈ game.named,
      (game.dressed walkthrough rng).1.nameOf x.name = (game.dressed walkthrough rng).1.nameOf y.name → x = y := by
  have entered := Naming.entered_entries game.kb game.named ∅ rng
  have infos : (game.dressed walkthrough rng).1.infos =
      SortedMap.of ((Naming.entries game.kb game.named).run ∅ rng).1.1 := rfl
  generalize ((Naming.entries game.kb game.named).run ∅ rng).1.1 = entries at entered infos
  have apart : entries.Pairwise fun a b => ¬ compare a.1 b.1 = .eq := by
    have keys : (entries.map Prod.fst).Nodup := by
      rw [entered.keys]
      exact (game.world.state.nodup_entities.filter _).map_on named
    exact (List.pairwise_map.mp keys).imp fun unlike same => unlike (Std.LawfulEqOrd.eq_of_compare same)
  have told : ∀ e ∈ game.named, ∃ info given, (e.name, info) ∈ entries ∧ info.name = .some given.text ∧
      Naming.Titled (Naming.nouns game.kb e.type) given ∧
      (game.dressed walkthrough rng).1.nameOf e.name = given.text := by
    intro e member
    obtain ⟨info, given, listed, name, titled⟩ := entered.titled e member
    have found : (game.dressed walkthrough rng).1.infos[e.name]? = .some info := by
      rw [infos]
      exact Std.ExtTreeMap.getElem?_ofList_of_mem Std.ReflCmp.compare_self apart listed
    refine ⟨info, given, listed, name, titled, ?_⟩
    rw [nameOf, found, Option.bind_some, name, Option.getD_some]
  refine ⟨fun e member => ?_, fun x inX y inY same => ?_⟩
  · obtain ⟨-, given, -, -, titled, called⟩ := told e member
    exact ⟨given, called, titled⟩
  · obtain ⟨infoX, givenX, listedX, nameX, -, calledX⟩ := told x inX
    obtain ⟨infoY, givenY, listedY, nameY, -, calledY⟩ := told y inY
    have shared : infoX.name = infoY.name := by rw [nameX, nameY, ← calledX, ← calledY, same]
    have entry := List.inj_on_of_nodup_map entered.different listedX listedY shared
    exact named x inX y inY (congrArg Prod.fst entry)

end Game

namespace Core

open Naming

theorem nouns_spoken : ∀ type ∈ types.names, ∀ noun ∈ nouns knowledge type,
    Text.IsSimple noun ∧ noun ∉ commandWords := by
  decide

theorem adjectives_spoken : ∀ adjective ∈ adjectives, Text.IsSimple adjective ∧ adjective ∉ commandWords := by
  decide

theorem number_spoken (number : Nat) : Text.IsSimple (toString number) ∧ toString number ∉ commandWords := by
  have digits : (toString number).toList = Nat.toDigits 10 number := Nat.toList_repr
  have each : ∀ c ∈ (toString number).toList, c.isDigit = true := by
    rw [digits]
    exact fun c => Nat.isDigit_of_mem_toDigits (by decide) (by decide)
  have some : (toString number).toList ≠ [] := digits ▸ Nat.toDigits_ne_nil
  refine ⟨⟨some, fun c member => ?_⟩, fun kept => ?_⟩
  · exact Text.isSimpleChar_iff.mpr (.inr (Char.isDigit_iff_toNat.mp (each c member)))
  · have letters : ∀ word ∈ commandWords, word.toList.all (fun c => !c.isDigit) = true := by decide
    obtain ⟨c, member⟩ := List.exists_mem_of_ne_nil _ some
    have letter := List.all_eq_true.mp (letters _ kept) c member
    simp [each c member] at letter

theorem text_numbered (noun : String) (number : Nat) :
    (numbered noun number).text = " ".intercalate ["plain", noun, toString number] := by
  simp [numbered, Title.text, String.append_assoc]

theorem spoken_of_titled {type : String} {given : Title} (known : type ∈ types.names)
    (titled : Titled (nouns knowledge type) given) : Text.Spoken commandWords given.text := by
  obtain ⟨noun, listed, ⟨adjective, among, rfl⟩ | ⟨number, rfl⟩⟩ := titled
  · have both : ∀ word ∈ [adjective, noun], Text.IsSimple word ∧ word ∉ commandWords := by
      simpa using ⟨adjectives_spoken adjective among, nouns_spoken type known noun listed⟩
    have text : (⟨adjective, noun⟩ : Title).text = " ".intercalate [adjective, noun] := by
      simp [Title.text, String.append_assoc]
    rw [text]
    exact Text.spoken_of_words (by simp) (fun word member => (both word member).1) fun word member => (both word member).2
  · have all : ∀ word ∈ ["plain", noun, toString number], Text.IsSimple word ∧ word ∉ commandWords := by
      simpa using ⟨adjectives_spoken "plain" (by decide), nouns_spoken type known noun listed, number_spoken number⟩
    rw [text_numbered]
    exact Text.spoken_of_words (by simp) (fun word member => (all word member).1) fun word member => (all word member).2

theorem braceless_of_coined {e : Entity} (known : e.type ∈ types.names) (coined : FreshNames.Coined e) :
    Template.Braceless e.name ∧ e.name ≠ "" := by
  obtain ⟨number, name⟩ := coined
  have types : ∀ type ∈ types.names, Template.Braceless (type ++ "_") := by decide
  have letters : e.name.toList = (e.type ++ "_").toList ++ (toString number).toList := by
    rw [name, FreshNames.numbered, String.toList_append]
  refine ⟨fun c member => ?_, fun none => ?_⟩
  · rw [letters, List.mem_append] at member
    exact member.elim (types e.type known c) ((number_spoken number).1.braceless c)
  · rw [none] at letters
    exact (number_spoken number).1.1 (List.append_eq_nil_iff.mp letters.symm).2

variable {options : GameOptions} {streams : Streams} {game : Game} {e : Entity}

/-- What the player can see is given a name. -/
theorem Visible.mem_named (visible : Visible game.world.state e) (lawful : Lawful game.world.state) : e ∈ game.named := by
  obtain ⟨here, player, inventory⟩ := visible
  have unlike {kind : String} (other : ¬ IsA e kind) : game.world.descends e kind = false := by
    rw [descends_eq lawful.core, ← Bool.not_eq_true]
    exact fun descends => other ⟨lawful.known here, descends⟩
  refine List.mem_filter.mpr ⟨here, ?_⟩
  rw [Bool.and_eq_true, Bool.not_eq_true', Bool.not_eq_true']
  exact ⟨unlike player, unlike inventory⟩

theorem Accepted.tidy {w : World} (accepted : Accepted w) (furnished : World.Furnished w.state) : Tidy w.state := by
  refine tidy_of_check accepted.built accepted.core accepted.named (fun e eaten => ?_) accepted.valid
  exact absurd rfl (furnished.uneaten _ eaten)

/-- The names of a generated game tell all that the player can see apart. -/
theorem distinguishes_of_makeGameFrom (core : options.kb = knowledge)
    (made : makeGameFrom options streams = .ok game) : Distinguishes game.nameOf game.world.state := by
  obtain ⟨-, furnished, accepted⟩ := makeGameFrom_world core made
  have lawful := (accepted.tidy furnished).lawful
  have known {e : Entity} (here : e ∈ game.world.state.entities) : e.type ∈ types.names :=
    Std.ExtTreeMap.mem_keys.mpr (Std.ExtTreeMap.contains_iff_mem.mp (lawful.known here))
  have old {e : Entity} (member : e ∈ game.named) : e ∈ game.world.state.entities := (List.mem_filter.mp member).1
  have kb : game.kb = knowledge := accepted.core
  obtain ⟨titled, apart⟩ : (∀ e ∈ game.named, ∃ given, game.nameOf e.name = given.text ∧
      Titled (nouns game.kb e.type) given) ∧
      ∀ x ∈ game.named, ∀ y ∈ game.named, game.nameOf x.name = game.nameOf y.name → x = y := by
    obtain ⟨-, -, -, forNames, -, v, chain, quests, -, -, -, metadata, rfl⟩ := makeGameFrom_eq_ok made
    exact Game.titled_dressed (fun x inX y inY => accepted.named x (old inX) y (old inY)) chain.actions forNames
  refine ⟨fun e visible => ?plain, fun e visible => ?spoken, fun e f here there => ?apart⟩
  case plain =>
    obtain ⟨here, player, inventory⟩ := visible
    rcases furnished.coined e here with rfl | rfl | coined
    · exact absurd ⟨by decide, by decide⟩ player
    · exact absurd ⟨by decide, by decide⟩ inventory
    · exact braceless_of_coined (known here) coined
  case spoken =>
    obtain ⟨given, called, kind⟩ := titled e (visible.mem_named lawful)
    rw [kb] at kind
    exact called ▸ spoken_of_titled (known visible.1) kind
  case apart => exact apart e (here.mem_named lawful) f (there.mem_named lawful)

end Core

end Adventure
