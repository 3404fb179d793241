import Adventure.Json.Basic
import Adventure.Record.Game
import Adventure.Record.TermNotation

namespace Adventure

open Readable Keepable

variable {ν : Type}

def ActionRecord.read? [Readable ν] (value : ν) : Option ActionRecord := do
  let fields ← fields? ["name", "preconditions", "postconditions", "command_template"] value
  let name ← required fields "name" text?
  let before ← defaulted fields "preconditions" [] (listOf? Fact.read?)
  let after ← defaulted fields "postconditions" [] (listOf? Fact.read?)
  return ⟨name, before, after, ← defaulted fields "command_template" none (optionOf? text?)⟩

def ActionRecord.write [Writable ν] (action : ActionRecord) : ν :=
  Writable.record [
    ("name", Writable.text action.name),
    ("preconditions", Writable.list (action.before.map Fact.write)),
    ("postconditions", Writable.list (action.after.map Fact.write)),
    ("command_template", optionalText action.template)]

def EventRecord.read? [Readable ν] (value : ν) : Option EventRecord := do
  let fields ← fields? ["actions", "conditions", "commands"] value
  let actions ← defaulted fields "actions" [] (listOf? ActionRecord.read?)
  let conditions ← defaulted fields "conditions" [] (listOf? Fact.read?)
  return ⟨actions, conditions, ← defaulted fields "commands" [] texts?⟩

def EventRecord.write [Writable ν] (event : EventRecord) : ν :=
  Writable.record [
    ("actions", Writable.list (event.actions.map ActionRecord.write)),
    ("conditions", Writable.list (event.conditions.map Fact.write)),
    ("commands", texts event.commands)]

def QuestRecord.read? [Readable ν] (value : ν) : Option QuestRecord := do
  let fields ← fields? ["win_events", "fail_events", "reward", "desc"] value
  let wins ← defaulted fields "win_events" [] (listOf? EventRecord.read?)
  let fails ← defaulted fields "fail_events" [] (listOf? EventRecord.read?)
  let reward ← defaulted fields "reward" 1 int32?
  return ⟨wins, fails, reward, ← defaulted fields "desc" none (optionOf? text?)⟩

def QuestRecord.write [Writable ν] (quest : QuestRecord) : ν :=
  Writable.record [
    ("win_events", Writable.list (quest.wins.map EventRecord.write)),
    ("fail_events", Writable.list (quest.fails.map EventRecord.write)),
    ("reward", Writable.int quest.reward.toInt),
    ("desc", optionalText quest.description)]

def EntityInfo.read? [Readable ν] (value : ν) : Option EntityInfo := do
  let fields ←
    fields? ["id", "type", "name", "adj", "noun", "synonyms", "definite", "indefinite", "desc"] value
  let id ← required fields "id" text?
  let type ← required fields "type" text?
  let name ← defaulted fields "name" none (optionOf? text?)
  let adjective ← defaulted fields "adj" none (optionOf? text?)
  let noun ← defaulted fields "noun" none (optionOf? text?)
  let synonyms ← defaulted fields "synonyms" [] texts?
  let definite ← defaulted fields "definite" none (optionOf? text?)
  let indefinite ← defaulted fields "indefinite" none (optionOf? text?)
  let description ← defaulted fields "desc" none (optionOf? text?)
  return ⟨id, type, name, adjective, noun, synonyms, definite, indefinite, description⟩

def EntityInfo.write [Writable ν] (info : EntityInfo) : ν :=
  Writable.record [
    ("id", Writable.text info.id),
    ("type", Writable.text info.type),
    ("name", optionalText info.name),
    ("adj", optionalText info.adjective),
    ("noun", optionalText info.noun),
    ("synonyms", texts info.synonyms),
    ("definite", optionalText info.definite),
    ("indefinite", optionalText info.indefinite),
    ("desc", optionalText info.description)]

/-- A table whose values are all of one kind; of two entries with one key the later counts. -/
def tableOf? {α : Type} [Readable ν] (read : ν → Option α) (value : ν) : Option (SortedMap String α) := do
  let entries ← (← entries? value).mapM fun (key, item) => (read item).map (key, ·)
  return SortedMap.of entries

/-- The fields that a record does not know, which stands in `level` records, itself among them. -/
def extrasOf? [Keepable ν] (level : Nat) (names : List String) (fields : List (String × ν)) :
    Option (SortedMap String Json) := do
  let unknown := fields.filter fun field => !names.contains field.1
  return SortedMap.of (← unknown.mapM fun (key, value) => (keep? level value).map (key, ·.canonical))

namespace Metadata

def fieldNames : List String := ["seeds", "walkthrough", "objective", "uuid"]

def read? [Keepable ν] (value : ν) : Option Metadata := do
  let given ← entries? value
  let fields ← known fieldNames given
  let seeds ← defaulted fields "seeds" ∅ (tableOf? word64?)
  let walkthrough ← defaulted fields "walkthrough" [] texts?
  let objective ← defaulted fields "objective" "" text?
  let uuid ← defaulted fields "uuid" "" text?
  return ⟨seeds, walkthrough, objective, uuid, ← extrasOf? 2 fieldNames given⟩

def write (metadata : Metadata) : Json :=
  .object ([
    ("seeds", .object (metadata.seeds.toList.map fun (concern, seed) => (concern, .int seed.toNat))),
    ("walkthrough", texts metadata.walkthrough),
    ("objective", .text metadata.objective),
    ("uuid", .text metadata.uuid)] ++ metadata.extras.toList)

end Metadata

namespace GameRecord

def fieldNames : List String := ["version", "kb_id", "world", "infos", "quests", "metadata"]

def read? [Keepable ν] (value : ν) : Option GameRecord := do
  let given ← entries? value
  let fields ← known fieldNames given
  let version ← defaulted fields "version" 1 word32?
  let kbId ← required fields "kb_id" text?
  let world ← defaulted fields "world" [] (listOf? Fact.read?)
  let infos ← defaulted fields "infos" ∅ (tableOf? EntityInfo.read?)
  let quests ← defaulted fields "quests" [] (listOf? QuestRecord.read?)
  let metadata ← defaulted fields "metadata" Metadata.empty Metadata.read?
  return ⟨version, kbId, world, infos, quests, metadata, ← extrasOf? 1 fieldNames given⟩

def write (record : GameRecord) : Json :=
  .object ([
    ("version", .int record.version.toNat),
    ("kb_id", .text record.kbId),
    ("world", .list (record.world.map Fact.write)),
    ("infos", .object (record.infos.toList.map fun (key, info) => (key, info.write))),
    ("quests", .list (record.quests.map QuestRecord.write)),
    ("metadata", record.metadata.write)] ++ record.extras.toList)

end GameRecord

end Adventure
