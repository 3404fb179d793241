import Adventure.Record.GameNotation
import Adventure.Settings.Basic
import Adventure.Toml.Reader

namespace Adventure

open Readable

variable {ν : Type}

/-- The bounds that are given, and the usual ones for the others. -/
def ChainSettings.read? [Readable ν] (value : ν) : Option ChainSettings := do
  let fields ← fields? [
    "min_depth", "max_depth", "min_breadth", "max_breadth", "max_nodes", "create_variables", "restricted_types"] value
  return {
    minDepth := ← defaulted fields "min_depth" usual.minDepth size?
    maxDepth := ← defaulted fields "max_depth" usual.maxDepth size?
    minBreadth := ← defaulted fields "min_breadth" usual.minBreadth size?
    maxBreadth := ← defaulted fields "max_breadth" usual.maxBreadth size?
    maxNodes := ← defaulted fields "max_nodes" usual.maxNodes size?
    createEntities := ← defaulted fields "create_variables" usual.createEntities flag?
    restrictedTypes := ← defaulted fields "restricted_types" usual.restrictedTypes texts? }

def ChainSettings.write [Writable ν] (settings : ChainSettings) : ν :=
  Writable.record [
    ("min_depth", Writable.int settings.minDepth),
    ("max_depth", Writable.int settings.maxDepth),
    ("min_breadth", Writable.int settings.minBreadth),
    ("max_breadth", Writable.int settings.maxBreadth),
    ("max_nodes", Writable.int settings.maxNodes),
    ("create_variables", Writable.flag settings.createEntities),
    ("restricted_types", texts settings.restrictedTypes)]

def PolicyOptions.read? [Readable ν] (value : ν) : Option PolicyOptions := do
  let fields ← fields? ["max_depth", "max_nodes"] value
  let maxDepth ← defaulted fields "max_depth" usual.maxDepth size?
  return ⟨maxDepth, ← defaulted fields "max_nodes" usual.maxNodes size?⟩

def PolicyOptions.write [Writable ν] (options : PolicyOptions) : ν :=
  Writable.record [("max_depth", Writable.int options.maxDepth), ("max_nodes", Writable.int options.maxNodes)]

def GenerationSettings.read? [Readable ν] (value : ν) : Option GenerationSettings := do
  let fields ← fields? ["rooms", "objects", "quest_length", "quest_breadth", "type_probs"] value
  return {
    rooms := ← defaulted fields "rooms" usual.rooms size?
    objects := ← defaulted fields "objects" usual.objects size?
    questLength := ← defaulted fields "quest_length" usual.questLength size?
    questBreadth := ← defaulted fields "quest_breadth" usual.questBreadth size?
    weights := ← defaulted fields "type_probs" usual.weights (tableOf? number?) }

namespace Settings

def read? [Readable ν] (value : ν) : Option Settings := do
  let fields ← fields? ["chaining", "policy", "generation"] value
  let chaining ← defaulted fields "chaining" usual.chaining ChainSettings.read?
  let policy ← defaulted fields "policy" usual.policy PolicyOptions.read?
  return ⟨chaining, policy, ← defaulted fields "generation" usual.generation GenerationSettings.read?⟩

/-- The settings that a text holds, or the usual ones if it is missing or cannot be read. -/
def ofText (source : Option String) : Settings :=
  (do read? (← Toml.ofText? (← source))).getD usual

end Settings

end Adventure
