import Adventure.Chain.Backward
import Adventure.Chain.Forward

namespace Adventure

namespace Chain

/-- Look for a chain from a state. -/
def find (start : State) (options : ChainOptions) : Except Error Chain :=
  if options.backward then Backward.search start options else Forward.search start options

end Chain

namespace Goal

/-- Let each placeholder that is not bound stand for an entity made up for it. -/
def bindNew (taken : List String) : FreshNames → Binding → List Placeholder → Binding
  | _, binding, [] => binding
  | names, binding, placeholder :: rest =>
    if binding.contains placeholder then bindNew taken names binding rest
    else
      let (entity, names) := names.mint placeholder.type taken
      bindNew taken names (binding.insert placeholder entity) rest

/-- The facts of patterns whose placeholders stand for entities that the state does not have, unless they are
fixed. -/
def ofPatterns (s : State) (fixed : Binding) (patterns : List Pattern) : Except Error (List Fact) := do
  let binding := bindNew s.entityNames FreshNames.empty fixed (patterns.flatMap Pattern.parameters)
  let facts := patterns.filterMap (·.ground binding)
  facts.forM s.kb.checkFact
  return facts

end Goal

end Adventure
