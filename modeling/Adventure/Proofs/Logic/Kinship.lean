import Adventure.Proofs.Logic.Climbing
import Adventure.Proofs.Logic.Descent
import Adventure.Proofs.Logic.Linking

namespace Adventure

namespace Children

variable {children : Children} {type name : String}

theorem mem_all (listed : name ∈ (children.of type).toList) : name ∈ children.all := by
  rw [of, Std.ExtTreeMap.getD_eq_getD_getElem?] at listed
  cases found : children[type]? with
  | none =>
    rw [found, Option.getD_none, Std.ExtTreeSet.mem_toList] at listed
    exact absurd listed Std.ExtTreeSet.not_mem_empty
  | some names =>
    rw [found, Option.getD_some] at listed
    exact List.mem_flatMap.mpr ⟨(type, names), Std.ExtTreeMap.mem_toList_iff_getElem?_eq_some.mpr found, listed⟩

end Children

namespace TypeHierarchy

variable {types linked : TypeHierarchy} {x y : String}

/-- The hierarchies of declarations, and those that types are added to, with parents that are declared or not. -/
inductive Built : TypeHierarchy → Prop
  | declared {declarations : List (String × List String)} {types : TypeHierarchy} :
      ofDeclarations declarations = .ok types → Built types
  | added {types : TypeHierarchy} (type : String) (parents : List String) :
      Built types → Built (types.add type parents).1

/-- A type has the other one as a parent. -/
def Under (types : TypeHierarchy) (type parent : String) : Prop := parent ∈ types.parentsOf type

/-- Parents are declared, and the children of a type are the types that it is a parent of. -/
structure Paired (types : TypeHierarchy) : Prop where
  closed : ∀ x y, types.Under x y → types.contains y = true
  mirrored : ∀ x y, x ∈ types.childrenOf y ↔ types.Under x y

namespace Paired

theorem empty : TypeHierarchy.empty.Paired where
  closed _ _ none := absurd none List.not_mem_nil
  mirrored _ _ := iff_of_false List.not_mem_nil List.not_mem_nil

theorem declare (paired : types.Paired) (name : String) : (types.declare name).Paired where
  closed x y under := by
    rw [Under, parentsOf_declare] at under
    exact contains_declare.mpr (.inr (paired.closed x y under))
  mirrored x y := by
    rw [Under, childrenOf_declare, parentsOf_declare]
    exact paired.mirrored x y

theorem link {child parent : String} (paired : types.Paired) (step : Linked types child parent linked) :
    linked.Paired where
  closed x y under := by
    rcases (step.above x y).mp under with old | ⟨-, rfl⟩
    · exact step.kept y (paired.closed x y old)
    · exact step.kept y step.known
  mirrored x y := by
    rw [Under, step.above, step.below, paired.mirrored, Under]

end Paired

/-- However a hierarchy was built, its two maps say the same. -/
theorem Built.paired (built : types.Built) : types.Paired := by
  have link (types linked : TypeHierarchy) (child parent : String) (step : Linked types child parent linked)
      (paired : types.Paired) : linked.Paired := paired.link step
  induction built with
  | declared made =>
    exact linkDeclarations_keeps link (declareAll_keeps (fun types name paired => paired.declare name) .empty) made
  | added type parents _ ih => exact linkAll_keeps (fun types linked => link types linked type) (ih.declare type)

theorem searches_descends (types : TypeHierarchy) (different : x ≠ y) :
    Searches types.parentsOf .queue y (types.parentsOf x) ∅ (types.descends x y) := by
  rw [descends, beq_false_of_ne different, Bool.false_or]
  exact types.parents.searches_leadsTo .queue (types.parentsOf x) y

theorem lists_ancestors (types : TypeHierarchy) (type : String) :
    Lists types.parentsOf (types.parentsOf type) [] (types.ancestors type) := by
  have listed : ∀ name, types.parentsOf name ≠ [] → name ∈ types.parents.keys := fun _ => Parents.mem_keys_of_of
  refine lists_climb listed (Nat.le_of_eq ?_)
  exact congrArg _ (types.parents.unvisited_eq_count fun _ => rfl)

/-- What the walk down from a type collects. -/
theorem collects_subtypes (types : TypeHierarchy) (type : String) :
    ∃ below, Collects types.childrenOf [type] ∅ below ∧ types.subtypes type = below.toList := by
  have listed : ∀ name, ∀ child ∈ types.childrenOf name, child ∈ types.children.all := fun _ _ => Children.mem_all
  refine ⟨_, collects_collect listed ?_, rfl⟩
  rw [List.length_singleton, Nat.add_comm]
  exact Nat.add_le_add_right (unvisited_le_length ..) 1

theorem mem_ancestors_iff : y ∈ types.ancestors x ↔ Relation.TransGen types.Under x y :=
  (types.lists_ancestors x).exact.2.1 y

theorem contains_of_under (under : types.Under x y) : types.contains x = true :=
  Std.ExtTreeMap.contains_iff_mem.mpr
    (Std.ExtTreeMap.mem_keys.mp (Parents.mem_keys_of_of (List.ne_nil_of_mem under)))

/-- Down the children lead the ways that lead up the parents. -/
theorem mem_subtypes_iff (paired : types.Paired) : x ∈ types.subtypes y ↔ Relation.TransGen types.Under x y := by
  obtain ⟨below, collects, same⟩ := types.collects_subtypes y
  have down : (fun a b => b ∈ types.childrenOf a) = Function.swap types.Under := by
    ext a b
    exact paired.mirrored b a
  rw [same, Std.ExtTreeSet.mem_toList, collects.iff, down, Relation.transGen_swap]

theorem sorted_subtypes (types : TypeHierarchy) (type : String) : (types.subtypes type).Pairwise (· < ·) := by
  have ordered : (types.subtypes type).Pairwise fun a b => compare a b = .lt := Std.ExtTreeSet.ordered_toList
  exact ordered.imp compareOfLessAndEq_eq_lt.mp

/-- What is above and below a type is what its parents say, also where types are above themselves or an undeclared
parent was refused. The children of a type are the types that it is a parent of. Each of the three walks ends, with one
result. A type descends from itself and from the types that one step to a parent or more lead to. These are its
ancestors, each listed once and the nearest first. The subtypes of a type, in order, are the types that so many steps
lead from. -/
theorem kinship_exact (built : types.Built) :
    (∀ x y, x ∈ types.childrenOf y ↔ types.Under x y) ∧
    (∀ x y, types.Under x y → types.contains x = true ∧ types.contains y = true) ∧
    (∀ x y, (types.descends x y = true ↔ x = y ∨ Relation.TransGen types.Under x y) ∧
      (x ≠ y → ∀ found, Searches types.parentsOf .queue y (types.parentsOf x) ∅ found ↔ types.descends x y = found)) ∧
    (∀ x, (∀ found, Lists types.parentsOf (types.parentsOf x) [] found ↔ types.ancestors x = found) ∧
      (types.ancestors x).Nodup ∧ (∀ y, y ∈ types.ancestors x ↔ Relation.TransGen types.Under x y) ∧
      (∀ y ∈ types.ancestors x, ∃ steps, Distance types.parentsOf x y steps) ∧
      (types.ancestors x).Pairwise (NoFarther types.parentsOf x)) ∧
    (∀ y, (∃ below, (∀ found, Collects types.childrenOf [y] ∅ found ↔ below = found) ∧
        types.subtypes y = below.toList) ∧
      (types.subtypes y).Pairwise (· < ·) ∧ ∀ x, x ∈ types.subtypes y ↔ Relation.TransGen types.Under x y) ∧
    ∀ x y, x ∈ types.subtypes y ↔ y ∈ types.ancestors x := by
  have paired := built.paired
  refine ⟨paired.mirrored, fun x y under => ⟨contains_of_under under, paired.closed x y under⟩, fun x y => ⟨?_, ?_⟩,
    fun x => ?_, fun y => ⟨?_, types.sorted_subtypes y, fun x => mem_subtypes_iff paired⟩, fun x y => ?_⟩
  · rw [descends_iff, Relation.reflTransGen_iff_eq_or_transGen, eq_comm]
    rfl
  · intro different found
    have searches := types.searches_descends different
    exact ⟨searches.unique, fun same => same ▸ searches⟩
  · have lists := types.lists_ancestors x
    obtain ⟨once, above, nearest⟩ := lists.exact
    exact ⟨fun found => ⟨lists.unique, fun same => same ▸ lists⟩, once, above,
      fun y listed => exists_distance ((above y).mp listed), nearest⟩
  · obtain ⟨below, collects, same⟩ := types.collects_subtypes y
    exact ⟨below, fun found => ⟨collects.unique, fun same => same ▸ collects⟩, same⟩
  · rw [mem_subtypes_iff paired, mem_ancestors_iff]

/-- Things and fruit are the parents of one another. -/
def ring : TypeHierarchy := ((empty.add "thing" []).1.add "fruit" ["thing"]).1.add "thing" ["fruit"] |>.1

/-- Apples are fruit; the second of their parents is refused, and with it the third. -/
def orchard : TypeHierarchy := (ring.add "apple" ["fruit", "ghost", "thing"]).1

theorem kinship_exact_orchard : orchard.Built ∧ (ring.add "apple" ["fruit", "ghost", "thing"]).2 = some "ghost" ∧
    orchard.childrenOf "fruit" = ["apple", "thing"] ∧
    orchard.ancestors "apple" = ["fruit", "thing"] ∧ orchard.ancestors "thing" = ["fruit", "thing"] ∧
    orchard.subtypes "thing" = ["apple", "fruit", "thing"] ∧
    ∀ x y, x ∈ orchard.subtypes y ↔ Relation.TransGen orchard.Under x y := by
  have none : ofDeclarations [] = .ok empty := rfl
  have built : orchard.Built := .added _ _ (.added _ _ (.added _ _ (.added _ _ (.declared none))))
  obtain ⟨-, -, -, -, below, -⟩ := kinship_exact built
  exact ⟨built, rfl, by decide, by decide, by decide, by decide, fun x y => (below y).2.2 x⟩

end TypeHierarchy

end Adventure
