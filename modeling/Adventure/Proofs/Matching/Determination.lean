import Adventure.Proofs.Matching.Enumeration
import Mathlib.Data.List.ProdSigma

namespace Adventure

/-- The places of a predicate whose arguments determine that in another place. -/
structure Determinant where
  predicate : String
  given : List Nat
  target : Nat

/-- Where a pattern names what determines a placeholder, that is known too. -/
def Determinant.follow (known : List Placeholder) (pattern : Pattern) (determinant : Determinant) : List Placeholder :=
  if pattern.predicate = determinant.predicate ∧
      ∀ i ∈ determinant.given, ∀ p ∈ pattern.parameters[i]?, p ∈ known then
    pattern.parameters[determinant.target]?.toList ++ known
  else known

/-- The placeholders of a rule that are known once some are: its conditions are followed in turn. -/
def Rule.traced (rule : Rule) (determinants : List Determinant) (known : List Placeholder) : List Placeholder :=
  (rule.before.product determinants).foldl (fun known step => step.2.follow known step.1) known

/-- A state in which no two facts differ just in what is determined. -/
def State.Obeys (s : State) (determinant : Determinant) : Prop :=
  ∀ f ∈ s.facts, ∀ g ∈ s.facts, f.predicate = determinant.predicate → g.predicate = determinant.predicate →
    (∀ i ∈ determinant.given, f.arguments[i]? = g.arguments[i]?) →
    f.arguments[determinant.target]? = g.arguments[determinant.target]?

namespace Determinant

variable {s : State} {a b : Binding} {pattern : Pattern} {known : List Placeholder}
  {determinant : Determinant} {f g : Fact}

theorem getElem?_of_ground (ground : pattern.ground a = some f) (i : Nat) :
    f.arguments[i]? = pattern.parameters[i]?.bind (a[·]?) := by
  have values := congrArg (·[i]?) (Pattern.ground_eq_some_iff.mp ground).2
  simp only [List.getElem?_map] at values
  cases here : pattern.parameters[i]? <;> cases there : f.arguments[i]? <;> simp_all

/-- Bindings under which a pattern holds agree on what is determined if they agree on what determines it. -/
theorem agree_follow (obeys : s.Obeys determinant) (holdsF : f ∈ s.facts) (holdsG : g ∈ s.facts)
    (groundA : pattern.ground a = some f) (groundB : pattern.ground b = some g)
    (same : ∀ p ∈ known, a[p]? = b[p]?) : ∀ p ∈ follow known pattern determinant, a[p]? = b[p]? := by
  intro p member
  rw [follow] at member
  split at member
  next follows =>
    obtain ⟨named, given⟩ := follows
    rcases List.mem_append.mp member with target | old
    · have here := Option.mem_toList.mp target
      have equal := obeys f holdsF g holdsG ((Pattern.ground_eq_some_iff.mp groundA).1.symm.trans named)
        ((Pattern.ground_eq_some_iff.mp groundB).1.symm.trans named) fun i listed => by
          rw [getElem?_of_ground groundA, getElem?_of_ground groundB]
          exact Option.bind_congr fun q there => same q (given i listed q there)
      rw [getElem?_of_ground groundA, getElem?_of_ground groundB, here] at equal
      exact equal
    · exact same p old
  next => exact same p member

end Determinant

namespace State

variable {s : State} {rule : Rule} {a b : Binding} {known : List Placeholder} {determinants : List Determinant}
  {fixed : Binding} {p : Placeholder} {x y : Action}

/-- Two choices for the placeholders of a rule agree on all that is known from what they agree on. -/
theorem Admits.agree_traced (first : s.Admits fixed rule a) (second : s.Admits fixed rule b)
    (obeys : ∀ determinant ∈ determinants, s.Obeys determinant) (same : ∀ p ∈ known, a[p]? = b[p]?) :
    ∀ p ∈ rule.traced determinants known, a[p]? = b[p]? := by
  have steps : ∀ step ∈ rule.before.product determinants, step.1 ∈ rule.before ∧ step.2 ∈ determinants :=
    fun step member => List.mem_product.mp member
  rw [Rule.traced]
  generalize rule.before.product determinants = path at steps
  induction path generalizing known with
  | nil => exact same
  | cons step path ih =>
    obtain ⟨⟨condition, listed⟩, later⟩ := List.forall_mem_cons.mp steps
    obtain ⟨f, holdsF, groundA⟩ := first.holds step.1 condition
    obtain ⟨g, holdsG, groundB⟩ := second.holds step.1 condition
    exact ih (Determinant.agree_follow (obeys step.2 listed) holdsF holdsG groundA groundB same) later

/-- A rule has one action for what its other placeholders are known from. -/
theorem Admits.action_eq (first : s.Admits fixed rule a) (second : s.Admits fixed rule b)
    (obeys : ∀ determinant ∈ determinants, s.Obeys determinant) (same : ∀ p ∈ known, a[p]? = b[p]?)
    (all : ∀ p ∈ rule.placeholders, p ∈ rule.traced determinants known) (actionA : rule.instantiate a = .ok x)
    (actionB : rule.instantiate b = .ok y) : x = y := by
  have agree := first.agree_traced second obeys same
  have equal : a = b := by
    apply Std.ExtTreeMap.ext_getElem?
    intro p
    by_cases listed : p ∈ rule.placeholders
    · exact agree p (all p listed)
    · rw [Std.ExtTreeMap.getElem?_eq_none (mt (first.domain p).mp listed),
        Std.ExtTreeMap.getElem?_eq_none (mt (second.domain p).mp listed)]
  subst equal
  exact Except.ok.inj (actionA.symm.trans actionB)

end State

end Adventure
