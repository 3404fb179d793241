import Adventure.Error
import Adventure.Logic.TypeHierarchy
import Adventure.Random.Stream

namespace Adventure

/-- A computation that draws random words. -/
abbrev Random := StateM Rng

namespace Random

def word : Random UInt32 := Rng.word

/-- Two words, the low one first. -/
def word64 : Random UInt64 := do
  let low ← word
  let high ← word
  return low.toUInt64 ||| (high.toUInt64 <<< 32)

/-- Draw a number of times. -/
def times {α : Type} (draw : Random α) : (count : Nat) → Random (List α)
  | 0 => return []
  | count + 1 => do
    let first ← draw
    return first :: (← times draw count)

/-- A number of `bits` bits. -/
def wide (bits : Nat) : Random Nat := do
  if bits = 32 then return (← word).toNat else return (← word64).toNat

/-- A number below a bound, from the high half of a product. A low half close to the end is carried over from
one more draw. -/
def belowWide (bits bound : Nat) : Random Nat := do
  let size := Nat.pow 2 bits
  let product := (← wide bits) * bound
  let high := product / size
  let low := product % size
  if low > size - bound then
    let next := (← wide bits) * bound
    if low + next / size ≥ size then return high + 1 else return high
  else return high

/-- A number below a bound. -/
def below (bound : Nat) : Random Nat := belowWide (if bound < 0x100000000 then 32 else 64) bound

/-- An element of a list; an empty list takes no draw. -/
def choose {α : Type} (xs : List α) : Random (Option α) := do
  if xs.isEmpty then return none else return xs[← below xs.length]?

/-- The sums of the weights up to each item. -/
def partialSums (total : Float) : List Float → List Float
  | [] => []
  | weight :: rest => (total + weight) :: partialSums (total + weight) rest

/-- A number from zero up to one. -/
def fraction : Random Float := do
  return Float.ofBits (((← word64) >>> 12) ||| 0x3FF0000000000000) - 1.0

/-- An element drawn with a positive weight. Weights without a finite sum are refused. -/
def chooseWeighted {α : Type} (items : List (α × Float)) : Random (Except Error (Option α)) := do
  match (partialSums 0.0 (items.map Prod.snd)).reverse with
  | [] => return .ok none
  | total :: before =>
    if !total.isFinite then return .error .endlessWeights
    else
      let point := (← fraction) * total
      return .ok ((items[(before.filter (· <= point)).length]?).map Prod.fst)

/-- Where a shuffle stands: how many places are done, and a draw from which some more places are taken. -/
structure Deal where
  done : Nat
  chunk : Nat
  remaining : Nat

/-- The largest product of successive numbers from `product` on that is below 2 ^ 32, and the number after its
last factor. -/
def widen : (tries product next : Nat) → Nat × Nat
  | 0, product, next => (product, next)
  | tries + 1, product, next =>
    if product * next < 0x100000000 then widen tries (product * next) (next + 1) else (product, next)

/-- A place for the next item among those done and itself. -/
def deal (turn : Deal) : Random (Nat × Deal) := do
  let places := turn.done + 1
  let (chunk, remaining) ←
    if turn.remaining = 0 then do
      let (bound, next) := widen 32 places (places + 1)
      pure (← belowWide 32 bound, next - places)
    else pure (turn.chunk, turn.remaining)
  if remaining = 1 then return (chunk, ⟨places, chunk, 0⟩)
  else return (chunk % places, ⟨places, chunk / places, remaining - 1⟩)

/-- Exchange each item in turn with one at a random place up to its own. -/
def shuffleFrom {α : Type} : (count i : Nat) → Deal → Array α → Random (Array α)
  | 0, _, _, xs => return xs
  | count + 1, i, turn, xs => do
    let (j, next) ← deal turn
    shuffleFrom count (i + 1) next (xs.swapIfInBounds i j)

/-- The items of a list in a random order; fewer than two take no draw. -/
def shuffle {α : Type} (xs : List α) : Random (List α) := do
  if xs.length ≤ 1 then return xs
  else return (← shuffleFrom xs.length 0 ⟨0, 0, 1⟩ xs.toArray).toList

end Random

/-- How likely the types of things are drawn. -/
abbrev Weights := SortedMap String Float

/-- A descendant of a type, or the type itself if `inclusive`, that descends from none of the exceptions. With
weights, a type without a positive one is never drawn. -/
def TypeHierarchy.sample (types : TypeHierarchy) (parent : String) (exceptions : List String)
    (weights : Option Weights) (inclusive : Bool) : Random (Except Error (Option String)) :=
  let candidates := ((if inclusive then [parent] else []) ++ types.subtypes parent).filter fun type =>
    !exceptions.any (types.descends type)
  match weights with
  | none => do return .ok (← Random.choose candidates)
  | some weights =>
    Random.chooseWeighted ((candidates.map fun type => (type, weights.getD type 0.0)).filter (·.2 > 0.0))

end Adventure
