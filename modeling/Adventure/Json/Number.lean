import Adventure.Decimal.Shortest
import Adventure.Json.Basic

namespace Adventure.Json

/-- A number as it is written: the digits before the point, those after it, and the exponent. -/
structure Numeral where
  negative : Bool
  whole : List Nat
  fraction : Option (List Nat)
  exponent : Option Int

namespace Numeral

/-- Append digits to a number as long as 64 bits hold it. The digits left over come second. -/
def gather : (total : Nat) → List Nat → Nat × List Nat
  | total, [] => (total, [])
  | total, digit :: rest =>
    if total * 10 + digit < 0x10000000000000000 then gather (total * 10 + digit) rest else (total, digit :: rest)

def power (n : Nat) : Float := Float.ofScientific 1 false n

/-- A number scaled by a power of ten, one rounded step for each 308 places. What is too great is refused; after
three steps down nothing is left. -/
def scaled? : (steps : Nat) → Float → (exponent : Int) → Option Float
  | 0, _, _ => some 0
  | steps + 1, x, exponent =>
    if exponent.natAbs ≤ 308 then
      if exponent < 0 then some (x / power exponent.natAbs)
      else
        let y := x * power exponent.natAbs
        if y.isInf then none else some y
    else if x == 0 then some x
    else if exponent < 0 then scaled? steps (x / power 308) (exponent + 308)
    else none

def float? (negative : Bool) (digits : Nat) (exponent : Int) : Option Json := do
  let bits := (← scaled? 3 (Float.ofNat digits) exponent).toBits
  return .float (if negative then bits ||| 0x8000000000000000 else bits)

/-- The value of a numeral. It is an integer if it has neither fraction nor exponent and fits 64 bits. Digits beyond
64 bits count by their place only. -/
def value? (numeral : Numeral) : Option Json :=
  let (total, surplus) := gather 0 numeral.whole
  match numeral.fraction, numeral.exponent, surplus with
  | none, none, [] =>
    if numeral.negative then
      if total ≠ 0 ∧ total ≤ 0x8000000000000000 then some (.int (-total)) else float? true total 0
    else some (.int total)
  | _, _, _ =>
    let places := numeral.fraction.getD []
    let (digits, dropped) := gather total places
    float? numeral.negative digits
      (numeral.exponent.getD 0 + surplus.length - (places.length - dropped.length : Nat))

end Numeral

end Adventure.Json
