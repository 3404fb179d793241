namespace Adventure.Decimal

/-- A positive number `mantissa * 2 ^ exponent` held in 53 bits. -/
structure Binary where
  mantissa : Nat
  exponent : Int

/-- The bit before the fraction, which a bit pattern does not hold. -/
def hiddenBit : Nat := 0x10000000000000

def signBit : Nat := 0x8000000000000000

/-- The number of a bit pattern of 64 bits, without its sign. Zero and what is not finite have none. -/
def Binary.ofBits? (bits : UInt64) : Option Binary :=
  let fraction := bits.toNat % hiddenBit
  let scale : Nat := bits.toNat / hiddenBit % 2048
  if scale = 2047 then none
  else if scale = 0 then if fraction = 0 then none else some ⟨fraction, -1074⟩
  else some ⟨hiddenBit + fraction, (scale : Int) - 1075⟩

/-- A positive fraction. -/
structure Ratio where
  num : Nat
  den : Nat

/-- `coefficient * base ^ exponent`. -/
def Ratio.scaled (coefficient base : Nat) (exponent : Int) : Ratio :=
  match exponent with
  | .ofNat e => ⟨coefficient * Nat.pow base e, 1⟩
  | .negSucc e => ⟨coefficient, Nat.pow base (e + 1)⟩

def Ratio.div (a b : Ratio) : Ratio := ⟨a.num * b.den, a.den * b.num⟩

def Ratio.le (a b : Ratio) : Bool := a.num * b.den ≤ b.num * a.den

def Ratio.lt (a b : Ratio) : Bool := a.num * b.den < b.num * a.den

def Ratio.floor (a : Ratio) : Nat := a.num / a.den

/-- The distance between two fractions. -/
def Ratio.distance (a b : Ratio) : Ratio :=
  let x := a.num * b.den
  let y := b.num * a.den
  ⟨(x - y) + (y - x), a.den * b.den⟩

/-- Digits with the place of the point: `digits * 10 ^ exponent`. -/
structure Digits where
  digits : Nat
  exponent : Int
deriving DecidableEq

/-- Which of two decimals is taken if both are equally near: the greater, or the one whose digits are even. -/
inductive Tie where
  | up
  | even
deriving DecidableEq

namespace Binary

def value (x : Binary) : Ratio := Ratio.scaled (4 * x.mantissa) 2 (x.exponent - 2)

/-- The lower end of the reals nearer to the number than to its neighbour. -/
def lower (x : Binary) : Ratio :=
  let narrow := x.mantissa = hiddenBit ∧ x.exponent > -1074
  Ratio.scaled (4 * x.mantissa - if narrow then 1 else 2) 2 (x.exponent - 2)

def upper (x : Binary) : Ratio := Ratio.scaled (4 * x.mantissa + 2) 2 (x.exponent - 2)

/-- A decimal that reads back as the number. The ends of the interval do if the mantissa is even. -/
def covers (x : Binary) (decimal : Ratio) : Bool :=
  if x.mantissa % 2 = 0 then x.lower.le decimal && decimal.le x.upper
  else x.lower.lt decimal && decimal.lt x.upper

/-- The `k` with `10 ^ (k - 1) ≤ x < 10 ^ k`, searched downward from `k`. -/
def pointFrom (x : Binary) : (tries : Nat) → (k : Int) → Int
  | 0, k => k
  | tries + 1, k => if (Ratio.scaled 1 10 (k - 1)).le x.value then k else x.pointFrom tries (k - 1)

/-- The place of the decimal point, counted from before the first digit. -/
def point (x : Binary) : Int := x.pointFrom 640 310

/-- The nearer of the two neighbours on the grid `10 ^ exponent` that read back as the number. Of two that are
equally near `tie` chooses. -/
def onGrid (x : Binary) (tie : Tie) (exponent : Int) : Option Digits :=
  let below := (x.value.div (Ratio.scaled 1 10 exponent)).floor
  let at' (digits : Nat) : Ratio := Ratio.scaled digits 10 exponent
  match x.covers (at' below), x.covers (at' (below + 1)) with
  | true, true =>
    let toBelow := x.value.distance (at' below)
    let toAbove := x.value.distance (at' (below + 1))
    if toBelow.lt toAbove || (!toAbove.lt toBelow && tie == .even && below % 2 == 0) then some ⟨below, exponent⟩
    else some ⟨below + 1, exponent⟩
  | true, false => some ⟨below, exponent⟩
  | false, true => some ⟨below + 1, exponent⟩
  | false, false => none

/-- The fewest digits that read back as the number, and of those the nearest. -/
def shortest (x : Binary) (tie : Tie) : Digits :=
  let point := x.point
  ((List.range 17).findSome? fun (n : Nat) => x.onGrid tie (point - (n + 1 : Nat))).getD ⟨0, 0⟩

end Binary

/-- Drop the zeros at the end of the digits. -/
def Digits.trim : (tries : Nat) → Digits → Digits
  | 0, d => d
  | tries + 1, d => if d.digits ≠ 0 ∧ d.digits % 10 = 0 then trim tries ⟨d.digits / 10, d.exponent + 1⟩ else d

/-- How a number is written: from which to which place of the point without an exponent, with which sign a positive
exponent, and which way a tie goes. -/
structure Style where
  first : Int
  last : Int
  plus : String
  tie : Tie

/-- A number is written with a point, or with one digit before it and an exponent. -/
def Style.layout (style : Style) (d : Digits) : String :=
  let digits := toString d.digits
  let point := d.exponent + digits.length
  if style.first ≤ point ∧ point ≤ style.last then
    if point ≤ 0 then "0." ++ String.ofList (List.replicate (-point).toNat '0') ++ digits
    else if point.toNat < digits.length then
      String.ofList (digits.toList.take point.toNat) ++ "." ++ String.ofList (digits.toList.drop point.toNat)
    else digits ++ String.ofList (List.replicate (point.toNat - digits.length) '0') ++ ".0"
  else
    let head := String.ofList (digits.toList.take 1)
    let tail := String.ofList (digits.toList.drop 1)
    let sign := if point > 1 then style.plus else ""
    head ++ (if tail.isEmpty then "" else "." ++ tail) ++ "e" ++ sign ++ toString (point - 1)

/-- The text of a bit pattern. -/
def Style.text (style : Style) (bits : UInt64) : String :=
  let negative := bits.toNat ≥ signBit
  let magnitude :=
    match Binary.ofBits? bits with
    | some x => style.layout (Digits.trim 20 (x.shortest style.tie))
    | none =>
      if bits.toNat % signBit = 0 then "0.0" else if bits.toNat % hiddenBit = 0 then "inf" else "NaN"
  if negative && magnitude != "NaN" then "-" ++ magnitude else magnitude

/-- The bit pattern nearest to `mantissa * 10 ^ exponent`. -/
def nearest (mantissa : Nat) (exponent : Int) : UInt64 :=
  let reach := (toString mantissa).length + exponent
  if mantissa = 0 ∨ reach < -400 then 0
  else if reach > 400 then (1.0 / 0.0 : Float).toBits
  else (Float.ofScientific mantissa (exponent < 0) exponent.natAbs).toBits

end Adventure.Decimal
