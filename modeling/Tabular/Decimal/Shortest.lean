import Tabular.Decimal.Binary

/-! The fewest decimal digits that read back as a given float, and of those the nearest. -/

namespace Tabular.Decimal

structure Scaled where
  digits : Nat
  exponent : Int
  deriving Repr

def digitCount (n : Nat) : Nat := (Nat.toDigits 10 n).length

def leadingPower (num den : Nat) : Int :=
  if den ≤ num then (digitCount (num / den) : Int) - 1
  else -(digitCount ((den - 1) / num) : Int)

/-- The numbers that round to a float: `low / den` to `high / den`, ends included when `closed`, around
`middle / den`. -/
structure Neighbourhood where
  low : Nat
  middle : Nat
  high : Nat
  den : Nat
  closed : Bool

def Binary.neighbourhood (b : Binary) : Neighbourhood :=
  let below := if b.mantissa = Nat.pow 2 52 && -1074 < b.exponent then 1 else 2
  ⟨(4 * b.mantissa - below) * Nat.pow 2 b.exponent.toNat, 4 * b.mantissa * Nat.pow 2 b.exponent.toNat,
    (4 * b.mantissa + 2) * Nat.pow 2 b.exponent.toNat, 4 * b.denominator, b.mantissa % 2 == 0⟩

def Neighbourhood.contains (n : Neighbourhood) (digits : Nat) (power : Int) : Bool :=
  let value := digits * Nat.pow 10 power.toNat * n.den
  let low := n.low * Nat.pow 10 (-power).toNat
  let high := n.high * Nat.pow 10 (-power).toNat
  if n.closed then low ≤ value && value ≤ high else low < value && value < high

/-- The point of the grid of multiples of `10 ^ power` that is nearest to the middle among the middle's two
neighbours on the grid, if one of them lies in the neighbourhood; of two equally near ones the larger. -/
def Neighbourhood.gridPoint? (n : Neighbourhood) (power : Int) : Option Nat :=
  let num := n.middle * Nat.pow 10 (-power).toNat
  let den := n.den * Nat.pow 10 power.toNat
  let floor := num / den
  match n.contains floor power, n.contains (floor + 1) power with
  | true, true => some (if 2 * (num % den) < den then floor else floor + 1)
  | true, false => some floor
  | false, true => some (floor + 1)
  | false, false => none

def Scaled.carry (s : Scaled) : Scaled := if s.digits % 10 = 0 then ⟨s.digits / 10, s.exponent + 1⟩ else s

def shortest (b : Binary) : Scaled :=
  let n := b.neighbourhood
  let lead := leadingPower n.middle n.den
  let found := (List.range 17).findSome? fun (i : Nat) =>
    (n.gridPoint? (lead - i)).map fun digits => Scaled.carry ⟨digits, lead - i⟩
  found.getD ⟨0, 0⟩

end Tabular.Decimal
