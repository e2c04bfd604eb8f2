import Tabular.Decimal.Layout
import Tabular.Json

/-!
Numbers of JSON texts. Fractions are read with 64 bits of their digits and one scaling by a power of ten, so the
last place of a long fraction may differ from the nearest float.
-/

namespace Tabular.Json.Number

structure Significand where
  digits : Nat
  power : Int

def Significand.whole (s : Significand) (full : Bool) : List Char → Significand
  | [] => s
  | c :: cs =>
    let next := 10 * s.digits + Decimal.digitValue c
    if full || Nat.pow 2 64 ≤ next then Significand.whole { s with power := s.power + 1 } true cs
    else Significand.whole { s with digits := next } false cs

def Significand.fraction (s : Significand) : List Char → Significand
  | [] => s
  | c :: cs =>
    let next := 10 * s.digits + Decimal.digitValue c
    if Nat.pow 2 64 ≤ next then s else Significand.fraction ⟨next, s.power - 1⟩ cs

def tenPower (n : Nat) : Float := Decimal.nearest 1 n

def Significand.toFloat (s : Significand) : Float :=
  let x := s.digits.toUInt64.toFloat
  if s.digits = 0 then 0.0
  else if 0 ≤ s.power then if s.power ≤ 308 then x * tenPower s.power.toNat else 1.0 / 0.0
  else if -308 ≤ s.power then x / tenPower (-s.power).toNat
  else if -616 ≤ s.power then x / tenPower 308 / tenPower (-s.power - 308).toNat
  else 0.0

def ofDigits (negative : Bool) (whole fraction : List Char) (power : Option Int) : Number :=
  let s := Significand.whole ⟨0, 0⟩ false whole
  let signed (x : Float) : Float := if negative then -x else x
  match fraction, power with
  | [], none =>
    if s.power ≠ 0 then real (signed s.toFloat)
    else if !negative then natural s.digits
    else if s.digits = 0 || Nat.pow 2 63 < s.digits then real (signed s.digits.toUInt64.toFloat)
    else .negative s.digits
  | _, _ =>
    let s := s.fraction fraction
    real (signed (Significand.toFloat { s with power := s.power + power.getD 0 }))

end Tabular.Json.Number
