
namespace Tabular.Decimal

structure Binary where
  negative : Bool
  mantissa : Nat
  exponent : Int
  deriving Repr

def exponentField (x : Float) : Nat := x.toBits.toNat / Nat.pow 2 52 % Nat.pow 2 11

def fractionField (x : Float) : Nat := x.toBits.toNat % Nat.pow 2 52

def signField (x : Float) : Bool := Nat.pow 2 63 ≤ x.toBits.toNat

def Binary.ofFloat? (x : Float) : Option Binary :=
  match exponentField x with
  | 2047 => none
  | 0 => some ⟨signField x, fractionField x, -1074⟩
  | e => some ⟨signField x, Nat.pow 2 52 + fractionField x, e - 1075⟩

/-- The float that equals the number; exact when the mantissa has at most 53 bits and the exponent is in range. -/
def Binary.toFloat (b : Binary) : Float :=
  let sign := if b.negative then Nat.pow 2 63 else 0
  let top := Nat.log2 b.mantissa
  let size : Nat :=
    if b.mantissa = 0 then 0
    else if b.exponent + top < -1022 then b.mantissa * Nat.pow 2 (b.exponent + 1074).toNat
    else (b.exponent + top + 1023).toNat * Nat.pow 2 52 + (b.mantissa * Nat.pow 2 (52 - top) - Nat.pow 2 52)
  Float.ofBits (sign + size).toUInt64

def Binary.isIntegral (b : Binary) : Bool := 0 ≤ b.exponent || b.mantissa % Nat.pow 2 (-b.exponent).toNat == 0

def Binary.numerator (b : Binary) : Nat := b.mantissa * Nat.pow 2 b.exponent.toNat

def Binary.denominator (b : Binary) : Nat := Nat.pow 2 (-b.exponent).toNat

def Binary.remainder (a b : Binary) : Binary :=
  let e := min a.exponent b.exponent
  ⟨a.negative, a.mantissa * Nat.pow 2 (a.exponent - e).toNat % (b.mantissa * Nat.pow 2 (b.exponent - e).toNat), e⟩

/-- The remainder of truncated division: `x` for an infinite divisor, and not a number for a zero divisor or an
infinite dividend. -/
def remainder (x y : Float) : Float :=
  match Binary.ofFloat? x, Binary.ofFloat? y with
  | some a, some b => if b.mantissa = 0 then 0.0 / 0.0 else (a.remainder b).toFloat
  | some _, none => if y.isNaN then y else x
  | none, _ => 0.0 / 0.0

def code (x : Float) : UInt64 :=
  if x.isNaN then 0x7ff8000000000000 else if x == 0.0 then 0 else x.toBits

end Tabular.Decimal
