import Tabular.Decimal.Shortest

namespace Tabular.Decimal

def digitValue (c : Char) : Nat := c.toNat - '0'.toNat

def natural (digits : List Char) : Nat := digits.foldl (fun n c => 10 * n + digitValue c) 0

def nearest (m : Nat) (e : Int) : Float :=
  let top : Int := (Nat.toDigits 10 m).length + e
  if m = 0 || top < -330 then 0.0
  else if 310 < top then 1.0 / 0.0
  else Float.ofScientific m (e < 0) e.natAbs

def zeros (n : Nat) : List Char := List.replicate n '0'

def Scaled.positional (s : Scaled) : String :=
  let digits := Nat.toDigits 10 s.digits
  let places := (-s.exponent).toNat
  let whole := digits.length - places
  String.ofList <|
    if 0 ≤ s.exponent then digits ++ zeros s.exponent.toNat
    else if places < digits.length then digits.take whole ++ '.' :: digits.drop whole
    else '0' :: '.' :: zeros (places - digits.length) ++ digits

def Scaled.scientific (s : Scaled) : String :=
  let digits := Nat.toDigits 10 s.digits
  let power : Int := s.exponent + (digits.length - 1 : Nat)
  let tail := if digits.length = 1 then [] else '.' :: digits.drop 1
  String.ofList (digits.take 1 ++ tail ++ 'e' :: power.repr.toList)

def special (x : Float) : String :=
  if x.isNaN then "NaN" else if signField x then "-inf" else "inf"

def signed (negative : Bool) (s : String) : String := if negative then "-" ++ s else s

def Binary.isRound (b : Binary) : Bool := b.isIntegral && b.numerator < Nat.pow 10 16 * b.denominator

def plain (x : Float) : String :=
  match Binary.ofFloat? x with
  | none => special x
  | some b =>
    if b.mantissa = 0 then signed b.negative "0.0"
    else signed b.negative ((shortest b).positional ++ if b.isRound then ".0" else "")

/-- The diagnostic form: numbers from `10 ^ -4` to `10 ^ 16` have their digits in place, and all others a power of
ten. -/
def diagnostic (x : Float) : String :=
  match Binary.ofFloat? x with
  | none => special x
  | some b =>
    if b.mantissa = 0 then signed b.negative "0.0"
    else if b.denominator ≤ b.numerator * Nat.pow 10 4 ∧ b.numerator < Nat.pow 10 16 * b.denominator then
      signed b.negative ((shortest b).positional ++ if b.isIntegral then ".0" else "")
    else signed b.negative (shortest b).scientific

end Tabular.Decimal
