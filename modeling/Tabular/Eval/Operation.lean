import Tabular.Error
import Tabular.Value

/-!
The operators on values. Integers wrap, and they become floats only under division and in powers with an exponent
below zero or of more than 32 bits. Booleans count as numbers, and a missing operand of arithmetic or of a
comparison makes the result missing.
-/

namespace Tabular

abbrev EvalResult := Except EvalError Value

def EvalError.ofType (op : String) (v : Value) : EvalError := .type op v.typeName

inductive Operation where
  | add
  | sub
  | mul
  | div
  | pow
  | rem
  | eq
  | ne
  | lt
  | gt
  | le
  | ge
  | and
  | or
  | not
  deriving DecidableEq, Repr

namespace Operation

def all : List Operation := [add, sub, mul, div, pow, rem, eq, ne, lt, gt, le, ge, and, or, not]

def symbol : Operation → String
  | add => "+"
  | sub => "-"
  | mul => "*"
  | div => "/"
  | pow => "^"
  | rem => "%"
  | eq => "=="
  | ne => "!="
  | lt => "<"
  | gt => ">"
  | le => "<="
  | ge => ">="
  | and => "&&"
  | or => "||"
  | not => "!"

def arity : Operation → Nat
  | not => 1
  | _ => 2

def wrongArity (op : Operation) (found : Nat) : EvalError := .arity op.symbol op.arity found

inductive Number where
  | int (n : Int64)
  | float (x : Float)

def Number.toFloat : Number → Float
  | int n => n.toFloat
  | float x => x

def boolInt (b : Bool) : Int64 := if b then 1 else 0

def number? : Value → Option Number
  | .int n => some (.int n)
  | .float x => some (.float x)
  | .bool b => some (.int (boolInt b))
  | _ => none

def number (op : Operation) (v : Value) : Except EvalError Number :=
  match number? v with
  | some n => .ok n
  | none => .error (.ofType op.symbol v)

def powInt (x : Int64) (n : Nat) : Int64 :=
  ((List.range 32).foldl (fun (acc : Int64 × Int64) i =>
    (if n.testBit i then acc.1 * acc.2 else acc.1, acc.2 * acc.2)) (1, x)).1

def intArithmetic (op : Operation) (x y : Int64) : EvalResult :=
  match op with
  | add => .ok (.int (x + y))
  | sub => .ok (.int (x - y))
  | mul => .ok (.int (x * y))
  | div => .ok (.float (x.toFloat / y.toFloat))
  | rem => if y = 0 then .error (.type op.symbol "a zero divisor") else .ok (.int (x % y))
  | _ =>
    if 0 ≤ y ∧ y < 4294967296 then .ok (.int (powInt x y.toInt.toNat))
    else .ok (.float (Float.pow x.toFloat y.toFloat))

def floatArithmetic (op : Operation) (x y : Float) : Float :=
  match op with
  | add => x + y
  | sub => x - y
  | mul => x * y
  | div => x / y
  | rem => Decimal.remainder x y
  | _ => Float.pow x y

def arithmetic (op : Operation) (a b : Value) : EvalResult :=
  if a.isMissing || b.isMissing then .ok .missing
  else match op, a, b with
    | mul, .str s, .str t => .ok (.str (s ++ t))
    | _, _, _ => do
      match ← number op a, ← number op b with
      | .int x, .int y => intArithmetic op x y
      | x, y => return .float (floatArithmetic op x.toFloat y.toFloat)

def orderFloats (x y : Float) : Option Ordering :=
  if x < y then some .lt else if x == y then some .eq else if y < x then some .gt else none

/-- The order of two values: strings and symbols by code points, integers by size and all other
numbers as floats. -/
def order? (a b : Value) : Option Ordering :=
  match a, b with
  | .str s, .str t => some (compare s t)
  | .symbol s, .symbol t => some (compare s t)
  | .int m, .int n => some (compare m.toInt n.toInt)
  | a, b => do
    let x ← number? a
    let y ← number? b
    orderFloats x.toFloat y.toFloat

def equal (a b : Value) : Bool :=
  match order? a b with
  | some o => o == .eq
  | none => a.same b

def ordered (op : Operation) (a b : Value) (holds : Ordering → Bool) : EvalResult :=
  match order? a b with
  | some o => .ok (.bool (holds o))
  | none => .error (.ofType op.symbol b)

def comparison (op : Operation) (a b : Value) : EvalResult :=
  if a.isMissing || b.isMissing then .ok .missing
  else match op with
    | eq => .ok (.bool (equal a b))
    | ne => .ok (.bool (!equal a b))
    | lt => ordered op a b (· == .lt)
    | gt => ordered op a b (· == .gt)
    | le => ordered op a b (· != .gt)
    | _ => ordered op a b (· != .lt)

def logical (op : Operation) (holds : Bool → Bool → Bool) : Value → Value → EvalResult
  | .bool a, .bool b => .ok (.bool (holds a b))
  | .bool _, b => .error (.ofType op.symbol b)
  | a, _ => .error (.ofType op.symbol a)

def negate : Value → EvalResult
  | .missing => .ok .missing
  | .int n => .ok (.int (-n))
  | .float x => .ok (.float (-x))
  | .bool b => .ok (.int (-boolInt b))
  | v => .error (.ofType sub.symbol v)

def plus : Value → EvalResult
  | .bool b => .ok (.int (boolInt b))
  | .int n => .ok (.int n)
  | .float x => .ok (.float x)
  | .missing => .ok .missing
  | v => .error (.ofType add.symbol v)

def complement : Value → EvalResult
  | .missing => .ok .missing
  | .bool b => .ok (.bool !b)
  | v => .error (.ofType not.symbol v)

def unary (op : Operation) (v : Value) : EvalResult :=
  match op with
  | sub => negate v
  | add => plus v
  | not => complement v
  | op => .error (op.wrongArity 1)

def binary (op : Operation) (a b : Value) : EvalResult :=
  match op with
  | eq | ne | lt | gt | le | ge => comparison op a b
  | and => logical and (· && ·) a b
  | or => logical or (· || ·) a b
  | not => .error (not.wrongArity 2)
  | op => arithmetic op a b

def run (op : Operation) : List Value → EvalResult
  | [v] => op.unary v
  | [a, b] => op.binary a b
  | args => .error (op.wrongArity args.length)

end Operation

end Tabular
