namespace Tabular

structure Operator.Binding where
  level : Nat
  rightAssoc : Bool
  deriving DecidableEq, Repr

namespace Operator

def pairLevel : Nat := 5
def unaryLevel : Nat := 60
def atomLevel : Nat := 100

def undotted (op : String) : String :=
  match op.toList with
  | '.' :: c :: cs => String.ofList (c :: cs)
  | _ => op

def baseBinding? : String → Option Binding
  | "||" => some ⟨10, false⟩
  | "&&" => some ⟨20, false⟩
  | "==" | "!=" | "<" | ">" | "<=" | ">=" => some ⟨30, false⟩
  | "+" | "-" => some ⟨40, false⟩
  | "*" | "/" | "%" => some ⟨50, false⟩
  | "^" => some ⟨70, true⟩
  | _ => none

def binding? (op : String) : Option Binding := baseBinding? (undotted op)

def infixBinding? : String → Option Binding
  | "->" => some ⟨1, true⟩
  | "=>" => some ⟨pairLevel, true⟩
  | op => binding? op

def Binding.leftLevel (b : Binding) : Nat := if b.rightAssoc then b.level + 1 else b.level

def Binding.rightLevel (b : Binding) : Nat := if b.rightAssoc then b.level else b.level + 1

def isUnary (op : String) : Bool := op == "-" || op == "!" || op == "+"

def baseWord? : String → Option String
  | "+" => some "plus"
  | "-" => some "minus"
  | "*" => some "times"
  | "/" => some "divide"
  | "%" => some "rem"
  | "^" => some "power"
  | ">" => some "gt"
  | "<" => some "lt"
  | ">=" => some "ge"
  | "<=" => some "le"
  | "==" => some "eq"
  | "!=" => some "ne"
  | "&&" => some "and"
  | "||" => some "or"
  | "!" => some "not"
  | _ => none

end Operator

end Tabular
