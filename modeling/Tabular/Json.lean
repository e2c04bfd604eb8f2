
namespace Tabular

inductive Json.Number where
  | natural (n : Nat)
  | negative (n : Nat)
  | real (x : Float)

inductive Json where
  | null
  | bool (b : Bool)
  | number (n : Json.Number)
  | string (s : String)
  /-- A string literal with half a surrogate pair, which denotes no text. -/
  | garbled
  | array (items : List Json)
  | object (members : List (String × Json))
  deriving Inhabited

namespace Json

mutual

def size : Json → Nat
  | array items => sizeOfItems items + 1
  | object members => sizeOfMembers members + 1
  | _ => 1

def sizeOfItems : List Json → Nat
  | [] => 0
  | j :: js => size j + sizeOfItems js

def sizeOfMembers : List (String × Json) → Nat
  | [] => 0
  | (_, j) :: ms => size j + sizeOfMembers ms

end

mutual

def merged : Json → Json
  | array items => array (mergedItems items)
  | object members => object (mergedMembers members)
  | j => j

def mergedItems : List Json → List Json
  | [] => []
  | j :: js => merged j :: mergedItems js

def mergedMembers : List (String × Json) → List (String × Json)
  | [] => []
  | (key, j) :: ms =>
    let rest := mergedMembers ms
    if rest.any (·.1 == key) then rest else (key, merged j) :: rest

end

def member? (key : String) : Json → Option Json
  | object members => members.lookup key
  | _ => none

def string? : Json → Option String
  | string s => some s
  | _ => none

def bool? : Json → Option Bool
  | bool b => some b
  | _ => none

def array? : Json → Option (List Json)
  | array items => some items
  | _ => none

def natural? : Json → Option Nat
  | number (.natural n) => some n
  | _ => none

def integer? : Json → Option Int64
  | number (.natural n) => if n < Nat.pow 2 63 then some (Int64.ofNat n) else none
  | number (.negative n) => some (Int64.ofInt (-n))
  | _ => none

def real? : Json → Option Float
  | number (.natural n) => some n.toUInt64.toFloat
  | number (.negative n) => some (-n.toUInt64.toFloat)
  | number (.real x) => if x.isFinite then some x else none
  | _ => none

def listOf? {α : Type} (read : Json → Option α) (j : Json) : Option (List α) := do
  (← j.array?).mapM read

def pairOf? {α : Type} (read : Json → Option α) : Json → Option (String × α)
  | array [name, value] => do return (← name.string?, ← read value)
  | _ => none

end Json

end Tabular
