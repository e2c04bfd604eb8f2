import Tabular.Decimal.Layout
import Tabular.Text.Quoted

namespace Tabular

inductive Value where
  | int (n : Int64)
  | float (x : Float)
  | str (s : String)
  | bool (b : Bool)
  | symbol (name : String)
  | missing
  | list (items : List Value)
  /-- Named fields in order; a name may occur more than once, and then its first field counts. -/
  | record (fields : List (String × Value))
  deriving Inhabited

namespace Value

def isMissing : Value → Bool
  | missing => true
  | _ => false

def typeName : Value → String
  | int _ => "Int"
  | float _ => "Float"
  | str _ => "String"
  | bool _ => "Bool"
  | symbol _ => "Symbol"
  | missing => "Missing"
  | list _ => "Vector"
  | record _ => "NamedTuple"

mutual

def same : Value → Value → Bool
  | int m, int n => m == n
  | float x, float y => Decimal.code x == Decimal.code y
  | str s, str t => s == t
  | bool a, bool b => a == b
  | symbol s, symbol t => s == t
  | missing, missing => true
  | list xs, list ys => sameItems xs ys
  | record xs, record ys => sameFields xs ys
  | _, _ => false
termination_by structural v => v

def sameItems : List Value → List Value → Bool
  | [], [] => true
  | x :: xs, y :: ys => same x y && sameItems xs ys
  | _, _ => false
termination_by structural v => v

def sameFields : List (String × Value) → List (String × Value) → Bool
  | [], [] => true
  | (m, x) :: xs, (n, y) :: ys => m == n && same x y && sameFields xs ys
  | _, _ => false
termination_by structural v => v

end

mutual

def render : Value → String
  | int n => n.toInt.repr
  | float x => Decimal.plain x
  | str s => Text.quoted s
  | bool b => if b then "true" else "false"
  | symbol name => ":" ++ name
  | missing => "missing"
  | list items => "[" ++ ", ".intercalate (renderItems items) ++ "]"
  | record fields => "(" ++ ", ".intercalate (renderFields fields) ++ ")"

def renderItems : List Value → List String
  | [] => []
  | v :: vs => render v :: renderItems vs

def renderFields : List (String × Value) → List String
  | [] => []
  | (name, v) :: fields => (name ++ " = " ++ render v) :: renderFields fields

end

def text : Value → String
  | str s => s
  | symbol name => name
  | v => render v

end Value

end Tabular
