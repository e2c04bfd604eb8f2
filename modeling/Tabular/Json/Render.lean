import Tabular.Decimal.Layout
import Tabular.Json

namespace Tabular.Json

def hexDigits (width n : Nat) : List Char :=
  let ds := Nat.toDigits 16 n
  List.replicate (width - ds.length) '0' ++ ds

def escapedChar (c : Char) : List Char :=
  if c == '"' || c == '\\' then ['\\', c]
  else if c.toNat < 0x20 then '\\' :: 'u' :: hexDigits 4 c.toNat
  else [c]

def escaped (s : String) : String := String.ofList ('"' :: s.toList.flatMap escapedChar ++ ['"'])

def Number.render : Number → String
  | natural n => n.repr
  | negative n => "-" ++ n.repr
  | real x => if x.isFinite then Decimal.plain x else "null"

mutual

def render : Json → String
  | null | garbled => "null"
  | bool b => if b then "true" else "false"
  | number n => n.render
  | string s => escaped s
  | array items => "[" ++ ",".intercalate (renderItems items) ++ "]"
  | object members => "\x7b" ++ ",".intercalate (renderMembers members) ++ "\x7d"

def renderItems : List Json → List String
  | [] => []
  | j :: js => render j :: renderItems js

def renderMembers : List (String × Json) → List String
  | [] => []
  | (key, j) :: ms => (escaped key ++ ":" ++ render j) :: renderMembers ms

end

end Tabular.Json
