import Tabular.Value

namespace Tabular

mutual

inductive Column where
  | symbol (name : String)
  | string (name : String)
  | position (n : Nat)
  /-- Named by an expression that is evaluated where the call runs. -/
  | dynamic (target : Expr)

inductive Expr where
  | literal (v : Value)
  | ident (name : String)
  | quote (name : String)
  | interp (target : Expr)
  | column (ref : Column)
  | call (func : Expr) (args : List Expr)
  | keyword (name : String) (value : Expr)
  | index (target : Expr) (indices : List Expr)
  | field (target : Expr) (name : String)
  | assign (sink value : Expr)
  | flagged (flags : String) (inner : Expr)
  | block (lines : List Expr)
  | tuple (items : List Expr)
  | namedTuple (fields : List (String × Expr))
  | vector (items : List Expr)
  | lambda (params : List String) (body : Expr)
  | pair (left right : Expr)

end

instance : Inhabited Expr := ⟨.tuple []⟩
instance : Inhabited Column := ⟨.position 0⟩

namespace Column

def isDynamic : Column → Bool
  | dynamic _ => true
  | _ => false

def engineForm : Column → Expr
  | symbol name => .literal (.symbol name)
  | string name => .literal (.str name)
  | position n => .literal (.int (Int64.ofNat n))
  | dynamic target => target

end Column

namespace Expr

def apply (name : String) (args : List Expr) : Expr := call (ident name) args

def callName? : Expr → Option String
  | call (ident name) _ => some name
  | _ => none

def isMention : Expr → Bool
  | quote _ | interp _ | column _ => true
  | _ => false

mutual

/-- The identifiers of an expression in order, parameters of functions included. References to columns are not
entered: what they name is evaluated elsewhere. -/
def idents : Expr → List String
  | literal _ | quote _ | column _ => []
  | ident name => [name]
  | interp e | keyword _ e | field e _ | flagged _ e => idents e
  | call e es | index e es => idents e ++ identsOf es
  | assign e f | pair e f => idents e ++ idents f
  | block es | tuple es | vector es => identsOf es
  | namedTuple fields => identsOfFields fields
  | lambda params body => params ++ idents body

def identsOf : List Expr → List String
  | [] => []
  | e :: es => idents e ++ identsOf es

def identsOfFields : List (String × Expr) → List String
  | [] => []
  | (_, e) :: fields => idents e ++ identsOfFields fields

end

mutual

def mentions : Expr → List Column
  | literal _ | ident _ | quote _ => []
  | column c => [c]
  | interp e | keyword _ e | field e _ | flagged _ e | lambda _ e => mentions e
  | call e es | index e es => mentions e ++ mentionsOf es
  | assign e f | pair e f => mentions e ++ mentions f
  | block es | tuple es | vector es => mentionsOf es
  | namedTuple fields => mentionsOfFields fields

def mentionsOf : List Expr → List Column
  | [] => []
  | e :: es => mentions e ++ mentionsOf es

def mentionsOfFields : List (String × Expr) → List Column
  | [] => []
  | (_, e) :: fields => mentions e ++ mentionsOfFields fields

end

end Expr

mutual

def Column.same : Column → Column → Bool
  | .symbol a, .symbol b => a == b
  | .string a, .string b => a == b
  | .position m, .position n => m == n
  | .dynamic e, .dynamic f => e.same f
  | _, _ => false
termination_by structural e => e

def Expr.same : Expr → Expr → Bool
  | .literal v, .literal w => v.same w
  | .ident a, .ident b => a == b
  | .quote a, .quote b => a == b
  | .interp e, .interp f => e.same f
  | .column c, .column d => c.same d
  | .call e es, .call f fs => e.same f && Expr.sameItems es fs
  | .keyword a e, .keyword b f => a == b && e.same f
  | .index e es, .index f fs => e.same f && Expr.sameItems es fs
  | .field e a, .field f b => e.same f && a == b
  | .assign e g, .assign f h => e.same f && g.same h
  | .flagged a e, .flagged b f => a == b && e.same f
  | .block es, .block fs => Expr.sameItems es fs
  | .tuple es, .tuple fs => Expr.sameItems es fs
  | .namedTuple es, .namedTuple fs => Expr.sameFields es fs
  | .vector es, .vector fs => Expr.sameItems es fs
  | .lambda ps e, .lambda qs f => ps == qs && e.same f
  | .pair e g, .pair f h => e.same f && g.same h
  | _, _ => false
termination_by structural e => e

def Expr.sameItems : List Expr → List Expr → Bool
  | [], [] => true
  | e :: es, f :: fs => e.same f && Expr.sameItems es fs
  | _, _ => false
termination_by structural e => e

def Expr.sameFields : List (String × Expr) → List (String × Expr) → Bool
  | [], [] => true
  | (a, e) :: es, (b, f) :: fs => a == b && e.same f && Expr.sameFields es fs
  | _, _ => false
termination_by structural e => e

end

def Column.distinct : List Column → List Column
  | [] => []
  | c :: cs => c :: (Column.distinct cs).filter fun d => !c.same d

def Expr.columns (e : Expr) : List Column := Column.distinct e.mentions

end Tabular
