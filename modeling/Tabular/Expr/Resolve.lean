import Tabular.Error
import Tabular.Expr.Render

namespace Tabular

def Column.interpolated (target : Expr) : Except Fault Column :=
  match target with
  | .literal (.str s) => .ok (.string s)
  | .literal (.symbol s) | .quote s => .ok (.symbol s)
  | .literal (.int n) =>
    if 1 ≤ n then .ok (.position n.toInt.toNat)
    else .error (.notColumn (Expr.interp target).render "Int (column positions start at 1)")
  | .literal v => .error (.notColumn (Expr.interp target).render v.typeName)
  | .column c => .ok c
  | e => .ok (.dynamic e)

namespace Expr

mutual

/-- An expression with every mention of a column resolved. Flags and assignments to columns have no place in it,
and what a mention interpolates is not entered. -/
def resolve : Expr → Except Fault Expr
  | literal v => .ok (literal v)
  | ident name => .ok (ident name)
  | quote name => .ok (column (.symbol name))
  | interp target => return column (← Column.interpolated target)
  | column c => .ok (column c)
  | call func args => return call (← resolve func) (← resolveItems args)
  | keyword name value => return keyword name (← resolve value)
  | index target indices => return index (← resolve target) (← resolveItems indices)
  | field target name => return field (← resolve target) name
  | assign sink value =>
    if sink.isMention then
      .error (.malformed (assign sink value).render "column assignments cannot be nested inside an expression")
    else return assign (← resolve sink) (← resolve value)
  | flagged flags inner =>
    .error (.malformed (flagged flags inner).render "flags may only wrap a whole argument or its value")
  | block lines => return block (← resolveItems lines)
  | tuple items => return tuple (← resolveItems items)
  | namedTuple fields => return namedTuple (← resolveFields fields)
  | vector items => return vector (← resolveItems items)
  | lambda params body => return lambda params (← resolve body)
  | pair left right => return pair (← resolve left) (← resolve right)

def resolveItems : List Expr → Except Fault (List Expr)
  | [] => .ok []
  | e :: es => return (← resolve e) :: (← resolveItems es)

def resolveFields : List (String × Expr) → Except Fault (List (String × Expr))
  | [] => .ok []
  | (name, e) :: fields => return (name, ← resolve e) :: (← resolveFields fields)

end

end Expr

end Tabular
