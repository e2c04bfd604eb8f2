import Tabular.Eval.Operation

/-! Functions applied row by row: lists are columns, and any other value is the same in every row. -/

namespace Tabular.Rows

def sameLength (n : Nat) : List Value → Except EvalError Unit
  | [] => .ok ()
  | .list items :: vs => if items.length = n then sameLength n vs else .error (.lengths n items.length)
  | _ :: vs => sameLength n vs

def commonLength : List Value → Except EvalError (Option Nat)
  | [] => .ok none
  | .list items :: vs => (sameLength items.length vs).map fun _ => some items.length
  | _ :: vs => commonLength vs

def entry (i : Nat) : Value → Value
  | .list items => items[i]?.getD .missing
  | v => v

def row (args : List Value) (i : Nat) : List Value := args.map (entry i)

def broadcast (f : List Value → EvalResult) (args : List Value) : EvalResult := do
  match ← commonLength args with
  | none => f args
  | some n => return .list (← (List.range n).mapM fun i => f (row args i))

end Tabular.Rows
