import Tabular.Call
import Tabular.Eval.Interpreter

/-!
Calls bound to a scope: every reference named by an expression is replaced by the column that the expression names.
What results is the call that the static spelling of these columns would have given.
-/

namespace Tabular

namespace Column

def ofValue (source : Column) : Value → Except Fault Column
  | .symbol name => .ok (.symbol name)
  | .str name => .ok (.string name)
  | .int n =>
    if 1 ≤ n then .ok (.position n.toInt.toNat)
    else .error (.notColumn source.render "Int (column positions start at 1)")
  | v => .error (.notColumn source.render v.typeName)

def bind (I : Interpreter) (scope : Scope) (arg : Nat) : Column → Except Error Column
  | dynamic target =>
    match I.eval scope target with
    | .error e => .error (.eval e)
    | .ok v => (ofValue (dynamic target) v).mapError fun fault => .argument ⟨arg, fault⟩
  | c => .ok c

end Column

def Sink.bind (I : Interpreter) (scope : Scope) (arg : Nat) : Sink → Except Error Sink
  | .column c => do
    match ← c.bind I scope arg with
    | .position _ => .error (.argument ⟨arg, .notColumn c.render "Int (a position cannot name a new column)"⟩)
    | d => return .column d
  | s => .ok s

namespace Triple

def isDynamicSink : Option Sink → Bool
  | some (.column c) => c.isDynamic
  | _ => false

def isDynamic (t : Triple) : Bool := t.sources.any Column.isDynamic || isDynamicSink t.sink

/-- A transformation with its references bound; sources that turn out to be the same column become one. -/
def bind (I : Interpreter) (scope : Scope) (t : Triple) : Except Error Triple :=
  if t.isDynamic then do
    let columns ← t.sources.mapM (Column.bind I scope t.arg)
    let (sources, function) := (t.function.instantiate columns).abstracted
    let sink ← match t.sink with
      | some s => (s.bind I scope t.arg).map some
      | none => .ok none
    return { t with sources, function, sink }
  else .ok t

end Triple

def Call.bind (I : Interpreter) (scope : Scope) (c : Call) : Except Error Call :=
  return { c with triples := ← c.triples.mapM (Triple.bind I scope) }

def Invocation.bind (I : Interpreter) (scope : Scope) (config : Config) (inv : Invocation) : Except Error Call :=
  match Call.expand config inv with
  | .error e => .error (.argument e)
  | .ok c => c.bind I scope

end Tabular
