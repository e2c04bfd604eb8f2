import Tabular.Bindings
import Tabular.Eval.Rows
import Tabular.Text.Character
import Tabular.Text.Split
import Tabular.Text.Uppercase

namespace Tabular

abbrev Function := List Value → EvalResult

namespace Builtins

def single (name : String) : List Value → EvalResult
  | [v] => .ok v
  | args => .error (.arity name 1 args.length)

def collection (name : String) (args : List Value) : Except EvalError (List Value) := do
  match ← single name args with
  | .list items => return items
  | v => .error (.ofType name v)

def total (items : List Value) : EvalResult := items.foldlM (Operation.add.arithmetic · ·) (.int 0)

def sum : Function := fun args => do total (← collection "sum" args)

def mean : Function := fun args => do
  match ← collection "mean" args with
  | [] => return .float (0.0 / 0.0)
  | items => Operation.div.arithmetic (← total items) (.int (Int64.ofNat items.length))

def length : Function := fun args => do
  match ← single "length" args with
  | .list items => return .int (Int64.ofNat items.length)
  | .record fields => return .int (Int64.ofNat fields.length)
  | .str s => return .int (Int64.ofNat s.length)
  | v => .error (.ofType "length" v)

def uppercase : Function := fun args => do
  match ← single "uppercase" args with
  | .str s => return .str (Text.uppercase s)
  | v => .error (.ofType "uppercase" v)

def joinedText (args : List Value) : String := String.join (args.map Value.text)

def string : Function := fun args => .ok (.str (joinedText args))

def symbol : Function := fun args => .ok (.symbol (joinedText args))

def split : Function
  | [.str s] => .ok (.list ((Text.words s).map .str))
  | [.str s, .str sep] => .ok (.list ((Text.splitOn sep s).map .str))
  | v :: _ => .error (.ofType "split" v)
  | [] => .error (.arity "split" 1 0)

def at? {α : Type} (items : List α) (i : Int64) : Option α :=
  if 1 ≤ i then items[i.toInt.toNat - 1]? else none

def itemOf (target index : Value) : EvalResult :=
  match target, index with
  | .record fields, .symbol name =>
    match fields.lookup name with
    | some v => .ok v
    | none => .error (.unbound name)
  | .list items, .int i =>
    match at? items i with
    | some v => .ok v
    | none => .error (.bounds i items.length)
  | .str s, .int i =>
    match at? s.toList i with
    | some c => .ok (.str c.toString)
    | none => .error (.bounds i s.length)
  | .list _, v | .str _, v => .error (.ofType "getindex" v)
  | v, _ => .error (.ofType "getindex" v)

def getindex : Function
  | [target, index] => itemOf target index
  | args => .error (.arity "getindex" 2 args.length)

def operators : List (String × Function) :=
  Operation.all.flatMap fun op => [(op.symbol, op.run), ("." ++ op.symbol, Rows.broadcast op.run)]

def functions : List (String × Function) :=
  operators ++
    [("sum", sum), ("mean", mean), ("length", length), ("uppercase", uppercase), ("string", string),
      ("Symbol", symbol), ("split", split), ("getindex", getindex)]

end Builtins

end Tabular
