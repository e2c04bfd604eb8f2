import Tabular.Closure
import Tabular.Construct
import Tabular.Sink

namespace Tabular

structure Triple where
  arg : Nat
  sources : List Column
  function : Closure
  sink : Option Sink
  mode : Mode
  passMissing : Bool
  passthrough : Bool

namespace Triple

def sameSources : List Column → List Column → Bool
  | [], [] => true
  | c :: cs, d :: ds => c.same d && sameSources cs ds
  | _, _ => false

def sameSink : Option Sink → Option Sink → Bool
  | none, none => true
  | some s, some t => s.same t
  | _, _ => false

def same (t u : Triple) : Bool :=
  t.arg == u.arg && sameSources t.sources u.sources && t.function.same u.function && sameSink t.sink u.sink &&
    t.mode == u.mode && t.passMissing == u.passMissing && t.passthrough == u.passthrough

def callable (config : Config) (t : Triple) : Expr :=
  let f := t.function.toExpr
  let f := if t.passMissing then .apply config.passMissing [f] else f
  if t.mode = .rowWise then .apply config.byRow [f] else f

def sourcesForm : List Column → Expr
  | [c] => c.engineForm
  | cs => .vector (cs.map Column.engineForm)

def withSink (e : Expr) : Option Expr → Expr
  | some sink => .pair e sink
  | none => e

def toExpr (config : Config) (t : Triple) : Expr :=
  let sink := t.sink.map (·.engineForm config)
  match t.passthrough, t.sources with
  | true, c :: _ => withSink c.engineForm sink
  | _, sources => .pair (sourcesForm sources) (withSink (t.callable config) sink)

end Triple

end Tabular
