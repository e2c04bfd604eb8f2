import Tabular.Argument
import Tabular.Construct

namespace Tabular

structure Call where
  construct : Construct
  table : Expr
  triples : List Triple
  kwargs : List (String × Expr)
  config : Config

namespace Call

/-- The positional arguments with their positions; the lines of a block at the top share the position
of the block. -/
def linesFrom (flatten : Bool) (arg : Nat) : List Expr → List (Nat × Expr)
  | [] => []
  | e :: es =>
    let here := match flatten, e with
      | true, .block lines => lines.map fun line => (arg, line)
      | _, e => [(arg, e)]
    here ++ linesFrom flatten (arg + 1) es

def lines (config : Config) (inv : Invocation) : List (Nat × Expr) := linesFrom config.flattenBlocks 1 inv.args

def explicitNames (triples : List Triple) : List String :=
  triples.filterMap fun t => match t.sink with
    | some (.column c) => (Sink.column c).staticName?
    | _ => none

def nameSinks (names : Names) : List Triple → List Triple
  | [] => []
  | t :: ts => match t.sink with
    | some (.generated base) =>
      let (name, names) := names.fresh base
      { t with sink := some (.generated name) } :: nameSinks names ts
    | _ => t :: nameSinks names ts

def expand (config : Config) (inv : Invocation) : Except ArgumentError Call := do
  let expansions ← (lines config inv).mapM fun (arg, e) => expandArgument inv.construct config arg e
  let triples ← expansions.mapM Expansion.toTriple
  return ⟨inv.construct, inv.table, nameSinks (Names.avoiding (explicitNames triples)) triples, inv.kwargs, config⟩

def operation (c : Call) : String := c.construct.operation

def callable (c : Call) (t : Triple) : Expr := t.callable c.config

def tripleExpr (c : Call) (t : Triple) : Expr := t.toExpr c.config

def toExpr (c : Call) : Expr :=
  .apply c.operation
    (c.table :: c.triples.map c.tripleExpr ++ c.kwargs.map fun (name, value) => .keyword name value)

def render (c : Call) : String :=
  let positional := commaSeparated (c.table.render :: c.triples.map fun t => (c.tripleExpr t).render)
  let keywords := match c.kwargs with
    | [] => ""
    | kwargs => "; " ++ commaSeparated (kwargs.map fun (name, value) => name ++ " = " ++ value.render)
  c.operation ++ "(" ++ positional ++ keywords ++ ")"

def sameTriples : List Triple → List Triple → Bool
  | [], [] => true
  | t :: ts, u :: us => t.same u && sameTriples ts us
  | _, _ => false

def same (c d : Call) : Bool :=
  c.construct == d.construct && c.table.same d.table && sameTriples c.triples d.triples &&
    Expr.sameFields c.kwargs d.kwargs && c.config == d.config

end Call

end Tabular
