import Tabular.Construct
import Tabular.TableGroup

namespace Tabular

inductive Expansion where
  | triple (t : Triple)
  | group (g : TableGroup)

def Expansion.arg : Expansion → Nat
  | triple t => t.arg
  | group g => g.arg

def Expansion.toTriple : Expansion → Except ArgumentError Triple
  | triple t => .ok t
  | group g => g.toTriple

structure Argument where
  flags : Flags
  sink : Option Expr
  value : Expr

namespace Argument

def sides (e : Expr) : Except Fault (Option Expr × Expr) :=
  match e with
  | .assign sink value => .ok (some sink, value)
  | .keyword _ _ => .error (.malformed e.render "keyword arguments must follow `;`")
  | .pair _ _ => .error (.malformed e.render "already a `source => function => sink` pair")
  | e => .ok (none, e)

def ofExpr (e : Expr) : Except Fault Argument := do
  let (flags, inner) ← Flags.stripped {} e
  let (sink, value) ← sides inner
  let (flags, value) ← flags.stripped value
  match sink with
  | some (.flagged text inner) =>
    .error (.malformed (Expr.flagged text inner).render "flags cannot wrap an output column")
  | _ => return ⟨flags, sink, value⟩

def explicitSink (construct : Construct) (config : Config) : Option Expr → Except Fault (Option Sink)
  | none => .ok none
  | some e =>
    if construct.takesSinks then return some (← Sink.resolve config e)
    else .error (.malformed e.render ("@" ++ construct.operation ++ " does not take an output column"))

def isAsTable : Option Sink → Bool
  | some .asTable => true
  | _ => false

def isPassthrough (flags : Flags) (function : Closure) (sink : Option Sink) : Bool :=
  flags.isEmpty && function.isIdentity && !isAsTable sink

def toTriple (construct : Construct) (config : Config) (arg : Nat) (a : Argument) : Except Fault Triple := do
  let sink ← explicitSink construct config a.sink
  let value ← a.value.resolve
  let (sources, function) := value.abstracted
  let passthrough := isPassthrough a.flags function sink
  let sink := if sink.isNone && construct.takesSinks && !passthrough
    then some (.generated (generatedName config sources value)) else sink
  return ⟨arg, sources, function, sink, a.flags.modeOr construct.defaultMode, a.flags.passMissing, passthrough⟩

def expansion (construct : Construct) (config : Config) (arg : Nat) (e : Expr) : Except Fault Expansion := do
  let a ← ofExpr e
  if a.flags.table then
    if construct.takesSinks then
      return .group (← TableGroup.collect arg construct.defaultMode a.flags a.sink a.value)
    else .error (.malformed e.render
      ("@" ++ construct.operation ++ " does not produce columns, so `t` has nothing to collect"))
  else return .triple (← a.toTriple construct config arg)

end Argument

def expandArgument (construct : Construct) (config : Config) (arg : Nat) (e : Expr) :
    Except ArgumentError Expansion :=
  (Argument.expansion construct config arg e).mapError fun fault => ⟨arg, fault⟩

end Tabular
