import Tabular.Flags
import Tabular.Triple

namespace Tabular

structure TableField where
  name : String
  mode : Mode
  passMissing : Bool
  deriving DecidableEq, Repr, Inhabited

structure TableGroup where
  arg : Nat
  fields : List TableField
  body : Expr

namespace TableGroup

inductive Line where
  | field (flags : Flags) (sink value : Expr)
  | statement (e : Expr)

def fieldLine (group : Flags) (item : Expr) (flags : Flags) (sink value : Expr) : Except Fault Line := do
  let (flags, value) ← flags.stripped value
  if flags.table then .error (.malformed item.render "table collections cannot be nested")
  else return .field (← group.joined flags.spelled) sink value

def statementLine (item : Expr) (flags : Flags) (e : Expr) : Except Fault Line :=
  if flags.isEmpty then .ok (.statement e)
  else .error (.malformed item.render "flags in a table collection apply to `:field = expression` lines only")

def blockLine (group : Flags) (item : Expr) : Except Fault Line := do
  let (flags, inner) ← Flags.stripped {} item
  match inner with
  | .assign sink value =>
    if sink.isMention then fieldLine group item flags sink value else statementLine item flags inner
  | _ => statementLine item flags inner

def tupleLine (group : Flags) (item : Expr) : Except Fault Line := do
  let (flags, inner) ← Flags.stripped {} item
  match inner with
  | .assign sink value => fieldLine group item flags sink value
  | e => .error (.tableSink e.render "every entry of a table tuple must be `:field = expression`")

def lines (group : Flags) (sink : Option Expr) (value : Expr) : Except Fault (List Line) :=
  match sink, value with
  | some sink, value => .ok [.field group sink value]
  | none, .block items => items.mapM (blockLine group)
  | none, .tuple items => items.mapM (tupleLine group)
  | none, e => return [← tupleLine group e]

inductive Entry where
  | field (f : TableField) (value : Expr)
  | statement (e : Expr)

def Entry.field? : Entry → Option TableField
  | field f _ => some f
  | statement _ => none

def entries (default : Mode) (seen : List String) : List Line → Except Fault (List Entry)
  | [] => .ok []
  | .statement e :: rest => return .statement e :: (← entries default seen rest)
  | .field flags sink value :: rest =>
    match sink with
    | .quote name =>
      if seen.contains name then .error (.tableSink sink.render "duplicate field name")
      else
        let f : TableField := ⟨name, flags.modeOr default, flags.passMissing⟩
        return .field f value :: (← entries default (name :: seen) rest)
    | e => .error (.tableSink e.render "table fields must be plain `:symbol` names")

def inlineFields : List Entry → Except Fault (List (String × Expr))
  | [] => .ok []
  | .field f value :: rest => return (f.name, ← value.resolve) :: (← inlineFields rest)
  | .statement _ :: rest => inlineFields rest

/-- With statements every field has a local variable; the statements, and the variables of the fields. -/
def statements (locals : Names) : List Entry → Except Fault (List Expr × List (String × Expr))
  | [] => .ok ([], [])
  | .statement e :: rest => do
    let e ← e.resolve
    let (lines, fields) ← statements locals rest
    return (e :: lines, fields)
  | .field f value :: rest => do
    let value ← value.resolve
    let (name, locals) := locals.fresh f.name
    let (lines, fields) ← statements locals rest
    return (.assign (.ident name) value :: lines, (f.name, .ident name) :: fields)

def Entry.isField : Entry → Bool
  | field _ _ => true
  | statement _ => false

def bodyOf (locals : Names) (es : List Entry) : Except Fault Expr :=
  if es.all Entry.isField then return .namedTuple (← inlineFields es)
  else do
    let (lines, fields) ← statements locals es
    return .block (lines ++ [.namedTuple fields])

def collect (arg : Nat) (default : Mode) (flags : Flags) (sink : Option Expr) (value : Expr) :
    Except Fault TableGroup := do
  let ls ← lines flags sink value
  let es ← entries default [] ls
  let fields := es.filterMap Entry.field?
  if fields.isEmpty then .error (.malformed value.render "table collection without any `:field = expression`")
  else return ⟨arg, fields, ← bodyOf (Names.forIdentifiers value.idents) es⟩

def uniform (first : TableField) : List TableField → Except Fault Unit
  | [] => .ok ()
  | f :: fs =>
    if f.mode = first.mode ∧ f.passMissing = first.passMissing then uniform first fs
    else .error (.mixedModes f.name first.name)

def toTriple (g : TableGroup) : Except ArgumentError Triple :=
  match g.fields with
  | [] => .error ⟨g.arg, .malformed g.body.render "empty table collection"⟩
  | first :: rest =>
    match uniform first rest with
    | .error fault => .error ⟨g.arg, fault⟩
    | .ok () =>
      let (sources, function) := g.body.abstracted
      .ok ⟨g.arg, sources, function, some .asTable, first.mode, first.passMissing, false⟩

end TableGroup

end Tabular
