import Tabular.Error
import Tabular.Expr.Basic

namespace Tabular

structure Config where
  byRow : String := "ByRow"
  passMissing : String := "passmissing"
  asTable : String := "AsTable"
  sinkSeparator : String := "_"
  flattenBlocks : Bool := true
  deriving DecidableEq, Repr

inductive Mode where
  | rowWise
  | columnWise
  deriving DecidableEq, Repr, Inhabited

def Mode.name : Mode → String
  | rowWise => "row-wise"
  | columnWise => "column-wise"

inductive Construct where
  | transform
  | transformInPlace
  | select
  | selectInPlace
  | groupBy
  | combine
  | subset
  | subsetInPlace
  | sort
  | sortInPlace
  | unique
  deriving DecidableEq, Repr, Inhabited

namespace Construct

def all : List Construct :=
  [transform, transformInPlace, select, selectInPlace, groupBy, combine, subset, subsetInPlace, sort, sortInPlace,
    unique]

def operation : Construct → String
  | transform => "transform"
  | transformInPlace => "transform!"
  | select => "select"
  | selectInPlace => "select!"
  | groupBy => "groupby"
  | combine => "combine"
  | subset => "subset"
  | subsetInPlace => "subset!"
  | sort => "sort"
  | sortInPlace => "sort!"
  | unique => "unique"

def isInPlace : Construct → Bool
  | transformInPlace | selectInPlace | subsetInPlace | sortInPlace => true
  | _ => false

def takesSinks : Construct → Bool
  | transform | transformInPlace | select | selectInPlace | combine => true
  | _ => false

def defaultMode : Construct → Mode
  | combine => .columnWise
  | _ => .rowWise

def ofOperation? (name : String) : Option Construct := all.find? (·.operation == name)

def ofName (name : String) : Except ParseError Construct :=
  let bare := match name.toList with
    | '@' :: cs => String.ofList cs
    | _ => name
  match ofOperation? bare with
  | some c => .ok c
  | none => .error (.unknownConstruct name)

end Construct

structure Invocation where
  construct : Construct
  table : Expr
  args : List Expr
  kwargs : List (String × Expr) := []

def Invocation.withKwarg (inv : Invocation) (name : String) (value : Expr) : Invocation :=
  { inv with kwargs := inv.kwargs ++ [(name, value)] }

end Tabular
