import Tabular.Construct
import Tabular.Error
import Tabular.Expr.Basic

/-!
Flags in front of an argument or its value: `r` and `c` choose the mode, `m` passes missing values on, and `t`
collects columns into a table.
-/

namespace Tabular

structure Flags where
  mode : Option Mode := none
  passMissing : Bool := false
  table : Bool := false
  spelled : String := ""
  deriving DecidableEq, Repr, Inhabited

namespace Flags

def isEmpty (f : Flags) : Bool := f.spelled.isEmpty

def modeOr (f : Flags) (default : Mode) : Mode := f.mode.getD default

def choose (f : Flags) (m : Mode) : Flags × Option Fault :=
  if f.mode = none ∨ f.mode = some m then ({ f with mode := some m }, none)
  else (f, some (.conflictingModes f.spelled))

def set (text : String) (f : Flags) (c : Char) : Flags × Option Fault :=
  match c with
  | 'r' => f.choose .rowWise
  | 'c' => f.choose .columnWise
  | 'm' => ({ f with passMissing := true }, none)
  | 't' => ({ f with table := true }, none)
  | c => (f, some (.unknownFlag c text))

def setAll (text : String) (f : Flags) : List Char → Flags × Option Fault
  | [] => (f, none)
  | c :: cs => match f.set text c with
    | (f, none) => setAll text f cs
    | (f, some fault) => (f, some fault)

def add (f : Flags) (text : String) : Flags × Option Fault :=
  if text.isEmpty then (f, some (.malformed "@" "empty flag macro"))
  else setAll text { f with spelled := f.spelled ++ text } text.toList

def strip (f : Flags) : Expr → Flags × Except Fault Expr
  | .flagged text inner => match f.add text with
    | (f, none) => strip f inner
    | (f, some fault) => (f, .error fault)
  | e => (f, .ok e)

def stripped (f : Flags) (e : Expr) : Except Fault (Flags × Expr) :=
  match f.strip e with
  | (f, .ok e) => .ok (f, e)
  | (_, .error fault) => .error fault

def joined (f : Flags) (text : String) : Except Fault Flags :=
  if text.isEmpty then .ok f
  else match f.add text with
    | (f, none) => .ok f
    | (_, some fault) => .error fault

def parse (text : String) : Except Fault Flags :=
  match add {} text with
  | (f, none) => .ok f
  | (_, some fault) => .error fault

end Flags

end Tabular
