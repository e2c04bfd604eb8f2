import Tabular.Construct
import Tabular.Json

/-!
Values, expressions, modes and invocations read from JSON. A choice between kinds is an object with one member,
whose key is the kind; members with other keys than those of a kind are ignored.
-/

namespace Tabular

namespace Json

def tagged? : Json → Option (String × Json)
  | object [(tag, j)] => some (tag, j)
  | _ => none

def required? {α : Type} (key : String) (read : Json → Option α) (j : Json) : Option α :=
  (j.member? key).bind read

def valueWithin? : Nat → Json → Option Value
  | 0, _ => none
  | n + 1, j =>
    match j with
    | string "Missing" => some .missing
    | _ => do
      let (tag, j) ← j.tagged?
      match tag, j with
      | "Int", j => return .int (← j.integer?)
      | "Float", j => return .float (← j.real?)
      | "Str", j => return .str (← j.string?)
      | "Bool", j => return .bool (← j.bool?)
      | "Symbol", j => return .symbol (← j.string?)
      | "Missing", null => return .missing
      | "List", j => return .list (← j.listOf? (valueWithin? n))
      | "Record", j => return .record (← j.listOf? (pairOf? (valueWithin? n)))
      | _, _ => none

def value? (j : Json) : Option Value := valueWithin? j.size j

def columnWith? (expr? : Json → Option Expr) (j : Json) : Option Column := do
  match ← j.tagged? with
  | ("Symbol", j) => return .symbol (← j.string?)
  | ("String", j) => return .string (← j.string?)
  | ("Position", j) => return .position (← j.natural?)
  | ("Dynamic", j) => return .dynamic (← expr? j)
  | _ => none

def exprWithin? : Nat → Json → Option Expr
  | 0, _ => none
  | n + 1, j => do
    match ← j.tagged? with
    | ("Literal", j) => return .literal (← j.value?)
    | ("Ident", j) => return .ident (← j.string?)
    | ("Quote", j) => return .quote (← j.string?)
    | ("Interp", j) => return .interp (← exprWithin? n j)
    | ("Column", j) => return .column (← columnWith? (exprWithin? n) j)
    | ("Call", j) =>
      return .call (← j.required? "func" (exprWithin? n)) (← j.required? "args" (listOf? (exprWithin? n)))
    | ("Kw", j) => return .keyword (← j.required? "name" string?) (← j.required? "value" (exprWithin? n))
    | ("Index", j) =>
      return .index (← j.required? "target" (exprWithin? n)) (← j.required? "indices" (listOf? (exprWithin? n)))
    | ("Dot", j) => return .field (← j.required? "target" (exprWithin? n)) (← j.required? "field" string?)
    | ("Assign", j) =>
        return .assign (← j.required? "sink" (exprWithin? n)) (← j.required? "value" (exprWithin? n))
    | ("Flagged", j) => return .flagged (← j.required? "flags" string?) (← j.required? "inner" (exprWithin? n))
    | ("Block", j) => return .block (← j.listOf? (exprWithin? n))
    | ("Tuple", j) => return .tuple (← j.listOf? (exprWithin? n))
    | ("NamedTuple", j) => return .namedTuple (← j.listOf? (pairOf? (exprWithin? n)))
    | ("Vector", j) => return .vector (← j.listOf? (exprWithin? n))
    | ("Lambda", j) =>
      return .lambda (← j.required? "params" (listOf? string?)) (← j.required? "body" (exprWithin? n))
    | ("Pair", array [l, r]) => return .pair (← exprWithin? n l) (← exprWithin? n r)
    | _ => none

def expr? (j : Json) : Option Expr := exprWithin? j.size j

def column? (j : Json) : Option Column := columnWith? expr? j

def construct? : Json → Option Construct
  | string name => Construct.ofOperation? name
  | object [(name, null)] => Construct.ofOperation? name
  | _ => none

def mode? : Json → Option Mode
  | string "RowWise" | object [("RowWise", null)] => some .rowWise
  | string "ColumnWise" | object [("ColumnWise", null)] => some .columnWise
  | _ => none

def kwargs? (j : Json) : Option (List (String × Expr)) := j.listOf? (pairOf? expr?)

def invocation? : Json → Option Invocation
  | object members => do
    let j := object members
    let kwargs ← match j.member? "kwargs" with
      | some k => kwargs? k
      | none => some []
    let args ← j.required? "args" (listOf? expr?)
    return ⟨← j.required? "construct" construct?, ← j.required? "table" expr?, args, kwargs⟩
  | array [c, t, as] => do return ⟨← construct? c, ← expr? t, ← as.listOf? expr?, []⟩
  | array [c, t, as, ks] => do return ⟨← construct? c, ← expr? t, ← as.listOf? expr?, ← kwargs? ks⟩
  | _ => none

end Json

end Tabular
