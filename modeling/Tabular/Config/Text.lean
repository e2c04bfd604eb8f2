import Tabular.Construct
import Tabular.Json.Reader

namespace Tabular.Config

def keys : List String := ["by_row", "pass_missing", "as_table", "sink_separator", "flatten_blocks"]

def orDefault {α : Type} (default : α) (read : Json → Option α) : Option Json → Option α
  | none => some default
  | some j => read j

def ofValues? (value? : Nat → Option Json) : Option Config := do
  let d : Config := {}
  return {
    byRow := ← orDefault d.byRow Json.string? (value? 0)
    passMissing := ← orDefault d.passMissing Json.string? (value? 1)
    asTable := ← orDefault d.asTable Json.string? (value? 2)
    sinkSeparator := ← orDefault d.sinkSeparator Json.string? (value? 3)
    flattenBlocks := ← orDefault d.flattenBlocks Json.bool? (value? 4) }

def ofJson? : Json → Option Config
  | .object members =>
    if keys.any fun key => 1 < members.countP (·.1 == key) then none
    else ofValues? fun i => keys[i]?.bind fun key => members.lookup key
  | .array items => if 5 < items.length then none else ofValues? fun i => items[i]?
  | _ => none

def ofText? (s : String) : Option Config := (Json.parse? s).bind ofJson?

end Tabular.Config
