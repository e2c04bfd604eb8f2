import Tabular.Text.Character

namespace Tabular.Text

def words (s : String) : List String := ((s.toList.splitBy fun c d => isBlank c == isBlank d).filter
  fun run => !run.all isBlank).map String.ofList

/-- The pieces of a text whose first `skip` characters belong to a separator already found. -/
def pieces (sep : List Char) : (skip : Nat) → List Char → List (List Char)
  | _, [] => [[]]
  | skip + 1, _ :: cs => pieces sep skip cs
  | 0, c :: cs =>
    if sep.isPrefixOf (c :: cs) then [] :: pieces sep (sep.length - 1) cs
    else match pieces sep 0 cs with
      | [] => [[c]]
      | p :: ps => (c :: p) :: ps

def splitOn (sep s : String) : List String :=
  (if sep.isEmpty then [] :: s.toList.map ([·]) ++ [[]] else pieces sep.toList 0 s.toList).map String.ofList

end Tabular.Text
