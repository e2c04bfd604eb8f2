namespace Tabular

structure Names where
  taken : List String := []
  deriving Repr, Inhabited

namespace Names

def reservedWords : List String :=
  ["begin", "end", "if", "elseif", "else", "for", "while", "do", "let", "local", "global", "function", "return",
    "break", "continue", "try", "catch", "finally", "struct", "module", "macro", "quote", "const", "using",
    "import", "export", "true", "false", "missing", "nothing"]

def avoiding (names : List String) : Names := ⟨names.eraseDups⟩

def forIdentifiers (names : List String) : Names := avoiding (reservedWords ++ names)

def isTaken (s : Names) (name : String) : Bool := s.taken.contains name

def reserve (s : Names) (name : String) : Names := ⟨s.taken.insert name⟩

def candidate (base : String) : Nat → String
  | 0 => base
  | k + 1 => base ++ "_" ++ (k + 2).repr

/-- The first candidate that is not taken. One of the first `taken.length + 1` candidates is free, since they all
differ. -/
def free (s : Names) (base : String) : String :=
  (((List.range (s.taken.length + 1)).map (candidate base)).find? fun name => !s.isTaken name).getD base

def fresh (s : Names) (base : String) : String × Names := (s.free base, s.reserve (s.free base))

end Names

end Tabular
