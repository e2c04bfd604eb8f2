namespace Tabular

inductive ParseError where
  | unexpectedEnd
  | unexpectedChar (c : Char)
  | expected (wanted found : String)
  | invalidNumber (text : String)
  | unterminatedString
  | unknownConstruct (name : String)
  /-- The reader ran out of steps; its budget is chosen so that this does not happen. -/
  | exhausted
  deriving DecidableEq, Repr

def ParseError.message : ParseError → String
  | unexpectedEnd => "unexpected end of input"
  | unexpectedChar c => "unexpected character: " ++ c.toString
  | expected wanted found => "expected " ++ wanted ++ ", found " ++ found
  | invalidNumber text => "invalid number: " ++ text
  | unterminatedString => "unterminated string"
  | unknownConstruct name => "unknown construct: " ++ name
  | exhausted => "out of steps"

inductive Fault where
  | unknownFlag (c : Char) (flags : String)
  | conflictingModes (flags : String)
  | tableSink (sink reason : String)
  | mixedModes (field first : String)
  | notColumn (expr found : String)
  | malformed (expr reason : String)
  deriving DecidableEq, Repr

def Fault.message : Fault → String
  | unknownFlag c flags => "unknown flag character '" ++ c.toString ++ "' in @" ++ flags
  | conflictingModes flags => "flags @" ++ flags ++ " ask for both row-wise and column-wise processing"
  | tableSink sink reason => "invalid table-collection sink `" ++ sink ++ "`: " ++ reason
  | mixedModes field first =>
    "field `" ++ field ++ "` is not processed the same way as field `" ++ first ++ "` of its table collection"
  | notColumn expr found => "`" ++ expr ++ "` is not a column identifier (" ++ found ++ ")"
  | malformed expr reason => "malformed argument `" ++ expr ++ "`: " ++ reason

structure ArgumentError where
  arg : Nat
  fault : Fault
  deriving DecidableEq, Repr

def ArgumentError.message (e : ArgumentError) : String := "argument " ++ e.arg.repr ++ ": " ++ e.fault.message

inductive EvalError where
  | unbound (name : String)
  | unknownFunction (name : String)
  | arity (name : String) (expected found : Nat)
  | type (op found : String)
  | bounds (index : Int64) (length : Nat)
  | lengths (first second : Nat)
  | unsupported (expr : String)
  deriving DecidableEq

def EvalError.message : EvalError → String
  | unbound name => "unbound identifier `" ++ name ++ "`"
  | unknownFunction name => "unknown function `" ++ name ++ "`"
  | arity name expected found =>
    "`" ++ name ++ "` expects " ++ expected.repr ++ " argument(s), got " ++ found.repr
  | type op found => "`" ++ op ++ "` cannot be applied to " ++ found
  | bounds index length => "index " ++ index.toInt.repr ++ " out of bounds for length " ++ length.repr
  | lengths first second => "columns have different lengths (" ++ first.repr ++ " and " ++ second.repr ++ ")"
  | unsupported expr => "cannot evaluate `" ++ expr ++ "`"

inductive Error where
  | parse (e : ParseError)
  | argument (e : ArgumentError)
  | eval (e : EvalError)
  deriving DecidableEq

def Error.message : Error → String
  | parse e => "parse error: " ++ e.message
  | argument e => e.message
  | eval e => "evaluation error: " ++ e.message

end Tabular
