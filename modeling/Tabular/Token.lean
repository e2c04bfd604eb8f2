import Tabular.Decimal.Layout
import Tabular.Text.Quoted

namespace Tabular

inductive Token where
  | ident (name : String)
  | int (n : Int64)
  | float (x : Float)
  | str (s : String)
  | quote (name : String)
  | dollar
  | marker (name : String)
  | openParen
  | closeParen
  | openBracket
  | closeBracket
  | comma
  | semicolon
  | dot
  | op (symbol : String)
  | eof
  deriving DecidableEq, Inhabited

def Token.describe : Token → String
  | ident name => "Ident(" ++ Text.escaped name ++ ")"
  | int n => "Int(" ++ n.toInt.repr ++ ")"
  | float x => "Float(" ++ Decimal.diagnostic x ++ ")"
  | str s => "Str(" ++ Text.escaped s ++ ")"
  | quote name => "QuoteSym(" ++ Text.escaped name ++ ")"
  | dollar => "Dollar"
  | marker name => "At(" ++ Text.escaped name ++ ")"
  | openParen => "LParen"
  | closeParen => "RParen"
  | openBracket => "LBracket"
  | closeBracket => "RBracket"
  | comma => "Comma"
  | semicolon => "Semicolon"
  | dot => "Dot"
  | op symbol => "Op(" ++ Text.escaped symbol ++ ")"
  | eof => "Eof"

/-- What lies between two tokens: a comment counts as a blank and as a line break. -/
structure Gap where
  space : Bool
  newline : Bool
  deriving DecidableEq, Repr, Inhabited

structure Lexeme where
  token : Token
  gap : Gap
  deriving DecidableEq, Inhabited

end Tabular
