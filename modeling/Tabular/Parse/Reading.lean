import Tabular.Parse.Cursor
import Tabular.Parse.Shape

namespace Tabular.Parse

/-- A way of reading, named by what it fails with: the faults of the text, and whatever else can go wrong where a
bracket is closed or a sign is put before an operand. -/
class Reading (ε : Type) extends MonadLift (Except ParseError) (Except ε) where
  leave (c : Cursor) (closing : Token) : Except ε Cursor
  unaryExpr (op : String) (operand : Expr) : Except ε Expr

def fail {ε α : Type} [Reading ε] (e : ParseError) : Except ε α := liftM (.error e : Except ParseError α)

@[default_instance]
instance : Reading ParseError where
  monadLift x := x
  leave := Cursor.leave
  unaryExpr op operand := .ok (unaryExpr op operand)

@[simp] theorem liftM_eq {α : Type} (x : Except ParseError α) : (liftM x : Except ParseError α) = x := rfl

@[simp] theorem fail_eq {α : Type} (e : ParseError) : (fail e : Except ParseError α) = .error e := rfl

@[simp] theorem Reading.leave_eq (c : Cursor) (closing : Token) :
    (Reading.leave c closing : Except ParseError Cursor) = c.leave closing := rfl

@[simp] theorem Reading.unaryExpr_eq (op : String) (operand : Expr) :
    (Reading.unaryExpr op operand : Except ParseError Expr) = .ok (Parse.unaryExpr op operand) := rfl

end Tabular.Parse
