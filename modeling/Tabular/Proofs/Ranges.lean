import Tabular.Proofs.Lockstep
import Tabular.Proofs.Nodewise
import Tabular.Proofs.Scanning

namespace Tabular

open Parse

/-- A node in which every integer has a negation. Values and references that could hold others are no
such nodes. -/
def Expr.Negatable : Expr → Prop
  | .literal (.int n) => -(2 ^ 63 - 1) ≤ n.toInt ∧ n.toInt ≤ 2 ^ 63 - 1
  | .literal (.list _) | .literal (.record _) | .column _ => False
  | _ => True

lemma Parse.Makes.negatable : Makes Expr.Negatable where
  literal {v} hv := by
    cases v with
    | int n => exact ne_minValue_iff.mp hv
    | list | record => exact hv
    | float | str | bool | symbol | missing => trivial
  quote _ := trivial
  negated hn := ne_minValue_iff.mp (neg_ne_minValue (ne_minValue_iff.mpr hn))
  inner {e} he := by
    cases e with
    | literal | quote | column => cases he
    | ident | interp | call | keyword | index | field | assign | flagged | block | tuple | namedTuple | vector
    | lambda | pair => trivial

namespace Parse

open Cursor

namespace Checked

inductive Stop where
  | fault (e : ParseError)
  | noneOpen
  | leastNegated

def leave (c : Cursor) (closing : Token) : Except Stop Cursor := do
  let c ← (c.expect closing).mapError .fault
  if c.depth = 0 then .error .noneOpen
  else return { c with depth := c.depth - 1 }

def unaryExpr (op : String) (operand : Expr) : Except Stop Expr :=
  match op, operand with
  | "-", .literal (.int n) => if n = Int64.minValue then .error .leastNegated else .ok (.literal (.int (-n)))
  | op, operand => .ok (Parse.unaryExpr op operand)

instance : Reading Stop where
  monadLift := Except.mapError .fault
  leave := leave
  unaryExpr := unaryExpr

def parseExpr (s : String) : Except Stop Expr := readExpr Cursor.budget s

def parseArgs (s : String) : Except Stop Arguments := readArgs Cursor.budget s

def parseInvocation (s : String) : Except Stop Invocation := readInvocation Cursor.budget s

lemma unaryExpr_eq_ok (op : String) {operand : Expr} (h : operand.Negatable) :
    unaryExpr op operand = .ok (Parse.unaryExpr op operand) := by
  unfold unaryExpr
  split
  next n => exact if_neg (ne_minValue_iff.mpr h)
  next => rfl

example : unaryExpr "-" (.literal (.int Int64.minValue)) = .error .leastNegated := rfl

end Checked

def Unstopped {α : Type} (x : Except Checked.Stop α) (y : Except ParseError α) : Prop := x = y.mapError .fault

namespace Unstopped

variable {α β : Type} {x : Except Checked.Stop α} {y : Except ParseError α} {f : α → Except Checked.Stop β}
  {g : α → Except ParseError β}

lemma bind (h : Unstopped x y) (hf : ∀ a, y = .ok a → Unstopped (f a) (g a)) : Unstopped (x >>= f) (y >>= g) := by
  cases y with
  | error e =>
    cases h
    rfl
  | ok a =>
    cases h
    exact hf a rfl

lemma leave {c : Cursor} (hc : 0 < c.depth) (closing : Token) :
    Unstopped (Checked.leave c closing) (c.leave closing) := by
  refine bind rfl fun d hd => ?_
  have hdepth : d.depth = c.depth := advance_depth (expect_eq_ok hd).2
  rw [if_neg (by omega)]
  rfl

example : Checked.leave ⟨⟨.closeParen, ⟨false, false⟩⟩, [⟨.eof, ⟨false, false⟩⟩], none, 0⟩ .closeParen =
    .error .noneOpen := rfl

lemma lockstep : Lockstep @Unstopped Scanned where
  ok _ := rfl
  lift _ := rfl
  bind := bind
  leave _ he hr := leave (hr.depth_pos he)
  unaryExpr hc h op := Checked.unaryExpr_eq_ok op (hc.all_infixExpression .negatable h).self
  start := scanned_start
  reaches := Scanned.reaches
  withDepth := Scanned.withDepth

lemma abreast (n : Nat) : Abreast @Unstopped Scanned n n := by
  refine lockstep.abreast (k := 0) ?_ n
  constructor
  all_goals
    intros
    rfl

end Unstopped

/-- In no reading of a text is a bracket closed while none is open, or the least integer negated; what the grammar
reads leaves as many brackets open as it has found; and all integers of what is read have negations. -/
theorem reading_stays_in_range :
    (∀ s, Checked.parseExpr s = (parseExpr s).mapError .fault ∧
      Checked.parseArgs s = (parseArgs s).mapError .fault ∧
      Checked.parseInvocation s = (parseInvocation s).mapError .fault) ∧
    (∀ n, Leads (fun c d => d.depth = c.depth) n) ∧
    (∀ s e, parseExpr s = .ok e → e.All Expr.Negatable) ∧
    (∀ s as, parseArgs s = .ok as → as.All Expr.Negatable) ∧
    ∀ s inv, parseInvocation s = .ok inv → inv.All Expr.Negatable :=
  ⟨fun s => ⟨Unstopped.lockstep.readExpr (fun _ => Unstopped.abreast _) s,
      Unstopped.lockstep.readArgs (fun _ => Unstopped.abreast _) s,
      Unstopped.lockstep.readInvocation (fun _ => Unstopped.abreast _) s⟩,
    fun n => (leads n).mono Reaches.depth, fun _ _ => all_of_parseExpr .negatable,
    fun _ _ => all_of_parseArgs .negatable, fun _ _ => all_of_parseInvocation .negatable⟩

theorem reading_stays_in_range_block_in_call :
    let text := "f(begin -(-9223372036854775807) end)"
    let block : Expr := .block [.literal (.int 9223372036854775807)]
    let e : Expr := .call (.ident "f") [block]
    (∃ c d : Cursor, (c.token = .ident "begin" ∧ c.depth = 1) ∧
      primary 24 c = .ok (block, d) ∧ d.depth = c.depth) ∧
      (parseExpr text = .ok e ∧ Checked.parseExpr text = .ok e ∧ e.All Expr.Negatable) ∧
      parseArgs text = .ok ⟨[e], []⟩ ∧ Checked.parseArgs text = .ok ⟨[e], []⟩ ∧
        Arguments.All Expr.Negatable ⟨[e], []⟩ := by
  intro text block e
  let tight : Gap := ⟨false, false⟩
  let d : Cursor := ⟨⟨.closeParen, tight⟩, [⟨.eof, tight⟩], none, 1⟩
  let c : Cursor := ⟨⟨.ident "begin", tight⟩, [⟨.op "-", ⟨true, false⟩⟩, ⟨.openParen, tight⟩, ⟨.op "-", tight⟩,
    ⟨.int 9223372036854775807, tight⟩, ⟨.closeParen, tight⟩, ⟨.ident "end", ⟨true, false⟩⟩, d.current] ++ d.rest,
    none, 1⟩
  have hscan : Lexer.scan text.toList =
      ([⟨.ident "f", tight⟩, ⟨.openParen, tight⟩, c.current] ++ c.rest, none) := by
    simp only [text, String.reduceToList]
    repeat' first | exact Lexer.scan_end rfl | apply Lexer.scan_cons rfl rfl
  have hblock : primary 24 c = .ok (block, d) := rfl
  have hexpr : parseExpr text = .ok e := by
    rw [parseExpr, readExpr, Cursor.start, hscan]
    rfl
  have hargs : parseArgs text = .ok ⟨[e], []⟩ := by
    rw [parseArgs, readArgs, Cursor.start, hscan]
    rfl
  obtain ⟨hchecked, hdepth, hallExpr, hallArgs, -⟩ := reading_stays_in_range
  obtain ⟨hcheckedExpr, hcheckedArgs, -⟩ := hchecked text
  rw [hexpr] at hcheckedExpr
  rw [hargs] at hcheckedArgs
  exact ⟨⟨c, d, ⟨rfl, rfl⟩, hblock, (hdepth 24).primary hblock⟩, ⟨hexpr, hcheckedExpr, hallExpr _ _ hexpr⟩, hargs,
    hcheckedArgs, hallArgs _ _ hargs⟩

end Parse

end Tabular
