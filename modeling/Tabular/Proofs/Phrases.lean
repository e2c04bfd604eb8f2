import Mathlib.Tactic.Lemma
import Tabular.Parse

/-!
The grammar of the table language as rules for phrases. A phrase carries the limit below which the binding strength
of an infix operator behind it has to stay; at the limit zero no operator can follow at all.
-/

namespace Tabular.Parse

def infixAt? (inside : Bool) (l : Lexeme) : Option (String × Operator.Binding) :=
  if inside = false ∧ l.gap.newline then none
  else match l.token with
    | .op symbol => (Operator.infixBinding? symbol).map (symbol, ·)
    | _ => none

def opensPostfix (l : Lexeme) : Bool :=
  !l.gap.space && (l.token == .openParen || l.token == .openBracket || l.token == .dot)

/-- A lexeme that ends a phrase with the given limit. -/
structure Stops (inside : Bool) (limit : Nat) (l : Lexeme) : Prop where
  closed : opensPostfix l = false
  level_lt : ∀ op b, infixAt? inside l = some (op, b) → b.level < limit
  not_assigned : limit = 0 → l.token ≠ .op "="

def atom? : Token → Option Expr
  | .int k => some (.literal (.int k))
  | .float x => some (.literal (.float x))
  | .str s => some (.literal (.str s))
  | .quote name => some (.quote name)
  | .ident "begin" => none
  | .ident name => some (wordExpr name)
  | .dollar | .marker _ | .openParen | .closeParen | .openBracket | .closeBracket | .comma | .semicolon
  | .dot | .op _ | .eof => none

def endsLine (l : Lexeme) : Bool := l.gap.newline || l.token == .semicolon || l.token == .ident "end"

def HeadNot (p : Token → Prop) (ts : List Lexeme) : Prop := ∀ l ∈ ts.head?, ¬ p l.token

def isMarker : Token → Prop
  | .marker _ => True
  | _ => False

inductive Phrase where
  | argument (e : Expr)
  | joined (min limit : Nat) (e : Expr)
  | operand (limit : Nat) (e : Expr)
  | postfixed (limit : Nat) (e : Expr)
  | primary (limit : Nat) (e : Expr)
  | lines (es : List Expr)
  | listed (es : List Expr) (comma : Bool)
  | arguments (named inKeywords : Bool) (as : Arguments)

open Operator

inductive Reads : (inside : Bool) → Phrase → List Lexeme → Prop
  | flagged {b flags e l ts} : l.token = .marker flags → Reads b (.argument e) ts →
      Reads b (.argument (.flagged flags e)) (l :: ts)
  | plain {b limit e ts} : Reads b (.joined 0 limit e) ts → HeadNot isMarker ts → Reads b (.argument e) ts
  | assigned {b limit lhs value l ts us} : Reads b (.joined 0 limit lhs) ts → HeadNot isMarker ts → 0 < limit →
      l.token = .op "=" → Reads b (.argument value) us → Reads b (.argument (.assign lhs value)) (ts ++ l :: us)
  | single {b min limit e ts} : Reads b (.operand limit e) ts → Reads b (.joined min limit e) ts
  | infixed {b min limit limit' lhs rhs e op binding l ts us} : Reads b (.joined min limit lhs) ts →
      infixAt? b l = some (op, binding) → min ≤ binding.level → binding.level < limit →
      Reads b (.joined binding.rightLevel limit' rhs) us → infixExpr op lhs rhs = .ok e →
      Reads b (.joined min (Nat.min binding.rightLevel limit') e) (ts ++ l :: us)
  | signed {b limit symbol e l ts} : l.token = .op symbol → isUnary symbol = true →
      Reads b (.joined operandLevel limit e) ts →
      Reads b (.operand (Nat.min operandLevel limit) (unaryExpr symbol e)) (l :: ts)
  | unsigned {b limit e ts} : Reads b (.postfixed limit e) ts → Reads b (.operand limit e) ts
  | bare {b limit e ts} : Reads b (.primary limit e) ts → Reads b (.postfixed limit e) ts
  | called {b limit f as l r ts us} : Reads b (.postfixed limit f) ts → 0 < limit → l.token = .openParen →
      l.gap.space = false → Reads true (.arguments true false as) us → r.token = .closeParen →
      Reads b (.postfixed atomLevel (.call f as.toList)) (ts ++ l :: (us ++ [r]))
  | indexed {b limit e es comma l r ts us} : Reads b (.postfixed limit e) ts → 0 < limit → l.token = .openBracket →
      l.gap.space = false → Reads true (.listed es comma) us → r.token = .closeBracket →
      Reads b (.postfixed atomLevel (.index e es)) (ts ++ l :: (us ++ [r]))
  | field {b limit e name l m ts} : Reads b (.postfixed limit e) ts → 0 < limit → l.token = .dot →
      l.gap.space = false → m.token = .ident name → Reads b (.postfixed atomLevel (.field e name)) (ts ++ [l, m])
  | atom {b e l} : atom? l.token = some e → Reads b (.primary atomLevel e) [l]
  | block {b es l ts} : l.token = .ident "begin" → Reads false (.lines es) ts →
      Reads b (.primary atomLevel (.block es)) (l :: ts)
  | hole {b limit e l ts} : l.token = .dollar → Reads b (.primary limit e) ts → HeadNot (· = .openParen) ts →
      Reads b (.primary limit (.interp e)) (l :: ts)
  | wideHole {b limit e l m r ts} : l.token = .dollar → m.token = .openParen → Reads true (.joined 0 limit e) ts →
      r.token = .closeParen → Reads b (.primary atomLevel (.interp e)) (l :: m :: (ts ++ [r]))
  | marked {b flags e l ts} : l.token = .marker flags → Reads b (.argument e) ts →
      Reads b (.primary 0 (.flagged flags e)) (l :: ts)
  | unit {b l m r} : l.token = .openParen → m.token = .semicolon → r.token = .closeParen →
      Reads b (.primary atomLevel (.namedTuple [])) [l, m, r]
  | tuple {b es comma l r ts} : l.token = .openParen → Reads true (.listed es comma) ts → r.token = .closeParen →
      Reads b (.primary atomLevel (parenthesizedExpr es comma)) (l :: (ts ++ [r]))
  | vector {b es comma l r ts} :
      l.token = .openBracket → Reads true (.listed es comma) ts → r.token = .closeBracket →
      Reads b (.primary atomLevel (.vector es)) (l :: (ts ++ [r]))
  | noLines {b l} : l.token = .ident "end" → Reads b (.lines []) [l]
  | skip {b es l ts} : l.token = .semicolon → Reads b (.lines es) ts → Reads b (.lines es) (l :: ts)
  | line {b e es l ts us} : Reads b (.argument e) ts → HeadNot (· = .ident "end") ts → Stops b 0 l →
      endsLine l = true → Reads b (.lines es) (l :: us) → Reads b (.lines (e :: es)) (ts ++ l :: us)
  | listedNil {b} : Reads b (.listed [] true) []
  | listedLast {b e ts} : Reads b (.argument e) ts → Reads b (.listed [e] false) ts
  | listedCons {b e es comma l ts us} :
      Reads b (.argument e) ts → l.token = .comma → Reads b (.listed es comma) us →
      Reads b (.listed (e :: es) comma) (ts ++ l :: us)
  | argumentsNil {b named inKeywords} : Reads b (.arguments named inKeywords ⟨[], []⟩) []
  | argumentsKeywords {b named inKeywords as l ts} : l.token = .semicolon → Reads b (.arguments named true as) ts →
      Reads b (.arguments named inKeywords as) (l :: ts)
  | argumentsLast {b named inKeywords e a ts} : Reads b (.argument e) ts → argumentOf named inKeywords e = .ok a →
      Reads b (.arguments named inKeywords (.cons a ⟨[], []⟩)) ts
  | argumentsCons {b named inKeywords e a as l ts us} : Reads b (.argument e) ts →
      argumentOf named inKeywords e = .ok a → l.token = .comma → Reads b (.arguments named inKeywords as) us →
      Reads b (.arguments named inKeywords (.cons a as)) (ts ++ l :: us)
  | argumentsThenKeywords {b named inKeywords e a as l ts us} : Reads b (.argument e) ts →
      argumentOf named inKeywords e = .ok a → l.token = .semicolon →
      Reads b (.arguments named inKeywords as) (l :: us) →
      Reads b (.arguments named inKeywords (.cons a as)) (ts ++ l :: us)

def baseBindings : List Binding :=
  [⟨10, false⟩, ⟨20, false⟩, ⟨30, false⟩, ⟨40, false⟩, ⟨50, false⟩, ⟨70, true⟩]

def infixBindings : List Binding := ⟨1, true⟩ :: ⟨pairLevel, true⟩ :: baseBindings

lemma mem_of_baseBinding? {op : String} {b : Binding} (h : baseBinding? op = some b) : b ∈ baseBindings := by
  unfold baseBinding? at h
  split at h <;> cases h <;> simp [baseBindings]

lemma mem_of_infixBinding? {op : String} {b : Binding} (h : infixBinding? op = some b) : b ∈ infixBindings := by
  unfold infixBinding? at h
  split at h
  · cases h
    exact List.mem_cons_self
  · cases h
    exact List.mem_cons_of_mem _ List.mem_cons_self
  · exact List.mem_cons_of_mem _ (List.mem_cons_of_mem _ (mem_of_baseBinding? h))

def startsPrimary : Token → Bool
  | .int _ | .float _ | .str _ | .quote _ | .ident _ | .dollar | .marker _ | .openParen | .openBracket => true
  | .closeParen | .closeBracket | .comma | .semicolon | .dot | .op _ | .eof => false

def starts : Token → Bool
  | .op symbol => isUnary symbol
  | t => startsPrimary t

lemma starts_of_startsPrimary {t : Token} (h : startsPrimary t = true) : starts t = true := by
  cases t with
  | op => cases h
  | _ => exact h

lemma startsPrimary_of_atom? {t : Token} {e : Expr} (h : atom? t = some e) : startsPrimary t = true := by
  cases t <;> first | rfl | cases h

def Phrase.Heads : Phrase → List Lexeme → Prop
  | argument _, ts | joined _ _ _, ts | operand _ _, ts => ∃ l us, ts = l :: us ∧ starts l.token = true
  | postfixed _ _, ts | primary _ _, ts => ∃ l us, ts = l :: us ∧ startsPrimary l.token = true
  | lines _, ts => ts ≠ []
  | listed _ _, ts => ∀ l ∈ ts.head?, starts l.token = true
  | arguments _ _ _, ts => ∀ l ∈ ts.head?, starts l.token = true ∨ l.token = .semicolon

lemma Reads.heads {b : Bool} {p : Phrase} {ts : List Lexeme} (h : Reads b p ts) : p.Heads ts := by
  induction h with
  | flagged hl | marked hl | signed hl hu => exact ⟨_, _, rfl, by simp_all [starts, startsPrimary]⟩
  | plain _ _ ih | single _ ih | bare _ ih => exact ih
  | unsigned _ ih =>
    obtain ⟨l, us, rfl, hl⟩ := ih
    exact ⟨l, us, rfl, starts_of_startsPrimary hl⟩
  | assigned _ _ _ _ _ ih | infixed _ _ _ _ _ _ ih | called _ _ _ _ _ _ ih | indexed _ _ _ _ _ _ ih
  | field _ _ _ _ _ ih =>
    obtain ⟨l, us, rfl, hl⟩ := ih
    exact ⟨l, _, rfl, hl⟩
  | atom h => exact ⟨_, _, rfl, startsPrimary_of_atom? h⟩
  | block hl | hole hl | wideHole hl | unit hl | tuple hl | vector hl =>
    exact ⟨_, _, rfl, by simp [hl, startsPrimary]⟩
  | noLines | skip => simp [Phrase.Heads]
  | line => simp [Phrase.Heads]
  | listedNil | argumentsNil => simp [Phrase.Heads]
  | listedLast _ ih | listedCons _ _ _ ih =>
    obtain ⟨l, us, rfl, hl⟩ := ih
    simpa [Phrase.Heads] using hl
  | argumentsKeywords hl => simp [Phrase.Heads, hl]
  | argumentsLast _ _ ih | argumentsCons _ _ _ _ ih | argumentsThenKeywords _ _ _ _ ih =>
    obtain ⟨l, us, rfl, hl⟩ := ih
    simp [Phrase.Heads, hl]

lemma Reads.primary_of_isMarker {b : Bool} {e : Expr} {ts : List Lexeme} {l : Lexeme}
    (h : Reads b (.argument e) ts) (hl : l ∈ ts.head?) (hm : isMarker l.token) : Reads b (.primary 0 e) ts := by
  cases h with
  | flagged hf h => exact .marked hf h
  | plain _ hn => exact absurd hm (hn l hl)
  | assigned h hn =>
    obtain ⟨l', us, rfl, -⟩ := h.heads
    exact absurd hm (hn l hl)

lemma atom?_ne_eof {t : Token} {e : Expr} (h : atom? t = some e) : t ≠ .eof := by
  rintro rfl
  cases h

lemma infixAt?_ne_eof {b : Bool} {l : Lexeme} {x : String × Binding} (h : infixAt? b l = some x) :
    l.token ≠ .eof := by
  intro he
  simp [infixAt?, he] at h

lemma Reads.ne_eof {b : Bool} {p : Phrase} {ts : List Lexeme} (h : Reads b p ts) : ∀ l ∈ ts, l.token ≠ .eof := by
  induction h with
  | atom h => simpa using atom?_ne_eof h
  | infixed _ hl _ _ _ _ hts hus =>
    have he := infixAt?_ne_eof hl
    simp only [List.mem_append, List.mem_cons]
    grind
  | _ => simp_all <;> grind

end Tabular.Parse
