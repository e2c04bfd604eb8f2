import Tabular.Proofs.Lexemes
import Tabular.Proofs.Phrases

/-!
What a written expression is read as. A number below zero at the start of a target gives its sign to the whole, and
the assignment that is the body of a function takes the function as its left side; all else is read as it was.
-/

namespace Tabular

open Lexer Operator Parse Wording

namespace Expr

def isNegative : Expr → Bool
  | literal (.int n) => n < 0
  | _ => false

def minusLed : Expr → Bool
  | literal (.int n) => n < 0
  | call e _ | index e _ | field e _ => e.minusLed
  | _ => false

def spills : Expr → Bool
  | assign _ _ => true
  | lambda _ e => e.spills
  | _ => false

def unsigned : Expr → Expr
  | literal (.int n) => literal (.int (-n))
  | call (ident "-") [e] => e
  | e => e

def behindSign (target read : Expr) (whole : Expr → Expr) : Expr :=
  if target.minusLed then unaryExpr "-" (whole read.unsigned) else whole read

def spill (xs : List String) : Expr → Expr
  | assign s v => assign (lambda xs s) v
  | e => lambda xs e

mutual

def reread : Expr → Expr
  | literal v => literal v
  | ident x => ident x
  | quote x => quote x
  | interp e => interp e.reread
  | column c => column c
  | call f args =>
    match f, args with
    | ident op, [l, r] =>
      match binding? op with
      | some b =>
        if b.rightAssoc then behindSign l l.reread fun l => apply op [l, r.reread]
        else apply op [l.reread, r.reread]
      | none => apply op [l.reread, r.reread]
    | f, args => behindSign f f.reread fun f => call f (rereadItems args)
  | keyword x e => keyword x e.reread
  | index t es => behindSign t t.reread fun t => index t (rereadItems es)
  | field t x => behindSign t t.reread fun t => field t x
  | assign s v => assign s.reread v.reread
  | flagged flags e => flagged flags e.reread
  | block es => block (rereadItems es)
  | tuple es => tuple (rereadItems es)
  | namedTuple fs => namedTuple (rereadFields fs)
  | vector es => vector (rereadItems es)
  | lambda xs e => spill xs e.reread
  | pair l r => pair l.reread r.reread

def rereadItems : List Expr → List Expr
  | [] => []
  | e :: es => e.reread :: rereadItems es

def rereadFields : List (String × Expr) → List (String × Expr)
  | [] => []
  | (x, e) :: fs => (x, e.reread) :: rereadFields fs

end

@[simp] lemma rereadItems_eq (es : List Expr) : rereadItems es = es.map reread := by
  induction es with
  | nil => rfl
  | cons e es ih => exact congrArg (List.cons _) ih

@[simp] lemma rereadFields_eq (fs : List (String × Expr)) :
    rereadFields fs = fs.map fun f => (f.1, f.2.reread) := by
  induction fs with
  | nil => rfl
  | cons f fs ih => exact congrArg (List.cons _) ih

lemma reread_lambda (xs : List String) (e : Expr) : (lambda xs e).reread = spill xs e.reread := rfl

lemma unaryExpr_eq {op : String} {e : Expr} (hop : op = "-" ∨ op = "!") (h : op = "-" → e.isNumber = false) :
    unaryExpr op e = apply op [e] := by
  rcases hop with rfl | rfl
  · have hn := h rfl
    unfold unaryExpr
    split
    next he => exact absurd he (by decide)
    · split
      next => simp [isNumber] at hn
      next => simp [isNumber] at hn
      · rfl
  · rfl

def isCompound : Expr → Bool
  | call _ _ | index _ _ | field _ _ => true
  | _ => false

lemma isNumber_of_isCompound {e : Expr} (h : e.isCompound = true) : e.isNumber = false := by
  cases e <;> first | rfl | cases h

lemma behindSign_eq {t r : Expr} {whole : Expr → Expr} (h : ∀ x, (whole x).isCompound = true) :
    behindSign t r whole = if t.minusLed then apply "-" [whole r.unsigned] else whole r := by
  rw [behindSign, unaryExpr_eq (.inl rfl) fun _ => isNumber_of_isCompound (h _)]

lemma isCompound_behindSign {t r : Expr} {whole : Expr → Expr} (h : ∀ x, (whole x).isCompound = true) :
    (behindSign t r whole).isCompound = true := by
  rw [behindSign_eq h]
  split
  · rfl
  · exact h r

lemma isCompound_reread {e : Expr} (h : e.isCompound = true) : e.reread.isCompound = true := by
  cases e with
  | call f args =>
    unfold reread
    split
    · split
      · split
        · exact isCompound_behindSign fun _ => rfl
        · rfl
      · rfl
    · exact isCompound_behindSign fun _ => rfl
  | index | field => exact isCompound_behindSign fun _ => rfl
  | _ => cases h

lemma isNumber_reread (e : Expr) : e.reread.isNumber = e.isNumber := by
  cases e with
  | call | index | field => exact isNumber_of_isCompound (isCompound_reread rfl)
  | lambda xs e =>
    rw [reread_lambda]
    unfold spill
    split <;> rfl
  | _ => rfl

lemma reread_eq_ident {e : Expr} {x : String} : e.reread = ident x ↔ e = ident x := by
  have hcompound (he : e.isCompound = true) : e.reread ≠ ident x := by
    intro hx
    have hc := isCompound_reread he
    rw [hx] at hc
    cases hc
  cases e with
  | call | index | field => exact iff_of_false (hcompound rfl) nofun
  | lambda xs e =>
    refine iff_of_false ?_ nofun
    rw [reread_lambda]
    unfold spill
    split <;> exact nofun
  | ident y => rfl
  | _ => exact iff_of_false nofun nofun

lemma named?_eq_some {e : Expr} {f : String × Expr} : named? e = some f ↔ e = assign (ident f.1) f.2 := by
  unfold named?
  split
  next x v =>
    constructor
    · rintro ⟨⟩
      rfl
    · rintro ⟨⟩
      rfl
  next h => exact iff_of_false nofun fun he => h _ _ he

lemma named?_reread (e : Expr) : named? e.reread = (named? e).map fun f => (f.1, f.2.reread) := by
  have hcompound (he : e.isCompound = true) : named? e.reread = none := by
    have hc := isCompound_reread he
    cases hr : e.reread <;> first | rfl | simp [hr, isCompound] at hc
  cases e with
  | call | index | field => exact hcompound rfl
  | lambda xs e =>
    rw [reread_lambda]
    unfold spill
    split <;> rfl
  | assign s v =>
    by_cases hs : ∃ x, s = ident x
    · obtain ⟨x, rfl⟩ := hs
      rfl
    · have hnone {t w : Expr} (ht : ∀ x, t ≠ ident x) : named? (assign t w) = none := by
        cases ht' : named? (assign t w) with
        | none => rfl
        | some f => cases named?_eq_some.mp ht'; exact absurd rfl (ht _)
      rw [hnone fun x hx => hs ⟨x, hx⟩]
      exact hnone fun x hx => hs ⟨x, reread_eq_ident.mp hx⟩
  | _ => rfl

lemma spills_of_reread {e s v : Expr} (h : e.reread = assign s v) : e.spills = true := by
  have hcompound (he : e.isCompound = true) : e.spills = true := by
    have hc := isCompound_reread he
    rw [h] at hc
    cases hc
  induction e generalizing s v with
  | call | index | field => exact hcompound rfl
  | assign => rfl
  | lambda xs e ih =>
    rw [reread_lambda] at h
    unfold spill at h
    split at h
    next hr => exact ih hr fun he => by have hc := isCompound_reread he; rw [hr] at hc; cases hc
    next => cases h
  | _ => cases h

def level : Expr → Nat
  | call f args =>
    match f, args with
    | ident op, [_, _] => ((binding? op).map Binding.level).getD atomLevel
    | ident op, [_] => if isUnary op then unaryLevel else atomLevel
    | _, _ => atomLevel
  | assign _ _ | flagged _ _ | lambda _ _ => 0
  | pair _ _ => pairLevel
  | _ => atomLevel

lemma reread_infixed {op : String} {b : Binding} (hb : binding? op = some b) (l r : Expr) :
    (apply op [l, r]).reread = if b.rightAssoc then behindSign l l.reread fun l => apply op [l, r.reread]
      else apply op [l.reread, r.reread] := by
  simp [apply, reread, hb]

lemma reread_call {f : Expr} (hf : ∀ x, f = ident x → binding? x = none ∧ isUnary x = false) (args : List Expr) :
    (call f args).reread = behindSign f f.reread fun f => call f (args.map reread) := by
  rw [← rereadItems_eq]
  cases f with
  | ident x =>
    obtain ⟨hb, -⟩ := hf x rfl
    rcases args with _ | ⟨a, _ | ⟨b, _ | ⟨c, args⟩⟩⟩
    case cons.cons.nil => simp [reread, hb, behindSign, minusLed, apply]
    all_goals rfl
  | _ => rfl

lemma reread_unary (op : String) (e : Expr) : (apply op [e]).reread = apply op [e.reread] := rfl

lemma level_infixed {op : String} {b : Binding} (hb : binding? op = some b) (l r : Expr) :
    (apply op [l, r]).level = b.level := by
  change ((binding? op).map Binding.level).getD atomLevel = b.level
  rw [hb]
  rfl

lemma level_unary {op : String} (hu : isUnary op = true) (e : Expr) : (apply op [e]).level = unaryLevel :=
  if_pos hu

lemma level_call {f : Expr} (hf : ∀ x, f = ident x → binding? x = none ∧ isUnary x = false) (args : List Expr) :
    (call f args).level = atomLevel := by
  cases f with
  | ident x =>
    obtain ⟨hb, hu⟩ := hf x rfl
    rcases args with _ | ⟨a, _ | ⟨b, _ | ⟨c, args⟩⟩⟩
    all_goals simp [level, hb, hu]
  | _ => rfl

lemma lexemesAt_cases (e : Expr) : (e.level = atomLevel ∧ ∀ q, e.lexemesAt q = e.lexemesAt 0) ∨
    ∀ q, e.lexemesAt q = wrapped (e.level < q) (e.lexemesAt 0) := by
  cases e with
  | call f args =>
    by_cases hop : ∀ x, f = ident x → binding? x = none ∧ isUnary x = false
    · exact .inl ⟨level_call hop args, fun q => by rw [lexemesAt_call hop, lexemesAt_call hop]⟩
    · obtain ⟨x, rfl, hx⟩ : ∃ x, f = ident x ∧ (binding? x = none → isUnary x = true) := by simpa using hop
      rcases args with _ | ⟨a, _ | ⟨b, _ | ⟨c, args⟩⟩⟩
      · exact .inl ⟨rfl, fun q => rfl⟩
      · cases hu : isUnary x with
        | false => exact .inl ⟨by simp [level, hu], fun q => by simp [lexemesAt, hu]⟩
        | true =>
          refine .inr fun q => ?_
          rw [← apply, level_unary hu, lexemesAt_unary hu, lexemesAt_unary hu]
          rfl
      · cases hb : binding? x with
        | none => exact .inl ⟨by simp [level, hb], fun q => by simp [lexemesAt, hb]⟩
        | some b =>
          refine .inr fun q => ?_
          rw [← apply, level_infixed hb, lexemesAt_infixed hb, lexemesAt_infixed hb]
          rfl
      · exact .inl ⟨rfl, fun q => rfl⟩
  | assign | flagged | lambda | pair => exact .inr fun q => rfl
  | namedTuple fs => cases fs <;> exact .inl ⟨rfl, fun q => rfl⟩
  | _ => exact .inl ⟨rfl, fun q => rfl⟩

lemma lexemesAt_of_le {e : Expr} {q : Nat} (h : q ≤ e.level) : e.lexemesAt q = e.lexemesAt 0 := by
  rcases lexemesAt_cases e with ⟨-, he⟩ | he
  · exact he q
  · rw [he, decide_eq_false (Nat.not_lt.mpr h)]
    rfl

lemma lexemesAt_of_lt {e : Expr} {q : Nat} (h : e.level < q) (hq : q ≤ atomLevel) :
    e.lexemesAt q = bracketed .openParen .closeParen (e.lexemesAt 0 false) := by
  rcases lexemesAt_cases e with ⟨hl, -⟩ | he
  · omega
  · rw [he, decide_eq_true h]
    rfl

def isFlagged : Expr → Bool
  | flagged _ _ => true
  | _ => false

end Expr

def PlainHead (reserved : List String) (ts : List Lexeme) : Prop :=
  ∃ l us, ts = l :: us ∧ ¬ isMarker l.token ∧ (l.token = .ident "end" → "end" ∉ reserved)

def isPlainToken : Token → Bool
  | .marker _ => false
  | .ident x => x != "end"
  | _ => true

lemma power_of_rightAssoc {op : String} {b : Binding} (h : binding? op = some b) (hb : b.rightAssoc = true) :
    op = "^" ∨ op = ".^" := by
  have hm := mem_infixSymbols_of_binding? h
  unfold infixSymbols at hm
  fin_cases hm
  all_goals first | exact .inl rfl | exact .inr rfl | cases h; done | (cases h; cases hb)

section Heads

lemma level_pos_of_binding? {op : String} {b : Binding} (h : binding? op = some b) : 0 < b.level := by
  have hlevel : ∀ b ∈ baseBindings, 0 < b.level := by decide
  exact hlevel b (mem_of_baseBinding? h)

variable {reserved : List String} {e : Expr} {t : Token} {ts us : List Lexeme} {space : Bool}

lemma PlainHead.append (h : PlainHead reserved ts) (us : List Lexeme) : PlainHead reserved (ts ++ us) := by
  obtain ⟨l, ts, rfl, hl⟩ := h
  exact ⟨l, ts ++ us, rfl, hl⟩

lemma plainHead_cons (h : isPlainToken t = true) (ts : List Lexeme) :
    PlainHead reserved (t.spaced space :: ts) := by
  refine ⟨_, ts, rfl, fun hm => ?_, fun (he : t = _) => ?_⟩
  · cases t <;> first | exact hm | cases h
  · rw [he] at h
    cases h

lemma plainHead_ident {x : String} (hx : x ∉ reserved) (ts : List Lexeme) :
    PlainHead reserved ((Token.ident x).spaced space :: ts) := by
  refine ⟨_, ts, rfl, id, fun he => ?_⟩
  cases he
  exact hx

lemma PlainHead.wrapped {f : Wording} {wrap : Bool} (h : PlainHead reserved (f space)) :
    PlainHead reserved (wrapped wrap f space) := by
  cases wrap with
  | false => exact h
  | true => exact plainHead_cons (by rfl) _

lemma Legible.plainHead (h : Legible reserved e) {q : Nat} (hq : 0 < q ∨ e.isFlagged = false) :
    PlainHead reserved (e.lexemesAt q space) := by
  have hleft (b : Binding) (hb : 0 < b.level) : 0 < b.leftLevel := by
    rw [Binding.leftLevel]
    split <;> omega
  induction h generalizing q space with
  | @int n _ =>
    show PlainHead reserved ((Value.int n).lexemes space)
    simp only [Value.lexemes]
    split <;> exact plainHead_cons (by rfl) _
  | bool b => cases b <;> exact plainHead_cons (by rfl) _
  | missing | block => exact plainHead_cons (by rfl) _
  | ident _ hx => exact plainHead_ident hx _
  | str | quote | interp | tuple | vector => exact plainHead_cons (by rfl) _
  | @namedTuple fs => cases fs <;> exact plainHead_cons (by rfl) _
  | infixed hb _ _ ih _ =>
    rw [lexemesAt_infixed hb]
    have hpos : 0 < Binding.level _ := level_pos_of_binding? hb
    exact ((ih (.inl (hleft _ hpos))).append _).wrapped
  | unary hop _ _ _ =>
    rw [lexemesAt_unary (isUnary_of_sign hop)]
    exact (plainHead_cons (by rfl) _).wrapped
  | call hf _ _ _ _ ih _ _ =>
    rw [lexemesAt_call hf.not_operator]
    exact (ih (.inl (by decide))).append _
  | index _ _ ih _ | field _ _ ih => exact (ih (.inl (by decide))).append _
  | assign _ _ ih _ => exact ((ih (.inl (by decide))).append _).wrapped
  | pair _ _ ih _ => exact ((ih (.inl (by decide))).append _).wrapped
  | flagged =>
    -- a marker is no plain head, but as an operand the expression stands in parentheses
    rcases hq with hq | hq
    · rw [Expr.lexemesAt, decide_eq_true hq]
      exact plainHead_cons (by rfl) _
    · cases hq
  | @lambda xs _ hxs _ _ =>
    refine PlainHead.wrapped (PlainHead.append ?_ _)
    rcases xs with _ | ⟨x, _ | ⟨y, xs⟩⟩
    · exact plainHead_cons (by rfl) _
    · exact plainHead_ident (hxs x List.mem_cons_self).2 _
    · exact plainHead_cons (by rfl) _

end Heads

end Tabular
