import Tabular.Parse
import Tabular.Proofs.Nodes
import Tabular.Proofs.Scanning

namespace Tabular

open Lexer Operator

abbrev Wording := Bool → List Lexeme

def Token.alone (t : Token) : Wording := fun space => [t.spaced space]

namespace Wording

def bracketed (opening closing : Token) (inner : List Lexeme) : Wording :=
  fun space => opening.spaced space :: (inner ++ [closing.spaced false])

def wrapped (wrap : Bool) (f : Wording) : Wording := if wrap then bracketed .openParen .closeParen (f false) else f

def listing (separator : Token) : (space : Bool) → List Wording → List Lexeme
  | _, [] => []
  | space, [f] => f space
  | space, f :: g :: fs => f space ++ separator.spaced false :: listing separator true (g :: fs)

def infixed (l : Wording) (op : String) (r : Wording) : Wording :=
  fun space => l space ++ (Token.op op).spaced true :: r true

def tuple (items : List Wording) : Wording :=
  bracketed .openParen .closeParen
    (listing .comma false items ++ if items.length = 1 then [Token.comma.spaced false] else [])

def block (lines : List Wording) : Wording := fun space =>
  (Token.ident "begin").spaced space :: (listing .semicolon true lines ++ [(Token.ident "end").spaced true])

def params : List String → Wording
  | [x] => (Token.ident x).alone
  | xs => bracketed .openParen .closeParen (listing .comma false (xs.map fun x => (Token.ident x).alone))

end Wording

open Wording

def Value.lexemes : Value → Wording
  | .int n => fun space => if n < 0 then [(Token.op "-").spaced space, (Token.int (-n)).spaced false]
    else [(Token.int n).spaced space]
  | .str s => (Token.str s).alone
  | .bool b => (Token.ident (if b then "true" else "false")).alone
  | .missing => (Token.ident "missing").alone
  | _ => fun _ => []

mutual

def Expr.lexemesAt (min : Nat) : Expr → Wording
  | .literal v => v.lexemes
  | .ident x => (Token.ident x).alone
  | .quote x => (Token.quote x).alone
  | .interp e => fun space => Token.dollar.spaced space ::
      if e.isBare then e.lexemesAt 0 false else bracketed .openParen .closeParen (e.lexemesAt 0 false) false
  | .column _ => fun _ => []
  | .call func args =>
    match func, args with
    | .ident op, [l, r] =>
      match binding? op with
      | some b => wrapped (b.level < min) (infixed (l.lexemesAt b.leftLevel) op (r.lexemesAt b.rightLevel))
      | none => fun space => (Token.ident op).spaced space ::
          bracketed .openParen .closeParen (listing .comma false [l.lexemesAt 0, r.lexemesAt 0]) false
    | .ident op, [e] =>
      if isUnary op then
        wrapped (unaryLevel < min) fun space => (Token.op op).spaced space :: e.lexemesAt unaryLevel false
      else fun space => (Token.ident op).spaced space ::
          bracketed .openParen .closeParen (e.lexemesAt 0 false) false
    | func, args => fun space => func.lexemesAt atomLevel space ++
        bracketed .openParen .closeParen (listing .comma false (Expr.lexemesOf args)) false
  | .keyword x value => infixed (Token.ident x).alone "=" (value.lexemesAt 0)
  | .index target indices => fun space => target.lexemesAt atomLevel space ++
      bracketed .openBracket .closeBracket (listing .comma false (Expr.lexemesOf indices)) false
  | .field target x => fun space =>
      target.lexemesAt atomLevel space ++ [Token.dot.spaced false, (Token.ident x).spaced false]
  | .assign sink value => wrapped (0 < min) (infixed (sink.lexemesAt atomLevel) "=" (value.lexemesAt 0))
  | .flagged flags inner => wrapped (0 < min) fun space =>
      (Token.marker flags).spaced space :: inner.lexemesAt 0 true
  | .block lines => Wording.block (Expr.lexemesOf lines)
  | .tuple items => Wording.tuple (Expr.lexemesOf items)
  | .namedTuple [] => bracketed .openParen .closeParen [Token.semicolon.spaced false]
  | .namedTuple fields => Wording.tuple (Expr.lexemesOfFields fields)
  | .vector items => bracketed .openBracket .closeBracket (listing .comma false (Expr.lexemesOf items))
  | .lambda xs body => wrapped (0 < min) (infixed (params xs) "->" (body.lexemesAt 0))
  | .pair left right =>
    wrapped (pairLevel < min) (infixed (left.lexemesAt (pairLevel + 1)) "=>" (right.lexemesAt pairLevel))

def Expr.lexemesOf : List Expr → List Wording
  | [] => []
  | e :: es => e.lexemesAt 0 :: Expr.lexemesOf es

def Expr.lexemesOfFields : List (String × Expr) → List Wording
  | [] => []
  | (x, e) :: fields => infixed (Token.ident x).alone "=" (e.lexemesAt 0) :: Expr.lexemesOfFields fields

end

lemma Expr.lexemesOf_eq (es : List Expr) : Expr.lexemesOf es = es.map (·.lexemesAt 0) := by
  induction es with
  | nil => rfl
  | cons e es ih => exact congrArg (List.cons _) ih

lemma Expr.lexemesOfFields_eq (fs : List (String × Expr)) :
    Expr.lexemesOfFields fs = fs.map fun f => infixed (Token.ident f.1).alone "=" (f.2.lexemesAt 0) := by
  induction fs with
  | nil => rfl
  | cons f fs ih => exact congrArg (List.cons _) ih

lemma Expr.renderItems_eq (es : List Expr) : Expr.renderItems es = es.map (·.renderAt 0) := by
  induction es with
  | nil => rfl
  | cons e es ih => exact congrArg (List.cons _) ih

lemma Expr.renderFields_eq (fs : List (String × Expr)) :
    Expr.renderFields fs = fs.map fun f => f.1 ++ " = " ++ f.2.renderAt 0 := by
  induction fs with
  | nil => rfl
  | cons f fs ih => exact congrArg (List.cons _) ih

/-- The scanner finds the given lexemes at the start of every text that goes on from the given one, and the text
does not turn a sign before it into another operator. -/
structure Written (s : String) (f : Wording) : Prop where
  scan_eq : ∀ space rest, ends rest = true → scan (lead space ++ s.toList ++ rest) = prepend (f space) (scan rest)
  starts : ∃ c cs, s.toList = c :: cs ∧ c ≠ '=' ∧ c ≠ '>'

lemma ne_minValue_iff {n : Int64} : n ≠ Int64.minValue ↔ -(2 ^ 63 - 1) ≤ n.toInt ∧ n.toInt ≤ 2 ^ 63 - 1 := by
  have hlo := n.le_toInt
  have hhi := n.toInt_lt
  rw [← Int64.toInt_inj.ne, Int64.toInt_minValue]
  omega

lemma neg_ne_minValue {n : Int64} (h : n ≠ Int64.minValue) : -n ≠ Int64.minValue := by
  intro hmin
  refine h ?_
  rw [← Int64.neg_neg (a := n), hmin]
  rfl

namespace Written

variable {s t : String} {f g : Wording}

lemma ident {x : String} (h : isName x = true) : Written x (Token.ident x).alone := by
  refine ⟨fun space rest hr => scan_ident space hr h, ?_⟩
  obtain ⟨c, cs, hs, hc, -⟩ := exists_of_isName h
  refine ⟨c, cs, hs, ?_, ?_⟩
  all_goals
    rintro rfl
    exact absurd hc (by decide)

lemma quote {x : String} (h : isName x = true) : Written (":" ++ x) (Token.quote x).alone :=
  ⟨fun space rest hr => scan_quote space hr h, ':', x.toList, by simp, by decide, by decide⟩

lemma str (x : String) : Written (Text.quoted x) (Token.str x).alone :=
  ⟨fun space rest _ => scan_quoted x space rest, '"', _, by simp [Text.quoted]; rfl, by decide, by decide⟩

lemma bracketed (opening closing : Char) {t u : Token} (ho : single? opening = some t)
    (hc : single? closing = some u) (hends : ∀ cs, ends (closing :: cs) = true) {inner : String} {ts : List Lexeme}
    (h : ∀ rest, ends rest = true → scan (inner.toList ++ rest) = prepend ts (scan rest)) :
    Written (String.ofList [opening] ++ inner ++ String.ofList [closing]) (Wording.bracketed t u ts) := by
  constructor
  · intro space rest _
    have happ : lead space ++ (String.ofList [opening] ++ inner ++ String.ofList [closing]).toList ++ rest =
        lead space ++ opening :: (inner.toList ++ closing :: rest) := by simp
    rw [happ, scan_single ho, h _ (hends rest)]
    rw [show closing :: rest = lead false ++ closing :: rest from rfl, scan_single hc, prepend_prepend,
      prepend_prepend]
    simp [Wording.bracketed]
  · refine ⟨opening, inner.toList ++ [closing], by simp, ?_, ?_⟩
    all_goals
      rintro rfl
      cases ho

lemma parens {inner : String} {ts : List Lexeme}
    (h : ∀ rest, ends rest = true → scan (inner.toList ++ rest) = prepend ts (scan rest)) :
    Written ("(" ++ inner ++ ")") (Wording.bracketed .openParen .closeParen ts) :=
  bracketed '(' ')' rfl rfl (fun _ => rfl) h

lemma squares {inner : String} {ts : List Lexeme}
    (h : ∀ rest, ends rest = true → scan (inner.toList ++ rest) = prepend ts (scan rest)) :
    Written ("[" ++ inner ++ "]") (Wording.bracketed .openBracket .closeBracket ts) :=
  bracketed '[' ']' rfl rfl (fun _ => rfl) h

lemma inner (h : Written s f) (rest : List Char) (hr : ends rest = true) :
    scan (s.toList ++ rest) = prepend (f false) (scan rest) := h.scan_eq false rest hr

lemma parenthesized (h : Written s f) (wrap : Bool) : Written (parenthesized wrap s) (wrapped wrap f) := by
  cases wrap with
  | false => exact h
  | true => exact parens h.inner

lemma infixed (hl : Written s f) {op text : String} (hop : op ∈ infixSymbols) (htext : text = " " ++ op ++ " ")
    (hr : Written t g) : Written (s ++ text ++ t) (Wording.infixed f op g) := by
  constructor
  · intro space rest hrest
    have happ : lead space ++ (s ++ text ++ t).toList ++ rest =
        lead space ++ s.toList ++ ' ' :: (op.toList ++ ' ' :: (t.toList ++ rest)) := by simp [htext]
    have hright : scan (' ' :: (t.toList ++ rest)) = prepend (g true) (scan rest) := hr.scan_eq true rest hrest
    rw [happ, hl.scan_eq space _ rfl, scan_infix hop, hright, prepend_prepend, prepend_prepend]
    simp [Wording.infixed]
  · obtain ⟨c, cs, hs, hc⟩ := hl.starts
    exact ⟨c, cs ++ (text ++ t).toList, by simp [hs], hc⟩

lemma signed {op : String} (hop : op = "-" ∨ op = "!") (h : Written s f) :
    Written (op ++ s) fun space => (Token.op op).spaced space :: f false := by
  obtain ⟨c, cs, hs, hc⟩ := h.starts
  constructor
  · intro space rest hr
    have hinner := h.inner rest hr
    rw [hs, List.cons_append] at hinner
    rw [String.toList_append, hs, List.append_assoc, List.append_assoc, List.cons_append,
      scan_sign hop space hc, hinner, prepend_prepend]
    rfl
  · rcases hop with rfl | rfl
    · exact ⟨'-', s.toList, by simp, by decide, by decide⟩
    · exact ⟨'!', s.toList, by simp, by decide, by decide⟩

lemma followed (h : Written s f) (hends : ∀ rest, ends (t.toList ++ rest) = true)
    (ht : ∀ rest, ends rest = true → scan (t.toList ++ rest) = prepend (g false) (scan rest)) :
    Written (s ++ t) fun space => f space ++ g false := by
  constructor
  · intro space rest hr
    rw [String.toList_append, List.append_assoc, List.append_assoc, ← List.append_assoc,
      h.scan_eq space _ (hends rest), ht rest hr, prepend_prepend]
  · obtain ⟨c, cs, hs, hc⟩ := h.starts
    exact ⟨c, cs ++ t.toList, by simp [hs], hc⟩

lemma dotted (h : Written s f) {x : String} (hx : isName x = true) :
    Written (s ++ "." ++ x) fun space => f space ++ [Token.dot.spaced false, (Token.ident x).spaced false] := by
  obtain ⟨c, cs, hs, hc, -⟩ := exists_of_isName hx
  have hgo (rest : List Char) : goesOn isNameStart (x.toList ++ rest) = true := by
    rw [hs]
    exact hc
  constructor
  · intro space rest hr
    have happ : lead space ++ (s ++ "." ++ x).toList ++ rest =
        lead space ++ s.toList ++ '.' :: (x.toList ++ rest) := by
      simp
    have hends : ends ('.' :: (x.toList ++ rest)) = true := hgo rest
    rw [happ, h.scan_eq space _ hends, scan_dot (hgo rest), (Written.ident hx).inner rest hr, prepend_prepend,
      prepend_prepend]
    simp [Token.alone]
  · obtain ⟨d, ds, hds, hd⟩ := h.starts
    exact ⟨d, ds ++ ("." ++ x).toList, by simp [hds], hd⟩

variable {separator : Char} {u : Token} {ss : List String} {fs : List Wording}

lemma listing_cons (hsep : single? separator = some u) (hends : ∀ cs, ends (separator :: cs) = true)
    (h : List.Forall₂ Written (s :: ss) (f :: fs)) (space : Bool) {rest : List Char} (hr : ends rest = true) :
    scan (lead space ++ ((String.ofList [separator, ' ']).intercalate (s :: ss)).toList ++ rest) =
      prepend (listing u space (f :: fs)) (scan rest) := by
  induction ss generalizing s f fs space with
  | nil =>
    cases h with
    | cons hs hn =>
      cases hn
      simpa [String.intercalate_singleton, listing] using hs.scan_eq space rest hr
  | cons t ss ih =>
    cases h with
    | cons hs ht =>
      cases fs with
      | nil => cases ht
      | cons g fs =>
        have hrest := ih ht true
        rw [String.intercalate_cons_cons]
        have happ : lead space ++ (s ++ String.ofList [separator, ' '] ++
            (String.ofList [separator, ' ']).intercalate (t :: ss)).toList ++ rest = lead space ++ s.toList ++
              separator :: (lead true ++ ((String.ofList [separator, ' ']).intercalate (t :: ss)).toList ++
                rest) := by
          simp [lead]
        have hone (cs : List Char) : scan (separator :: cs) = prepend [u.spaced false] (scan cs) :=
          scan_single hsep false cs
        rw [happ, hs.scan_eq space _ (hends _), hone, hrest, prepend_prepend, prepend_prepend]
        simp [listing]

lemma items (h : List.Forall₂ Written ss fs) (rest : List Char) (hr : ends rest = true) :
    scan ((commaSeparated ss).toList ++ rest) = prepend (listing .comma false fs) (scan rest) := by
  cases h with
  | nil => simp [commaSeparated, listing]
  | cons hs h => exact listing_cons rfl (fun _ => rfl) (.cons hs h) false hr

lemma tuple (h : List.Forall₂ Written ss fs) : Written (tupleText ss) (Wording.tuple fs) := by
  have hlen := h.length_eq
  by_cases hone : ss.length = 1
  · have happ : tupleText ss = "(" ++ (commaSeparated ss ++ ",") ++ ")" := by
      rw [tupleText, if_pos hone, String.append_assoc, String.append_assoc, String.append_assoc]
      rfl
    rw [happ, Wording.tuple, if_pos (by omega)]
    refine parens fun rest hr => ?_
    have hcomma : scan (',' :: rest) = prepend [Token.comma.spaced false] (scan rest) := scan_single rfl false rest
    rw [String.toList_append, List.append_assoc, items h _ rfl,
      show ",".toList ++ rest = ',' :: rest from rfl, hcomma, prepend_prepend]
  · rw [tupleText, if_neg hone, Wording.tuple, if_neg (by omega), List.append_nil]
    exact parens (items h)

lemma block (h : List.Forall₂ Written ss fs) : Written (blockText ss) (Wording.block fs) := by
  have hb : isName "begin" = true := by decide
  have hend : Written "end" (Token.ident "end").alone := ident (by decide)
  constructor
  · intro space rest hr
    have hlast : scan (' ' :: 'e' :: 'n' :: 'd' :: rest) = prepend [(Token.ident "end").spaced true] (scan rest) :=
      hend.scan_eq true rest hr
    cases h with
    | nil =>
      have happ : lead space ++ (blockText []).toList ++ rest =
          lead space ++ "begin".toList ++ ' ' :: 'e' :: 'n' :: 'd' :: rest := by simp [blockText]
      rw [happ, scan_ident space rfl hb, hlast, prepend_prepend]
      rfl
    | @cons s f ss fs hs h =>
      have happ : lead space ++ (blockText (s :: ss)).toList ++ rest = lead space ++ "begin".toList ++
          (lead true ++ ("; ".intercalate (s :: ss)).toList ++ ' ' :: 'e' :: 'n' :: 'd' :: rest) := by
        simp [blockText, lead]
      rw [happ, scan_ident space rfl hb, listing_cons rfl (fun _ => rfl) (.cons hs h) true rfl, hlast,
        prepend_prepend, prepend_prepend]
      simp [Wording.block]
  · cases ss with
    | nil => exact ⟨'b', _, rfl, by decide, by decide⟩
    | cons s ss => exact ⟨'b', _, by simp [blockText]; rfl, by decide, by decide⟩

lemma params {xs : List String} (h : ∀ x ∈ xs, isName x = true) : Written (paramsText xs) (Wording.params xs) := by
  have hall : List.Forall₂ Written xs (xs.map fun x => (Token.ident x).alone) := by
    rw [List.forall₂_map_right_iff]
    exact List.forall₂_same.mpr fun x hx => ident (h x hx)
  rcases xs with _ | ⟨x, _ | ⟨y, xs⟩⟩
  · exact parens (items hall)
  · exact ident (h x List.mem_cons_self)
  · exact parens (items hall)

lemma natural {n : Nat} (hn : n < 2 ^ 63) : Written n.repr (Token.int (Int64.ofNat n)).alone := by
  refine ⟨fun space rest hr => scan_natural hn space hr, ?_⟩
  cases hds : Nat.toDigits 10 n with
  | nil => exact absurd hds Nat.toDigits_ne_nil
  | cons c cs =>
    have hc : c.isDigit = true := by
      refine Nat.isDigit_of_mem_toDigits (b := 10) (n := n) (by decide) (by decide) ?_
      rw [hds]
      exact List.mem_cons_self
    refine ⟨c, cs, by rw [Nat.repr, String.toList_ofList, hds], ?_, ?_⟩
    all_goals
      rintro rfl
      exact absurd hc (by decide)

lemma int {n : Int64} (hn : n ≠ Int64.minValue) : Written n.toInt.repr (Value.int n).lexemes := by
  obtain ⟨hlo, hhi⟩ := ne_minValue_iff.mp hn
  cases hi : n.toInt with
  | ofNat k =>
    have hk : k < 2 ^ 63 := by
      rw [hi, Int.ofNat_eq_natCast] at hhi
      omega
    have hn : n = Int64.ofNat k := by
      rw [← Int64.toInt_inj, Int64.toInt_ofNat_of_lt hk, hi]
      rfl
    have hneg : ¬ n < 0 := by
      rw [Int64.lt_iff_toInt_lt, hi]
      simp
    have hlex : (Value.int n).lexemes = (Token.int (Int64.ofNat k)).alone := by
      funext space
      simp only [Value.lexemes, if_neg hneg, ← hn, Token.alone]
    rw [hlex]
    exact natural hk
  | negSucc k =>
    have hk : k + 1 < 2 ^ 63 := by omega
    have hn : -n = Int64.ofNat (k + 1) := by
      rw [← Int64.toInt_inj, Int64.toInt_ofNat_of_lt hk, Int64.toInt_neg, hi, Int.neg_negSucc]
      refine Int.bmod_eq_of_le ?_ ?_ <;> omega
    have hneg : n < 0 := by
      rw [Int64.lt_iff_toInt_lt, hi]
      exact Int.negSucc_lt_zero k
    have hlex : (Value.int n).lexemes = fun space => (Token.op "-").spaced space ::
        (Token.int (Int64.ofNat (k + 1))).alone false := by
      funext space
      simp only [Value.lexemes, if_pos hneg, hn, Token.alone]
    rw [hlex]
    exact signed (.inl rfl) (natural hk)

end Written

def Expr.isNumber : Expr → Bool
  | .literal (.int _) | .literal (.float _) => true
  | _ => false

inductive Legible (reserved : List String) : Expr → Prop
  | int {n} : n ≠ Int64.minValue → Legible reserved (.literal (.int n))
  | str (s) : Legible reserved (.literal (.str s))
  | bool (b) : Legible reserved (.literal (.bool b))
  | missing : Legible reserved (.literal .missing)
  | ident {x} : isName x = true → x ∉ reserved → Legible reserved (.ident x)
  | quote {x} : isName x = true → Legible reserved (.quote x)
  | interp {e} : Legible reserved e → Legible reserved (.interp e)
  | infixed {op b l r} : binding? op = some b → Legible reserved l → Legible reserved r →
      Legible reserved (.apply op [l, r])
  | unary {op e} : op = "-" ∨ op = "!" → (op = "-" → e.isNumber = false) → Legible reserved e →
      Legible reserved (.apply op [e])
  | call {f} {as : Parse.Arguments} : Legible reserved f → (∀ e ∈ as.positional, Legible reserved e) →
      (∀ e ∈ as.positional, Parse.named? e = none) → (∀ k ∈ as.keywords, isName k.1 = true ∧ k.1 ∉ reserved) →
      (∀ k ∈ as.keywords, Legible reserved k.2) → Legible reserved (.call f as.toList)
  | index {t es} : Legible reserved t → (∀ e ∈ es, Legible reserved e) → Legible reserved (.index t es)
  | field {t x} : Legible reserved t → isName x = true → Legible reserved (.field t x)
  | assign {s v} : Legible reserved s → Legible reserved v → Legible reserved (.assign s v)
  | flagged {flags e} : isFlagText flags = true → Legible reserved e → Legible reserved (.flagged flags e)
  | block {es} : (∀ e ∈ es, Legible reserved e) → Legible reserved (.block es)
  | tuple {es} : (∀ e ∈ es, Legible reserved e) → (es = [] ∨ ∃ e ∈ es, Parse.named? e = none) →
      Legible reserved (.tuple es)
  | namedTuple {fs} : (∀ f ∈ fs, isName f.1 = true ∧ f.1 ∉ reserved) → (∀ f ∈ fs, Legible reserved f.2) →
      Legible reserved (.namedTuple fs)
  | vector {es} : (∀ e ∈ es, Legible reserved e) → Legible reserved (.vector es)
  | lambda {xs e} :
      (∀ x ∈ xs, isName x = true ∧ x ∉ reserved) → Legible reserved e → Legible reserved (.lambda xs e)
  | pair {l r} : Legible reserved l → Legible reserved r → Legible reserved (.pair l r)

lemma mem_infixSymbols_of_baseBinding? {op : String} {b : Binding} (h : baseBinding? op = some b) :
    op ∈ infixSymbols ∧ "." ++ op ∈ infixSymbols := by
  unfold baseBinding? at h
  split at h <;> first | cases h; done | decide

lemma mem_infixSymbols_of_binding? {op : String} {b : Binding} (h : binding? op = some b) : op ∈ infixSymbols := by
  rw [binding?] at h
  have hm := mem_infixSymbols_of_baseBinding? h
  unfold undotted at hm
  split at hm
  next c cs hop =>
    have hdot : op = "." ++ String.ofList (c :: cs) := by
      rw [← String.ofList_toList (s := op), hop]
      simp
    rw [hdot]
    exact hm.2
  next => exact hm.1

lemma binding?_of_isName {x : String} (h : isName x = true) : binding? x = none ∧ isUnary x = false := by
  constructor
  · cases hb : binding? x with
    | none => rfl
    | some b =>
      have hm := mem_infixSymbols_of_binding? hb
      unfold infixSymbols at hm
      fin_cases hm <;> exact absurd h (by decide)
  · rw [Bool.eq_false_iff, isUnary, ne_eq, Bool.or_eq_true, Bool.or_eq_true, beq_iff_eq, beq_iff_eq, beq_iff_eq]
    rintro ((rfl | rfl) | rfl) <;> exact absurd h (by decide)

lemma Legible.not_operator {reserved : List String} {f : Expr} (h : Legible reserved f) :
    ∀ x, f = .ident x → binding? x = none ∧ isUnary x = false := by
  rintro x rfl
  cases h with
  | ident hx => exact binding?_of_isName hx

lemma isUnary_of_sign {op : String} (h : op = "-" ∨ op = "!") : isUnary op = true := by
  rcases h with rfl | rfl <;> rfl

section Calls

section Operators

variable {op : String} {b : Binding}

lemma renderAt_infixed (hb : binding? op = some b) (min : Nat) (l r : Expr) : (Expr.apply op [l, r]).renderAt min =
    parenthesized (b.level < min) (l.renderAt b.leftLevel ++ (" " ++ op ++ " ") ++ r.renderAt b.rightLevel) := by
  simp [Expr.apply, Expr.renderAt, hb, String.append_assoc]

lemma lexemesAt_infixed (hb : binding? op = some b) (min : Nat) (l r : Expr) :
    (Expr.apply op [l, r]).lexemesAt min =
    wrapped (b.level < min) (infixed (l.lexemesAt b.leftLevel) op (r.lexemesAt b.rightLevel)) := by
  simp [Expr.apply, Expr.lexemesAt, hb]

lemma renderAt_unary (hu : isUnary op = true) (min : Nat) (e : Expr) :
    (Expr.apply op [e]).renderAt min = parenthesized (unaryLevel < min) (op ++ e.renderAt unaryLevel) :=
  if_pos hu

lemma lexemesAt_unary (hu : isUnary op = true) (min : Nat) (e : Expr) : (Expr.apply op [e]).lexemesAt min =
    wrapped (unaryLevel < min) fun space => (Token.op op).spaced space :: e.lexemesAt unaryLevel false :=
  if_pos hu

end Operators

variable {f : Expr} (hf : ∀ x, f = .ident x → binding? x = none ∧ isUnary x = false)
include hf

lemma renderAt_call (min : Nat) (args : List Expr) :
    (Expr.call f args).renderAt min =
      f.renderAt atomLevel ++ ("(" ++ commaSeparated (args.map (·.renderAt 0)) ++ ")") := by
  rw [← Expr.renderItems_eq]
  cases f with
  | ident x =>
    obtain ⟨hb, hu⟩ := hf x rfl
    rcases args with _ | ⟨a, _ | ⟨b, _ | ⟨c, args⟩⟩⟩
    all_goals simp [Expr.renderAt, hb, hu, Expr.renderItems, commaSeparated, String.append_assoc,
      String.intercalate_cons_cons]
  | _ =>
    rw [← String.append_assoc, ← String.append_assoc]
    rfl

lemma lexemesAt_call (min : Nat) (args : List Expr) :
    (Expr.call f args).lexemesAt min = fun space => f.lexemesAt atomLevel space ++
      bracketed .openParen .closeParen (listing .comma false (args.map (·.lexemesAt 0))) false := by
  rw [← Expr.lexemesOf_eq]
  cases f with
  | ident x =>
    obtain ⟨hb, hu⟩ := hf x rfl
    rcases args with _ | ⟨a, _ | ⟨b, _ | ⟨c, args⟩⟩⟩
    all_goals simp [Expr.lexemesAt, hb, hu, Expr.lexemesOf, Token.alone, listing]
  | _ => rfl

end Calls

lemma Parse.Arguments.forall_toList {as : Parse.Arguments} {P : Expr → Prop} :
    (∀ e ∈ as.toList, P e) ↔ (∀ e ∈ as.positional, P e) ∧ ∀ k ∈ as.keywords, P (.keyword k.1 k.2) := by
  simp only [Parse.Arguments.toList, List.forall_mem_append, List.forall_mem_map]

lemma Written.forall₂_map {es : List Expr} (h : ∀ e ∈ es, Written (e.renderAt 0) (e.lexemesAt 0)) :
    List.Forall₂ Written (es.map (·.renderAt 0)) (es.map (·.lexemesAt 0)) := by
  rw [List.forall₂_map_left_iff, List.forall₂_map_right_iff]
  exact List.forall₂_same.mpr h

lemma Written.named {x : String} (hx : isName x = true) {s : String} {f : Wording} (h : Written s f) :
    Written (x ++ " = " ++ s) (Wording.infixed (Token.ident x).alone "=" f) :=
  (Written.ident hx).infixed (by decide) rfl h

lemma Written.hole {e : Expr} (h : Written (e.renderAt 0) (e.lexemesAt 0)) (min : Nat) :
    Written ((Expr.interp e).renderAt min) ((Expr.interp e).lexemesAt min) := by
  have hdollar (space : Bool) (cs : List Char) :
      scan (lead space ++ '$' :: cs) = prepend [Token.dollar.spaced space] (scan cs) := scan_single rfl space cs
  rw [Expr.renderAt, Expr.lexemesAt, holeText]
  split
  · refine ⟨fun space rest hr => ?_, '$', _, by simp; rfl, by decide, by decide⟩
    have happ : lead space ++ ("$" ++ e.renderAt 0).toList ++ rest =
        lead space ++ '$' :: ((e.renderAt 0).toList ++ rest) := by simp
    rw [happ, hdollar, h.inner rest hr, prepend_prepend]
    rfl
  · refine ⟨fun space rest hr => ?_, '$', _, by simp; rfl, by decide, by decide⟩
    have happ : lead space ++ ("$(" ++ e.renderAt 0 ++ ")").toList ++ rest =
        lead space ++ '$' :: (("(" ++ e.renderAt 0 ++ ")").toList ++ rest) := by simp
    rw [happ, hdollar, (Written.parens h.inner).inner rest hr, prepend_prepend]
    rfl

theorem Legible.written {reserved : List String} {e : Expr} (h : Legible reserved e) (min : Nat) :
    Written (e.renderAt min) (e.lexemesAt min) := by
  induction h generalizing min with
  | int hn => exact .int hn
  | str s => exact .str s
  | bool b => cases b with
    | false => exact .ident (x := "false") (by decide)
    | true => exact .ident (x := "true") (by decide)
  | missing => exact .ident (x := "missing") (by decide)
  | ident hx => exact .ident hx
  | quote hx => exact .quote hx
  | interp _ ih => exact .hole (ih 0) min
  | infixed hb _ _ ihl ihr =>
    rw [renderAt_infixed hb, lexemesAt_infixed hb]
    exact ((ihl _).infixed (mem_infixSymbols_of_binding? hb) rfl (ihr _)).parenthesized _
  | unary hop _ _ ih =>
    have hu : isUnary _ = true := isUnary_of_sign hop
    rw [renderAt_unary hu, lexemesAt_unary hu]
    exact ((ih _).signed hop).parenthesized _
  | @call f as hf _ _ hks _ ih ihes ihks =>
    rw [renderAt_call hf.not_operator, lexemesAt_call hf.not_operator]
    have hargs : ∀ e ∈ as.toList, Written (e.renderAt 0) (e.lexemesAt 0) := by
      refine Parse.Arguments.forall_toList.mpr ⟨fun e he => ihes e he 0, fun k hk => ?_⟩
      exact .named (hks k hk).1 (ihks k hk 0)
    have hparens := Written.parens (Written.items (Written.forall₂_map hargs))
    exact (ih atomLevel).followed (fun _ => by simp [ends]) hparens.inner
  | @index t es _ _ ih ihes =>
    rw [Expr.renderAt, Expr.lexemesAt, Expr.renderItems_eq, Expr.lexemesOf_eq, String.append_assoc,
      String.append_assoc]
    have hsquares := Written.squares (Written.items (Written.forall₂_map fun e he => ihes e he 0))
    rw [String.append_assoc] at hsquares
    exact (ih atomLevel).followed (fun _ => by simp [ends]) hsquares.inner
  | field _ hx ih =>
    rw [Expr.renderAt, Expr.lexemesAt]
    exact (ih atomLevel).dotted hx
  | assign _ _ ihs ihv =>
    rw [Expr.renderAt, Expr.lexemesAt]
    have h : Written (_ ++ " = " ++ _) (Wording.infixed _ "=" _) := (ihs atomLevel).infixed (by decide) rfl (ihv 0)
    exact h.parenthesized _
  | @flagged flags e hf _ ih =>
    rw [Expr.renderAt, Expr.lexemesAt]
    refine Written.parenthesized ⟨fun space rest hr => ?_, '@', _, by simp; rfl, by decide, by decide⟩ _
    have happ : lead space ++ ("@" ++ flags ++ " " ++ e.renderAt 0).toList ++ rest =
        lead space ++ ("@" ++ flags).toList ++ (lead true ++ (e.renderAt 0).toList ++ rest) := by simp [lead]
    rw [happ, scan_marker space rfl hf, (ih 0).scan_eq true rest hr, prepend_prepend]
    rfl
  | block _ ihes =>
    rw [Expr.renderAt, Expr.lexemesAt, Expr.renderItems_eq, Expr.lexemesOf_eq]
    exact .block (Written.forall₂_map fun e he => ihes e he 0)
  | tuple _ _ ihes =>
    rw [Expr.renderAt, Expr.lexemesAt, Expr.renderItems_eq, Expr.lexemesOf_eq]
    exact .tuple (Written.forall₂_map fun e he => ihes e he 0)
  | @namedTuple fs hn _ ih =>
    cases fs with
    | nil =>
      have hsemi (rest : List Char) : scan (';' :: rest) = prepend [Token.semicolon.spaced false] (scan rest) :=
        scan_single rfl false rest
      have h : Written ("(" ++ ";" ++ ")") _ := .parens fun rest _ => hsemi rest
      exact h
    | cons f fs =>
      rw [Expr.renderAt, Expr.lexemesAt, Expr.renderFields_eq, Expr.lexemesOfFields_eq]
      · refine .tuple ?_
        rw [List.forall₂_map_left_iff, List.forall₂_map_right_iff]
        exact List.forall₂_same.mpr fun f hf => .named (hn f hf).1 (ih f hf 0)
      · simp
      · simp
  | vector _ ihes =>
    rw [Expr.renderAt, Expr.lexemesAt, Expr.renderItems_eq, Expr.lexemesOf_eq]
    exact .squares (Written.items (Written.forall₂_map fun e he => ihes e he 0))
  | lambda hxs _ ih =>
    rw [Expr.renderAt, Expr.lexemesAt]
    have hparams := Written.params fun x hx => (hxs x hx).1
    have h : Written (_ ++ " -> " ++ _) (Wording.infixed _ "->" _) := hparams.infixed (by decide) rfl (ih 0)
    exact h.parenthesized _
  | pair _ _ ihl ihr =>
    rw [Expr.renderAt, Expr.lexemesAt]
    have h : Written (_ ++ " => " ++ _) (Wording.infixed _ "=>" _) :=
      (ihl (pairLevel + 1)).infixed (by decide) rfl (ihr pairLevel)
    exact h.parenthesized _

lemma Legible.scan_render {reserved : List String} {e : Expr} (h : Legible reserved e) :
    scan e.render.toList = (e.lexemesAt 0 false ++ [Token.eof.spaced false], none) := by
  have hs := (h.written 0).scan_eq false [] rfl
  rw [scan_nil, List.append_nil] at hs
  exact hs

end Tabular
