import Tabular.Proofs.Budget

namespace Tabular.Parse

open Cursor Operator

/-- The outcome of one round of a loop: its result, or the state of the next round and what becomes of the result
that the rounds from there on have. -/
inductive Round (σ ρ : Type) where
  | leave (r : ρ)
  | again (s : σ) (finish : ρ → ρ)

def Round.goOn {σ ρ : Type} (f : σ → Except ParseError ρ) : Round σ ρ → Except ParseError ρ
  | leave r => return r
  | again s finish => do return finish (← f s)

/-- The reader `f` is a loop with the given rounds, and each round that does not leave it goes over a lexeme. -/
structure Loops {σ ρ : Type} (f : Nat → σ → Except ParseError ρ) (round : Nat → σ → Except ParseError (Round σ ρ))
    (place : σ → Cursor) : Prop where
  eq_round : ∀ n s, f (n + 1) s = round n s >>= Round.goOn (f n)
  passes : ∀ {n s t finish}, round n s = .ok (.again t finish) → (place s).Passes (place t)

section Rounds

variable (n : Nat)

def infixRound (min : Nat) : Expr × Cursor → Except ParseError (Round (Expr × Cursor) (Expr × Cursor))
  | (lhs, c) =>
    match c.infixOperator? with
    | none => return .leave (lhs, c)
    | some (op, binding) =>
      if binding.level < min then return .leave (lhs, c)
      else do
        let c ← c.advance
        let (rhs, c) ← infixExpression n binding.rightLevel c
        let e ← infixExpr op lhs rhs
        return .again (e, c) id

def postfixRound : Expr × Cursor → Except ParseError (Round (Expr × Cursor) (Expr × Cursor))
  | (e, c) =>
    if c.current.gap.space then return .leave (e, c)
    else match c.token with
      | .openParen => do
        let c ← c.enter
        let (args, c) ← arguments n .closeParen true false c
        let c ← c.leave .closeParen
        return .again (.call e args.toList, c) id
      | .openBracket => do
        let c ← c.enter
        let (indices, c) ← items n .closeBracket c
        let c ← c.leave .closeBracket
        return .again (.index e indices, c) id
      | .dot => do
        let field ← c.advance
        let c ← field.advance
        match field.token with
        | .ident name => return .again (.field e name, c) id
        | other => .error (.expected "field name" other.describe)
      | _ => return .leave (e, c)

def blockRound (c : Cursor) : Except ParseError (Round Cursor (List Expr × Cursor)) :=
  match c.token with
  | .semicolon => return .again (← c.advance) id
  | .ident "end" => return .leave ([], ← c.advance)
  | .eof => .error .unexpectedEnd
  | _ => do
    let (line, c) ← argument n c
    if c.endsLine then return .again c fun (lines, c) => (line :: lines, c)
    else .error (c.unexpected "newline, `;` or `end`")

def tupleRound (c : Cursor) : Except ParseError (Round Cursor ((List Expr × Bool) × Cursor)) :=
  if c.token = .closeParen then return .leave (([], true), c)
  else do
    let (e, c) ← argument n c
    if c.token = .comma then
      let c ← c.advance
      return .again c fun ((es, comma), c) => ((e :: es, comma), c)
    else return .leave (([e], false), c)

def itemRound (closing : Token) (c : Cursor) : Except ParseError (Round Cursor (List Expr × Cursor)) :=
  if c.token = closing then return .leave ([], c)
  else do
    let (e, c) ← argument n c
    if c.token = .comma then
      let c ← c.advance
      return .again c fun (es, c) => (e :: es, c)
    else return .leave ([e], c)

def argumentRound (closing : Token) (named : Bool) :
    Bool × Cursor → Except ParseError (Round (Bool × Cursor) (Arguments × Cursor))
  | (inKeywords, c) =>
    if c.token = closing then return .leave (⟨[], []⟩, c)
    else if c.token = .semicolon then return .again (true, ← c.advance) id
    else do
      let (e, c) ← argument n c
      let a ← argumentOf named inKeywords e
      if c.token = .comma then
        let c ← c.advance
        return .again (inKeywords, c) fun (as, c) => (as.cons a, c)
      else if c.token = .semicolon then return .again (inKeywords, c) fun (as, c) => (as.cons a, c)
      else return .leave (Arguments.cons a ⟨[], []⟩, c)

def spacedRound (c : Cursor) : Except ParseError (Round Cursor (List Expr × Cursor)) :=
  if c.token = .eof then return .leave ([], c)
  else do
    let (e, c) ← argument n c
    return .again c fun (es, c) => (e :: es, c)

end Rounds

section Equations

variable {α β γ : Type}

lemma bind_eq_bind_bind {x : Except ParseError α} {f : α → Except ParseError γ} {g : α → Except ParseError β}
    {k : β → Except ParseError γ} (h : ∀ a, f a = g a >>= k) : x >>= f = (x >>= g) >>= k := by
  cases x with
  | error e => rfl
  | ok a => exact h a

lemma goOn_again_id {σ ρ : Type} (f : σ → Except ParseError ρ) (s : σ) :
    f s = (pure (.again s id) : Except ParseError _) >>= Round.goOn f := (bind_pure (f s)).symm

lemma passes_separated {n : Nat} {c d d' : Cursor} {e : Expr} (ha : argument n c = .ok (e, d))
    (ht : d.token = .comma) (hd : d.advance = .ok d') : c.Passes d' :=
  ((consumes n).argument ha).trans (.advance hd (by simp [ht]))

lemma loops_infixTail (min : Nat) : Loops (fun n s => infixTail n min s.1 s.2) (infixRound · min) Prod.snd where
  eq_round n s := by
    obtain ⟨lhs, c⟩ := s
    dsimp only
    rw [infixTail, infixRound]
    cases c.infixOperator? with
    | none => rfl
    | some p =>
      obtain ⟨op, binding⟩ := p
      dsimp only
      split
      · rfl
      · refine bind_eq_bind_bind fun c => bind_eq_bind_bind ?_
        rintro ⟨rhs, c⟩
        refine bind_eq_bind_bind fun e => ?_
        exact goOn_again_id (fun s => infixTail n min s.1 s.2) (e, c)
  passes {n s t finish} h := by
    obtain ⟨lhs, c⟩ := s
    rw [infixRound] at h
    split at h
    · cases h
    next op binding hop =>
      split at h
      · cases h
      · obtain ⟨c₁, hc, h⟩ := bind_eq_ok.mp h
        obtain ⟨⟨rhs, c₂⟩, hr, h⟩ := bind_eq_ok.mp h
        obtain ⟨e, -, h⟩ := bind_eq_ok.mp h
        cases h
        rw [infixOperator?_eq] at hop
        exact (Passes.advance hc (infixAt?_ne_eof hop)).trans ((consumes n).infixExpression hr)

lemma Cursor.Passes.bracketed {c d c₁ c₂ : Cursor} {t : Token} {ts : List Lexeme} (he : c.enter = .ok c₁)
    (hc : c.token ≠ .eof) (hs : Skips ts c₁ c₂) (hts : ∀ l ∈ ts, l.token ≠ .eof) (hl : c₂.leave t = .ok d)
    (ht : t ≠ .eof) : c.Passes d := by
  obtain ⟨-, hclose, hs⟩ := Skips.bracketed he hs hl
  refine ⟨_, List.cons_ne_nil _ _, ?_, hs⟩
  have hlast : c₂.current.token ≠ .eof := by
    rw [show c₂.current.token = t from hclose]
    exact ht
  exact List.forall_mem_cons.mpr ⟨hc, List.forall_mem_append.mpr ⟨hts, List.forall_mem_singleton.mpr hlast⟩⟩

lemma loops_postfixTail : Loops (fun n s => postfixTail n s.1 s.2) postfixRound Prod.snd where
  eq_round n s := by
    obtain ⟨e, c⟩ := s
    dsimp only
    rw [postfixTail, postfixRound]
    split
    · rfl
    cases c.token with
    | openParen =>
      refine bind_eq_bind_bind fun c => bind_eq_bind_bind ?_
      rintro ⟨as, c⟩
      exact bind_eq_bind_bind fun c => goOn_again_id (fun s => postfixTail n s.1 s.2) (_, c)
    | openBracket =>
      refine bind_eq_bind_bind fun c => bind_eq_bind_bind ?_
      rintro ⟨es, c⟩
      exact bind_eq_bind_bind fun c => goOn_again_id (fun s => postfixTail n s.1 s.2) (_, c)
    | dot =>
      refine bind_eq_bind_bind fun field => bind_eq_bind_bind fun c => ?_
      cases field.token with
      | ident name => exact goOn_again_id (fun s => postfixTail n s.1 s.2) (_, c)
      | _ => rfl
    | _ => rfl
  passes {n s t finish} h := by
    obtain ⟨e, c⟩ := s
    rw [postfixRound] at h
    split at h
    · cases h
    split at h
    next ht =>
      obtain ⟨c₁, he, h⟩ := bind_eq_ok.mp h
      obtain ⟨⟨as, c₂⟩, ha, h⟩ := bind_eq_ok.mp h
      obtain ⟨c₃, hl, h⟩ := bind_eq_ok.mp h
      cases h
      -- what is read between the brackets is a phrase, in which the end of the input does not occur
      obtain ⟨ts, hs, hr, -⟩ := (sound n).arguments ha (by simp)
      exact .bracketed he (by simp [ht]) hs hr.ne_eof hl (by simp)
    next ht =>
      obtain ⟨c₁, he, h⟩ := bind_eq_ok.mp h
      obtain ⟨⟨es, c₂⟩, hi, h⟩ := bind_eq_ok.mp h
      obtain ⟨c₃, hl, h⟩ := bind_eq_ok.mp h
      cases h
      obtain ⟨ts, comma, hs, hr⟩ := (sound n).items hi
      exact .bracketed he (by simp [ht]) hs hr.ne_eof hl (by simp)
    next ht =>
      obtain ⟨c₁, hc, h⟩ := bind_eq_ok.mp h
      obtain ⟨c₂, hc₁, h⟩ := bind_eq_ok.mp h
      split at h
      next name hname =>
        cases h
        exact (Passes.advance hc (by simp [ht])).trans (.advance hc₁ (by simp [hname]))
      next => cases h
    next => cases h

lemma loops_blockLines : Loops blockLines blockRound id where
  eq_round n c := by
    rw [blockLines]
    split
    next ht =>
      simp only [blockRound, ht]
      exact bind_eq_bind_bind fun c => goOn_again_id (blockLines n) c
    next ht =>
      simp only [blockRound, ht]
      exact bind_eq_bind_bind fun c => rfl
    next ht =>
      simp only [blockRound, ht]
      rfl
    next hsemi hend heof =>
      rw [blockRound]
      split
      next ht => exact absurd ht hsemi
      next ht => exact absurd ht hend
      next ht => exact absurd ht heof
      refine bind_eq_bind_bind ?_
      rintro ⟨line, c⟩
      dsimp only
      split <;> rfl
  passes {n c d finish} h := by
    rw [blockRound] at h
    split at h
    next ht =>
      obtain ⟨c₁, hc, h⟩ := bind_eq_ok.mp h
      cases h
      exact .advance hc (by simp [ht])
    next =>
      obtain ⟨c₁, hc, h⟩ := bind_eq_ok.mp h
      cases h
    next => cases h
    next =>
      obtain ⟨⟨line, c₁⟩, hl, h⟩ := bind_eq_ok.mp h
      dsimp only at h
      split at h
      · cases h
        exact (consumes n).argument hl
      · cases h

lemma loops_tupleItems : Loops tupleItems tupleRound id where
  eq_round n c := by
    rw [tupleItems, tupleRound]
    split
    · rfl
    · refine bind_eq_bind_bind ?_
      rintro ⟨e, c⟩
      dsimp only
      split
      · exact bind_eq_bind_bind fun c => rfl
      · rfl
  passes {n c d finish} h := by
    rw [tupleRound] at h
    split at h
    · cases h
    · obtain ⟨⟨e, c₁⟩, ha, h⟩ := bind_eq_ok.mp h
      dsimp only at h
      split at h
      next ht =>
        obtain ⟨c₂, hc, h⟩ := bind_eq_ok.mp h
        cases h
        exact passes_separated ha ht hc
      next => cases h

lemma loops_items (closing : Token) : Loops (items · closing) (itemRound · closing) id where
  eq_round n c := by
    rw [items, itemRound]
    split
    · rfl
    · refine bind_eq_bind_bind ?_
      rintro ⟨e, c⟩
      dsimp only
      split
      · exact bind_eq_bind_bind fun c => rfl
      · rfl
  passes {n c d finish} h := by
    rw [itemRound] at h
    split at h
    · cases h
    · obtain ⟨⟨e, c₁⟩, ha, h⟩ := bind_eq_ok.mp h
      dsimp only at h
      split at h
      next ht =>
        obtain ⟨c₂, hc, h⟩ := bind_eq_ok.mp h
        cases h
        exact passes_separated ha ht hc
      next => cases h

lemma loops_arguments (closing : Token) (named : Bool) :
    Loops (fun n s => arguments n closing named s.1 s.2) (argumentRound · closing named) Prod.snd where
  eq_round n s := by
    obtain ⟨inKeywords, c⟩ := s
    dsimp only
    rw [arguments, argumentRound]
    split
    · rfl
    split
    · exact bind_eq_bind_bind fun c => goOn_again_id (fun s => arguments n closing named s.1 s.2) (true, c)
    · refine bind_eq_bind_bind ?_
      rintro ⟨e, c⟩
      refine bind_eq_bind_bind fun a => ?_
      dsimp only
      split
      · exact bind_eq_bind_bind fun c => rfl
      split <;> rfl
  passes {n s t finish} h := by
    obtain ⟨inKeywords, c⟩ := s
    rw [argumentRound] at h
    split at h
    · cases h
    split at h
    next ht =>
      obtain ⟨c₁, hc, h⟩ := bind_eq_ok.mp h
      cases h
      exact .advance hc (by simp [ht])
    next =>
      obtain ⟨⟨e, c₁⟩, ha, h⟩ := bind_eq_ok.mp h
      obtain ⟨a, -, h⟩ := bind_eq_ok.mp h
      dsimp only at h
      split at h
      next ht =>
        obtain ⟨c₂, hc, h⟩ := bind_eq_ok.mp h
        cases h
        exact passes_separated ha ht hc
      split at h
      · cases h
        exact (consumes n).argument ha
      · cases h

lemma loops_argumentsToEnd : Loops argumentsToEnd spacedRound id where
  eq_round n c := by
    rw [argumentsToEnd, spacedRound]
    split
    · rfl
    · exact bind_eq_bind_bind fun p => rfl
  passes {n c d finish} h := by
    rw [spacedRound] at h
    split at h
    · cases h
    · obtain ⟨⟨e, c₁⟩, ha, h⟩ := bind_eq_ok.mp h
      cases h
      exact (consumes n).argument ha

structure AllLoops : Prop where
  infixTail (min : Nat) : Loops (fun n s => infixTail n min s.1 s.2) (infixRound · min) Prod.snd
  postfixTail : Loops (fun n s => postfixTail n s.1 s.2) postfixRound Prod.snd
  tupleItems : Loops tupleItems tupleRound id
  blockLines : Loops blockLines blockRound id
  items (closing : Token) : Loops (items · closing) (itemRound · closing) id
  arguments (closing : Token) (named : Bool) :
    Loops (fun n s => arguments n closing named s.1 s.2) (argumentRound · closing named) Prod.snd
  argumentsToEnd : Loops argumentsToEnd spacedRound id

theorem allLoops : AllLoops where
  infixTail := loops_infixTail
  postfixTail := loops_postfixTail
  tupleItems := loops_tupleItems
  blockLines := loops_blockLines
  items := loops_items
  arguments := loops_arguments
  argumentsToEnd := loops_argumentsToEnd

end Equations

end Tabular.Parse
