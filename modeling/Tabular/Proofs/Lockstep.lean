import Tabular.Parse
import Tabular.Proofs.Depth

/-!
Two readings of one text side by side: a relation that each of their steps keeps holds between what they come to.
One of the two may read in a way of its own, and each has its own number of steps.
-/

namespace Tabular.Parse

open Cursor

variable {ε : Type} [Reading ε]

/-- A relation between the outcomes of the steps of two readings, at places where `I` holds. The second reads
plainly, and it is the one that says how far the two have come. -/
structure Lockstep (R : ∀ {α : Type}, Except ε α → Except ParseError α → Prop) (I : Cursor → Prop) : Prop where
  ok {α : Type} (a : α) : R (.ok a) (.ok a)
  lift {α : Type} (x : Except ParseError α) : R (liftM x) x
  bind {α β : Type} {x : Except ε α} {y : Except ParseError α} {f : α → Except ε β} {g : α → Except ParseError β} :
    R x y → (∀ a, y = .ok a → R (f a) (g a)) → R (x >>= f) (y >>= g)
  leave {c d e : Cursor} : I c → c.enter = .ok d → d.Reaches e →
    ∀ closing, R (Reading.leave e closing) (e.leave closing)
  unaryExpr {n min : ℕ} {c d : Cursor} {e : Expr} : I c → infixExpression n min c = .ok (e, d) →
    ∀ op, R (Reading.unaryExpr op e) (.ok (unaryExpr op e))
  start {s : String} {depth : ℕ} {c : Cursor} : Cursor.start s depth = .ok c → I c
  reaches {c d : Cursor} : I c → c.Reaches d → I d
  withDepth {c : Cursor} : I c → ∀ k, I (c.withDepth k)

structure Abreast (R : ∀ {α : Type}, Except ε α → Except ParseError α → Prop) (I : Cursor → Prop) (n m : ℕ) :
    Prop where
  argument : ∀ {c}, I c → R (argument n c) (argument m c)
  infixExpression : ∀ {c}, I c → ∀ min, R (infixExpression n min c) (infixExpression m min c)
  infixTail : ∀ {c}, I c → ∀ min lhs, R (infixTail n min lhs c) (infixTail m min lhs c)
  unaryExpression : ∀ {c}, I c → R (unaryExpression n c) (unaryExpression m c)
  postfixExpression : ∀ {c}, I c → R (postfixExpression n c) (postfixExpression m c)
  postfixTail : ∀ {c}, I c → ∀ e, R (postfixTail n e c) (postfixTail m e c)
  primary : ∀ {c}, I c → R (primary n c) (primary m c)
  blockLines : ∀ {c}, I c → R (blockLines n c) (blockLines m c)
  tupleItems : ∀ {c}, I c → R (tupleItems n c) (tupleItems m c)
  items : ∀ {c}, I c → ∀ closing, R (items n closing c) (items m closing c)
  arguments : ∀ {c}, I c → ∀ closing named inKeywords,
    R (arguments n closing named inKeywords c) (arguments m closing named inKeywords c)
  argumentsToEnd : ∀ {c}, I c → R (argumentsToEnd n c) (argumentsToEnd m c)

namespace Lockstep

variable {R : ∀ {α : Type}, Except ε α → Except ParseError α → Prop} {I : Cursor → Prop} (h : Lockstep R I)
include h

section Places

variable {c d : Cursor} (hc : I c)
include hc

lemma advance (hd : c.advance = .ok d) : I d := h.reaches hc (.advance hd)

lemma entered (hd : c.enter = .ok d) : I d := by
  obtain ⟨c₁, hc₁, rfl⟩ := enter_eq_ok hd
  exact h.withDepth (h.advance hc hc₁) _

lemma left {t : Token} (hd : c.leave t = .ok d) : I d := by
  obtain ⟨-, c₁, hc₁, rfl⟩ := leave_eq_ok hd
  exact h.withDepth (h.advance hc hc₁) _

end Places

section Steps

lemma fail {α : Type} (e : ParseError) : R (fail e : Except ε α) (.error e) := h.lift _

lemma lift_bind {α β : Type} (y : Except ParseError α) {f : α → Except ε β} {g : α → Except ParseError β}
    (hf : ∀ a, y = .ok a → R (f a) (g a)) : R (liftM y >>= f) (y >>= g) :=
  h.bind (h.lift y) hf

end Steps

section Grammar

variable {n m : ℕ} (ih : Abreast R I n m) {c : Cursor} (hc : I c)
include ih hc

lemma argument_succ : R (Parse.argument (n + 1) c) (Parse.argument (m + 1) c) := by
  rw [Parse.argument, Parse.argument]
  cases c.token with
  | marker => exact h.lift_bind _ fun c₁ h₁ => h.bind (ih.argument (h.advance hc h₁)) fun _ _ => h.ok _
  | _ =>
    refine h.bind (ih.infixExpression hc 0) ?_
    rintro ⟨lhs, c₁⟩ h₁
    have hc₁ := h.reaches hc ((leads m).infixExpression h₁)
    dsimp only
    split
    · exact h.lift_bind _ fun c₂ h₂ => h.bind (ih.argument (h.advance hc₁ h₂)) fun _ _ => h.ok _
    · exact h.ok _

lemma infixExpression_succ (min : ℕ) : R (infixExpression (n + 1) min c) (infixExpression (m + 1) min c) := by
  rw [infixExpression, infixExpression]
  refine h.bind (ih.unaryExpression hc) ?_
  rintro ⟨lhs, c₁⟩ h₁
  exact ih.infixTail (h.reaches hc ((leads m).unaryExpression h₁)) min lhs

lemma infixTail_succ (min : ℕ) (lhs : Expr) : R (infixTail (n + 1) min lhs c) (infixTail (m + 1) min lhs c) := by
  rw [infixTail, infixTail]
  cases c.infixOperator? with
  | none => exact h.ok _
  | some operator =>
    dsimp only
    split
    · exact h.ok _
    refine h.lift_bind _ fun c₁ h₁ => h.bind (ih.infixExpression (h.advance hc h₁) _) ?_
    rintro ⟨rhs, c₂⟩ h₂
    have hc₂ := h.reaches (h.advance hc h₁) ((leads m).infixExpression h₂)
    exact h.lift_bind _ fun e _ => ih.infixTail hc₂ min e

lemma unaryExpression_succ : R (unaryExpression (n + 1) c) (unaryExpression (m + 1) c) := by
  rw [unaryExpression, unaryExpression]
  cases c.token with
  | op symbol =>
    dsimp only
    split
    · refine h.lift_bind _ fun c₁ h₁ => h.bind (ih.infixExpression (h.advance hc h₁) _) ?_
      rintro ⟨operand, c₂⟩ h₂
      exact h.bind (h.unaryExpr (h.advance hc h₁) h₂ symbol) fun _ _ => h.ok _
    · exact ih.postfixExpression hc
  | _ => exact ih.postfixExpression hc

lemma postfixExpression_succ : R (postfixExpression (n + 1) c) (postfixExpression (m + 1) c) := by
  rw [postfixExpression, postfixExpression]
  refine h.bind (ih.primary hc) ?_
  rintro ⟨e, c₁⟩ h₁
  exact ih.postfixTail (h.reaches hc ((leads m).primary h₁)) e

lemma postfixTail_succ (e : Expr) : R (postfixTail (n + 1) e c) (postfixTail (m + 1) e c) := by
  rw [postfixTail, postfixTail]
  split
  · exact h.ok _
  cases c.token with
  | openParen =>
    refine h.lift_bind _ fun c₁ h₁ => h.bind (ih.arguments (h.entered hc h₁) _ _ _) ?_
    rintro ⟨as, c₂⟩ h₂
    have hr₂ := (leads m).arguments h₂
    refine h.bind (h.leave hc h₁ hr₂ _) fun c₃ h₃ => ?_
    exact ih.postfixTail (h.left (h.reaches (h.entered hc h₁) hr₂) h₃) _
  | openBracket =>
    refine h.lift_bind _ fun c₁ h₁ => h.bind (ih.items (h.entered hc h₁) _) ?_
    rintro ⟨es, c₂⟩ h₂
    have hr₂ := (leads m).items h₂
    refine h.bind (h.leave hc h₁ hr₂ _) fun c₃ h₃ => ?_
    exact ih.postfixTail (h.left (h.reaches (h.entered hc h₁) hr₂) h₃) _
  | dot =>
    refine h.lift_bind _ fun c₁ h₁ => h.lift_bind _ fun c₂ h₂ => ?_
    cases c₁.token with
    | ident => exact ih.postfixTail (h.advance (h.advance hc h₁) h₂) _
    | _ => exact h.fail _
  | _ => exact h.ok _

lemma primary_succ : R (primary (n + 1) c) (primary (m + 1) c) := by
  cases ha : atom? c.token with
  | some e =>
    rw [primary_of_atom? ha, primary_of_atom? ha]
    exact h.lift_bind _ fun _ _ => h.ok _
  | none =>
    rw [primary, primary]
    cases ht : c.token with
    | ident name =>
      obtain rfl : name = "begin" := by
        rw [ht, atom?.eq_def] at ha
        split at ha <;> simp_all
      refine h.lift_bind _ fun c₁ h₁ => ?_
      exact h.bind (ih.blockLines (h.withDepth (h.advance hc h₁) 0)) fun _ _ => h.ok _
    | dollar =>
      refine h.lift_bind _ fun c₁ h₁ => ?_
      have hc₁ := h.advance hc h₁
      split
      · refine h.lift_bind _ fun c₂ h₂ => h.bind (ih.infixExpression (h.entered hc₁ h₂) 0) ?_
        rintro ⟨e, c₃⟩ h₃
        exact h.bind (h.leave hc₁ h₂ ((leads m).infixExpression h₃) _) fun _ _ => h.ok _
      · exact h.bind (ih.primary hc₁) fun _ _ => h.ok _
    | marker => exact ih.argument hc
    | openParen =>
      refine h.lift_bind _ fun c₁ h₁ => ?_
      split
      · refine h.lift_bind _ fun c₂ h₂ => ?_
        exact h.bind (h.leave hc h₁ (.advance h₂) _) fun _ _ => h.ok _
      · refine h.bind (ih.tupleItems (h.entered hc h₁)) ?_
        rintro ⟨⟨es, comma⟩, c₂⟩ h₂
        exact h.bind (h.leave hc h₁ ((leads m).tupleItems h₂) _) fun _ _ => h.ok _
    | openBracket =>
      refine h.lift_bind _ fun c₁ h₁ => h.bind (ih.items (h.entered hc h₁) _) ?_
      rintro ⟨es, c₂⟩ h₂
      exact h.bind (h.leave hc h₁ ((leads m).items h₂) _) fun _ _ => h.ok _
    | int | float | str | quote =>
      rw [ht] at ha
      cases ha
    | closeParen | closeBracket | comma | semicolon | dot | op | eof => exact h.fail _

lemma blockLines_succ : R (blockLines (n + 1) c) (blockLines (m + 1) c) := by
  rw [blockLines, blockLines]
  cases c.token
  case semicolon => exact h.lift_bind _ fun c₁ h₁ => ih.blockLines (h.advance hc h₁)
  case eof => exact h.fail _
  case' ident name =>
    by_cases hend : name = "end"
    · subst hend
      exact h.lift_bind _ fun _ _ => h.ok _
    simp only [Token.ident.injEq, hend, imp_self]
  -- all other tokens begin a line
  all_goals
    refine h.bind (ih.argument hc) ?_
    rintro ⟨line, c₁⟩ h₁
    dsimp only
    split
    · exact h.bind (ih.blockLines (h.reaches hc (reaches_argument h₁))) fun _ _ => h.ok _
    · exact h.fail _

lemma tupleItems_succ : R (tupleItems (n + 1) c) (tupleItems (m + 1) c) := by
  rw [tupleItems, tupleItems]
  split
  · exact h.ok _
  · refine h.bind (ih.argument hc) ?_
    rintro ⟨e, c₁⟩ h₁
    have hc₁ := h.reaches hc (reaches_argument h₁)
    dsimp only
    split
    · exact h.lift_bind _ fun c₂ h₂ => h.bind (ih.tupleItems (h.advance hc₁ h₂)) fun _ _ => h.ok _
    · exact h.ok _

lemma items_succ (closing : Token) : R (items (n + 1) closing c) (items (m + 1) closing c) := by
  rw [items, items]
  split
  · exact h.ok _
  · refine h.bind (ih.argument hc) ?_
    rintro ⟨e, c₁⟩ h₁
    have hc₁ := h.reaches hc (reaches_argument h₁)
    dsimp only
    split
    · exact h.lift_bind _ fun c₂ h₂ => h.bind (ih.items (h.advance hc₁ h₂) _) fun _ _ => h.ok _
    · exact h.ok _

lemma arguments_succ (closing : Token) (named inKeywords : Bool) :
    R (arguments (n + 1) closing named inKeywords c) (arguments (m + 1) closing named inKeywords c) := by
  rw [arguments, arguments]
  split
  · exact h.ok _
  split
  · exact h.lift_bind _ fun c₁ h₁ => ih.arguments (h.advance hc h₁) _ _ _
  · refine h.bind (ih.argument hc) ?_
    rintro ⟨e, c₁⟩ h₁
    have hc₁ := h.reaches hc (reaches_argument h₁)
    refine h.lift_bind _ fun a _ => ?_
    dsimp only
    split
    · exact h.lift_bind _ fun c₂ h₂ => h.bind (ih.arguments (h.advance hc₁ h₂) _ _ _) fun _ _ => h.ok _
    split
    · exact h.bind (ih.arguments hc₁ _ _ _) fun _ _ => h.ok _
    · exact h.ok _

lemma argumentsToEnd_succ : R (argumentsToEnd (n + 1) c) (argumentsToEnd (m + 1) c) := by
  rw [argumentsToEnd, argumentsToEnd]
  split
  · exact h.ok _
  · refine h.bind (ih.argument hc) ?_
    rintro ⟨e, c₁⟩ h₁
    exact h.bind (ih.argumentsToEnd (h.reaches hc (reaches_argument h₁))) fun _ _ => h.ok _

end Grammar

theorem abreast {k : ℕ} (h₀ : Abreast R I 0 k) (n : ℕ) : Abreast R I n (n + k) := by
  induction n with
  | zero => rwa [Nat.zero_add]
  | succ n ih =>
    rw [Nat.succ_add]
    exact ⟨h.argument_succ ih, h.infixExpression_succ ih, h.infixTail_succ ih, h.unaryExpression_succ ih,
      h.postfixExpression_succ ih, h.postfixTail_succ ih, h.primary_succ ih, h.blockLines_succ ih,
      h.tupleItems_succ ih, h.items_succ ih, h.arguments_succ ih, h.argumentsToEnd_succ ih⟩

section Texts

variable {b b' : Cursor → ℕ} (hb : ∀ c, Abreast R I (b c) (b' c))
include hb

theorem readExpr (s : String) : R (readExpr b s) (readExpr b' s) :=
  h.lift_bind _ fun c hc => h.bind ((hb c).argument (h.start hc)) fun _ _ => h.lift_bind _ fun _ _ => h.ok _

theorem readArgs (s : String) : R (readArgs b s) (readArgs b' s) :=
  h.lift_bind _ fun c hc => h.bind ((hb c).arguments (h.start hc) _ _ _) fun _ _ => h.lift_bind _ fun _ _ => h.ok _

section Invocations

variable {c : Cursor} (hc : I c) (construct : Construct)
include hc

lemma readBracketed : R (readBracketed b construct c) (readBracketed b' construct c) := by
  refine h.lift_bind _ fun c₁ h₁ => h.bind ((hb c₁).infixExpression (h.entered hc h₁) 0) ?_
  rintro ⟨table, c₂⟩ h₂
  have hr₂ := (leads _).infixExpression h₂
  refine h.lift_bind _ fun c₃ h₃ => ?_
  have hr₃ := hr₂.trans (.skip h₃)
  refine h.bind ((hb c₃).arguments (h.reaches (h.entered hc h₁) hr₃) _ _ _) ?_
  rintro ⟨as, c₄⟩ h₄
  exact h.bind (h.leave hc h₁ (hr₃.trans ((leads _).arguments h₄)) _) fun _ _ => h.ok _

lemma readSpaced : R (readSpaced b construct c) (readSpaced b' construct c) := by
  refine h.bind ((hb c).infixExpression hc 0) ?_
  rintro ⟨table, c₁⟩ h₁
  exact h.bind ((hb c₁).argumentsToEnd (h.reaches hc ((leads _).infixExpression h₁))) fun _ _ => h.ok _

end Invocations

theorem readInvocation (s : String) : R (readInvocation b s) (readInvocation b' s) := by
  refine h.lift_bind _ fun head hs => h.lift_bind _ fun c hc => ?_
  have hplace : I c := h.advance (h.start hs) hc
  cases head.token with
  | marker name =>
    refine h.lift_bind _ fun construct _ => ?_
    dsimp only
    split
    · exact h.bind (h.readBracketed hb hplace construct) fun _ _ => h.lift_bind _ fun _ _ => h.ok _
    · exact h.bind (h.readSpaced hb hplace construct) fun _ _ => h.lift_bind _ fun _ _ => h.ok _
  | _ => exact h.fail _

end Texts

end Lockstep

end Tabular.Parse
