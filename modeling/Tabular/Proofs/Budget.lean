import Mathlib.Order.Lattice
import Tabular.Proofs.Lockstep

namespace Tabular.Parse

open Cursor Operator

/-- The same result, unless the steps did not suffice. -/
def Grows {α : Type} (x y : Except ParseError α) : Prop := x = .error .exhausted ∨ x = y

namespace Grows

variable {α β : Type} {x y : Except ParseError α} {f g : α → Except ParseError β}

lemma refl (x : Except ParseError α) : Grows x x := .inr rfl

lemma bind (h : Grows x y) (hf : ∀ a, y = .ok a → Grows (f a) (g a)) : Grows (x >>= f) (y >>= g) := by
  rcases h with rfl | rfl
  · exact .inl rfl
  · cases x with
    | error e => exact .inr rfl
    | ok a => exact hf a rfl

lemma lockstep : Lockstep @Grows fun _ => True where
  ok _ := refl _
  lift _ := refl _
  bind := bind
  leave _ _ _ _ := refl _
  unaryExpr _ _ _ := refl _
  start _ := trivial
  reaches _ _ := trivial
  withDepth _ _ := trivial

end Grows

theorem steady {n m : Nat} (h : n ≤ m) : Abreast @Grows (fun _ => True) n m := by
  obtain ⟨k, rfl⟩ := Nat.exists_eq_add_of_le h
  refine Grows.lockstep.abreast ?_ n
  constructor
  all_goals
    intros
    exact .inl rfl

def Cursor.remaining (c : Cursor) : Nat := c.rest.length + if c.token = .eof then 0 else 1

def Cursor.Sane (c : Cursor) : Prop := c.fault ≠ some .exhausted

section Consumption

variable {c d : Cursor} {ts : List Lexeme} {b : Bool} {p : Phrase}

lemma Cursor.Sane.withDepth (h : c.Sane) (k : Nat) : (c.withDepth k).Sane := h

@[simp] lemma Cursor.remaining_withDepth (c : Cursor) (k : Nat) : (c.withDepth k).remaining = c.remaining := rfl

lemma Cursor.fault_advance (h : c.advance = .ok d) : d.fault = c.fault := by
  obtain ⟨l, ls, -, rfl⟩ | ⟨-, -, rfl⟩ := advance_eq_ok.mp h <;> rfl

lemma Cursor.remaining_advance (h : c.advance = .ok d) : d.remaining ≤ c.rest.length := by
  obtain ⟨l, ls, hr, rfl⟩ | ⟨hr, -, rfl⟩ := advance_eq_ok.mp h
  · simp only [remaining, hr, List.length_cons]
    split <;> omega
  · simp [remaining, hr, token]

lemma Cursor.remaining_advance_lt (h : c.advance = .ok d) (ht : c.token ≠ .eof) : d.remaining < c.remaining := by
  have hd := remaining_advance h
  have hc : c.remaining = c.rest.length + 1 := by rw [remaining, if_neg ht]
  omega

lemma Cursor.Sane.advance (h : c.Sane) (ha : c.advance = .ok d) : d.Sane := by
  rw [Sane, fault_advance ha]
  exact h

lemma Cursor.Skips.fault (h : Skips ts c d) : d.fault = c.fault := by
  induction ts generalizing c with
  | nil => exact congrArg Cursor.fault h.symm
  | cons l ts ih =>
    obtain ⟨-, c', hc, h⟩ := h
    rw [ih h, fault_advance hc]

lemma Cursor.Skips.remaining (h : Skips ts c d) (ht : ∀ l ∈ ts, l.token ≠ .eof) :
    d.remaining + ts.length ≤ c.remaining := by
  induction ts generalizing c with
  | nil => simp [show c = d from h]
  | cons l ts ih =>
    obtain ⟨hl, c', hc, h⟩ := h
    have hlt := remaining_advance_lt hc (by rw [token, hl]; exact ht l List.mem_cons_self)
    have := ih h fun m hm => ht m (List.mem_cons_of_mem l hm)
    rw [List.length_cons]
    omega

def Cursor.Passes (c d : Cursor) : Prop := ∃ ts, ts ≠ [] ∧ (∀ l ∈ ts, l.token ≠ .eof) ∧ Skips ts c d

namespace Cursor.Passes

lemma advance (h : c.advance = .ok d) (ht : c.token ≠ .eof) : c.Passes d :=
  ⟨[c.current], List.cons_ne_nil _ _, List.forall_mem_singleton.mpr ht, Skips.single h⟩

lemma trans {e : Cursor} (h : c.Passes d) (h' : d.Passes e) : c.Passes e := by
  obtain ⟨ts, hn, hts, hs⟩ := h
  obtain ⟨us, -, hus, hs'⟩ := h'
  refine ⟨ts ++ us, List.append_ne_nil_of_left_ne_nil hn us, ?_, hs.append hs'⟩
  exact List.forall_mem_append.mpr ⟨hts, hus⟩

lemma consumes (h : c.Passes d) (hc : c.Sane) : d.Sane ∧ d.remaining < c.remaining := by
  obtain ⟨ts, hn, hts, hs⟩ := h
  have hr := hs.remaining hts
  have hl := List.length_pos_iff.mpr hn
  refine ⟨?_, by omega⟩
  rw [Sane, hs.fault]
  exact hc

end Cursor.Passes

lemma Reads.passes {q : Lexeme → Prop} (h : Reads b p ts) (hs : Skips ts c d)
    (hheads : ∃ l us, ts = l :: us ∧ q l) : c.Passes d := by
  obtain ⟨l, us, rfl, -⟩ := hheads
  exact ⟨_, List.cons_ne_nil l us, h.ne_eof, hs⟩

lemma Reads.consumes_or (h : Reads b p ts) (hs : Skips ts c d) (hc : c.Sane) :
    d.Sane ∧ d.remaining ≤ c.remaining := by
  have hr := hs.remaining h.ne_eof
  refine ⟨?_, by omega⟩
  rw [Sane, hs.fault]
  exact hc

structure Consumes (n : Nat) : Prop where
  argument : ∀ {c e d}, argument n c = .ok (e, d) → c.Passes d
  infixExpression : ∀ {min c e d}, infixExpression n min c = .ok (e, d) → c.Passes d
  unaryExpression : ∀ {c e d}, unaryExpression n c = .ok (e, d) → c.Passes d
  postfixExpression : ∀ {c e d}, postfixExpression n c = .ok (e, d) → c.Passes d
  primary : ∀ {c e d}, primary n c = .ok (e, d) → c.Passes d

theorem consumes (n : Nat) : Consumes n where
  argument h := by
    obtain ⟨ts, hs, hr, -⟩ := (sound n).argument h
    exact hr.passes hs hr.heads
  infixExpression h := by
    obtain ⟨ts, limit, hs, hr, -⟩ := (sound n).infixExpression h
    exact hr.passes hs hr.heads
  unaryExpression h := by
    obtain ⟨ts, limit, hs, hr, -⟩ := (sound n).unaryExpression h
    exact hr.passes hs hr.heads
  postfixExpression h := by
    obtain ⟨ts, limit, hs, hr, -⟩ := (sound n).postfixExpression h
    exact hr.passes hs hr.heads
  primary h := by
    obtain ⟨ts, limit, hs, hr, -⟩ := (sound n).primary h
    exact hr.passes hs hr.heads

variable {n : Nat} {e : Expr} (hc : c.Sane)
include hc

lemma argument_consumes (h : argument n c = .ok (e, d)) : d.Sane ∧ d.remaining < c.remaining :=
  ((consumes n).argument h).consumes hc

lemma infixExpression_consumes {min : Nat} (h : infixExpression n min c = .ok (e, d)) :
    d.Sane ∧ d.remaining < c.remaining :=
  ((consumes n).infixExpression h).consumes hc

lemma unaryExpression_consumes (h : unaryExpression n c = .ok (e, d)) : d.Sane ∧ d.remaining < c.remaining :=
  ((consumes n).unaryExpression h).consumes hc

lemma primary_consumes (h : primary n c = .ok (e, d)) : d.Sane ∧ d.remaining < c.remaining :=
  ((consumes n).primary h).consumes hc

lemma arguments_consumes {closing : Token} {named inKeywords : Bool} {as : Arguments}
    (hclosing : closing ≠ .semicolon)
    (h : arguments n closing named inKeywords c = .ok (as, d)) : d.Sane ∧ d.remaining ≤ c.remaining := by
  obtain ⟨ts, hs, hr, -⟩ := (sound n).arguments h hclosing
  exact hr.consumes_or hs hc

lemma tupleItems_consumes {es : List Expr} {comma : Bool} (h : tupleItems n c = .ok ((es, comma), d)) :
    d.Sane ∧ d.remaining ≤ c.remaining := by
  obtain ⟨ts, hs, hr⟩ := (sound n).tupleItems h
  exact hr.consumes_or hs hc

lemma items_consumes {closing : Token} {es : List Expr} (h : items n closing c = .ok (es, d)) :
    d.Sane ∧ d.remaining ≤ c.remaining := by
  obtain ⟨ts, comma, hs, hr⟩ := (sound n).items h
  exact hr.consumes_or hs hc

end Consumption

def Suffices {α : Type} (x : Except ParseError α) : Prop := x ≠ .error .exhausted

namespace Suffices

variable {α β : Type} {x : Except ParseError α} {f : α → Except ParseError β}

lemma ok (a : α) : Suffices (.ok a : Except ParseError α) := by simp [Suffices]

lemma pure (a : α) : Suffices (Pure.pure a : Except ParseError α) := ok a

lemma bind (h : Suffices x) (hf : ∀ a, x = .ok a → Suffices (f a)) : Suffices (x >>= f) := by
  cases x with
  | error e =>
    intro he
    cases he
    exact h rfl
  | ok a => exact hf a rfl

lemma unexpected (c : Cursor) (wanted : String) :
    Suffices (.error (c.unexpected wanted) : Except ParseError α) := by
  rw [Suffices, Cursor.unexpected]
  split <;> simp

lemma map {g : α → β} (h : Suffices x) : Suffices (x.map g) := h.bind fun a _ => ok (g a)

lemma lambdaParams (lhs : Expr) : Suffices (Parse.lambdaParams lhs) := by
  unfold Parse.lambdaParams
  dsimp only
  split <;> simp [Suffices]

lemma infixExpr (op : String) (lhs rhs : Expr) : Suffices (Parse.infixExpr op lhs rhs) := by
  rw [Suffices, Parse.infixExpr]
  split
  · simp
  split
  · exact (lambdaParams lhs).map
  · simp

lemma argumentOf (named inKeywords : Bool) (e : Expr) : Suffices (Parse.argumentOf named inKeywords e) := by
  rw [Suffices, Parse.argumentOf.eq_def]
  split <;> simp

variable {c : Cursor} (hc : c.Sane)
include hc

lemma advance : Suffices c.advance := by
  rw [Suffices, Cursor.advance]
  split
  · simp
  next e _ hf =>
    intro he
    cases he
    exact hc hf
  · simp

lemma enter : Suffices c.enter := (advance hc).bind fun _ _ => pure _

lemma skip (t : Token) : Suffices (c.skip t) := by
  rw [Cursor.skip]
  split
  · exact advance hc
  · exact ok c

lemma leave (t : Token) : Suffices (c.leave t) := by
  refine bind ?_ fun _ _ => pure _
  rw [Cursor.expect]
  split
  · exact advance hc
  · exact unexpected c _

end Suffices

lemma Grows.eq_of_suffices {ι α : Type} [SemilatticeSup ι] {f : ι → Except ParseError α} {i j : ι}
    (hf : ∀ {i j}, i ≤ j → Grows (f i) (f j)) (hi : Suffices (f i)) (hj : Suffices (f j)) : f i = f j :=
  ((hf le_sup_left).resolve_left hi).trans ((hf (le_sup_right : j ≤ i ⊔ j)).resolve_left hj).symm

lemma Cursor.Sane.enter {c d : Cursor} (h : c.Sane) (he : c.enter = .ok d) (ht : c.token ≠ .eof) :
    d.Sane ∧ d.remaining < c.remaining := by
  obtain ⟨c', hc, rfl⟩ := enter_eq_ok he
  refine ⟨(h.advance hc).withDepth _, ?_⟩
  rw [remaining_withDepth]
  exact remaining_advance_lt hc ht

lemma Cursor.Sane.leave {c d : Cursor} {t : Token} (h : c.Sane) (hl : c.leave t = .ok d) (ht : t ≠ .eof) :
    d.Sane ∧ d.remaining < c.remaining := by
  obtain ⟨rfl, c', hc, rfl⟩ := leave_eq_ok hl
  refine ⟨(h.advance hc).withDepth _, ?_⟩
  rw [remaining_withDepth]
  exact remaining_advance_lt hc ht

structure Ample (n : Nat) : Prop where
  argument : ∀ {c : Cursor}, c.Sane → 8 * c.remaining + 5 ≤ n → Suffices (argument n c)
  flagged : ∀ {c : Cursor}, c.Sane → ∀ {flags}, c.token = .marker flags → 8 * c.remaining ≤ n →
    Suffices (Parse.argument n c)
  infixExpression : ∀ {c : Cursor}, c.Sane → 8 * c.remaining + 4 ≤ n → ∀ min, Suffices (infixExpression n min c)
  infixTail : ∀ {c : Cursor}, c.Sane → 8 * c.remaining + 1 ≤ n → ∀ min lhs, Suffices (infixTail n min lhs c)
  unaryExpression : ∀ {c : Cursor}, c.Sane → 8 * c.remaining + 3 ≤ n → Suffices (unaryExpression n c)
  postfixExpression : ∀ {c : Cursor}, c.Sane → 8 * c.remaining + 2 ≤ n → Suffices (postfixExpression n c)
  postfixTail : ∀ {c : Cursor}, c.Sane → 8 * c.remaining + 1 ≤ n → ∀ e, Suffices (postfixTail n e c)
  primary : ∀ {c : Cursor}, c.Sane → 8 * c.remaining + 1 ≤ n → Suffices (primary n c)
  blockLines : ∀ {c : Cursor}, c.Sane → 8 * c.remaining + 6 ≤ n → Suffices (blockLines n c)
  tupleItems : ∀ {c : Cursor}, c.Sane → 8 * c.remaining + 6 ≤ n → Suffices (tupleItems n c)
  items : ∀ {c : Cursor}, c.Sane → 8 * c.remaining + 6 ≤ n → ∀ closing, Suffices (items n closing c)
  arguments : ∀ {c : Cursor}, c.Sane → 8 * c.remaining + 6 ≤ n → ∀ closing named inKeywords,
    Suffices (arguments n closing named inKeywords c)

namespace Ample

variable {n : Nat} (ih : Ample n) {c : Cursor} (hc : c.Sane)
include ih hc

lemma flagged_succ {flags : String} (hm : c.token = .marker flags) (h : 8 * c.remaining ≤ n + 1) :
    Suffices (Parse.argument (n + 1) c) := by
  rw [Parse.argument, hm]
  refine (Suffices.advance hc).bind fun c₁ h₁ => (ih.argument (hc.advance h₁) ?_).bind fun _ _ => .pure _
  have := remaining_advance_lt h₁ (by simp [hm])
  omega

lemma argument_succ (h : 8 * c.remaining + 5 ≤ n + 1) : Suffices (Parse.argument (n + 1) c) := by
  by_cases hm : ∃ flags, c.token = .marker flags
  · obtain ⟨flags, hm⟩ := hm
    exact ih.flagged_succ hc hm (by omega)
  · rw [Parse.argument]
    split
    next flags hf => exact absurd ⟨flags, hf⟩ hm
    refine (ih.infixExpression hc (by omega) 0).bind ?_
    rintro ⟨lhs, c₁⟩ h₁
    obtain ⟨hc₁, hr₁⟩ := infixExpression_consumes hc h₁
    dsimp only
    split
    next heq =>
      refine (Suffices.advance hc₁).bind fun c₂ h₂ => (ih.argument (hc₁.advance h₂) ?_).bind fun _ _ => .pure _
      have := remaining_advance_lt h₂ (by simp [heq])
      omega
    next => exact .pure _

lemma infixExpression_succ (h : 8 * c.remaining + 4 ≤ n + 1) (min : Nat) :
    Suffices (Parse.infixExpression (n + 1) min c) := by
  rw [Parse.infixExpression]
  refine (ih.unaryExpression hc (by omega)).bind ?_
  rintro ⟨lhs, c₁⟩ h₁
  obtain ⟨hc₁, hr₁⟩ := unaryExpression_consumes hc h₁
  exact ih.infixTail hc₁ (by omega) min lhs

lemma infixTail_succ (h : 8 * c.remaining + 1 ≤ n + 1) (min : Nat) (lhs : Expr) :
    Suffices (Parse.infixTail (n + 1) min lhs c) := by
  rw [Parse.infixTail]
  split
  · exact .ok _
  next op binding hop =>
    split
    · exact .ok _
    · have hne : c.token ≠ .eof := by
        rw [infixOperator?_eq] at hop
        exact infixAt?_ne_eof hop
      refine (Suffices.advance hc).bind fun c₁ h₁ => ?_
      have hr₁ := remaining_advance_lt h₁ hne
      have hc₁ := hc.advance h₁
      refine (ih.infixExpression hc₁ (by omega) _).bind ?_
      rintro ⟨rhs, c₂⟩ h₂
      obtain ⟨hc₂, hr₂⟩ := infixExpression_consumes hc₁ h₂
      exact (Suffices.infixExpr op lhs rhs).bind fun e _ => ih.infixTail hc₂ (by omega) min e

lemma unaryExpression_succ (h : 8 * c.remaining + 3 ≤ n + 1) : Suffices (Parse.unaryExpression (n + 1) c) := by
  rw [Parse.unaryExpression]
  split
  next symbol hsym =>
    split
    · refine (Suffices.advance hc).bind fun c₁ h₁ => (ih.infixExpression (hc.advance h₁) ?_ _).bind fun _ _ =>
        .pure _
      have := remaining_advance_lt h₁ (by simp [hsym])
      omega
    · exact ih.postfixExpression hc (by omega)
  next => exact ih.postfixExpression hc (by omega)

lemma postfixExpression_succ (h : 8 * c.remaining + 2 ≤ n + 1) : Suffices (Parse.postfixExpression (n + 1) c) := by
  rw [Parse.postfixExpression]
  refine (ih.primary hc (by omega)).bind ?_
  rintro ⟨e, c₁⟩ h₁
  obtain ⟨hc₁, hr₁⟩ := primary_consumes hc h₁
  exact ih.postfixTail hc₁ (by omega) e

lemma postfixTail_succ (h : 8 * c.remaining + 1 ≤ n + 1) (e : Expr) :
    Suffices (Parse.postfixTail (n + 1) e c) := by
  rw [Parse.postfixTail]
  split
  · exact .ok _
  split
  next ht =>
    refine (Suffices.enter hc).bind fun c₁ h₁ => ?_
    obtain ⟨hc₁, hr₁⟩ := hc.enter h₁ (by simp [ht])
    refine (ih.arguments hc₁ (by omega) _ _ _).bind ?_
    rintro ⟨as, c₂⟩ h₂
    obtain ⟨hc₂, hr₂⟩ := arguments_consumes hc₁ (by simp) h₂
    refine (Suffices.leave hc₂ _).bind fun c₃ h₃ => ?_
    obtain ⟨hc₃, hr₃⟩ := hc₂.leave h₃ (by simp)
    exact ih.postfixTail hc₃ (by omega) _
  next ht =>
    refine (Suffices.enter hc).bind fun c₁ h₁ => ?_
    obtain ⟨hc₁, hr₁⟩ := hc.enter h₁ (by simp [ht])
    refine (ih.items hc₁ (by omega) _).bind ?_
    rintro ⟨es, c₂⟩ h₂
    obtain ⟨hc₂, hr₂⟩ := items_consumes hc₁ h₂
    refine (Suffices.leave hc₂ _).bind fun c₃ h₃ => ?_
    obtain ⟨hc₃, hr₃⟩ := hc₂.leave h₃ (by simp)
    exact ih.postfixTail hc₃ (by omega) _
  next ht =>
    refine (Suffices.advance hc).bind fun c₁ h₁ => ?_
    have hr₁ := remaining_advance_lt h₁ (by simp [ht])
    have hc₁ := hc.advance h₁
    refine (Suffices.advance hc₁).bind fun c₂ h₂ => ?_
    split
    next name hname =>
      have hr₂ := remaining_advance_lt h₂ (by simp [hname])
      exact ih.postfixTail (hc₁.advance h₂) (by omega) _
    next => simp [Suffices]
  next => exact .ok _

lemma primary_succ (h : 8 * c.remaining + 1 ≤ n + 1) : Suffices (Parse.primary (n + 1) c) := by
  have hatom (e : Expr) : Suffices (do return (e, ← c.advance)) := (Suffices.advance hc).bind fun _ _ => .pure _
  rw [Parse.primary]
  split
  case h_5 ht =>
    refine (Suffices.advance hc).bind fun c₁ h₁ => ?_
    have hr₁ := remaining_advance_lt h₁ (by simp [ht])
    have hb := ih.blockLines ((hc.advance h₁).withDepth 0) (by rw [remaining_withDepth]; omega)
    exact hb.bind fun _ _ => .pure _
  case h_7 ht =>
    refine (Suffices.advance hc).bind fun c₁ h₁ => ?_
    have hr₁ := remaining_advance_lt h₁ (by simp [ht])
    have hc₁ := hc.advance h₁
    split
    next hp =>
      refine (Suffices.enter hc₁).bind fun c₂ h₂ => ?_
      obtain ⟨hc₂, hr₂⟩ := hc₁.enter h₂ (by simp [hp])
      refine (ih.infixExpression hc₂ (by omega) 0).bind ?_
      rintro ⟨e, c₃⟩ h₃
      exact (Suffices.leave (infixExpression_consumes hc₂ h₃).1 _).bind fun _ _ => .pure _
    next => exact (ih.primary hc₁ (by omega)).bind fun _ _ => .pure _
  case h_8 ht =>
    exact ih.flagged hc ht (by omega)
  case h_9 ht =>
    refine (Suffices.enter hc).bind fun c₁ h₁ => ?_
    obtain ⟨hc₁, hr₁⟩ := hc.enter h₁ (by simp [ht])
    split
    next hsemi =>
      refine (Suffices.advance hc₁).bind fun c₂ h₂ => ?_
      exact (Suffices.leave (hc₁.advance h₂) _).bind fun _ _ => .pure _
    next =>
      refine (ih.tupleItems hc₁ (by omega)).bind ?_
      rintro ⟨⟨es, comma⟩, c₂⟩ h₂
      exact (Suffices.leave (tupleItems_consumes hc₁ h₂).1 _).bind fun _ _ => .pure _
  case h_10 ht =>
    refine (Suffices.enter hc).bind fun c₁ h₁ => ?_
    obtain ⟨hc₁, hr₁⟩ := hc.enter h₁ (by simp [ht])
    refine (ih.items hc₁ (by omega) _).bind ?_
    rintro ⟨es, c₂⟩ h₂
    exact (Suffices.leave (items_consumes hc₁ h₂).1 _).bind fun _ _ => .pure _
  all_goals first | exact hatom _ | exact .unexpected c _

lemma blockLines_succ (h : 8 * c.remaining + 6 ≤ n + 1) : Suffices (Parse.blockLines (n + 1) c) := by
  rw [Parse.blockLines]
  split
  next ht =>
    refine (Suffices.advance hc).bind fun c₁ h₁ => ih.blockLines (hc.advance h₁) ?_
    have := remaining_advance_lt h₁ (by simp [ht])
    omega
  next => exact (Suffices.advance hc).bind fun _ _ => .pure _
  next => simp [Suffices]
  next =>
    refine (ih.argument hc (by omega)).bind ?_
    rintro ⟨line, c₁⟩ h₁
    obtain ⟨hc₁, hr₁⟩ := argument_consumes hc h₁
    dsimp only
    split
    · exact (ih.blockLines hc₁ (by omega)).bind fun _ _ => .pure _
    · exact .unexpected c₁ _

lemma tupleItems_succ (h : 8 * c.remaining + 6 ≤ n + 1) : Suffices (Parse.tupleItems (n + 1) c) := by
  rw [Parse.tupleItems]
  split
  · exact .ok _
  · refine (ih.argument hc (by omega)).bind ?_
    rintro ⟨e, c₁⟩ h₁
    obtain ⟨hc₁, hr₁⟩ := argument_consumes hc h₁
    dsimp only
    split
    next ht =>
      refine (Suffices.advance hc₁).bind fun c₂ h₂ => (ih.tupleItems (hc₁.advance h₂) ?_).bind fun _ _ => .pure _
      have := remaining_advance_lt h₂ (by simp [ht])
      omega
    next => exact .pure _

lemma items_succ (h : 8 * c.remaining + 6 ≤ n + 1) (closing : Token) :
    Suffices (Parse.items (n + 1) closing c) := by
  rw [Parse.items]
  split
  · exact .ok _
  · refine (ih.argument hc (by omega)).bind ?_
    rintro ⟨e, c₁⟩ h₁
    obtain ⟨hc₁, hr₁⟩ := argument_consumes hc h₁
    dsimp only
    split
    next ht =>
      refine (Suffices.advance hc₁).bind fun c₂ h₂ => (ih.items (hc₁.advance h₂) ?_ _).bind fun _ _ => .pure _
      have := remaining_advance_lt h₂ (by simp [ht])
      omega
    next => exact .pure _

lemma arguments_succ (h : 8 * c.remaining + 6 ≤ n + 1) (closing : Token) (named inKeywords : Bool) :
    Suffices (Parse.arguments (n + 1) closing named inKeywords c) := by
  rw [Parse.arguments]
  split
  · exact .ok _
  split
  next ht =>
    refine (Suffices.advance hc).bind fun c₁ h₁ => ih.arguments (hc.advance h₁) ?_ _ _ _
    have := remaining_advance_lt h₁ (by simp [ht])
    omega
  next =>
    refine (ih.argument hc (by omega)).bind ?_
    rintro ⟨e, c₁⟩ h₁
    obtain ⟨hc₁, hr₁⟩ := argument_consumes hc h₁
    refine (Suffices.argumentOf named inKeywords e).bind fun a _ => ?_
    dsimp only
    split
    next ht =>
      refine (Suffices.advance hc₁).bind fun c₂ h₂ => (ih.arguments (hc₁.advance h₂) ?_ _ _ _).bind fun _ _ =>
        .pure _
      have := remaining_advance_lt h₂ (by simp [ht])
      omega
    split
    · exact (ih.arguments hc₁ (by omega) _ _ _).bind fun _ _ => .pure _
    · exact .pure _

end Ample

theorem ample (n : Nat) : Ample n := by
  induction n with
  | zero =>
    constructor
    case flagged =>
      intro c _ flags ht h
      simp [Cursor.remaining, ht] at h
    all_goals
      intros
      omega
  | succ n ih => exact ⟨ih.argument_succ, ih.flagged_succ, ih.infixExpression_succ, ih.infixTail_succ,
      ih.unaryExpression_succ, ih.postfixExpression_succ, ih.postfixTail_succ, ih.primary_succ, ih.blockLines_succ,
      ih.tupleItems_succ, ih.items_succ, ih.arguments_succ⟩

lemma operator_suffices (cs : List Char) : Suffices (Lexer.operator cs) := by
  rw [Suffices]
  fun_cases Lexer.operator cs <;> simp

lemma afterDot_suffices (cs : List Char) : Suffices (Lexer.afterDot cs) := by
  rw [Lexer.afterDot]
  split
  · refine (operator_suffices cs).bind fun _ _ => ?_
    dsimp only
    split <;> simp [Suffices]
  · exact .ok _

lemma numberToken_suffices (whole : List Char) (frac : Option (List Char)) (pow : Option (List Char × List Char)) :
    Suffices (Lexer.numberToken whole frac pow) := by
  unfold Lexer.numberToken
  dsimp only
  split
  · split <;> simp [Suffices]
  · exact .ok _
  · simp [Suffices]
  · exact .ok _

lemma token_suffices (c : Char) (cs : List Char) : Suffices (Lexer.token c cs) := by
  unfold Lexer.token
  split
  · exact .ok _
  split
  · exact afterDot_suffices cs
  split
  · rw [Lexer.afterColon]
    split <;> simp [Suffices]
  split
  · rw [Lexer.afterAt]
    split <;> simp [Suffices]
  split
  · unfold Lexer.afterQuote
    split <;> simp [Suffices]
  split
  · exact (numberToken_suffices _ _ _).map
  split
  · exact .ok _
  split
  · exact (operator_suffices _).map
  · simp [Suffices]

lemma fault_scan (cs : List Char) : (Lexer.scan cs).2 ≠ some .exhausted := by
  fun_induction Lexer.scan cs with
  | case1 => simp
  | case2 _ _ _ _ _ e ht =>
    intro he
    cases he
    exact token_suffices _ _ ht
  | case3 _ _ _ _ _ _ _ _ _ _ ih => simp_all

lemma sane_of_start {s : String} {depth : Nat} {c : Cursor} (h : Cursor.start s depth = .ok c) : c.Sane := by
  have hf := fault_scan s.toList
  rwa [(Cursor.start_eq_ok h).1] at hf

lemma budget_ample (c : Cursor) : 8 * c.remaining + 8 ≤ c.budget := by
  rw [Cursor.remaining, Cursor.budget]
  split <;> omega

section Budget

variable {c : Cursor} (hc : c.Sane) {n : Nat}
include hc

section Enough

variable (hn : 8 * c.remaining + 8 ≤ n)
include hn

lemma argument_eq_budget : argument n c = argument c.budget c := by
  have hb := budget_ample c
  exact Grows.eq_of_suffices (f := (argument · c)) (fun hle => (steady hle).argument trivial)
    ((ample n).argument hc (by omega)) ((ample _).argument hc (by omega))

lemma infixExpression_eq_budget (min : Nat) : infixExpression n min c = infixExpression c.budget min c := by
  have hb := budget_ample c
  exact Grows.eq_of_suffices (f := (infixExpression · min c)) (fun hle => (steady hle).infixExpression trivial min)
    ((ample n).infixExpression hc (by omega) min) ((ample _).infixExpression hc (by omega) min)

lemma arguments_eq_budget (closing : Token) (named inKeywords : Bool) :
    arguments n closing named inKeywords c = arguments c.budget closing named inKeywords c := by
  have hb := budget_ample c
  exact Grows.eq_of_suffices (f := (arguments · closing named inKeywords c))
    (fun hle => (steady hle).arguments trivial closing named inKeywords)
    ((ample n).arguments hc (by omega) closing named inKeywords)
    ((ample _).arguments hc (by omega) closing named inKeywords)

end Enough

theorem argument_budget {r : Expr × Cursor} (h : ∀ m, n ≤ m → argument m c = .ok r) :
    argument c.budget c = .ok r :=
  (argument_eq_budget hc (Nat.le_max_right n _)).symm.trans (h _ (Nat.le_max_left n _))

theorem infixExpression_budget {min : Nat} {r : Expr × Cursor} (h : ∀ m, n ≤ m → infixExpression m min c = .ok r) :
    infixExpression c.budget min c = .ok r :=
  (infixExpression_eq_budget hc (Nat.le_max_right n _) min).symm.trans (h _ (Nat.le_max_left n _))

theorem arguments_budget {closing : Token} {named inKeywords : Bool} {r : Arguments × Cursor}
    (h : ∀ m, n ≤ m → arguments m closing named inKeywords c = .ok r) :
    arguments c.budget closing named inKeywords c = .ok r :=
  (arguments_eq_budget hc (Nat.le_max_right n _) closing named inKeywords).symm.trans (h _ (Nat.le_max_left n _))

end Budget

end Tabular.Parse
