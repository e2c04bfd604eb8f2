import Tabular.Proofs.Budget

namespace Tabular.Parse

open Cursor Operator

def Yields {α : Type} (f : Nat → Except ParseError α) (a : α) : Prop := ∃ n, ∀ m, n ≤ m → f m = .ok a

namespace Yields

variable {α β γ : Type} {f : Nat → Except ParseError α} {g : Nat → Except ParseError β}
  {h : Nat → Except ParseError γ} {a : α} {b : β} {c : γ}

lemma intro (hf : ∀ n, f (n + 1) = .ok a) : Yields f a := by
  refine ⟨1, fun m hm => ?_⟩
  obtain ⟨m, rfl⟩ := Nat.exists_eq_add_of_le' hm
  exact hf m

lemma succ (hg : Yields g b) (hf : ∀ n, g n = .ok b → f (n + 1) = .ok a) : Yields f a := by
  obtain ⟨n, hn⟩ := hg
  refine ⟨n + 1, fun m hm => ?_⟩
  obtain ⟨m, rfl⟩ := Nat.exists_eq_add_of_le' (Nat.le_trans (Nat.le_add_left 1 n) hm)
  exact hf m (hn m (by omega))

lemma succ₂ (hg : Yields g b) (hh : Yields h c) (hf : ∀ n, g n = .ok b → h n = .ok c → f (n + 1) = .ok a) :
    Yields f a := by
  obtain ⟨k, hk⟩ := hh
  obtain ⟨n, hn⟩ := hg
  refine ⟨n + k + 1, fun m hm => ?_⟩
  obtain ⟨m, rfl⟩ := Nat.exists_eq_add_of_le' (Nat.le_trans (Nat.le_add_left 1 (n + k)) hm)
  exact hf m (hn m (by omega)) (hk m (by omega))

end Yields

lemma ok_bind {α β : Type} (a : α) (f : α → Except ParseError β) : (Except.ok a >>= f) = f a := rfl

lemma ok_pure {α : Type} (a : α) : (pure a : Except ParseError α) = .ok a := rfl

section Splitting

variable {c d : Cursor} {ts us : List Lexeme} {l r : Lexeme} {t : Token}

lemma Cursor.Skips.split (h : Skips (ts ++ us) c d) : ∃ c', Skips ts c c' ∧ Skips us c' d := by
  induction ts generalizing c with
  | nil => exact ⟨c, rfl, h⟩
  | cons l ts ih =>
    obtain ⟨hl, c₁, hc, h⟩ := h
    obtain ⟨c', hs, hd⟩ := ih h
    exact ⟨c', ⟨hl, c₁, hc, hs⟩, hd⟩

lemma Cursor.skips_append (h : c.current :: c.rest = ts ++ l :: us) :
    Skips ts c ⟨l, us, c.fault, c.depth⟩ := by
  induction ts generalizing c with
  | nil =>
    cases h
    rfl
  | cons t ts ih =>
    obtain ⟨ht, hrest⟩ := List.cons.inj h
    obtain ⟨m, vs, hm⟩ :=
      List.exists_cons_of_ne_nil (List.append_ne_nil_of_right_ne_nil ts (List.cons_ne_nil l us))
    have hadv : c.advance = .ok ⟨m, vs, c.fault, c.depth⟩ := by rw [advance, hrest, List.append_eq, hm]
    exact ⟨ht, _, hadv, ih hm.symm⟩

lemma Cursor.exists_start {s : String} (h : Lexer.scan s.toList = (ts ++ l :: us, none)) (depth : Nat) :
    ∃ c, Cursor.start s depth = .ok c ∧ Skips ts c ⟨l, us, none, depth⟩ := by
  obtain ⟨m, vs, hm⟩ := List.exists_cons_of_ne_nil (List.append_ne_nil_of_right_ne_nil ts (List.cons_ne_nil l us))
  have hstart : Cursor.start s depth = .ok ⟨m, vs, none, depth⟩ := by rw [start, h, hm]
  exact ⟨_, hstart, skips_append hm.symm⟩

lemma Cursor.Skips.brackets (h : Skips (l :: (us ++ [r])) c d) (hr : r.token = t) :
    ∃ c₁ c₂, c.enter = .ok c₁ ∧ c₁.inside = true ∧ Skips us c₁ c₂ ∧ c₂.token = t ∧ c₂.leave t = .ok d := by
  obtain ⟨-, c₁, hc, h⟩ := h
  obtain ⟨c₂, hs, hlast, d', hd, rfl⟩ := h.split
  have hdepth : d'.depth = c₁.depth := by rw [advance_depth hd, hs.depth]
  have ht : (c₂.withDepth (c₁.depth + 1)).token = t := by
    rw [← hr, ← hlast]
    rfl
  refine ⟨c₁.withDepth (c₁.depth + 1), c₂.withDepth (c₁.depth + 1), ?_, ?_, hs.withDepth _, ht, ?_⟩
  · rw [enter, hc]
    rfl
  · simp [Cursor.inside, Cursor.withDepth]
  · rw [leave, expect, if_pos ht, advance_withDepth hd]
    simp only [ok_bind, Cursor.withDepth, Nat.add_sub_cancel, ok_pure, ← hdepth]

end Splitting

section Stopping

variable {b : Bool} {l : Lexeme} {limit : Nat}

lemma infixAt?_of_not_op (h : ∀ symbol, l.token ≠ .op symbol) : infixAt? b l = none := by
  rw [infixAt?]
  split
  · rfl
  · split
    next symbol hs => exact absurd hs (h symbol)
    next => rfl

def closes : Token → Bool
  | .closeParen | .closeBracket | .eof | .comma | .semicolon => true
  | _ => false

lemma stops_of_closes (h : closes l.token = true) (limit : Nat) : Stops b limit l := by
  have hn (symbol : String) : l.token ≠ .op symbol := by
    intro he
    rw [he] at h
    cases h
  refine ⟨?_, fun op binding hb => ?_, fun _ => hn "="⟩
  · rw [opensPostfix, Bool.and_eq_false_iff]
    refine .inr ?_
    revert h
    cases l.token <;> simp [closes]
  · rw [infixAt?_of_not_op hn] at hb
    cases hb

lemma not_starts_of_closes {t : Token} (h : closes t = true) : starts t = false := by
  cases t <;> first | rfl | cases h

lemma Stops.mono {limit' : Nat} (h : Stops b limit l) (hle : limit ≤ limit') : Stops b limit' l :=
  ⟨h.closed, fun op binding hb => Nat.lt_of_lt_of_le (h.level_lt op binding hb) hle,
    fun hz => h.not_assigned (by omega)⟩

lemma stops_of_infixAt? {op : String} {binding : Binding} (h : infixAt? b l = some (op, binding))
    (hlt : binding.level < limit) : Stops b limit l := by
  refine ⟨?_, fun op' binding' hb => ?_, fun hz => absurd hlt (by omega)⟩
  · rw [opensPostfix, Bool.and_eq_false_iff]
    refine .inr ?_
    rw [infixAt?] at h
    split at h
    · cases h
    · split at h
      next hs => simp [hs]
      next => cases h
  · cases h.symm.trans hb
    exact hlt

end Stopping

section Steps

variable {c d : Cursor} {e : Expr}

lemma yields_infixTail {limit min : Nat} (h : Stops d.inside limit d.current) (hle : limit ≤ min) (e : Expr) :
    Yields (infixTail · min e d) (e, d) := by
  refine .intro fun n => ?_
  rw [infixTail]
  split
  · rfl
  next op binding hop =>
    rw [infixOperator?_eq] at hop
    exact if_pos (Nat.lt_of_lt_of_le (h.level_lt op binding hop) hle)

lemma yields_postfixTail (h : opensPostfix d.current = false) (e : Expr) : Yields (postfixTail · e d) (e, d) := by
  refine .intro fun n => ?_
  rw [postfixTail]
  split
  · rfl
  next hsp =>
    simp only [opensPostfix, Bool.and_eq_false_iff, Bool.not_eq_false', Bool.or_eq_false_iff,
      beq_eq_false_iff_ne] at h
    replace h := h.resolve_left hsp
    split
    next hp => exact absurd hp h.1.1
    next hp => exact absurd hp h.1.2
    next hp => exact absurd hp h.2
    next => rfl

end Steps

/-- What the reader makes of a phrase. A phrase that others can extend is followed by the rest of what it is in. -/
def Phrase.Accepted (b : Bool) : Phrase → List Lexeme → Prop
  | argument e, ts =>
      ∀ {c d}, c.inside = b → Skips ts c d → Stops b 0 d.current → Yields (Parse.argument · c) (e, d)
  | joined min limit e, ts => ∀ {c d r}, c.inside = b → Skips ts c d → Stops b limit d.current →
      Yields (infixTail · min e d) r → Yields (infixExpression · min c) r
  | operand limit e, ts => ∀ {c d}, c.inside = b → Skips ts c d → Stops b limit d.current →
      Yields (unaryExpression · c) (e, d)
  | postfixed limit e, ts => ∀ {c d r}, c.inside = b → Skips ts c d → (limit = 0 → Stops b 0 d.current) →
      Yields (postfixTail · e d) r → Yields (postfixExpression · c) r
  | primary limit e, ts => ∀ {c d}, c.inside = b → Skips ts c d → (limit = 0 → Stops b 0 d.current) →
      Yields (Parse.primary · c) (e, d)
  | lines es, ts => ∀ {c d}, c.inside = b → Skips ts c d → Yields (blockLines · c) (es, d)
  | listed es comma, ts => ∀ {c d}, c.inside = b → Skips ts c d →
      (d.token = .closeParen → Yields (tupleItems · c) ((es, comma), d)) ∧
      (d.token = .closeBracket → Yields (items · .closeBracket c) (es, d))
  | arguments named inKeywords as, ts => ∀ {c d}, c.inside = b → Skips ts c d → d.token = .closeParen →
      Yields (Parse.arguments · .closeParen named inKeywords c) (as, d)

section Cases

variable {b : Bool} {l : Lexeme} {ts us : List Lexeme} {e f : Expr} {limit min : Nat}

lemma accepted_flagged {flags : String} (hl : l.token = .marker flags) (ih : (Phrase.argument e).Accepted b ts) :
    (Phrase.argument (.flagged flags e)).Accepted b (l :: ts) := by
  rintro c d hb ⟨rfl, c₁, hc, hs⟩ hd
  have hi := ih ((Skips.single hc).inside.trans hb) hs hd
  refine hi.succ fun n hn => ?_
  have ht : c.token = .marker flags := hl
  simp only [argument, ht, hc, liftM_eq, ok_bind, hn, ok_pure]

lemma yields_infixExpression {c d : Cursor} (ih : (Phrase.joined min limit e).Accepted b ts) (hb : c.inside = b)
    (hs : Skips ts c d) (hd : Stops b (Nat.min min limit) d.current) :
    Yields (infixExpression · min c) (e, d) := by
  have hin : d.inside = b := hs.inside.trans hb
  have htail := yields_infixTail (hin ▸ hd) (Nat.min_le_left min limit) e
  exact ih hb hs (hd.mono (Nat.min_le_right min limit)) htail

lemma argument_of_headNot {c d : Cursor} (hr : Reads b (.joined 0 limit e) ts) (hn : HeadNot isMarker ts)
    (hs : Skips ts c d) (n : Nat) : argument (n + 1) c = (do
      let (lhs, c) ← infixExpression n 0 c
      if c.token = .op "=" then
        let c ← c.advance
        let (value, c) ← argument n c
        return (.assign lhs value, c)
      else return (lhs, c)) := by
  obtain ⟨l, us, rfl, -⟩ := hr.heads
  obtain ⟨rfl, -⟩ := hs
  have hm := hn c.current rfl
  rw [argument]
  split
  next flags ht =>
    rw [show c.current.token = _ from ht] at hm
    exact absurd trivial hm
  next => rfl

lemma accepted_plain (hr : Reads b (.joined 0 limit e) ts) (hn : HeadNot isMarker ts)
    (ih : (Phrase.joined 0 limit e).Accepted b ts) : (Phrase.argument e).Accepted b ts := by
  intro c d hb hs hd
  have hi := yields_infixExpression ih hb hs (hd.mono (Nat.zero_le _))
  refine hi.succ fun n h => ?_
  have hne : d.token ≠ .op "=" := hd.not_assigned rfl
  simp only [argument_of_headNot hr hn hs, h, ok_bind, if_neg hne, ok_pure]

lemma accepted_assigned (hr : Reads b (.joined 0 limit e) ts) (hn : HeadNot isMarker ts) (hpos : 0 < limit)
    (hl : l.token = .op "=") (ih : (Phrase.joined 0 limit e).Accepted b ts)
    (ihv : (Phrase.argument f).Accepted b us) : (Phrase.argument (.assign e f)).Accepted b (ts ++ l :: us) := by
  intro c d hb hs hd
  obtain ⟨c₁, hs₁, rfl, c₂, hc, hs₂⟩ := hs.split
  have hin : c₁.inside = b := hs₁.inside.trans hb
  -- the sign of an assignment is no infix operator
  have hnone : infixAt? b c₁.current = none := by
    rw [infixAt?, hl]
    split <;> rfl
  have hstop : Stops b limit c₁.current := by
    refine ⟨by simp [opensPostfix, hl], fun op binding hb => ?_, fun hz => absurd hz (by omega)⟩
    rw [hnone] at hb
    cases hb
  have htail : Yields (infixTail · 0 e c₁) (e, c₁) := by
    refine .intro fun n => ?_
    rw [infixTail, infixOperator?_eq, hin, hnone]
  have hi := ih hb hs₁ hstop htail
  have hv := ihv ((Skips.single hc).inside.trans hin) hs₂ hd
  refine hi.succ₂ hv fun n h h' => ?_
  have heq : c₁.token = .op "=" := hl
  simp only [argument_of_headNot hr hn hs₁, h, ok_bind, if_pos heq, hc, h', ok_pure]

lemma accepted_single (ih : (Phrase.operand limit e).Accepted b ts) :
    (Phrase.joined min limit e).Accepted b ts := by
  intro c d r hb hs hd htail
  have hi := ih hb hs hd
  refine hi.succ₂ htail fun n h h' => ?_
  simp only [infixExpression, h, ok_bind, h']

lemma accepted_infixed {limit' : Nat} {g : Expr} {op : String} {binding : Binding}
    (ih : (Phrase.joined min limit e).Accepted b ts) (hop : infixAt? b l = some (op, binding))
    (hmin : min ≤ binding.level) (hlt : binding.level < limit)
    (ihr : (Phrase.joined binding.rightLevel limit' f).Accepted b us) (hg : infixExpr op e f = .ok g) :
    (Phrase.joined min (Nat.min binding.rightLevel limit') g).Accepted b (ts ++ l :: us) := by
  intro c d r hb hs hd htail
  obtain ⟨c₁, hs₁, rfl, c₂, hc, hs₂⟩ := hs.split
  have hin : c₁.inside = b := hs₁.inside.trans hb
  have hr := yields_infixExpression ihr ((Skips.single hc).inside.trans hin) hs₂ hd
  refine ih hb hs₁ (stops_of_infixAt? hop hlt) (hr.succ₂ htail fun n h h' => ?_)
  have hop' : c₁.infixOperator? = some (op, binding) := by rw [infixOperator?_eq, hin, hop]
  simp only [infixTail, hop', if_neg (Nat.not_lt.mpr hmin), hc, liftM_eq, ok_bind, h, hg, h']

lemma accepted_signed {symbol : String} (hl : l.token = .op symbol) (hu : isUnary symbol = true)
    (ih : (Phrase.joined operandLevel limit e).Accepted b ts) :
    (Phrase.operand (Nat.min operandLevel limit) (unaryExpr symbol e)).Accepted b (l :: ts) := by
  rintro c d hb ⟨rfl, c₁, hc, hs⟩ hd
  have hi := yields_infixExpression ih ((Skips.single hc).inside.trans hb) hs hd
  refine hi.succ fun n h => ?_
  have ht : c.token = .op symbol := hl
  simp only [unaryExpression, ht, if_pos hu, hc, liftM_eq, Reading.unaryExpr_eq, ok_bind, h, ok_pure]

lemma accepted_unsigned (hr : Reads b (.postfixed limit e) ts) (ih : (Phrase.postfixed limit e).Accepted b ts) :
    (Phrase.operand limit e).Accepted b ts := by
  intro c d hb hs hd
  have hi := ih hb hs (fun hz => hz ▸ hd) (yields_postfixTail hd.closed e)
  refine hi.succ fun n h => ?_
  obtain ⟨l, us, rfl, hl⟩ := hr.heads
  obtain ⟨rfl, -⟩ := hs
  rw [unaryExpression]
  split
  next symbol ht =>
    rw [show c.current.token = _ from ht] at hl
    cases hl
  next => exact h

lemma accepted_bare (ih : (Phrase.primary limit e).Accepted b ts) : (Phrase.postfixed limit e).Accepted b ts := by
  intro c d r hb hs hd htail
  have hi := ih hb hs hd
  refine hi.succ₂ htail fun n h h' => ?_
  simp only [postfixExpression, h, ok_bind, h']

lemma accepted_called {as : Arguments} {r : Lexeme} (ih : (Phrase.postfixed limit e).Accepted b ts)
    (hpos : 0 < limit) (hl : l.token = .openParen) (hsp : l.gap.space = false)
    (iha : (Phrase.arguments true false as).Accepted true us) (hr : r.token = .closeParen) :
    (Phrase.postfixed atomLevel (.call e as.toList)).Accepted b (ts ++ l :: (us ++ [r])) := by
  intro c d result hb hs _ htail
  obtain ⟨c₁, hs₁, hs₂⟩ := hs.split
  obtain rfl := hs₂.1
  obtain ⟨c₂, c₃, henter, hin, hs₃, hclose, hleave⟩ := hs₂.brackets hr
  have ha := iha hin hs₃ hclose
  refine ih hb hs₁ (fun hz => absurd hz (by omega)) (ha.succ₂ htail fun n h h' => ?_)
  have ht : c₁.token = .openParen := hl
  simp only [postfixTail, hsp, Bool.false_eq_true, if_false, ht, henter, liftM_eq, Reading.leave_eq, ok_bind, h,
    hleave, h']

lemma accepted_indexed {es : List Expr} {comma : Bool} {r : Lexeme} (ih : (Phrase.postfixed limit e).Accepted b ts)
    (hpos : 0 < limit) (hl : l.token = .openBracket) (hsp : l.gap.space = false)
    (ihi : (Phrase.listed es comma).Accepted true us) (hr : r.token = .closeBracket) :
    (Phrase.postfixed atomLevel (.index e es)).Accepted b (ts ++ l :: (us ++ [r])) := by
  intro c d result hb hs _ htail
  obtain ⟨c₁, hs₁, hs₂⟩ := hs.split
  obtain rfl := hs₂.1
  obtain ⟨c₂, c₃, henter, hin, hs₃, hclose, hleave⟩ := hs₂.brackets hr
  have hi := (ihi hin hs₃).2 hclose
  refine ih hb hs₁ (fun hz => absurd hz (by omega)) (hi.succ₂ htail fun n h h' => ?_)
  have ht : c₁.token = .openBracket := hl
  simp only [postfixTail, hsp, Bool.false_eq_true, if_false, ht, henter, liftM_eq, Reading.leave_eq, ok_bind, h,
    hleave, h']

lemma accepted_field {name : String} {m : Lexeme} (ih : (Phrase.postfixed limit e).Accepted b ts)
    (hpos : 0 < limit) (hl : l.token = .dot) (hsp : l.gap.space = false) (hm : m.token = .ident name) :
    (Phrase.postfixed atomLevel (.field e name)).Accepted b (ts ++ [l, m]) := by
  intro c d result hb hs _ htail
  obtain ⟨c₁, hs₁, rfl, c₂, hc, rfl, c₃, hc₂, rfl⟩ := hs.split
  refine ih hb hs₁ (fun hz => absurd hz (by omega)) (htail.succ fun n h => ?_)
  have ht : c₁.token = .dot := hl
  have htm : c₂.token = .ident name := hm
  simp only [postfixTail, hsp, Bool.false_eq_true, if_false, ht, hc, liftM_eq, ok_bind, hc₂, htm, h]

lemma accepted_atom (h : atom? l.token = some e) : (Phrase.primary atomLevel e).Accepted b [l] := by
  rintro c d - ⟨rfl, _, hc, rfl⟩ -
  refine .intro fun n => ?_
  rw [primary_of_atom? h, hc]
  rfl

lemma accepted_block {es : List Expr} (hl : l.token = .ident "begin") (ih : (Phrase.lines es).Accepted false ts) :
    (Phrase.primary atomLevel (.block es)).Accepted b (l :: ts) := by
  rintro c d - ⟨rfl, c₁, hc, hs⟩ -
  have hi := ih rfl (hs.withDepth 0)
  refine hi.succ fun n h => ?_
  have ht : c.token = .ident "begin" := hl
  have hdepth : c.depth = d.depth := by rw [hs.depth, advance_depth hc]
  have h' : blockLines n { c₁ with depth := 0 } = .ok (es, d.withDepth 0) := h
  simp only [primary, ht, hc, liftM_eq, ok_bind, h', ok_pure, hdepth, Cursor.withDepth]

lemma accepted_hole (hl : l.token = .dollar) (hr : Reads b (.primary limit e) ts)
    (hn : HeadNot (· = .openParen) ts)
    (ih : (Phrase.primary limit e).Accepted b ts) : (Phrase.primary limit (.interp e)).Accepted b (l :: ts) := by
  rintro c d hb ⟨rfl, c₁, hc, hs⟩ hd
  have hi := ih ((Skips.single hc).inside.trans hb) hs hd
  refine hi.succ fun n h => ?_
  have ht : c.token = .dollar := hl
  have hne : c₁.token ≠ .openParen := by
    obtain ⟨m, us, rfl, -⟩ := hr.heads
    obtain ⟨rfl, -⟩ := hs
    exact hn c₁.current rfl
  simp only [primary, ht, hc, liftM_eq, ok_bind, if_neg hne, h, ok_pure]

lemma accepted_wideHole {m r : Lexeme} (hl : l.token = .dollar) (hm : m.token = .openParen)
    (ih : (Phrase.joined 0 limit e).Accepted true ts) (hr : r.token = .closeParen) :
    (Phrase.primary atomLevel (.interp e)).Accepted b (l :: m :: (ts ++ [r])) := by
  rintro c d - ⟨rfl, c₁, hc, hs⟩ -
  obtain rfl := hs.1
  obtain ⟨c₂, c₃, henter, hin, hs₃, hclose, hleave⟩ := hs.brackets hr
  have hcloses : closes c₃.current.token = true := by
    rw [show c₃.current.token = _ from hclose]
    rfl
  have hi := yields_infixExpression ih hin hs₃ (stops_of_closes hcloses _)
  refine hi.succ fun n h => ?_
  have ht : c.token = .dollar := hl
  have hopen : c₁.token = .openParen := hm
  simp only [primary, ht, hc, liftM_eq, Reading.leave_eq, ok_bind, if_pos hopen, henter, h, hleave, ok_pure]

lemma accepted_marked {flags : String} (hl : l.token = .marker flags) (ih : (Phrase.argument e).Accepted b ts) :
    (Phrase.primary 0 (.flagged flags e)).Accepted b (l :: ts) := by
  intro c d hb hs hd
  have hi := accepted_flagged hl ih hb hs (hd rfl)
  refine hi.succ fun n h => ?_
  have ht : c.token = .marker flags := by
    rw [token, hs.1]
    exact hl
  simp only [primary, ht, h]

lemma accepted_unit {m r : Lexeme} (hl : l.token = .openParen) (hm : m.token = .semicolon)
    (hr : r.token = .closeParen) : (Phrase.primary atomLevel (.namedTuple [])).Accepted b [l, m, r] := by
  intro c d hb hs _
  obtain rfl := hs.1
  obtain ⟨c₁, c₂, henter, -, ⟨rfl, _, hc, rfl⟩, -, hleave⟩ :=
    Skips.brackets (show Skips (c.current :: ([m] ++ [r])) c d from hs) hr
  refine .intro fun n => ?_
  have ht : c.token = .openParen := hl
  have hsemi : c₁.token = .semicolon := hm
  simp only [primary, ht, henter, liftM_eq, Reading.leave_eq, ok_bind, if_pos hsemi, hc, hleave, ok_pure]

lemma accepted_tuple {es : List Expr} {comma : Bool} {r : Lexeme} (hl : l.token = .openParen)
    (hl' : Reads true (.listed es comma) ts) (ih : (Phrase.listed es comma).Accepted true ts)
    (hr : r.token = .closeParen) :
    (Phrase.primary atomLevel (parenthesizedExpr es comma)).Accepted b (l :: (ts ++ [r])) := by
  intro c d hb hs _
  obtain rfl := hs.1
  obtain ⟨c₁, c₂, henter, hin, hs₁, hclose, hleave⟩ := hs.brackets hr
  have hi := (ih hin hs₁).1 hclose
  refine hi.succ fun n h => ?_
  have ht : c.token = .openParen := hl
  have hsemi : c₁.token ≠ .semicolon := by
    cases ts with
    | nil =>
      rw [show c₁ = c₂ from hs₁, hclose]
      simp
    | cons m us =>
      obtain ⟨rfl, -⟩ := hs₁
      intro hsemi
      have hstart := hl'.heads c₁.current rfl
      rw [show c₁.current.token = _ from hsemi] at hstart
      cases hstart
  simp only [primary, ht, henter, liftM_eq, Reading.leave_eq, ok_bind, if_neg hsemi, h, hleave, ok_pure]

lemma accepted_vector {es : List Expr} {comma : Bool} {r : Lexeme} (hl : l.token = .openBracket)
    (ih : (Phrase.listed es comma).Accepted true ts) (hr : r.token = .closeBracket) :
    (Phrase.primary atomLevel (.vector es)).Accepted b (l :: (ts ++ [r])) := by
  intro c d hb hs _
  obtain rfl := hs.1
  obtain ⟨c₁, c₂, henter, hin, hs₁, hclose, hleave⟩ := hs.brackets hr
  have hi := (ih hin hs₁).2 hclose
  refine hi.succ fun n h => ?_
  have ht : c.token = .openBracket := hl
  simp only [primary, ht, henter, liftM_eq, Reading.leave_eq, ok_bind, h, hleave, ok_pure]

lemma accepted_noLines (hl : l.token = .ident "end") : (Phrase.lines []).Accepted b [l] := by
  rintro c d - ⟨rfl, _, hc, rfl⟩
  refine .intro fun n => ?_
  have ht : c.token = .ident "end" := hl
  simp only [blockLines, ht, hc, liftM_eq, ok_bind, ok_pure]

lemma accepted_skip {es : List Expr} (hl : l.token = .semicolon) (ih : (Phrase.lines es).Accepted b ts) :
    (Phrase.lines es).Accepted b (l :: ts) := by
  rintro c d hb ⟨rfl, c₁, hc, hs⟩
  have hi := ih ((Skips.single hc).inside.trans hb) hs
  refine hi.succ fun n h => ?_
  have ht : c.token = .semicolon := hl
  simp only [blockLines, ht, hc, liftM_eq, ok_bind, h]

lemma accepted_line {es : List Expr} (hr : Reads b (.argument e) ts) (hn : HeadNot (· = .ident "end") ts)
    (hstop : Stops b 0 l) (hends : endsLine l = true) (ih : (Phrase.argument e).Accepted b ts)
    (ihl : (Phrase.lines es).Accepted b (l :: us)) : (Phrase.lines (e :: es)).Accepted b (ts ++ l :: us) := by
  intro c d hb hs
  obtain ⟨c₁, hs₁, hs₂⟩ := hs.split
  obtain rfl := hs₂.1
  have hi := ih hb hs₁ hstop
  have hls := ihl (hs₁.inside.trans hb) hs₂
  refine hi.succ₂ hls fun n h h' => ?_
  obtain ⟨m, us', rfl, hm⟩ := hr.heads
  obtain ⟨rfl, -⟩ := hs₁
  have hend : c.token ≠ .ident "end" := hn c.current rfl
  have hends' : c₁.endsLine = true := hends
  rw [blockLines]
  split
  next ht =>
    rw [show c.current.token = _ from ht] at hm
    cases hm
  next ht => exact absurd ht hend
  next ht =>
    rw [show c.current.token = _ from ht] at hm
    cases hm
  next => simp only [h, ok_bind, if_pos hends', h', ok_pure]

lemma token_ne_of_reads {c d : Cursor} (hr : Reads b (.argument e) ts) (hs : Skips ts c d) (closing : Token)
    (hclosing : closes closing = true) : c.token ≠ closing := by
  obtain ⟨l, us, rfl, hl⟩ := hr.heads
  obtain ⟨rfl, -⟩ := hs
  intro ht
  rw [show c.current.token = _ from ht, not_starts_of_closes hclosing] at hl
  cases hl

lemma accepted_listedNil : (Phrase.listed [] true).Accepted b [] := by
  rintro c d - rfl
  refine ⟨fun ht => .intro fun n => ?_, fun ht => .intro fun n => ?_⟩
  · rw [tupleItems, if_pos ht]
  · rw [items, if_pos ht]

lemma accepted_listedLast (hr : Reads b (.argument e) ts) (ih : (Phrase.argument e).Accepted b ts) :
    (Phrase.listed [e] false).Accepted b ts := by
  intro c d hb hs
  have hi (hd : closes d.token = true) := ih hb hs (stops_of_closes hd 0)
  refine ⟨fun ht => (hi (by rw [ht]; rfl)).succ fun n h => ?_, fun ht => (hi (by rw [ht]; rfl)).succ fun n h => ?_⟩
  · have hne := token_ne_of_reads hr hs .closeParen rfl
    simp only [tupleItems, if_neg hne, h, ok_bind, ht, reduceCtorEq, if_false, ok_pure]
  · have hne := token_ne_of_reads hr hs .closeBracket rfl
    simp only [items, if_neg hne, h, ok_bind, ht, reduceCtorEq, if_false, ok_pure]

lemma accepted_listedCons {es : List Expr} {comma : Bool} (hr : Reads b (.argument e) ts) (hl : l.token = .comma)
    (ih : (Phrase.argument e).Accepted b ts) (ihs : (Phrase.listed es comma).Accepted b us) :
    (Phrase.listed (e :: es) comma).Accepted b (ts ++ l :: us) := by
  intro c d hb hs
  obtain ⟨c₁, hs₁, rfl, c₂, hc, hs₂⟩ := hs.split
  have hcomma : c₁.token = .comma := hl
  have hi := ih hb hs₁ (stops_of_closes (by rw [hl]; rfl) 0)
  have his := ihs ((Skips.single hc).inside.trans (hs₁.inside.trans hb)) hs₂
  refine ⟨fun ht => hi.succ₂ (his.1 ht) fun n h h' => ?_, fun ht => hi.succ₂ (his.2 ht) fun n h h' => ?_⟩
  · have hne := token_ne_of_reads hr hs₁ .closeParen rfl
    simp only [tupleItems, if_neg hne, h, liftM_eq, ok_bind, if_pos hcomma, hc, h', ok_pure]
  · have hne := token_ne_of_reads hr hs₁ .closeBracket rfl
    simp only [items, if_neg hne, h, liftM_eq, ok_bind, if_pos hcomma, hc, h', ok_pure]

section Arguments

variable {named inKeywords : Bool} {a : CallArgument} {as : Arguments}

lemma accepted_argumentsNil : (Phrase.arguments named inKeywords ⟨[], []⟩).Accepted b [] := by
  rintro c d - rfl ht
  refine .intro fun n => ?_
  rw [arguments, if_pos ht]

lemma accepted_argumentsKeywords (hl : l.token = .semicolon)
    (ih : (Phrase.arguments named true as).Accepted b ts) :
    (Phrase.arguments named inKeywords as).Accepted b (l :: ts) := by
  rintro c d hb ⟨rfl, c₁, hc, hs⟩ ht
  have hi := ih ((Skips.single hc).inside.trans hb) hs ht
  refine hi.succ fun n h => ?_
  have hsemi : c.token = .semicolon := hl
  simp only [arguments, hsemi, reduceCtorEq, if_false, if_true, hc, liftM_eq, ok_bind, h]

variable (hr : Reads b (.argument e) ts) (ha : argumentOf named inKeywords e = .ok a)
  (ih : (Phrase.argument e).Accepted b ts)
include hr ha ih

lemma accepted_argumentsLast : (Phrase.arguments named inKeywords (.cons a ⟨[], []⟩)).Accepted b ts := by
  intro c d hb hs ht
  have hi := ih hb hs (stops_of_closes (by rw [show d.current.token = _ from ht]; rfl) 0)
  refine hi.succ fun n h => ?_
  have hne := token_ne_of_reads hr hs .closeParen rfl
  have hsemi := token_ne_of_reads hr hs .semicolon rfl
  simp only [arguments, if_neg hne, if_neg hsemi, h, liftM_eq, ok_bind, ha, ht, reduceCtorEq, if_false, ok_pure]

lemma accepted_argumentsCons (hl : l.token = .comma) (ihs : (Phrase.arguments named inKeywords as).Accepted b us) :
    (Phrase.arguments named inKeywords (.cons a as)).Accepted b (ts ++ l :: us) := by
  intro c d hb hs ht
  obtain ⟨c₁, hs₁, rfl, c₂, hc, hs₂⟩ := hs.split
  have hcomma : c₁.token = .comma := hl
  have hi := ih hb hs₁ (stops_of_closes (by rw [hl]; rfl) 0)
  have his := ihs ((Skips.single hc).inside.trans (hs₁.inside.trans hb)) hs₂ ht
  refine hi.succ₂ his fun n h h' => ?_
  have hne := token_ne_of_reads hr hs₁ .closeParen rfl
  have hsemi := token_ne_of_reads hr hs₁ .semicolon rfl
  simp only [arguments, if_neg hne, if_neg hsemi, h, liftM_eq, ok_bind, ha, if_pos hcomma, hc, h', ok_pure]

lemma accepted_argumentsThenKeywords (hl : l.token = .semicolon)
    (ihs : (Phrase.arguments named inKeywords as).Accepted b (l :: us)) :
    (Phrase.arguments named inKeywords (.cons a as)).Accepted b (ts ++ l :: us) := by
  intro c d hb hs ht
  obtain ⟨c₁, hs₁, hs₂⟩ := hs.split
  obtain rfl := hs₂.1
  have hsemi₁ : c₁.token = .semicolon := hl
  have hi := ih hb hs₁ (stops_of_closes (by rw [hl]; rfl) 0)
  have his := ihs (hs₁.inside.trans hb) hs₂ ht
  refine hi.succ₂ his fun n h h' => ?_
  have hne := token_ne_of_reads hr hs₁ .closeParen rfl
  have hsemi := token_ne_of_reads hr hs₁ .semicolon rfl
  simp only [arguments, if_neg hne, if_neg hsemi, h, liftM_eq, ok_bind, ha, hsemi₁, reduceCtorEq, if_false,
    if_true, h', ok_pure]

end Arguments

end Cases

theorem accepted {b : Bool} {p : Phrase} {ts : List Lexeme} (h : Reads b p ts) : p.Accepted b ts := by
  induction h with
  | flagged hl _ ih => exact accepted_flagged hl ih
  | plain hr hn ih => exact accepted_plain hr hn ih
  | assigned hr hn hpos hl _ ih ihv => exact accepted_assigned hr hn hpos hl ih ihv
  | single _ ih => exact accepted_single ih
  | infixed _ hop hmin hlt _ he ih ihr => exact accepted_infixed ih hop hmin hlt ihr he
  | signed hl hu _ ih => exact accepted_signed hl hu ih
  | unsigned hr ih => exact accepted_unsigned hr ih
  | bare _ ih => exact accepted_bare ih
  | called _ hpos hl hsp _ hr ih iha => exact accepted_called ih hpos hl hsp iha hr
  | indexed _ hpos hl hsp _ hr ih ihi => exact accepted_indexed ih hpos hl hsp ihi hr
  | field _ hpos hl hsp hm ih => exact accepted_field ih hpos hl hsp hm
  | atom h => exact accepted_atom h
  | block hl _ ih => exact accepted_block hl ih
  | hole hl hr hn ih => exact accepted_hole hl hr hn ih
  | wideHole hl hm _ hr ih => exact accepted_wideHole hl hm ih hr
  | marked hl _ ih => exact accepted_marked hl ih
  | unit hl hm hr => exact accepted_unit hl hm hr
  | tuple hl hi hr ih => exact accepted_tuple hl hi ih hr
  | vector hl _ hr ih => exact accepted_vector hl ih hr
  | noLines hl => exact accepted_noLines hl
  | skip hl _ ih => exact accepted_skip hl ih
  | line hr hn hstop hends _ ih ihl => exact accepted_line hr hn hstop hends ih ihl
  | listedNil => exact accepted_listedNil
  | listedLast hr ih => exact accepted_listedLast hr ih
  | listedCons hr hl _ ih ihs => exact accepted_listedCons hr hl ih ihs
  | argumentsNil => exact accepted_argumentsNil
  | argumentsKeywords hl _ ih => exact accepted_argumentsKeywords hl ih
  | argumentsLast hr ha ih => exact accepted_argumentsLast hr ha ih
  | argumentsCons hr ha hl _ ih ihs => exact accepted_argumentsCons hr ha ih hl ihs
  | argumentsThenKeywords hr ha hl _ ih ihs => exact accepted_argumentsThenKeywords hr ha ih hl ihs

theorem parseExpr_of_reads {s : String} {e : Expr} {ts : List Lexeme} {l : Lexeme}
    (hscan : Lexer.scan s.toList = (ts ++ [l], none)) (hl : l.token = .eof) (h : Reads false (.argument e) ts) :
    parseExpr s = .ok e := by
  obtain ⟨c, hstart, hskips⟩ := exists_start hscan 0
  obtain ⟨n, hn⟩ := accepted h (congrArg (· != 0) hskips.depth.symm) hskips (stops_of_closes (by rw [hl]; rfl) 0)
  have harg := argument_budget (sane_of_start hstart) hn
  have hfin : Cursor.finish ⟨l, [], none, 0⟩ = .ok () := if_pos hl
  simp only [parseExpr, readExpr, liftM_eq, hstart, ok_bind, harg, hfin, ok_pure]

end Tabular.Parse
