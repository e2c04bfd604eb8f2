import Tabular.Proofs.Follows
import Tabular.Proofs.Phrases

/-! Whatever the reader takes in is a phrase of the grammar, and it stops where the phrase has to end. -/

namespace Tabular.Parse

open Operator

namespace Cursor

def inside (c : Cursor) : Bool := c.depth != 0

def withDepth (c : Cursor) (depth : Nat) : Cursor := { c with depth := depth }

def Skips : List Lexeme → Cursor → Cursor → Prop
  | [], c, d => c = d
  | l :: ts, c, d => c.current = l ∧ ∃ c', c.advance = .ok c' ∧ Skips ts c' d

lemma infixOperator?_eq (c : Cursor) : c.infixOperator? = infixAt? c.inside c.current := by
  obtain ⟨⟨t, gap⟩, rest, fault, depth⟩ := c
  cases t <;> simp [infixOperator?, infixAt?, inside, token]

variable {c d e : Cursor}

lemma start_eq_ok {s : String} {depth : Nat} (h : start s depth = .ok c) :
    Lexer.scan s.toList = (c.current :: c.rest, c.fault) ∧ c.depth = depth := by
  rw [start] at h
  split at h
  next hs =>
    cases h
    exact ⟨hs, rfl⟩
  next => cases h

lemma advance_eq_ok : c.advance = .ok d ↔ (∃ l ls, c.rest = l :: ls ∧ d = { c with current := l, rest := ls }) ∨
    c.rest = [] ∧ c.fault = none ∧ d = { c with current := ⟨.eof, ⟨false, false⟩⟩ } := by
  obtain ⟨current, rest, fault, depth⟩ := c
  cases rest with
  | cons l ls => simp [advance, eq_comm]
  | nil => cases fault <;> simp [advance, eq_comm]

lemma advance_depth (h : c.advance = .ok d) : d.depth = c.depth := by
  obtain ⟨l, ls, -, rfl⟩ | ⟨-, -, rfl⟩ := advance_eq_ok.mp h <;> rfl

lemma advance_withDepth (h : c.advance = .ok d) (k : Nat) : (c.withDepth k).advance = .ok (d.withDepth k) := by
  obtain ⟨l, ls, hr, rfl⟩ | ⟨hr, hf, rfl⟩ := advance_eq_ok.mp h
  · exact advance_eq_ok.mpr (.inl ⟨l, ls, hr, rfl⟩)
  · exact advance_eq_ok.mpr (.inr ⟨hr, hf, rfl⟩)

namespace Skips

variable {ts us : List Lexeme} {l : Lexeme}

lemma append (h : Skips ts c d) (hd : Skips us d e) : Skips (ts ++ us) c e := by
  induction ts generalizing c with
  | nil => exact h ▸ hd
  | cons l ts ih =>
    obtain ⟨hl, c', hc, h⟩ := h
    exact ⟨hl, c', hc, ih h⟩

lemma single (h : c.advance = .ok d) : Skips [c.current] c d := ⟨rfl, d, h, rfl⟩

lemma depth (h : Skips ts c d) : d.depth = c.depth := by
  induction ts generalizing c with
  | nil => exact congrArg Cursor.depth h.symm
  | cons l ts ih =>
    obtain ⟨-, c', hc, h⟩ := h
    rw [ih h, advance_depth hc]

lemma inside (h : Skips ts c d) : d.inside = c.inside := by
  rw [Cursor.inside, h.depth, ← Cursor.inside]

lemma head (h : Skips ts c d) : ∀ l ∈ ts.head?, l = c.current := by
  cases ts with
  | nil => simp
  | cons l ts => simpa using h.1.symm

lemma headNot (h : Skips ts c d) {p : Token → Prop} (hp : ¬ p c.token) : HeadNot p ts :=
  fun l hl => h.head l hl ▸ hp

lemma withDepth (h : Skips ts c d) (k : Nat) : Skips ts (c.withDepth k) (d.withDepth k) := by
  induction ts generalizing c with
  | nil => exact congrArg (Cursor.withDepth · k) h
  | cons l ts ih =>
    obtain ⟨hl, c', hc, h⟩ := h
    exact ⟨hl, _, advance_withDepth hc k, ih h⟩

end Skips

lemma expect_eq_ok {t : Token} (h : c.expect t = .ok d) : c.token = t ∧ c.advance = .ok d := by
  rw [expect] at h
  split at h
  next ht => exact ⟨ht, h⟩
  next => cases h

lemma enter_eq_ok (h : c.enter = .ok d) : ∃ c', c.advance = .ok c' ∧ d = c'.withDepth (c.depth + 1) := by
  obtain ⟨c', hc, h⟩ := bind_eq_ok.mp h
  refine ⟨c', hc, ?_⟩
  rw [← pure_eq_ok.mp h, advance_depth hc]
  rfl

lemma skip_eq_ok {t : Token} (h : c.skip t = .ok d) : c.advance = .ok d ∨ d = c := by
  rw [skip] at h
  split at h
  · exact .inl h
  · exact .inr (Except.ok.inj h).symm

lemma leave_eq_ok {t : Token} (h : c.leave t = .ok d) :
    c.token = t ∧ ∃ c', c.advance = .ok c' ∧ d = c'.withDepth (c.depth - 1) := by
  obtain ⟨c', hc, h⟩ := bind_eq_ok.mp h
  obtain ⟨ht, hc⟩ := expect_eq_ok hc
  refine ⟨ht, c', hc, ?_⟩
  rw [← pure_eq_ok.mp h, advance_depth hc]
  rfl

lemma Skips.bracketed {t : Token} {c₁ c₂ : Cursor} {ts : List Lexeme} (he : c.enter = .ok c₁) (h : Skips ts c₁ c₂)
    (hl : c₂.leave t = .ok d) :
    c₁.inside = true ∧ c₂.token = t ∧ Skips (c.current :: (ts ++ [c₂.current])) c d := by
  obtain ⟨c', hc, rfl⟩ := enter_eq_ok he
  obtain ⟨ht, d', hd, rfl⟩ := leave_eq_ok hl
  refine ⟨by simp [Cursor.inside, Cursor.withDepth], ht, rfl, c', hc, ?_⟩
  have hd₂ : c₂.depth = c.depth + 1 := h.depth
  have hw := h.withDepth c.depth
  have hc' : (c'.withDepth (c.depth + 1)).withDepth c.depth = c' := by
    rw [← advance_depth hc]
    rfl
  rw [hc'] at hw
  rw [hd₂, Nat.add_sub_cancel]
  exact hw.append ⟨rfl, _, advance_withDepth hd c.depth, rfl⟩

end Cursor

open Cursor

lemma eq_zero_of_min_eq_zero {a b : Nat} (ha : 0 < a) (h : Nat.min a b = 0) : b = 0 :=
  (Nat.min_eq_zero_iff.mp h).resolve_left (Nat.ne_of_gt ha)

lemma bounds_of_infixAt? {b : Bool} {l : Lexeme} {op : String} {binding : Binding}
    (h : infixAt? b l = some (op, binding)) : 0 < binding.rightLevel ∧ binding.level < atomLevel := by
  rw [infixAt?] at h
  split at h
  · cases h
  · split at h
    · obtain ⟨binding', hb, he⟩ := Option.map_eq_some_iff.mp h
      cases he
      have hbounds : ∀ b ∈ infixBindings, 0 < b.rightLevel ∧ b.level < atomLevel := by decide
      exact hbounds binding (mem_of_infixBinding? hb)
    · cases h

lemma primary_of_atom? {ε : Type} [Reading ε] {c : Cursor} {e : Expr} (h : atom? c.token = some e) (n : Nat) :
    (primary (n + 1) c : Except ε (Expr × Cursor)) = (do return (e, ← c.advance)) := by
  rw [primary]
  split <;> simp_all [atom?]

structure Sound (n : Nat) : Prop where
  argument : ∀ {c e d}, argument n c = .ok (e, d) →
    ∃ ts, Skips ts c d ∧ Reads c.inside (.argument e) ts ∧ Stops c.inside 0 d.current
  infixExpression : ∀ {min c e d}, infixExpression n min c = .ok (e, d) →
    ∃ ts limit, Skips ts c d ∧ Reads c.inside (.joined min limit e) ts ∧ Stops c.inside limit d.current ∧
      ∀ op b, d.infixOperator? = some (op, b) → b.level < min
  infixTail : ∀ {min lhs c e d}, infixTail n min lhs c = .ok (e, d) → ∀ {ts limit start}, Skips ts start c →
    Reads start.inside (.joined min limit lhs) ts → Stops start.inside limit c.current →
    ∃ ts limit, Skips ts start d ∧ Reads start.inside (.joined min limit e) ts ∧
    Stops start.inside limit d.current ∧
      ∀ op b, d.infixOperator? = some (op, b) → b.level < min
  unaryExpression : ∀ {c e d}, unaryExpression n c = .ok (e, d) →
    ∃ ts limit, Skips ts c d ∧ Reads c.inside (.operand limit e) ts ∧ Stops c.inside limit d.current
  postfixExpression : ∀ {c e d}, postfixExpression n c = .ok (e, d) →
    ∃ ts limit, Skips ts c d ∧ Reads c.inside (.postfixed limit e) ts ∧ Stops c.inside limit d.current
  postfixTail : ∀ {e c f d}, postfixTail n e c = .ok (f, d) → ∀ {ts limit start}, Skips ts start c →
    Reads start.inside (.postfixed limit e) ts → (limit < atomLevel → Stops start.inside limit c.current) →
    ∃ ts limit, Skips ts start d ∧ Reads start.inside (.postfixed limit f) ts ∧ Stops start.inside limit d.current
  primary : ∀ {c e d}, primary n c = .ok (e, d) →
    ∃ ts limit, Skips ts c d ∧ Reads c.inside (.primary limit e) ts ∧
      (limit < atomLevel → Stops c.inside limit d.current)
  blockLines : ∀ {c es d}, blockLines n c = .ok (es, d) → ∃ ts, Skips ts c d ∧ Reads c.inside (.lines es) ts
  tupleItems : ∀ {c es comma d}, tupleItems n c = .ok ((es, comma), d) →
    ∃ ts, Skips ts c d ∧ Reads c.inside (.listed es comma) ts
  items : ∀ {closing c es d}, items n closing c = .ok (es, d) →
    ∃ ts comma, Skips ts c d ∧ Reads c.inside (.listed es comma) ts
  arguments : ∀ {closing named inKeywords c as d}, arguments n closing named inKeywords c = .ok (as, d) →
    closing ≠ .semicolon → ∃ ts, Skips ts c d ∧ Reads c.inside (.arguments named inKeywords as) ts ∧
      (ts = [] → c.token = closing)

namespace Sound

variable {n : Nat} (ih : Sound n) {c d : Cursor} {e : Expr}
include ih

lemma argument_succ (h : Parse.argument (n + 1) c = .ok (e, d)) :
    ∃ ts, Skips ts c d ∧ Reads c.inside (.argument e) ts ∧ Stops c.inside 0 d.current := by
  rw [Parse.argument] at h
  split at h
  next flags hm =>
    obtain ⟨c', hc, h⟩ := bind_eq_ok.mp h
    obtain ⟨⟨inner, d'⟩, hi, h⟩ := bind_eq_ok.mp h
    cases h
    obtain ⟨ts, hs, hr, hd⟩ := ih.argument hi
    rw [(Skips.single hc).inside] at hr hd
    exact ⟨_, (Skips.single hc).append hs, .flagged hm hr, hd⟩
  next hm =>
    obtain ⟨⟨lhs, c₁⟩, hi, h⟩ := bind_eq_ok.mp h
    obtain ⟨ts, limit, hs, hr, hd, hmin⟩ := ih.infixExpression hi
    have hn : HeadNot isMarker ts := hs.headNot fun hp => by
      cases ht : c.token <;> simp_all [isMarker]
    dsimp only at h
    split at h
    next heq =>
      obtain ⟨c₂, hc, h⟩ := bind_eq_ok.mp h
      obtain ⟨⟨value, d'⟩, hv, h⟩ := bind_eq_ok.mp h
      cases h
      have hpos : 0 < limit := by
        by_contra hz
        exact hd.not_assigned (by omega) heq
      obtain ⟨us, hus, hvr, hvd⟩ := ih.argument hv
      rw [(Skips.single hc).inside, hs.inside] at hvr hvd
      exact ⟨_, hs.append ((Skips.single hc).append hus), .assigned hr hn hpos heq hvr, hvd⟩
    next hne =>
      cases h
      refine ⟨ts, hs, .plain hr hn, hd.closed, fun op b hb => ?_, fun _ => hne⟩
      rw [← hs.inside, ← infixOperator?_eq] at hb
      exact absurd (hmin op b hb) (Nat.not_lt_zero _)

lemma infixExpression_succ {min : Nat} (h : Parse.infixExpression (n + 1) min c = .ok (e, d)) :
    ∃ ts limit, Skips ts c d ∧ Reads c.inside (.joined min limit e) ts ∧ Stops c.inside limit d.current ∧
      ∀ op b, d.infixOperator? = some (op, b) → b.level < min := by
  obtain ⟨⟨lhs, c₁⟩, hu, h⟩ := bind_eq_ok.mp h
  obtain ⟨ts, limit, hs, hr, hd⟩ := ih.unaryExpression hu
  exact ih.infixTail h hs (.single hr) hd

lemma infixTail_succ {min : Nat} {lhs : Expr} (h : Parse.infixTail (n + 1) min lhs c = .ok (e, d))
    {ts : List Lexeme}
    {limit : Nat} {start : Cursor} (hs : Skips ts start c) (hr : Reads start.inside (.joined min limit lhs) ts)
    (hd : Stops start.inside limit c.current) :
    ∃ ts limit, Skips ts start d ∧ Reads start.inside (.joined min limit e) ts ∧
    Stops start.inside limit d.current ∧
      ∀ op b, d.infixOperator? = some (op, b) → b.level < min := by
  rw [Parse.infixTail] at h
  split at h
  next hn =>
    cases h
    exact ⟨ts, limit, hs, hr, hd, fun op b hb => absurd (hn.symm.trans hb) (by simp)⟩
  next op binding hop =>
    have hi : infixAt? start.inside c.current = some (op, binding) := by
      rw [← hs.inside, ← infixOperator?_eq, hop]
    split at h
    next hlt =>
      cases h
      refine ⟨ts, limit, hs, hr, hd, fun op' b hb => ?_⟩
      cases hop.symm.trans hb
      exact hlt
    next hle =>
      obtain ⟨c₁, hc, h⟩ := bind_eq_ok.mp h
      obtain ⟨⟨rhs, c₂⟩, hrhs, h⟩ := bind_eq_ok.mp h
      obtain ⟨f, hf, h⟩ := bind_eq_ok.mp h
      obtain ⟨us, limit', hus, hrr, hrd, hmin⟩ := ih.infixExpression hrhs
      rw [(Skips.single hc).inside, hs.inside] at hrr hrd
      have hlevel := hd.level_lt op binding hi
      have hall := hs.append ((Skips.single hc).append hus)
      refine ih.infixTail h hall (.infixed hr hi (Nat.le_of_not_lt hle) hlevel hrr hf) ?_
      refine ⟨hrd.closed, fun op' b hb => ?_, fun hz => ?_⟩
      · have hb' : c₂.infixOperator? = some (op', b) := by
          rw [infixOperator?_eq, hus.inside, (Skips.single hc).inside, hs.inside, hb]
        exact Nat.lt_min.mpr ⟨hmin op' b hb', hrd.level_lt op' b hb⟩
      · exact hrd.not_assigned (eq_zero_of_min_eq_zero (bounds_of_infixAt? hi).1 hz)

lemma unaryExpression_succ (h : Parse.unaryExpression (n + 1) c = .ok (e, d)) :
    ∃ ts limit, Skips ts c d ∧ Reads c.inside (.operand limit e) ts ∧ Stops c.inside limit d.current := by
  have hpost {h : Parse.postfixExpression n c = .ok (e, d)} :
      ∃ ts limit, Skips ts c d ∧ Reads c.inside (.operand limit e) ts ∧ Stops c.inside limit d.current := by
    obtain ⟨ts, limit, hs, hr, hd⟩ := ih.postfixExpression h
    exact ⟨ts, limit, hs, .unsigned hr, hd⟩
  rw [Parse.unaryExpression] at h
  split at h
  next symbol hsym =>
    split at h
    next hu =>
      obtain ⟨c₁, hc, h⟩ := bind_eq_ok.mp h
      obtain ⟨⟨operand, c₂⟩, ho, h⟩ := bind_eq_ok.mp h
      cases h
      obtain ⟨ts, limit, hs, hr, hd, hmin⟩ := ih.infixExpression ho
      rw [(Skips.single hc).inside] at hr hd
      refine ⟨_, _, (Skips.single hc).append hs, .signed hsym hu hr, hd.closed, fun op b hb => ?_, fun hz => ?_⟩
      · have hb' : d.infixOperator? = some (op, b) := by
          rw [infixOperator?_eq, hs.inside, (Skips.single hc).inside, hb]
        exact Nat.lt_min.mpr ⟨hmin op b hb', hd.level_lt op b hb⟩
      · exact hd.not_assigned (eq_zero_of_min_eq_zero (by decide) hz)
    next => exact hpost (h := h)
  next => exact hpost (h := h)

lemma postfixExpression_succ (h : Parse.postfixExpression (n + 1) c = .ok (e, d)) :
    ∃ ts limit, Skips ts c d ∧ Reads c.inside (.postfixed limit e) ts ∧ Stops c.inside limit d.current := by
  obtain ⟨⟨f, c₁⟩, hp, h⟩ := bind_eq_ok.mp h
  obtain ⟨ts, limit, hs, hr, hd⟩ := ih.primary hp
  exact ih.postfixTail h hs (.bare hr) hd

lemma postfixTail_succ {f : Expr} (h : Parse.postfixTail (n + 1) e c = .ok (f, d)) {ts : List Lexeme} {limit : Nat}
    {start : Cursor} (hs : Skips ts start c) (hr : Reads start.inside (.postfixed limit e) ts)
    (hd : limit < atomLevel → Stops start.inside limit c.current) :
    ∃ ts limit, Skips ts start d ∧ Reads start.inside (.postfixed limit f) ts ∧
    Stops start.inside limit d.current := by
  -- a phrase that goes on is not one that has to stop
  have hpos (ho : opensPostfix c.current = true) : 0 < limit := by
    by_contra hz
    have hcl := (hd (by rw [atomLevel]; omega)).closed
    rw [ho] at hcl
    cases hcl
  -- and one that stops here is closed
  have hstop (ho : opensPostfix c.current = false) : Stops start.inside limit c.current := by
    by_cases hl : limit < atomLevel
    · exact hd hl
    · refine ⟨ho, fun op b hb => ?_, fun hz => ?_⟩
      · have := (bounds_of_infixAt? hb).2
        omega
      · rw [hz] at hl
        exact absurd (by decide) hl
  have hatom {l : Lexeme} {k : Nat} (hk : k < atomLevel) (ha : k = atomLevel) : Stops start.inside k l :=
    absurd ha (Nat.ne_of_lt hk)
  rw [Parse.postfixTail] at h
  split at h
  next hsp =>
    cases h
    exact ⟨ts, limit, hs, hr, hstop (by simp [opensPostfix, hsp])⟩
  next hsp =>
    have hsp : c.current.gap.space = false := Bool.eq_false_iff.mpr hsp
    split at h
    next ht =>
      obtain ⟨c₁, he, h⟩ := bind_eq_ok.mp h
      obtain ⟨⟨as, c₂⟩, ha, h⟩ := bind_eq_ok.mp h
      obtain ⟨c₃, hl, h⟩ := bind_eq_ok.mp h
      obtain ⟨us, hus, har, -⟩ := ih.arguments ha (by simp)
      obtain ⟨hi, hclose, hall⟩ := Skips.bracketed he hus hl
      rw [hi] at har
      have ho : opensPostfix c.current = true := by simp [opensPostfix, hsp, show c.current.token = _ from ht]
      exact ih.postfixTail h (hs.append hall) (.called hr (hpos ho) ht hsp har hclose) fun hk => hatom hk rfl
    next ht =>
      obtain ⟨c₁, he, h⟩ := bind_eq_ok.mp h
      obtain ⟨⟨es, c₂⟩, ha, h⟩ := bind_eq_ok.mp h
      obtain ⟨c₃, hl, h⟩ := bind_eq_ok.mp h
      obtain ⟨us, comma, hus, har⟩ := ih.items ha
      obtain ⟨hi, hclose, hall⟩ := Skips.bracketed he hus hl
      rw [hi] at har
      have ho : opensPostfix c.current = true := by simp [opensPostfix, hsp, show c.current.token = _ from ht]
      exact ih.postfixTail h (hs.append hall) (.indexed hr (hpos ho) ht hsp har hclose) fun hk => hatom hk rfl
    next ht =>
      obtain ⟨c₁, hc₁, h⟩ := bind_eq_ok.mp h
      obtain ⟨c₂, hc₂, h⟩ := bind_eq_ok.mp h
      split at h
      next name hname =>
        have ho : opensPostfix c.current = true := by simp [opensPostfix, hsp, show c.current.token = _ from ht]
        have hall := hs.append ((Skips.single hc₁).append (Skips.single hc₂))
        exact ih.postfixTail h hall (.field hr (hpos ho) ht hsp hname) fun hk => hatom hk rfl
      next => cases h
    next h₁ h₂ h₃ =>
      cases h
      refine ⟨ts, limit, hs, hr, hstop ?_⟩
      have hc : ∀ t, c.current.token = t → c.token = t := fun t ht => ht
      simpa [opensPostfix, hsp] using ⟨⟨fun ht => h₁ (hc _ ht), fun ht => h₂ (hc _ ht)⟩, fun ht => h₃ (hc _ ht)⟩

lemma primary_succ (h : Parse.primary (n + 1) c = .ok (e, d)) :
    ∃ ts limit, Skips ts c d ∧ Reads c.inside (.primary limit e) ts ∧
      (limit < atomLevel → Stops c.inside limit d.current) := by
  have hatom {k : Nat} {l : Lexeme} (ha : k = atomLevel) : k < atomLevel → Stops c.inside k l :=
    fun hk => absurd ha (Nat.ne_of_lt hk)
  cases ha : atom? c.token with
  | some f =>
    rw [primary_of_atom? ha] at h
    obtain ⟨c₁, hc, h⟩ := bind_eq_ok.mp h
    cases h
    exact ⟨_, _, Skips.single hc, .atom ha, hatom rfl⟩
  | none =>
  rw [Parse.primary] at h
  split at h
  case h_5 ht =>
    obtain ⟨c₁, hc, h⟩ := bind_eq_ok.mp h
    obtain ⟨⟨lines, c₂⟩, hl, h⟩ := bind_eq_ok.mp h
    cases h
    obtain ⟨ts, hs, hr⟩ := ih.blockLines hl
    have hw : Skips ts c₁ (c₂.withDepth c.depth) := by
      rw [← advance_depth hc]
      exact hs.withDepth c₁.depth
    exact ⟨_, _, (Skips.single hc).append hw, .block ht hr, hatom rfl⟩
  case h_7 ht =>
    obtain ⟨c₁, hc, h⟩ := bind_eq_ok.mp h
    split at h
    next hp =>
      obtain ⟨c₂, he, h⟩ := bind_eq_ok.mp h
      obtain ⟨⟨inner, c₃⟩, hi, h⟩ := bind_eq_ok.mp h
      obtain ⟨c₄, hl, h⟩ := bind_eq_ok.mp h
      cases h
      obtain ⟨ts, limit, hs, hr, -, -⟩ := ih.infixExpression hi
      obtain ⟨hin, hclose, hall⟩ := Skips.bracketed he hs hl
      rw [hin] at hr
      exact ⟨_, _, (Skips.single hc).append hall, .wideHole ht hp hr hclose, hatom rfl⟩
    next hp =>
      obtain ⟨⟨inner, c₂⟩, hi, h⟩ := bind_eq_ok.mp h
      cases h
      obtain ⟨ts, limit, hs, hr, hd⟩ := ih.primary hi
      rw [(Skips.single hc).inside] at hr hd
      exact ⟨_, _, (Skips.single hc).append hs, .hole ht hr (hs.headNot hp), hd⟩
  case h_8 ht =>
    obtain ⟨ts, hs, hr, hd⟩ := ih.argument h
    obtain ⟨l, us, rfl, -⟩ := hr.heads
    obtain rfl := hs.1
    have hm : isMarker c.current.token := by
      rw [show c.current.token = _ from ht]
      trivial
    exact ⟨_, 0, hs, hr.primary_of_isMarker rfl hm, fun _ => hd⟩
  case h_9 ht =>
    obtain ⟨c₁, he, h⟩ := bind_eq_ok.mp h
    split at h
    next hsemi =>
      obtain ⟨c₂, hc, h⟩ := bind_eq_ok.mp h
      obtain ⟨c₃, hl, h⟩ := bind_eq_ok.mp h
      cases h
      obtain ⟨-, hclose, hall⟩ := Skips.bracketed he (Skips.single hc) hl
      exact ⟨_, _, hall, .unit ht hsemi hclose, hatom rfl⟩
    next hsemi =>
      obtain ⟨⟨⟨es, comma⟩, c₂⟩, hi, h⟩ := bind_eq_ok.mp h
      obtain ⟨c₃, hl, h⟩ := bind_eq_ok.mp h
      cases h
      obtain ⟨ts, hs, hr⟩ := ih.tupleItems hi
      obtain ⟨hin, hclose, hall⟩ := Skips.bracketed he hs hl
      rw [hin] at hr
      exact ⟨_, _, hall, .tuple ht hr hclose, hatom rfl⟩
  case h_10 ht =>
    obtain ⟨c₁, he, h⟩ := bind_eq_ok.mp h
    obtain ⟨⟨es, c₂⟩, hi, h⟩ := bind_eq_ok.mp h
    obtain ⟨c₃, hl, h⟩ := bind_eq_ok.mp h
    cases h
    obtain ⟨ts, comma, hs, hr⟩ := ih.items hi
    obtain ⟨hin, hclose, hall⟩ := Skips.bracketed he hs hl
    rw [hin] at hr
    exact ⟨_, _, hall, .vector ht hr hclose, hatom rfl⟩
  case h_11 => cases h
  all_goals simp_all [atom?]

lemma blockLines_succ {es : List Expr} (h : Parse.blockLines (n + 1) c = .ok (es, d)) :
    ∃ ts, Skips ts c d ∧ Reads c.inside (.lines es) ts := by
  rw [Parse.blockLines] at h
  split at h
  next ht =>
    obtain ⟨c₁, hc, h⟩ := bind_eq_ok.mp h
    obtain ⟨ts, hs, hr⟩ := ih.blockLines h
    rw [(Skips.single hc).inside] at hr
    exact ⟨_, (Skips.single hc).append hs, .skip ht hr⟩
  next ht =>
    obtain ⟨c₁, hc, h⟩ := bind_eq_ok.mp h
    cases h
    exact ⟨_, Skips.single hc, .noLines ht⟩
  next => cases h
  next hsemi hend _ =>
    obtain ⟨⟨line, c₁⟩, hl, h⟩ := bind_eq_ok.mp h
    dsimp only at h
    split at h
    next he =>
      obtain ⟨⟨lines, c₂⟩, hls, h⟩ := bind_eq_ok.mp h
      cases h
      obtain ⟨ts, hs, hr, hd⟩ := ih.argument hl
      obtain ⟨us, hus, hrs⟩ := ih.blockLines hls
      rw [hs.inside] at hrs
      obtain ⟨l, us, rfl⟩ := List.exists_cons_of_ne_nil hrs.heads
      obtain rfl : c₁.current = l := hus.1
      exact ⟨_, hs.append hus, .line hr (hs.headNot hend) hd he hrs⟩
    next => cases h

lemma tupleItems_succ {es : List Expr} {comma : Bool} (h : Parse.tupleItems (n + 1) c = .ok ((es, comma), d)) :
    ∃ ts, Skips ts c d ∧ Reads c.inside (.listed es comma) ts := by
  rw [Parse.tupleItems] at h
  split at h
  · cases h
    exact ⟨[], rfl, .listedNil⟩
  · obtain ⟨⟨f, c₁⟩, hf, h⟩ := bind_eq_ok.mp h
    obtain ⟨ts, hs, hr, -⟩ := ih.argument hf
    dsimp only at h
    split at h
    next hcomma =>
      obtain ⟨c₂, hc, h⟩ := bind_eq_ok.mp h
      obtain ⟨⟨⟨fs, b⟩, c₃⟩, hfs, h⟩ := bind_eq_ok.mp h
      cases h
      obtain ⟨us, hus, hrs⟩ := ih.tupleItems hfs
      rw [(Skips.single hc).inside, hs.inside] at hrs
      exact ⟨_, hs.append ((Skips.single hc).append hus), .listedCons hr hcomma hrs⟩
    next =>
      cases h
      exact ⟨ts, hs, .listedLast hr⟩

lemma items_succ {closing : Token} {es : List Expr} (h : Parse.items (n + 1) closing c = .ok (es, d)) :
    ∃ ts comma, Skips ts c d ∧ Reads c.inside (.listed es comma) ts := by
  rw [Parse.items] at h
  split at h
  · cases h
    exact ⟨[], true, rfl, .listedNil⟩
  · obtain ⟨⟨f, c₁⟩, hf, h⟩ := bind_eq_ok.mp h
    obtain ⟨ts, hs, hr, -⟩ := ih.argument hf
    dsimp only at h
    split at h
    next hcomma =>
      obtain ⟨c₂, hc, h⟩ := bind_eq_ok.mp h
      obtain ⟨⟨fs, c₃⟩, hfs, h⟩ := bind_eq_ok.mp h
      cases h
      obtain ⟨us, b, hus, hrs⟩ := ih.items hfs
      rw [(Skips.single hc).inside, hs.inside] at hrs
      exact ⟨_, b, hs.append ((Skips.single hc).append hus), .listedCons hr hcomma hrs⟩
    next =>
      cases h
      exact ⟨ts, false, hs, .listedLast hr⟩

lemma arguments_succ {closing : Token} {named inKeywords : Bool} {as : Arguments}
    (h : Parse.arguments (n + 1) closing named inKeywords c = .ok (as, d)) (hclosing : closing ≠ .semicolon) :
    ∃ ts, Skips ts c d ∧ Reads c.inside (.arguments named inKeywords as) ts ∧ (ts = [] → c.token = closing) := by
  rw [Parse.arguments] at h
  split at h
  next hc =>
    cases h
    exact ⟨[], rfl, .argumentsNil, fun _ => hc⟩
  split at h
  next hsemi =>
    obtain ⟨c₁, hc, h⟩ := bind_eq_ok.mp h
    obtain ⟨ts, hs, hr, -⟩ := ih.arguments h hclosing
    rw [(Skips.single hc).inside] at hr
    exact ⟨_, (Skips.single hc).append hs, .argumentsKeywords hsemi hr, by simp⟩
  next =>
    obtain ⟨⟨f, c₁⟩, hf, h⟩ := bind_eq_ok.mp h
    obtain ⟨a, ha, h⟩ := bind_eq_ok.mp h
    obtain ⟨ts, hs, hr, -⟩ := ih.argument hf
    dsimp only at h ha
    split at h
    next hcomma =>
      obtain ⟨c₂, hc, h⟩ := bind_eq_ok.mp h
      obtain ⟨⟨as', c₃⟩, has, h⟩ := bind_eq_ok.mp h
      cases h
      obtain ⟨us, hus, hrs, -⟩ := ih.arguments has hclosing
      rw [(Skips.single hc).inside, hs.inside] at hrs
      exact ⟨_, hs.append ((Skips.single hc).append hus), .argumentsCons hr ha hcomma hrs, by simp⟩
    split at h
    next hsemi =>
      obtain ⟨⟨as', c₂⟩, has, h⟩ := bind_eq_ok.mp h
      cases h
      obtain ⟨us, hus, hrs, hnil⟩ := ih.arguments has hclosing
      rw [hs.inside] at hrs
      cases us with
      | nil => exact absurd ((hnil rfl).symm.trans hsemi) hclosing
      | cons l us =>
        obtain rfl : c₁.current = l := hus.1
        exact ⟨_, hs.append hus, .argumentsThenKeywords hr ha hsemi hrs, by simp⟩
    next =>
      cases h
      obtain ⟨l, us, rfl, -⟩ := hr.heads
      exact ⟨_, hs, .argumentsLast hr ha, by simp⟩

end Sound

theorem sound (n : Nat) : Sound n := by
  induction n with
  | zero =>
    constructor
    all_goals intros; contradiction
  | succ n ih => exact ⟨ih.argument_succ, ih.infixExpression_succ, ih.infixTail_succ, ih.unaryExpression_succ,
      ih.postfixExpression_succ, ih.postfixTail_succ, ih.primary_succ, ih.blockLines_succ, ih.tupleItems_succ,
      ih.items_succ, ih.arguments_succ⟩

end Tabular.Parse
