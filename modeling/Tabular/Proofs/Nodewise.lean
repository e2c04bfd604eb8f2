import Tabular.Proofs.Depth
import Tabular.Proofs.Legibility

namespace Tabular

open Lexer Operator Parse

def Expr.isLeaf : Expr → Bool
  | .literal _ | .quote _ | .column _ => true
  | _ => false

def Value.Proper : Value → Prop
  | .int n => n ≠ Int64.minValue
  | .float _ | .str _ | .bool _ | .missing => True
  | .symbol _ | .list _ | .record _ => False

/-- The nodes that tokens can stand for have the property, the negation of a number that has it has it too, and so
has every node that is made of others. -/
structure Parse.Makes (P : Expr → Prop) : Prop where
  literal : ∀ {v}, v.Proper → P (.literal v)
  quote : ∀ {x}, isName x = true → P (.quote x)
  negated : ∀ {n}, P (.literal (.int n)) → P (.literal (.int (-n)))
  inner : ∀ {e}, e.isLeaf = false → P e

def Parse.Arguments.All (P : Expr → Prop) (as : Arguments) : Prop :=
  (∀ e ∈ as.positional, e.All P) ∧ ∀ k ∈ as.keywords, k.2.All P

def Invocation.All (P : Expr → Prop) (inv : Invocation) : Prop :=
  inv.table.All P ∧ (∀ e ∈ inv.args, e.All P) ∧ ∀ k ∈ inv.kwargs, k.2.All P

def Parse.Phrase.All (P : Expr → Prop) : Phrase → Prop
  | argument e | joined _ _ e | operand _ e | postfixed _ e | primary _ e => e.All P
  | lines es | listed es _ => ∀ e ∈ es, e.All P
  | arguments _ _ as => as.All P

namespace Parse.Makes

variable {P : Expr → Prop} {e f : Expr} {es : List Expr}

lemma single (hn : e.nodes = [e]) (he : P e) : e.All P := by
  rw [Expr.All, hn]
  simpa using he

lemma arguments_cons {named inKeywords : Bool} {a : CallArgument} {as : Arguments} (he : e.All P)
    (ha : argumentOf named inKeywords e = .ok a) (has : as.All P) : (as.cons a).All P := by
  have hkeyword {x : String} {v : Expr} (hn : named? e = some (x, v)) : (as.cons (.keyword x v)).All P := by
    rw [Expr.named?_eq_some.mp hn] at he
    exact ⟨has.1, List.forall_mem_cons.mpr ⟨(Expr.all_assign.mp he).2.2, has.2⟩⟩
  unfold argumentOf at ha
  split at ha
  next hn =>
    cases ha
    exact hkeyword hn
  next x hn =>
    cases ha
    exact ⟨has.1, List.forall_mem_cons.mpr ⟨he, has.2⟩⟩
  next => cases ha
  next hn =>
    cases ha
    cases named with
    | true => exact hkeyword hn
    | false => exact ⟨List.forall_mem_cons.mpr ⟨he, has.1⟩, has.2⟩
  next =>
    cases ha
    exact ⟨List.forall_mem_cons.mpr ⟨he, has.1⟩, has.2⟩

variable (h : Makes P)
include h

lemma apply (op : String) (hes : ∀ e ∈ es, e.All P) : (Expr.apply op es).All P :=
  Expr.all_call.mpr ⟨h.inner rfl, single rfl (h.inner rfl), hes⟩

lemma word (x : String) : (wordExpr x).All P := by
  unfold wordExpr
  split
  · exact single rfl (h.literal trivial)
  · exact single rfl (h.literal trivial)
  · exact single rfl (h.literal trivial)
  · exact single rfl (h.inner rfl)

lemma atom {t : Token} (ht : t.Proper) (ha : atom? t = some e) : e.All P := by
  unfold atom? at ha
  split at ha
  next => exact Option.some.inj ha ▸ single rfl (h.literal ht)
  next => exact Option.some.inj ha ▸ single rfl (h.literal trivial)
  next => exact Option.some.inj ha ▸ single rfl (h.literal trivial)
  next => exact Option.some.inj ha ▸ single rfl (h.quote ht)
  next => cases ha
  next => exact Option.some.inj ha ▸ h.word _
  all_goals cases ha

lemma unary (op : String) (he : e.All P) : (unaryExpr op e).All P := by
  unfold unaryExpr
  split
  · exact he
  · split
    · exact single rfl (h.negated he.self)
    · exact single rfl (h.literal trivial)
    · exact h.apply op (by simpa using he)

lemma infixed {op : String} (hl : e.All P) (hr : f.All P) {g : Expr} (hg : infixExpr op e f = .ok g) :
    g.All P := by
  unfold infixExpr at hg
  split at hg
  · cases hg
    exact Expr.all_pair.mpr ⟨h.inner rfl, hl, hr⟩
  split at hg
  · obtain ⟨xs, -, rfl⟩ := map_eq_ok.mp hg
    exact Expr.all_lambda.mpr ⟨h.inner rfl, hr⟩
  · cases hg
    exact h.apply op (by simpa using ⟨hl, hr⟩)

lemma tuple (hes : ∀ e ∈ es, e.All P) : (tupleExpr es).All P := by
  unfold tupleExpr
  split
  next e es fields hf =>
    refine Expr.all_namedTuple.mpr ⟨h.inner rfl, fun field hm => ?_⟩
    rcases Expr.Writable.exists_named (e :: es) with hn | ⟨fs, hfs⟩
    · rw [Rereads.mapM_named?_of_exists hn] at hf
      cases hf
    · rw [hfs, Rereads.mapM_named?_map] at hf
      cases hf
      rw [hfs] at hes
      exact (Expr.all_assign.mp (hes _ (List.mem_map_of_mem hm))).2.2
  next => exact Expr.all_tuple.mpr ⟨h.inner rfl, hes⟩

lemma parenthesized (comma : Bool) (hes : ∀ e ∈ es, e.All P) : (parenthesizedExpr es comma).All P := by
  unfold parenthesizedExpr
  split
  · exact hes _ List.mem_cons_self
  · exact h.tuple hes

lemma reads {b : Bool} {p : Phrase} {ts : List Lexeme} (hr : Reads b p ts) (ht : ∀ l ∈ ts, l.token.Proper) :
    p.All P := by
  induction hr with
  | flagged _ _ ih | marked _ _ ih => exact Expr.all_flagged.mpr ⟨h.inner rfl, ih (List.forall_mem_cons.mp ht).2⟩
  | plain _ _ ih | single _ ih | unsigned _ ih | bare _ ih => exact ih ht
  | assigned _ _ _ _ _ ihl ihv =>
    simp only [List.forall_mem_append, List.forall_mem_cons] at ht
    exact Expr.all_assign.mpr ⟨h.inner rfl, ihl ht.1, ihv ht.2.2⟩
  | infixed _ _ _ _ _ he ihl ihr =>
    simp only [List.forall_mem_append, List.forall_mem_cons] at ht
    exact h.infixed (ihl ht.1) (ihr ht.2.2) he
  | signed _ _ _ ih => exact h.unary _ (ih (List.forall_mem_cons.mp ht).2)
  | called _ _ _ _ _ _ ih iha =>
    simp only [List.forall_mem_append, List.forall_mem_cons] at ht
    obtain ⟨hpos, hks⟩ := iha ht.2.2.1
    refine Expr.all_call.mpr ⟨h.inner rfl, ih ht.1, Arguments.forall_toList.mpr ⟨hpos, fun k hk => ?_⟩⟩
    exact Expr.all_keyword.mpr ⟨h.inner rfl, hks k hk⟩
  | indexed _ _ _ _ _ _ ih ihs =>
    simp only [List.forall_mem_append, List.forall_mem_cons] at ht
    exact Expr.all_index.mpr ⟨h.inner rfl, ih ht.1, ihs ht.2.2.1⟩
  | field _ _ _ _ _ ih => exact Expr.all_field.mpr ⟨h.inner rfl, ih (List.forall_mem_append.mp ht).1⟩
  | atom ha => exact h.atom (ht _ List.mem_cons_self) ha
  | block _ _ ih => exact Expr.all_block.mpr ⟨h.inner rfl, ih (List.forall_mem_cons.mp ht).2⟩
  | hole _ _ _ ih => exact Expr.all_interp.mpr ⟨h.inner rfl, ih (List.forall_mem_cons.mp ht).2⟩
  | wideHole _ _ _ _ ih =>
    simp only [List.forall_mem_append, List.forall_mem_cons] at ht
    exact Expr.all_interp.mpr ⟨h.inner rfl, ih ht.2.2.1⟩
  | unit => exact Expr.all_namedTuple.mpr ⟨h.inner rfl, nofun⟩
  | tuple _ _ _ ih =>
    simp only [List.forall_mem_append, List.forall_mem_cons] at ht
    exact h.parenthesized _ (ih ht.2.1)
  | vector _ _ _ ih =>
    simp only [List.forall_mem_append, List.forall_mem_cons] at ht
    exact Expr.all_vector.mpr ⟨h.inner rfl, ih ht.2.1⟩
  | noLines | listedNil => exact nofun
  | skip _ _ ih => exact ih (List.forall_mem_cons.mp ht).2
  | line _ _ _ _ _ ih ihs =>
    obtain ⟨ht, hu⟩ := List.forall_mem_append.mp ht
    exact List.forall_mem_cons.mpr ⟨ih ht, ihs hu⟩
  | listedLast _ ih => exact List.forall_mem_cons.mpr ⟨ih ht, nofun⟩
  | listedCons _ _ _ ih ihs =>
    simp only [List.forall_mem_append, List.forall_mem_cons] at ht
    exact List.forall_mem_cons.mpr ⟨ih ht.1, ihs ht.2.2⟩
  | argumentsNil => exact ⟨nofun, nofun⟩
  | argumentsKeywords _ _ ih => exact ih (List.forall_mem_cons.mp ht).2
  | argumentsLast _ ha ih => exact arguments_cons (ih ht) ha ⟨nofun, nofun⟩
  | argumentsCons _ ha _ _ ih ihs =>
    simp only [List.forall_mem_append, List.forall_mem_cons] at ht
    exact arguments_cons (ih ht.1) ha (ihs ht.2.2)
  | argumentsThenKeywords _ ha _ _ ih ihs =>
    obtain ⟨ht, hu⟩ := List.forall_mem_append.mp ht
    exact arguments_cons (ih ht) ha (ihs hu)

end Parse.Makes

namespace Parse.Cursor

variable {c d : Cursor} {ts : List Lexeme}

def ahead (c : Cursor) : List Lexeme := c.current :: c.rest

def Scanned (c : Cursor) : Prop := ∀ l ∈ c.ahead, l.token ≠ .eof → l.token.Proper

lemma scanned_start {s : String} {depth : ℕ} (h : start s depth = .ok c) : c.Scanned := by
  have hproper : ∀ l ∈ (scan s.toList).1, l.token ≠ .eof → l.token.Proper := fun _ => proper_of_mem_scan
  rwa [(start_eq_ok h).1] at hproper

namespace Scanned

lemma withDepth (h : c.Scanned) (k : ℕ) : (c.withDepth k).Scanned := h

lemma advance (hc : c.Scanned) (h : c.advance = .ok d) : d.Scanned := by
  obtain ⟨l, ls, hr, rfl⟩ | ⟨hr, -, rfl⟩ := advance_eq_ok.mp h
  · rw [Scanned, ahead, hr] at hc
    exact (List.forall_mem_cons.mp hc).2
  · simp [Scanned, ahead, hr]

lemma enter (hc : c.Scanned) (h : c.enter = .ok d) : d.Scanned := by
  obtain ⟨c', hadv, rfl⟩ := enter_eq_ok h
  exact (hc.advance hadv).withDepth _

lemma skips (hc : c.Scanned) (h : Skips ts c d) : (∀ l ∈ ts, l.token ≠ .eof → l.token.Proper) ∧ d.Scanned := by
  induction ts generalizing c with
  | nil =>
    cases h
    exact ⟨nofun, hc⟩
  | cons l ts ih =>
    obtain ⟨rfl, c', hadv, h⟩ := h
    obtain ⟨hts, hd⟩ := ih (hc.advance hadv) h
    exact ⟨List.forall_mem_cons.mpr ⟨hc _ List.mem_cons_self, hts⟩, hd⟩

variable {P : Expr → Prop} (hP : Makes P) {n : ℕ} {e : Expr} {b : Bool} {p : Phrase}

lemma proper (hc : c.Scanned) (h : Skips ts c d) (hr : Reads b p ts) : ∀ l ∈ ts, l.token.Proper :=
  fun l hl => (hc.skips h).1 l hl (hr.ne_eof l hl)

lemma reaches (hc : c.Scanned) (h : c.Reaches d) : d.Scanned := by
  obtain ⟨ts, hs⟩ := h
  exact (hc.skips hs).2

include hP

lemma all_argument (hc : c.Scanned) (h : Parse.argument n c = .ok (e, d)) : e.All P := by
  obtain ⟨ts, hs, hr, -⟩ := (sound n).argument h
  exact hP.reads hr (hc.proper hs hr)

lemma all_infixExpression {min : ℕ} (hc : c.Scanned) (h : Parse.infixExpression n min c = .ok (e, d)) :
    e.All P := by
  obtain ⟨ts, limit, hs, hr, -⟩ := (sound n).infixExpression h
  exact hP.reads hr (hc.proper hs hr)

lemma all_arguments {closing : Token} {named inKeywords : Bool} {as : Arguments} (hclosing : closing ≠ .semicolon)
    (hc : c.Scanned) (h : arguments n closing named inKeywords c = .ok (as, d)) : as.All P := by
  obtain ⟨ts, hs, hr, -⟩ := (sound n).arguments h hclosing
  exact hP.reads hr (hc.proper hs hr)

lemma all_argumentsToEnd {es : List Expr} (hc : c.Scanned) (h : argumentsToEnd n c = .ok (es, d)) :
    ∀ e ∈ es, e.All P := by
  induction n generalizing c es with
  | zero => cases h
  | succ n ih =>
    rw [argumentsToEnd] at h
    split at h
    next =>
      cases h
      exact List.forall_mem_nil _
    next =>
      obtain ⟨⟨e, c'⟩, he, h⟩ := bind_eq_ok.mp h
      obtain ⟨⟨es', d'⟩, hes, h⟩ := bind_eq_ok.mp h
      cases h
      exact List.forall_mem_cons.mpr ⟨all_argument hP hc he, ih (hc.reaches (reaches_argument he)) hes⟩

end Scanned

end Parse.Cursor

open Parse.Cursor

variable {P : Expr → Prop} (hP : Makes P) {s : String} {construct : Construct} {c d : Cursor} {inv : Invocation}
include hP

theorem all_of_parseExpr {e : Expr} (h : parseExpr s = .ok e) : e.All P := by
  obtain ⟨c, hc, h⟩ := bind_eq_ok.mp h
  obtain ⟨⟨e', d⟩, ha, h⟩ := bind_eq_ok.mp h
  obtain ⟨u, -, h⟩ := bind_eq_ok.mp h
  cases h
  exact (scanned_start hc).all_argument hP ha

theorem all_of_parseArgs {as : Arguments} (h : parseArgs s = .ok as) : as.All P := by
  obtain ⟨c, hc, h⟩ := bind_eq_ok.mp h
  obtain ⟨⟨as', d⟩, ha, h⟩ := bind_eq_ok.mp h
  obtain ⟨u, -, h⟩ := bind_eq_ok.mp h
  cases h
  exact (scanned_start hc).all_arguments hP (show Token.eof ≠ .semicolon from nofun) ha

lemma all_of_readBracketed {b : Cursor → ℕ} (hc : c.Scanned) (h : readBracketed b construct c = .ok (inv, d)) :
    inv.All P := by
  obtain ⟨c₁, he, h⟩ := bind_eq_ok.mp h
  obtain ⟨⟨table, c₂⟩, ht, h⟩ := bind_eq_ok.mp h
  obtain ⟨c₃, hcomma, h⟩ := bind_eq_ok.mp h
  obtain ⟨⟨as, c₄⟩, has, h⟩ := bind_eq_ok.mp h
  obtain ⟨c₅, -, h⟩ := bind_eq_ok.mp h
  cases h
  have hc₃ : c₃.Scanned := (hc.enter he).reaches (((leads _).infixExpression ht).trans (.skip hcomma))
  have hclosing : Token.closeParen ≠ .semicolon := nofun
  exact ⟨(hc.enter he).all_infixExpression hP ht, hc₃.all_arguments hP hclosing has⟩

lemma all_of_readSpaced {b : Cursor → ℕ} (hc : c.Scanned) (h : readSpaced b construct c = .ok (inv, d)) :
    inv.All P := by
  obtain ⟨⟨table, c₁⟩, ht, h⟩ := bind_eq_ok.mp h
  obtain ⟨⟨args, c₂⟩, ha, h⟩ := bind_eq_ok.mp h
  cases h
  exact ⟨hc.all_infixExpression hP ht, (hc.reaches ((leads _).infixExpression ht)).all_argumentsToEnd hP ha, nofun⟩

theorem all_of_parseInvocation (h : parseInvocation s = .ok inv) : inv.All P := by
  obtain ⟨head, hs, h⟩ := bind_eq_ok.mp h
  obtain ⟨c, hc, h⟩ := bind_eq_ok.mp h
  have hscanned : c.Scanned := (scanned_start hs).advance hc
  split at h
  next name _ =>
    obtain ⟨construct, -, h⟩ := bind_eq_ok.mp h
    dsimp only at h
    split at h
    · obtain ⟨⟨inv', d⟩, hi, h⟩ := bind_eq_ok.mp h
      obtain ⟨_, -, h⟩ := bind_eq_ok.mp h
      cases h
      exact all_of_readBracketed hP hscanned hi
    · obtain ⟨⟨inv', d⟩, hi, h⟩ := bind_eq_ok.mp h
      obtain ⟨_, -, h⟩ := bind_eq_ok.mp h
      cases h
      exact all_of_readSpaced hP hscanned hi
  next => cases h

end Tabular
