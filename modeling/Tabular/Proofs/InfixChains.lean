import Mathlib.Data.List.Induction
import Tabular.Eval.Operation
import Tabular.Proofs.RoundTrip

namespace Tabular

open Lexer Operator Parse

/-- Whether an operator of the strength `inner` can stand on the left or on the right side of another without
parentheses: on the side to which the other one groups it may also be as strong. -/
def Operator.Binding.Admits (outer : Binding) (right : Bool) (inner : Binding) : Prop :=
  if right = outer.rightAssoc then outer.level ≤ inner.level else outer.level < inner.level

instance (outer : Binding) (right : Bool) (inner : Binding) : Decidable (outer.Admits right inner) :=
  inferInstanceAs (Decidable
    (if right = outer.rightAssoc then outer.level ≤ inner.level else outer.level < inner.level))

inductive OperatorTree where
  | name (x : String)
  | node (op : String) (left right : OperatorTree)

namespace OperatorTree

def expr : OperatorTree → Expr
  | name x => .ident x
  | node op l r => if op = "=>" then .pair l.expr r.expr else .apply op [l.expr, r.expr]

def inorder : OperatorTree → List String
  | name x => [x]
  | node op l r => l.inorder ++ op :: r.inorder

def root? : OperatorTree → Option Binding
  | name _ => none
  | node op _ _ => infixBinding? op

def Grouped : OperatorTree → Prop
  | name _ => True
  | node op l r => l.Grouped ∧ r.Grouped ∧ ∃ b, infixBinding? op = some b ∧
      (∀ c, l.root? = some c → b.Admits false c) ∧ ∀ c, r.root? = some c → b.Admits true c

end OperatorTree

def IsVariable (x : String) : Prop := isName x = true ∧ x ∉ "end" :: words

def IsJoint (op : String) : Prop :=
  op = "=>" ∨ ∃ o ∈ Operation.all, o.arity = 2 ∧ (op = o.symbol ∨ op = "." ++ o.symbol)

instance : DecidablePred IsVariable := fun _ => inferInstanceAs (Decidable (_ ∧ _))
instance : DecidablePred IsJoint := fun _ => inferInstanceAs (Decidable (_ ∨ _))

def chain (x : String) (rest : List (String × String)) : List String := x :: rest.flatMap fun (op, y) => [op, y]

section Strength

variable {op : String} {b c : Binding}

lemma leftLevel_le (h : b.Admits false c) : b.leftLevel ≤ c.level := by
  obtain ⟨level, _ | _⟩ := b <;> exact h

lemma rightLevel_le (h : b.Admits true c) : b.rightLevel ≤ c.level := by
  obtain ⟨level, _ | _⟩ := b <;> exact h

lemma admits_or_admits {op' : String} (hb : infixBinding? op = some b) (hc : infixBinding? op' = some c) :
    b.Admits true c ∨ c.Admits false b := by
  -- all operators of one strength group to the same side
  have h : ∀ b ∈ infixBindings, ∀ c ∈ infixBindings, b.Admits true c ∨ c.Admits false b := by decide
  exact h b (mem_of_infixBinding? hb) c (mem_of_infixBinding? hc)

lemma IsJoint.exists_binding (h : IsJoint op) :
    ∃ b, infixBinding? op = some b ∧ (op = "=>" ∨ binding? op = some b) := by
  rcases h with rfl | ⟨o, -, ho, rfl | rfl⟩
  · exact ⟨_, rfl, .inl rfl⟩
  · cases o <;> first | cases ho; done | exact ⟨_, rfl, .inr rfl⟩
  · cases o <;> first | cases ho; done | exact ⟨_, rfl, .inr rfl⟩

end Strength

namespace OperatorTree

def graft (op x : String) : OperatorTree → OperatorTree
  | name y => node op (name y) (name x)
  | node op' l r =>
    match infixBinding? op', infixBinding? op with
    | some b, some c => if b.Admits true c then node op' l (r.graft op x) else node op (node op' l r) (name x)
    | _, _ => node op (node op' l r) (name x)

def Plain : OperatorTree → Prop
  | name x => IsVariable x
  | node op l r => IsJoint op ∧ l.Plain ∧ r.Plain

variable {op x : String} {t : OperatorTree}

lemma graft_node {op' : String} {b c : Binding} (hb : infixBinding? op' = some b) (hc : infixBinding? op = some c)
    (l r : OperatorTree) : (node op' l r).graft op x =
      if b.Admits true c then node op' l (r.graft op x) else node op (node op' l r) (name x) := by
  rw [graft, hb, hc]

lemma inorder_graft (t : OperatorTree) : (t.graft op x).inorder = t.inorder ++ [op, x] := by
  induction t with
  | name y => rfl
  | node op' l r _ ih =>
    unfold graft
    split
    · split
      · simp [inorder, ih]
      · rfl
    · rfl

lemma plain_graft (h : t.Plain) (hop : IsJoint op) (hx : IsVariable x) : (t.graft op x).Plain := by
  induction t with
  | name y => exact ⟨hop, h, hx⟩
  | node op' l r _ ih =>
    unfold graft
    split
    · split
      · exact ⟨h.1, h.2.1, ih h.2.2⟩
      · exact ⟨hop, h, hx⟩
    · exact ⟨hop, h, hx⟩

lemma root?_graft {c : Binding} (h : (t.graft op x).root? = some c) :
    infixBinding? op = some c ∨ t.root? = some c := by
  cases t with
  | name y => exact .inl h
  | node op' l r =>
    unfold graft at h
    split at h
    · split at h
      · exact .inr h
      · exact .inl h
    · exact .inl h

lemma grouped_graft (h : t.Grouped) {c : Binding} (hop : infixBinding? op = some c) : (t.graft op x).Grouped := by
  induction t with
  | name y => exact ⟨trivial, trivial, c, hop, nofun, nofun⟩
  | node op' l r _ ih =>
    obtain ⟨hl, hr, b, hb, hleft, hright⟩ := h
    rw [graft_node hb hop]
    split
    next hbc =>
      refine ⟨hl, ih hr, b, hb, hleft, fun d hd => ?_⟩
      rcases root?_graft hd with hd | hd
      · cases hop.symm.trans hd
        exact hbc
      · exact hright d hd
    next hbc =>
      have hcb : c.Admits false b := (admits_or_admits hb hop).resolve_left hbc
      refine ⟨⟨hl, hr, b, hb, hleft, hright⟩, trivial, c, hop, fun d hd => ?_, nofun⟩
      cases hb.symm.trans hd
      exact hcb

lemma exists_of_chain {y : String} (hy : IsVariable y) {rest : List (String × String)}
    (hrest : ∀ p ∈ rest, IsJoint p.1 ∧ IsVariable p.2) :
    ∃ t : OperatorTree, t.inorder = chain y rest ∧ t.Plain ∧ t.Grouped := by
  induction rest using List.reverseRecOn with
  | nil => exact ⟨name y, rfl, hy, trivial⟩
  | append_singleton rest p ih =>
    obtain ⟨t, ht, hplain, hgrouped⟩ := ih fun q hq => hrest q (List.mem_append_left _ hq)
    obtain ⟨hop, hx⟩ := hrest p (List.mem_append_right _ List.mem_cons_self)
    obtain ⟨b, hb, -⟩ := hop.exists_binding
    refine ⟨t.graft p.1 p.2, ?_, plain_graft hplain hop hx, grouped_graft hgrouped hb⟩
    rw [inorder_graft, ht]
    simp [chain]

lemma inorder_ne_nil (t : OperatorTree) : t.inorder ≠ [] := by
  cases t <;> simp [inorder]

lemma renderAt_node {b : Binding} (hop : IsJoint op) (hb : infixBinding? op = some b) (l r : OperatorTree)
    (q : Nat) : (node op l r).expr.renderAt q = parenthesized (b.level < q)
      (l.expr.renderAt b.leftLevel ++ (" " ++ op ++ " ") ++ r.expr.renderAt b.rightLevel) := by
  obtain ⟨b', hb', hop | hop⟩ := hop.exists_binding
  · subst hop
    cases hb
    rfl
  · cases hb.symm.trans hb'
    have hne : op ≠ "=>" := by
      rintro rfl
      cases hop
    rw [expr, if_neg hne, renderAt_infixed hop]

lemma renderAt_expr (hp : t.Plain) (hg : t.Grouped) {q : Nat} (hq : ∀ b, t.root? = some b → q ≤ b.level) :
    t.expr.renderAt q = " ".intercalate t.inorder := by
  induction t generalizing q with
  | name x => exact String.intercalate_singleton.symm
  | node op l r ihl ihr =>
    obtain ⟨hop, hpl, hpr⟩ := hp
    obtain ⟨hl, hr, b, hb, hleft, hright⟩ := hg
    have hbare : decide (b.level < q) = false := decide_eq_false (Nat.not_lt.mpr (hq b hb))
    rw [renderAt_node hop hb, hbare, ihl hpl hl fun c hc => leftLevel_le (hleft c hc),
      ihr hpr hr fun c hc => rightLevel_le (hright c hc), inorder,
      String.intercalate_append_of_ne_nil l.inorder_ne_nil (List.cons_ne_nil _ _),
      String.intercalate_cons_of_ne_nil r.inorder_ne_nil]
    simp [parenthesized, String.append_assoc]

lemma Plain.legible (h : t.Plain) : Legible ("end" :: words) t.expr := by
  induction t with
  | name x => exact .ident h.1 h.2
  | node op l r ihl ihr =>
    obtain ⟨hop, hl, hr⟩ := h
    obtain ⟨b, -, he⟩ := hop.exists_binding
    unfold expr
    split
    · exact .pair (ihl hl) (ihr hr)
    next hne => exact .infixed (he.resolve_left hne) (ihl hl) (ihr hr)

lemma isNegative_expr (t : OperatorTree) : t.expr.isNegative = false := by
  cases t with
  | name x => rfl
  | node op l r =>
    unfold expr
    split <;> rfl

lemma faithful_expr (t : OperatorTree) : t.expr.All Expr.Faithful := by
  induction t with
  | name x => simp [expr, Expr.All, Expr.nodes, Expr.Faithful]
  | node op l r ihl ihr =>
    unfold expr
    split
    · exact Expr.all_pair.mpr ⟨trivial, ihl, ihr⟩
    · refine Expr.all_call.mpr ⟨fun _ => l.isNegative_expr, ?_, ?_⟩
      · simp [Expr.All, Expr.nodes, Expr.Faithful]
      · simp [ihl, ihr]

end OperatorTree

theorem parseExpr_chain {x : String} (hx : IsVariable x) {rest : List (String × String)}
    (hrest : ∀ p ∈ rest, IsJoint p.1 ∧ IsVariable p.2) :
    ∃ t : OperatorTree, parseExpr (" ".intercalate (chain x rest)) = .ok t.expr ∧ t.inorder = chain x rest ∧
      t.Grouped := by
  obtain ⟨t, ht, hplain, hgrouped⟩ := OperatorTree.exists_of_chain hx hrest
  refine ⟨t, ?_, ht, hgrouped⟩
  have hrender : t.expr.render = " ".intercalate (chain x rest) := by
    rw [← ht]
    exact OperatorTree.renderAt_expr hplain hgrouped fun _ _ => Nat.zero_le _
  have hlegible := hplain.legible
  have hread := hlegible.parseExpr_written (List.subset_cons_self _ _)
    (hlegible.all_followed List.mem_cons_self t.faithful_expr)
  rwa [hlegible.reread_eq_self t.faithful_expr, hrender] at hread

theorem parseExpr_chain_power_of_power : ∃ t : OperatorTree,
    parseExpr "a! => b .^ c ^ d - e * f - g != h" = .ok t.expr ∧
      t.inorder = ["a!", "=>", "b", ".^", "c", "^", "d", "-", "e", "*", "f", "-", "g", "!=", "h"] ∧ t.Grouped := by
  let rest := [("=>", "b"), (".^", "c"), ("^", "d"), ("-", "e"), ("*", "f"), ("-", "g"), ("!=", "h")]
  have hx : IsVariable "a!" := by decide
  have hrest : ∀ p ∈ rest, IsJoint p.1 ∧ IsVariable p.2 := by decide
  have htext : " ".intercalate (chain "a!" rest) = "a! => b .^ c ^ d - e * f - g != h" := by decide
  rw [← htext]
  exact parseExpr_chain hx hrest

end Tabular
