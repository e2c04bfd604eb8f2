import Tabular.Eval.Interpreter
import Tabular.Proofs.Bindings
import Tabular.Proofs.Columns
import Tabular.Proofs.Follows

/-!
Evaluation under a replacement of columns. An expression has its meaning where columns have values; with
identifiers or other columns put in for its columns it has the same meaning, if these stand for the same values.
-/

namespace Tabular.Interpreter

def applied (I : Interpreter) : Expr → Expr
  | .call (.ident name) [inner] =>
    if name = I.byRow ∨ name = I.passMissing then applied I inner else .call (.ident name) [inner]
  | e => e

def Calls (I : Interpreter) (g e : Expr) : Prop := ∃ func args, .call func args ∈ e.nodes ∧ I.applied func = g

lemma Calls.mono {I : Interpreter} {g e e' : Expr} (h : I.Calls g e) (hn : e.nodes ⊆ e'.nodes) : I.Calls g e' := by
  obtain ⟨func, args, hm, ha⟩ := h
  exact ⟨func, args, hn hm, ha⟩

def Uncallable (I : Interpreter) : Expr → Prop
  | .ident x => I.hasFunction x = false ∧ x ≠ I.byRow ∧ x ≠ I.passMissing
  | _ => True

/-- What the nodes of an expression are like whose columns can be replaced: its identifiers are visible and
its columns known, no column is assigned to and, where failures matter too, none is called of which the
replacement can be. -/
def Admits (I : Interpreter) (visible : String → Prop) (known : Column → Prop) (f : Column → Expr) (both : Prop) :
    Expr → Prop
  | .ident x => visible x
  | .column c => known c
  | .lambda xs _ => ∀ x ∈ xs, visible x
  | .assign sink _ => ∀ c, sink ≠ .column c
  | .call func _ => both → ∀ c, I.applied func = .column c → I.Uncallable (f c)
  | _ => True

/-- Known columns have on the right the values that they have on the left: as other columns, or as variables that
the expression does not see. -/
structure Represents (visible : String → Prop) (known : Column → Prop) (f : Column → Expr)
    (left right : Column → Option Value) (s t : Scope) : Prop where
  scope : ∀ x, visible x → s.get? x = t.get? x
  column : ∀ c, known c →
    (∃ d, f c = .column d ∧ right d = left c) ∨ ∃ x, ¬ visible x ∧ f c = .ident x ∧ t.get? x = left c

variable {I : Interpreter} {visible : String → Prop} {known : Column → Prop} {both : Prop} {f : Column → Expr}
  {left right : Column → Option Value}

lemma Represents.insert {s t : Scope} (h : Represents visible known f left right s t) {x : String} (hx : visible x)
    (v : Value) : Represents visible known f left right (s.insert x v) (t.insert x v) where
  scope y hy := by simp only [Bindings.get?_insert, h.scope y hy]
  column c hc := by
    refine (h.column c hc).imp id ?_
    rintro ⟨y, hy, hf, hv⟩
    have hne : y ≠ x := fun he => hy (he ▸ hx)
    exact ⟨y, hy, hf, by rw [Bindings.get?_insert_of_ne t v hne, hv]⟩

lemma Represents.insertAll {s t : Scope} (h : Represents visible known f left right s t)
    {l : List (String × Value)}
    (hl : ∀ p ∈ l, visible p.1) : Represents visible known f left right (s.insertAll l) (t.insertAll l) := by
  induction l generalizing s t with
  | nil => exact h
  | cons p l ih =>
    exact ih (h.insert (hl p List.mem_cons_self) p.2) fun q hq => hl q (List.mem_cons_of_mem p hq)

lemma evalWith_column {s t : Scope} (h : Represents visible known f left right s t) {c : Column} (hc : known c) :
    Follows both (I.evalWith left s (.column c)) (I.evalWith right t (f c)) := by
  rcases h.column c hc with ⟨d, hf, hv⟩ | ⟨x, -, hf, hv⟩
  · rw [hf, evalWith, evalWith, hv]
    cases left c with
    | none => exact Follows.errors both _ _
    | some v => exact Follows.refl both _
  · rw [hf, evalWith, evalWith, variableIn, hv]
    cases left c with
    | none => exact Follows.errors both _ _
    | some v => exact Follows.refl both _

section called

variable {s t : Scope} {c : Column}

lemma exists_applyWith_eq_error (h : Represents visible known f left right s t) (hk : known c)
    (hc : I.Uncallable (f c)) (nrow : Option Nat) (args : List Value) :
    ∃ e, I.applyWith right t nrow args (f c) = .error e := by
  rcases h.column c hk with ⟨d, hf, -⟩ | ⟨x, -, hf, -⟩
  · rw [hf]
    exact ⟨_, rfl⟩
  · rw [hf] at hc ⊢
    have hx : I.functions.get? x = none := Option.isNone_iff_eq_none.mp (Option.isSome_eq_false_iff.mp hc.1)
    refine ⟨.unknownFunction x, ?_⟩
    simp only [applyWith, callFunction, hx]

lemma exists_applyWith_call_eq_error (h : Represents visible known f left right s t) (hk : known c)
    (hc : I.Uncallable (f c)) (nrow : Option Nat) (args : List Value) (wrapped : List Expr) :
    ∃ e, I.applyWith right t nrow args ((Expr.call (.column c) wrapped).mapColumns f) = .error e := by
  rw [Expr.mapColumns, Expr.mapColumns]
  rcases h.column c hk with ⟨d, hf, -⟩ | ⟨x, -, hf, -⟩
  · rw [hf]
    exact ⟨_, rfl⟩
  · rw [hf] at hc ⊢
    refine ⟨unsupported (.call (.ident x) (Expr.mapColumnsItems f wrapped)), ?_⟩
    rcases Expr.mapColumnsItems f wrapped with _ | ⟨inner, _ | ⟨_, _⟩⟩
    · rfl
    · rw [applyWith, if_neg hc.2.1, if_neg hc.2.2]
    · rfl

end called

mutual

theorem evalWith_mapColumns {s t : Scope} (h : Represents visible known f left right s t) : ∀ e : Expr,
    (∀ n ∈ e.nodes, I.Admits visible known f both n) →
      Follows both (I.evalWith left s e) (I.evalWith right t (e.mapColumns f))
  | .literal _, _ | .quote _, _ => Follows.refl both _
  | .ident x, hn => by
    have hx : visible x := hn _ (Expr.self_mem_nodes _)
    simp only [Expr.mapColumns, evalWith, variableIn, h.scope x hx]
    exact Follows.refl both _
  | .column c, hn => evalWith_column h (hn _ (Expr.self_mem_nodes _))
  | .call func args, hn => by
    simp only [Expr.nodes, List.forall_mem_cons, List.forall_mem_append] at hn
    simp only [Expr.mapColumns, evalWith]
    refine (evalItems_mapColumns h args hn.2.2).bind fun vs => ?_
    exact applyWith_mapColumns h none vs func hn.2.1 hn.1
  | .index target indices, hn => by
    simp only [Expr.nodes, List.forall_mem_cons, List.forall_mem_append] at hn
    simp only [Expr.mapColumns, evalWith]
    refine (evalWith_mapColumns h target hn.2.1).bind fun v => ?_
    exact (evalItems_mapColumns h indices hn.2.2).bind fun vs => Follows.refl both _
  | .field target name, hn => by
    simp only [Expr.nodes, List.forall_mem_cons] at hn
    simp only [Expr.mapColumns, evalWith]
    exact (evalWith_mapColumns h target hn.2).bind fun v => Follows.refl both _
  | .block lines, hn => by
    simp only [Expr.nodes, List.forall_mem_cons] at hn
    simp only [Expr.mapColumns, evalWith]
    refine (evalLines_mapColumns h none lines hn.2).bind fun last => ?_
    cases last with
    | none => exact Follows.errors both _ _
    | some v => exact Follows.refl both _
  | .tuple items, hn | .vector items, hn => by
    simp only [Expr.nodes, List.forall_mem_cons] at hn
    simp only [Expr.mapColumns, evalWith]
    exact (evalItems_mapColumns h items hn.2).bind fun vs => Follows.refl both _
  | .namedTuple fields, hn => by
    simp only [Expr.nodes, List.forall_mem_cons] at hn
    simp only [Expr.mapColumns, evalWith]
    exact (evalFields_mapColumns h fields hn.2).bind fun vs => Follows.refl both _
  | .interp _, _ | .keyword _ _, _ | .assign _ _, _ | .flagged _ _, _ | .lambda _ _, _ | .pair _ _, _ =>
    Follows.errors both _ _

theorem evalItems_mapColumns {s t : Scope} (h : Represents visible known f left right s t) : ∀ es : List Expr,
    (∀ n ∈ Expr.nodesOf es, I.Admits visible known f both n) →
      Follows both (I.evalItems left s es) (I.evalItems right t (Expr.mapColumnsItems f es))
  | [], _ => Follows.refl both _
  | e :: es, hn => by
    simp only [Expr.nodesOf, List.forall_mem_append] at hn
    simp only [Expr.mapColumnsItems, evalItems]
    refine (evalWith_mapColumns h e hn.1).bind fun v => ?_
    exact (evalItems_mapColumns h es hn.2).bind fun vs => Follows.refl both _

theorem evalFields_mapColumns {s t : Scope} (h : Represents visible known f left right s t) :
    ∀ fs : List (String × Expr), (∀ n ∈ Expr.nodesOfFields fs, I.Admits visible known f both n) →
      Follows both (I.evalFields left s fs) (I.evalFields right t (Expr.mapColumnsFields f fs))
  | [], _ => Follows.refl both _
  | (name, e) :: fs, hn => by
    simp only [Expr.nodesOfFields, List.forall_mem_append] at hn
    simp only [Expr.mapColumnsFields, evalFields]
    refine (evalWith_mapColumns h e hn.1).bind fun v => ?_
    exact (evalFields_mapColumns h fs hn.2).bind fun vs => Follows.refl both _

theorem evalLines_mapColumns {s t : Scope} (h : Represents visible known f left right s t) (last : Option Value) :
    ∀ es : List Expr, (∀ n ∈ Expr.nodesOf es, I.Admits visible known f both n) →
      Follows both (I.evalLines left s last es) (I.evalLines right t last (Expr.mapColumnsItems f es))
  | [], _ => Follows.refl both _
  | e :: es, hn => by
    rw [Expr.nodesOf, List.forall_mem_append] at hn
    cases e with
    | assign sink value =>
      simp only [Expr.nodes, List.forall_mem_cons, List.forall_mem_append] at hn
      cases sink with
      | ident x =>
        simp only [Expr.mapColumnsItems, Expr.mapColumns, evalLines]
        refine (evalWith_mapColumns h value hn.1.2.2).bind fun v => ?_
        exact evalLines_mapColumns (h.insert (hn.1.2.1 _ (Expr.self_mem_nodes _)) v) (some v) es hn.2
      | column c => exact absurd rfl (hn.1.1 c)
      | _ => exact Follows.errors both _ _
    | column c =>
      have hk : known c := hn.1 _ (Expr.self_mem_nodes _)
      have hc : Follows both _ _ := evalWith_column (I := I) h hk
      -- what stands for the column is no assignment
      rcases h.column c hk with ⟨d, hf, -⟩ | ⟨x, -, hf, -⟩
      all_goals
        simp only [Expr.mapColumnsItems, Expr.mapColumns, hf, evalLines] at hc ⊢
        exact hc.bind fun v => evalLines_mapColumns h (some v) es hn.2
    | _ => exact (evalWith_mapColumns h _ hn.1).bind fun v => evalLines_mapColumns h (some v) es hn.2

theorem applyWith_mapColumns {s t : Scope} (h : Represents visible known f left right s t) (nrow : Option Nat)
    (args : List Value) : ∀ e : Expr, (∀ n ∈ e.nodes, I.Admits visible known f both n) →
      (both → ∀ c, I.applied e = .column c → I.Uncallable (f c)) →
      Follows both (I.applyWith left s nrow args e) (I.applyWith right t nrow args (e.mapColumns f))
  | .lambda xs body, hn, _ => by
    simp only [Expr.nodes, List.forall_mem_cons] at hn
    simp only [Expr.mapColumns, applyWith]
    split
    · exact evalWith_mapColumns (h.insertAll fun p hp => hn.1 _ (List.of_mem_zip hp).1) body hn.2
    · exact Follows.errors both _ _
  | .call func wrapped, hn, hc => match func, wrapped, hn, hc with
    | .ident name, [inner], hn, hc => by
      simp only [Expr.nodes, Expr.nodesOf, List.forall_mem_cons, List.forall_mem_append] at hn
      have ih (hw : name = I.byRow ∨ name = I.passMissing) (nrow : Option Nat) (args : List Value) :=
        applyWith_mapColumns h nrow args inner hn.2.2.1 (by simpa only [applied, if_pos hw] using hc)
      simp only [Expr.mapColumns, Expr.mapColumnsItems, applyWith]
      split
      next hr =>
        refine (Follows.refl both _).bind fun length => ?_
        -- each row applies the same inner function, to the values of that row
        cases length.or nrow with
        | none => exact ih (.inl hr) none args
        | some rows =>
          exact (Follows.mapM fun i _ => ih (.inl hr) none (Rows.row args i)).bind fun vs => Follows.refl both _
      next =>
        split
        next hp =>
          split
          · exact Follows.refl both _
          · exact ih (.inr hp) nrow args
        next => exact Follows.errors both _ _
    | .column c, wrapped, hn, _ => by
      rw [Expr.nodes, List.forall_mem_cons, List.forall_mem_append] at hn
      refine Follows.error_of_both fun hb => ?_
      exact exists_applyWith_call_eq_error h (hn.2.1 _ (Expr.self_mem_nodes _)) (hn.1 hb c rfl) nrow args _
    | .ident _, [], _, _ | .ident _, _ :: _ :: _, _, _ | .literal _, _, _, _ | .quote _, _, _, _
    | .interp _, _, _, _ | .call _ _, _, _, _ | .keyword _ _, _, _, _ | .index _ _, _, _, _ | .field _ _, _, _, _
    | .assign _ _, _, _, _ | .flagged _ _, _, _, _ | .block _, _, _, _ | .tuple _, _, _, _ | .namedTuple _, _, _, _
    | .vector _, _, _, _ | .lambda _ _, _, _, _ | .pair _ _, _, _, _ => Follows.errors both _ _
  | .ident x, _, _ => Follows.refl both _
  | .column c, hn, hc =>
    Follows.error_of_both fun hb =>
      exists_applyWith_eq_error h (hn _ (Expr.self_mem_nodes _)) (hc hb c rfl) nrow args
  | .literal _, _, _ | .quote _, _, _ | .interp _, _, _ | .keyword _ _, _, _ | .index _ _, _, _ | .field _ _, _, _
  | .assign _ _, _, _ | .flagged _ _, _, _ | .block _, _, _ | .tuple _, _, _ | .namedTuple _, _, _
  | .vector _, _, _ | .pair _ _, _, _ => Follows.errors both _ _

end

end Tabular.Interpreter
