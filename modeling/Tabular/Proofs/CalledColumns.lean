import Tabular.Proofs.Resolution

/-!
Columns that are called. A column is no function, but its parameter may have the name of one; then a call of the
column succeeds in the function that an expression is abstracted into, where the expression itself has no meaning.
-/

namespace Tabular.Interpreter

/-- Whether a column is called whose parameter has the name of a function or a wrapper. -/
def Captures (I : Interpreter) (e : Expr) : Prop := ∃ c, I.Calls (.column c) e ∧
  (I.hasFunction (e.parameters.nameOf c) = true ∨ e.parameters.nameOf c = I.byRow ∨
    e.parameters.nameOf c = I.passMissing)

variable {I : Interpreter} {e : Expr}

lemma uncallable_of_not_captures (h : ¬ I.Captures e) {c : Column} (hc : I.Calls (.column c) e) :
    I.Uncallable (.ident (e.parameters.nameOf c)) := by
  rw [Captures, not_exists] at h
  have hn := not_and.mp (h c) hc
  rw [not_or, not_or] at hn
  exact ⟨Bool.eq_false_iff.mpr hn.1, hn.2⟩

lemma evalWith_call_column_ne_ok (columns : Column → Option Value) (scope : Scope) (c : Column) (args : List Expr)
    (v : Value) : I.evalWith columns scope (.call (.column c) args) ≠ .ok v := by
  intro h
  obtain ⟨vs, -, h⟩ := bind_eq_ok.mp h
  cases h

lemma call_abstracted_of_call_column {c : Column} {args : List Expr}
    (ha : (Expr.call (.column c) args).AssignsNoColumn)
    {values : List Value} (hl : values.length = (Expr.call (.column c) args).abstracted.1.length) {scope : Scope}
    {vs : List Value}
    (h : I.evalItems (Column.lookup (Expr.call (.column c) args).abstracted.1 values) scope args = .ok vs) :
    I.call scope values (Expr.call (.column c) args).abstracted.2.toExpr =
      I.callFunction ((Expr.call (.column c) args).parameters.nameOf c) vs := by
  have hn := admits_parameters (I := I) ha
  rw [Expr.nodes, List.forall_mem_cons, List.forall_mem_append] at hn
  have hargs := (evalItems_mapColumns (represents_parameters hl (fun _ _ => rfl) scope) args hn.2.2).1 vs h
  rw [call, Expr.abstracted_eq, Closure.toExpr, applyWith, if_pos (length_params hl), Expr.mapColumns,
    evalWith, hargs, Expr.mapColumns]
  rfl

theorem eval_of_call_abstracted (hr : e.Resolved) {values : List Value}
    (hl : values.length = e.abstracted.1.length) (scope : Scope) :
    (∀ v, I.evalWith (Column.lookup e.abstracted.1 values) scope e = .ok v →
      I.call scope values e.abstracted.2.toExpr = .ok v) ∧
    (∀ v, I.call scope values e.abstracted.2.toExpr = .ok v →
      I.evalWith (Column.lookup e.abstracted.1 values) scope e = .ok v ∨ I.Captures e) ∧
    ∀ c args vs, e = .call (.column c) args →
      I.evalItems (Column.lookup e.abstracted.1 values) scope args = .ok vs →
      (∀ v, I.evalWith (Column.lookup e.abstracted.1 values) scope e ≠ .ok v) ∧
        I.call scope values e.abstracted.2.toExpr = I.callFunction (e.parameters.nameOf c) vs := by
  have hf := applyWith_abstracted_of_uncallable (I := I) hr.assignsNoColumn hl (fun _ _ => rfl) scope none
  refine ⟨hf.1, fun v hv => ?_, ?_⟩
  · by_cases hc : I.Captures e
    · exact .inr hc
    · exact .inl (hf.2 (fun c => uncallable_of_not_captures hc) v hv)
  · rintro c args vs rfl hvs
    exact ⟨evalWith_call_column_ne_ok _ scope c args, call_abstracted_of_call_column hr.assignsNoColumn hl hvs⟩

theorem eval_of_call_abstracted_named_length :
    let I : Interpreter := .ofConfig {}
    let e : Expr := .call (.column (.symbol "length")) [.vector [.literal (.int 1), .literal (.int 2)]]
    e.Resolved ∧ e.abstracted = ([.symbol "length"], ⟨["length"], .apply "length" [.vector [.literal (.int 1),
        .literal (.int 2)]]⟩) ∧
      (∀ v, I.evalWith (Column.lookup e.abstracted.1 [.list [.int 5]]) ∅ e ≠ .ok v) ∧
      I.call ∅ [.list [.int 5]] e.abstracted.2.toExpr = .ok (.int 2) ∧ I.Captures e := by
  intro I e
  have hr : e.Resolved := by simp [e, Expr.Resolved, Expr.nodes, Expr.isPlain]
  have hcall : I.call ∅ [.list [.int 5]] e.abstracted.2.toExpr = .ok (.int 2) := rfl
  have hl : [Value.list [.int 5]].length = e.abstracted.1.length := rfl
  obtain ⟨-, hok, hcolumn⟩ := eval_of_call_abstracted (I := I) hr hl ∅
  obtain ⟨hne, -⟩ := hcolumn (.symbol "length") _ [.list [.int 1, .int 2]] rfl rfl
  exact ⟨hr, rfl, hne, hcall, (hok _ hcall).resolve_left (hne _)⟩

end Tabular.Interpreter
