import Tabular.Proofs.Arguments
import Tabular.Proofs.Rows

/-!
Rewriting preserves meaning: the function that an argument becomes, applied to the columns of a table, computes
what the value of the argument means row by row or for the columns as a whole.
-/

namespace Tabular

namespace Triple

def meaningAt (I : Interpreter) (t : Triple) (r : Expr) (scope : Scope) (values : List Value) : EvalResult :=
  if t.passMissing && values.any Value.isMissing then .ok .missing
  else I.evalWith (Column.lookup t.sources values) scope r

/-- What `r` means for a table with the given columns: a value for every row, or one value for all of them. -/
def meaning (I : Interpreter) (t : Triple) (r : Expr) (scope : Scope) (nrow : Nat) (columns : List (List Value)) :
    EvalResult :=
  match t.mode with
  | .rowWise => return .list (← (List.range nrow).mapM fun i =>
      t.meaningAt I r scope (columns.map fun xs => xs.getD i .missing))
  | .columnWise => I.evalWith (Column.lookup t.sources (columns.map .list)) scope r

variable {I : Interpreter} {t : Triple} {r : Expr} {scope : Scope} {nrow : Option Nat}

lemma meaningAt_list (columns : List (List Value)) : t.meaningAt I r scope (columns.map .list) =
    I.evalWith (Column.lookup t.sources (columns.map .list)) scope r := by
  have hm : (columns.map Value.list).any Value.isMissing = false := by simp [Value.isMissing]
  rw [meaningAt, hm, Bool.and_false, if_neg Bool.false_ne_true]

lemma applyWith_passed (hw : I.passMissing ≠ I.byRow) (hr : r.AssignsNoColumn)
    (ht : (t.sources, t.function) = r.abstracted) {values : List Value} (hl : values.length = t.sources.length) :
    Follows (∀ c, ¬ I.Calls (.column c) r) (t.meaningAt I r scope values)
      (I.applyWith (fun _ => none) scope nrow values
        (if t.passMissing then .apply I.passMissing [t.function.toExpr] else t.function.toExpr)) := by
  obtain ⟨hs, hf⟩ := Prod.mk.inj ht
  have ha : Follows (∀ c, ¬ I.Calls (.column c) r) (I.evalWith (Column.lookup t.sources values) scope r)
      (I.applyWith (fun _ => none) scope nrow values t.function.toExpr) := by
    rw [hs] at hl ⊢
    rw [hf]
    exact Interpreter.applyWith_abstracted hr hl (fun _ _ => rfl) scope nrow
  rw [meaningAt]
  cases t.passMissing with
  | false => simpa using ha
  | true =>
    rw [if_pos rfl, Interpreter.applyWith_passMissing hw, Bool.true_and]
    split
    · exact Follows.refl _ _
    · exact ha

lemma callRows_callable {config : Config} (hb : I.byRow = config.byRow) (hp : I.passMissing = config.passMissing)
    (hw : config.byRow ≠ config.passMissing) (hr : r.AssignsNoColumn) (ht : (t.sources, t.function) = r.abstracted)
    {columns : List (List Value)} (hl : columns.length = t.sources.length) {rows : Nat}
    (hc : ∀ xs ∈ columns, xs.length = rows) (scope : Scope) : Follows (∀ c, ¬ I.Calls (.column c) r)
      (t.meaning I r scope rows columns) (I.callRows scope rows (columns.map .list) (t.callable config)) := by
  have hne : I.passMissing ≠ I.byRow := by
    rw [hb, hp]
    exact hw.symm
  rw [meaning, Interpreter.callRows, callable, ← hb, ← hp]
  cases t.mode with
  | rowWise =>
    obtain ⟨length, hlen, hor⟩ := Rows.commonLength_or hc
    rw [if_pos rfl, Interpreter.applyWith_byRow hlen hor]
    refine (Follows.mapM fun i _ => ?_).bind fun vs => Follows.refl _ _
    rw [Rows.row_map_list]
    exact applyWith_passed hne hr ht (by rwa [List.length_map])
  | columnWise =>
    rw [if_neg (by decide)]
    simp only [← meaningAt_list]
    exact applyWith_passed hne hr ht (by rwa [List.length_map])

end Triple

theorem callRows_of_expandArgument {construct : Construct} {config : Config} {arg : Nat} {e : Expr} {t : Triple}
    (h : expandArgument construct config arg e = .ok (.triple t)) (hw : config.byRow ≠ config.passMissing) :
    ∃ a r, Argument.ofExpr e = .ok a ∧ a.flags.table = false ∧ a.value.resolve = .ok r ∧
      t.mode = a.flags.modeOr construct.defaultMode ∧ t.passMissing = a.flags.passMissing ∧
      (∀ c ∈ r.mentions, ∃ d ∈ t.sources, d.same c = true) ∧
      ∀ I : Interpreter, I.byRow = config.byRow → I.passMissing = config.passMissing →
      ∀ (scope : Scope) (nrow : Nat) (columns : List (List Value)), columns.length = t.sources.length →
      (∀ xs ∈ columns, xs.length = nrow) →
        (t.mode = .rowWise → ∀ row : Nat → Value,
          (∀ i < nrow, t.meaningAt I r scope (columns.map fun xs => xs.getD i .missing) = .ok (row i)) →
          I.callRows scope nrow (columns.map .list) (t.callable config) =
          .ok (.list ((List.range nrow).map row))) ∧
        (t.mode = .columnWise → ∀ v, I.evalWith (Column.lookup t.sources (columns.map .list)) scope r = .ok v →
          I.callRows scope nrow (columns.map .list) (t.callable config) = .ok v) ∧
        ((∀ c, ¬ I.Calls (.column c) r) → ∀ v,
          I.callRows scope nrow (columns.map .list) (t.callable config) = .ok v →
          t.meaning I r scope nrow columns = .ok v) := by
  obtain ⟨a, ha, htable, sink, r, -, hr, rfl⟩ := expandArgument_eq_triple.mp h
  refine ⟨a, r, ha, htable, hr, rfl, rfl, fun c hc => Expr.exists_source hc, ?_⟩
  intro I hb hp scope nrow columns hl hc
  have hf := Triple.callRows_callable hb hp hw (Expr.resolve_assignsNoColumn hr) rfl hl hc scope
  refine ⟨fun hm row hrow => hf.1 _ ?_, fun hm v hv => hf.1 v ?_, hf.2⟩
  · rw [Triple.meaning, hm]
    refine bind_eq_ok.mpr ⟨(List.range nrow).map row, mapM_eq_ok.mpr ?_, rfl⟩
    rw [List.forall₂_map_right_iff, List.forall₂_same]
    exact fun i hi => hrow i (List.mem_range.mp hi)
  · rw [Triple.meaning, hm]
    exact hv

theorem callRows_of_expandArgument_passing_missing : ({} : Config).byRow ≠ ({} : Config).passMissing ∧
    ∃ t, expandArgument .transform {} 1
        (.flagged "m" (.assign (.quote "y") (.apply "+" [.quote "a", .quote "b"]))) = .ok (.triple t) ∧
      (Interpreter.ofConfig {}).callRows ∅ 2 [.list [.int 1, .missing], .list [.int 2, .int 3]] (t.callable {}) =
        .ok (.list [.int 3, .missing]) := by
  have h : expandArgument .transform {} 1
      (.flagged "m" (.assign (.quote "y") (.apply "+" [.quote "a", .quote "b"]))) = .ok (.triple
        ⟨1, [.symbol "a", .symbol "b"], ⟨["a", "b"], .apply "+" [.ident "a", .ident "b"]⟩,
          some (.column (.symbol "y")), .rowWise, true, false⟩) := rfl
  refine ⟨by decide, _, h, ?_⟩
  obtain ⟨a, r, ha, -, hr, -, -, -, hI⟩ := callRows_of_expandArgument h (by decide)
  cases ha
  cases hr
  refine (hI (.ofConfig {}) rfl rfl ∅ 2 [[.int 1, .missing], [.int 2, .int 3]] rfl (by simp)).1 rfl
    (fun i => if i = 0 then .int 3 else .missing) fun i hi => ?_
  match i with
  | 0 => rfl
  | 1 => rfl

end Tabular
