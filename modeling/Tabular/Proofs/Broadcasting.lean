import Tabular.Proofs.Bindings
import Tabular.Proofs.Rows

/-!
Two ways to compute a column. A formula under the wrapper for rows is evaluated once for every row; with a dot
in front of every operator it is evaluated once, and each operator goes through the rows by itself. Both give
the same column.
-/

namespace Tabular

def Value.isList : Value → Bool
  | .list _ => true
  | _ => false

namespace Operation

variable {op : Operation} {a b v : Value}

lemma isList_intArithmetic {x y : Int64} (h : op.intArithmetic x y = .ok v) : v.isList = false := by
  revert h
  fun_cases intArithmetic op x y <;> rintro ⟨⟩ <;> rfl

lemma isList_arithmetic (h : op.arithmetic a b = .ok v) : v.isList = false := by
  rw [arithmetic.eq_def] at h
  split at h
  · cases h
    rfl
  · split at h
    · cases h
      rfl
    · obtain ⟨x, -, h⟩ := bind_eq_ok.mp h
      obtain ⟨y, -, h⟩ := bind_eq_ok.mp h
      split at h
      · exact isList_intArithmetic h
      · cases h
        rfl

lemma isList_ordered {holds : Ordering → Bool} (h : op.ordered a b holds = .ok v) : v.isList = false := by
  rw [ordered] at h
  split at h <;> cases h
  rfl

lemma isList_comparison (h : op.comparison a b = .ok v) : v.isList = false := by
  rw [comparison.eq_def] at h
  split at h
  · cases h
    rfl
  · split at h
    · cases h
      rfl
    · cases h
      rfl
    all_goals exact isList_ordered h

lemma isList_logical {holds : Bool → Bool → Bool} (h : op.logical holds a b = .ok v) : v.isList = false := by
  revert h
  fun_cases logical op holds a b <;> rintro ⟨⟩
  rfl

lemma isList_unary (h : op.unary a = .ok v) : v.isList = false := by
  rw [unary.eq_def] at h
  split at h
  · revert h
    fun_cases negate a <;> rintro ⟨⟩ <;> rfl
  · revert h
    fun_cases plus a <;> rintro ⟨⟩ <;> rfl
  · revert h
    fun_cases complement a <;> rintro ⟨⟩ <;> rfl
  · cases h

lemma isList_binary (h : op.binary a b = .ok v) : v.isList = false := by
  rw [binary.eq_def] at h
  split at h
  case h_7 | h_8 => exact isList_logical h
  case h_9 => cases h
  case h_10 => exact isList_arithmetic h
  all_goals exact isList_comparison h

lemma isList_run {args : List Value} (h : op.run args = .ok v) : v.isList = false := by
  rw [run.eq_def] at h
  split at h
  · exact isList_unary h
  · exact isList_binary h
  · cases h

end Operation

namespace Rows

/-- What can stand for `n` rows: a column of that height, or one value for all of them. -/
structure Fits (n : Nat) (column : Bool) (v : Value) : Prop where
  isList : v.isList = column
  height : ∀ items, v = .list items → items.length = n

variable {n : Nat} {v : Value}

lemma entry_of_isList (h : v.isList = false) (i : Nat) : entry i v = v := by
  cases v with
  | list items => cases h
  | _ => rfl

lemma fits_single (h : v.isList = false) : Fits n false v := by
  refine ⟨h, ?_⟩
  rintro items rfl
  cases h

lemma fits_column {items : List Value} (h : items.length = n) : Fits n true (.list items) := by
  refine ⟨rfl, ?_⟩
  rintro _ ⟨⟩
  exact h

lemma Fits.exists_items (h : Fits n true v) : ∃ items, v = .list items ∧ items.length = n := by
  cases v with
  | list items => exact ⟨items, rfl, h.height items rfl⟩
  | _ => cases h.isList

lemma list_mapM_eq_ok {f : Nat → EvalResult} : (do return .list (← (List.range n).mapM f) : EvalResult) = .ok v ↔
    Fits n true v ∧ ∀ i < n, f i = .ok (entry i v) := by
  simp only [bind_eq_ok, pure_eq_ok, mapM_eq_ok, List.forall₂_iff_get, List.length_range, List.get_eq_getElem,
    List.getElem_range]
  constructor
  · rintro ⟨items, ⟨hl, h⟩, rfl⟩
    refine ⟨fits_column hl.symm, fun i hi => ?_⟩
    rw [h i hi (hl ▸ hi), entry, List.getElem?_eq_getElem (hl ▸ hi), Option.getD_some]
  · rintro ⟨hv, h⟩
    obtain ⟨items, rfl, hl⟩ := hv.exists_items
    refine ⟨items, ⟨hl.symm, fun i hi hi' => ?_⟩, rfl⟩
    rw [h i hi, entry, List.getElem?_eq_getElem hi', Option.getD_some]

lemma commonLength_columns {columns : List (List Value)} (hne : columns ≠ [])
    (hc : ∀ items ∈ columns, items.length = n) : commonLength (columns.map .list) = .ok (some n) := by
  refine commonLength_eq_ok.mpr ⟨fun items hi => ?_, .inr ?_⟩
  · obtain ⟨items', hi', he⟩ := List.mem_map.mp hi
    rw [← Value.list.inj he, hc items' hi']
  · obtain ⟨items, hi⟩ := List.exists_mem_of_ne_nil columns hne
    exact ⟨items, List.mem_map_of_mem hi⟩

lemma broadcast_eq_ok {f : List Value → EvalResult} (hf : ∀ args w, f args = .ok w → w.isList = false) (hn : 0 < n)
    {args : List Value} (ha : ∀ items, .list items ∈ args → items.length = n) : broadcast f args = .ok v ↔
      Fits n (args.any Value.isList) v ∧ ∀ i < n, f (row args i) = .ok (entry i v) := by
  cases hc : args.any Value.isList with
  | false =>
    have hs : ∀ w ∈ args, w.isList = false := by simpa using hc
    have hl : commonLength args = .ok none := by
      refine commonLength_eq_ok.mpr ⟨fun items hi => ?_, .inl rfl⟩
      cases hs _ hi
    have hb : broadcast f args = f args := by
      rw [broadcast, hl]
      rfl
    have hr (i : Nat) : row args i = args :=
      (List.map_congr_left fun w hw => entry_of_isList (hs w hw) i).trans args.map_id
    simp only [hb, hr]
    constructor
    · intro h
      have hv := hf args v h
      exact ⟨fits_single hv, fun i _ => by rw [entry_of_isList hv, h]⟩
    · rintro ⟨hv, h⟩
      rw [h 0 hn, entry_of_isList hv.isList]
  | true =>
    have hl : commonLength args = .ok (some n) := by
      refine commonLength_eq_ok.mpr ⟨fun items hi => by rw [ha items hi], .inr ?_⟩
      obtain ⟨w, hw, hi⟩ := List.any_eq_true.mp hc
      cases w with
      | list items => exact ⟨items, hw⟩
      | _ => cases hi
    have hb : broadcast f args = (do return .list (← (List.range n).mapM fun i => f (row args i))) := by
      rw [broadcast, hl]
      rfl
    rw [hb, list_mapM_eq_ok]

end Rows

namespace Interpreter

variable {I : Interpreter} {scope : Scope}

lemma evalItems_eq_ok {es : List Expr} {vs : List Value} : I.evalItems (fun _ => none) scope es = .ok vs ↔
    List.Forall₂ (fun e v => I.eval scope e = .ok v) es vs := by
  have hm : I.evalItems (fun _ => none) scope es = es.mapM (I.eval scope) := by
    induction es with
    | nil => rfl
    | cons e es ih =>
      rw [evalItems, ih, List.mapM_cons]
      rfl
  rw [hm, mapM_eq_ok]

lemma eval_apply {name : String} {es : List Expr} {v : Value} : I.eval scope (.apply name es) = .ok v ↔
    ∃ vs, List.Forall₂ (fun e v => I.eval scope e = .ok v) es vs ∧ I.callFunction name vs = .ok v := by
  rw [Expr.apply, eval, evalWith, bind_eq_ok]
  simp only [evalItems_eq_ok, applyWith]

end Interpreter

def Operation.dotted (op : Operation) : String := "." ++ op.symbol

structure Interpreter.HasOperators (I : Interpreter) : Prop where
  symbol : ∀ (op : Operation) (args : List Value), I.callFunction op.symbol args = op.run args
  dotted : ∀ (op : Operation) (args : List Value), I.callFunction op.dotted args = Rows.broadcast op.run args

lemma Interpreter.hasOperators_ofConfig (config : Config) : (ofConfig config).HasOperators where
  symbol op args := by cases op <;> rfl
  dotted op args := by cases op <;> rfl

inductive Formula where
  | constant (v : Value) (single : v.isList = false)
  | param (name : String)
  | unary (op : Operation) (operand : Formula)
  | binary (op : Operation) (left right : Formula)

namespace Formula

def toExpr (spell : Operation → String) : Formula → Expr
  | constant v _ => .literal v
  | param name => .ident name
  | unary op a => .apply (spell op) [a.toExpr spell]
  | binary op a b => .apply (spell op) [a.toExpr spell, b.toExpr spell]

def plain : Formula → Expr := toExpr Operation.symbol

def dotted : Formula → Expr := toExpr Operation.dotted

def params : Formula → List String
  | constant _ _ => []
  | param name => [name]
  | unary _ a => a.params
  | binary _ a b => a.params ++ b.params

def isColumn (F : Formula) : Bool := !F.params.isEmpty

lemma isColumn_binary (op : Operation) (a b : Formula) :
    (binary op a b).isColumn = (a.isColumn || b.isColumn) := by
  rw [isColumn, isColumn, isColumn, params]
  cases a.params <;> rfl

variable {I : Interpreter} {n : Nat} {row : Nat → Scope} {F : Formula} {v : Value}

structure Gathers (I : Interpreter) (n : Nat) (row : Nat → Scope) (F : Formula) (v : Value) : Prop where
  fits : Rows.Fits n F.isColumn v
  rows : ∀ i < n, I.eval (row i) F.plain = .ok (Rows.entry i v)

lemma isList_of_eval_plain (hI : I.HasOperators) (hc : F.isColumn = false) {scope : Scope}
    (h : I.eval scope F.plain = .ok v) : v.isList = false := by
  cases F with
  | constant w single =>
    cases h
    exact single
  | param name => cases hc
  | unary op a =>
    obtain ⟨vs, -, h⟩ := Interpreter.eval_apply.mp h
    rw [hI.symbol] at h
    exact Operation.isList_run h
  | binary op a b =>
    obtain ⟨vs, -, h⟩ := Interpreter.eval_apply.mp h
    rw [hI.symbol] at h
    exact Operation.isList_run h

lemma eval_plain_congr (hc : F.isColumn = false) (s t : Scope) : I.eval s F.plain = I.eval t F.plain := by
  simp only [plain, Interpreter.eval]
  induction F with
  | constant w single => rfl
  | param name => cases hc
  | unary op a ih =>
    simp only [toExpr, Expr.apply, Interpreter.evalWith, Interpreter.evalItems, Interpreter.applyWith, ih hc]
  | binary op a b iha ihb =>
    rw [isColumn_binary, Bool.or_eq_false_iff] at hc
    simp only [toExpr, Expr.apply, Interpreter.evalWith, Interpreter.evalItems, Interpreter.applyWith, iha hc.1,
      ihb hc.2]

lemma exists_gathers (hI : I.HasOperators) (hn : 0 < n) (h : ∀ i < n, ∃ w, I.eval (row i) F.plain = .ok w) :
    ∃ v, F.Gathers I n row v := by
  cases hc : F.isColumn with
  | false =>
    obtain ⟨v, hv⟩ := h 0 hn
    have hs := isList_of_eval_plain hI hc hv
    refine ⟨v, hc ▸ Rows.fits_single hs, fun i _ => ?_⟩
    rw [Rows.entry_of_isList hs, eval_plain_congr hc (row i) (row 0), hv]
  | true =>
    choose! w hw using h
    refine ⟨.list ((List.range n).map w), hc ▸ Rows.fits_column (by simp), fun i hi => ?_⟩
    rw [hw i hi]
    simp [Rows.entry, hi]

section Operands

variable {Fs : List Formula} {vs : List Value} (hg : List.Forall₂ (Gathers I n row) Fs vs)
include hg

lemma any_isList_of_gathers : vs.any Value.isList = Fs.any isColumn := by
  induction hg with
  | nil => rfl
  | cons h _ ih => rw [List.any_cons, List.any_cons, h.fits.isList, ih]

lemma broadcast_of_gathers (hn : 0 < n) (op : Operation) : Rows.broadcast op.run vs = .ok v ↔
    Rows.Fits n (Fs.any isColumn) v ∧ ∀ i < n, op.run (Rows.row vs i) = .ok (Rows.entry i v) := by
  rw [← any_isList_of_gathers hg]
  refine Rows.broadcast_eq_ok (fun _ _ => Operation.isList_run) hn fun items hi => ?_
  obtain ⟨F, -, hF⟩ := exists_of_mem_right hg hi
  exact hF.fits.height items rfl

lemma eval_row_of_gathers {i : Nat} (hi : i < n) :
    List.Forall₂ (fun e v => I.eval (row i) e = .ok v) (Fs.map plain) (Rows.row vs i) := by
  rw [List.forall₂_map_left_iff, Rows.row, List.forall₂_map_right_iff]
  exact hg.imp fun F v h => h.rows i hi

end Operands

variable {all : Scope}

lemma eval_operation (hI : I.HasOperators) (hn : 0 < n) (op : Operation) (Fs : List Formula)
    (hplain : F.plain = .apply op.symbol (Fs.map plain)) (hdotted : F.dotted = .apply op.dotted (Fs.map dotted))
    (hcolumn : F.isColumn = Fs.any isColumn)
    (ih : ∀ F ∈ Fs, ∀ v, I.eval all F.dotted = .ok v ↔ F.Gathers I n row v) :
    I.eval all F.dotted = .ok v ↔ F.Gathers I n row v := by
  have hoperands {vs : List Value} : List.Forall₂ (fun e v => I.eval all e = .ok v) (Fs.map dotted) vs ↔
      List.Forall₂ (Gathers I n row) Fs vs := by
    rw [List.forall₂_map_left_iff]
    exact ⟨fun h => forall₂_of_mem h fun F hF v _ => (ih F hF v).mp,
      fun h => forall₂_of_mem h fun F hF v _ => (ih F hF v).mpr⟩
  have hrow (i : Nat) (w : Value) : I.eval (row i) F.plain = .ok w ↔
      ∃ ws, List.Forall₂ (fun e v => I.eval (row i) e = .ok v) (Fs.map plain) ws ∧ op.run ws = .ok w := by
    simp only [hplain, Interpreter.eval_apply, hI.symbol]
  simp only [hdotted, Interpreter.eval_apply, hI.dotted, hoperands]
  constructor
  · rintro ⟨vs, hg, h⟩
    obtain ⟨hfits, hrows⟩ := (broadcast_of_gathers hg hn op).mp h
    exact ⟨hcolumn ▸ hfits, fun i hi => (hrow i _).mpr ⟨_, eval_row_of_gathers hg hi, hrows i hi⟩⟩
  · rintro ⟨hfits, hrows⟩
    -- every row has a value for each operand, and the values of an operand make up one for all rows
    obtain ⟨vs, hg⟩ : ∃ vs, List.Forall₂ (Gathers I n row) Fs vs := by
      refine exists_forall₂ fun F hF => exists_gathers hI hn fun i hi => ?_
      obtain ⟨ws, hws, -⟩ := (hrow i _).mp (hrows i hi)
      obtain ⟨w, -, hw⟩ := exists_of_mem_right (List.forall₂_map_left_iff.mp hws).flip hF
      exact ⟨w, hw⟩
    refine ⟨vs, hg, (broadcast_of_gathers hg hn op).mpr ⟨hcolumn ▸ hfits, fun i hi => ?_⟩⟩
    obtain ⟨ws, hws, h⟩ := (hrow i _).mp (hrows i hi)
    have he : ws = Rows.row vs i :=
      Except.ok.inj ((mapM_eq_ok.mpr hws).symm.trans (mapM_eq_ok.mpr (eval_row_of_gathers hg hi)))
    rw [← he, h]

/-- Parameters that are columns where all rows are seen at once, and entries of these columns in the
single rows. -/
def Spreads (n : Nat) (xs : List String) (all : Scope) (row : Nat → Scope) : Prop :=
  ∀ x ∈ xs, ∃ v, Rows.Fits n true v ∧ all.get? x = some v ∧ ∀ i, (row i).get? x = some (Rows.entry i v)

lemma eval_param {x : String} {u : Value} (hcol : Rows.Fits n true u) (hall : all.get? x = some u)
    (hrow : ∀ i, (row i).get? x = some (Rows.entry i u)) :
    I.eval all (param x).dotted = .ok v ↔ (param x).Gathers I n row v := by
  have he {s : Scope} {w : Value} (hw : s.get? x = some w) : I.eval s (.ident x) = .ok w := by
    rw [Interpreter.eval, Interpreter.evalWith, Interpreter.variableIn, hw]
  simp only [dotted, toExpr, he hall, Except.ok.injEq]
  constructor
  · rintro rfl
    exact ⟨hcol, fun i _ => he (hrow i)⟩
  · intro h
    obtain ⟨items, rfl, hl⟩ := hcol.exists_items
    obtain ⟨items', rfl, hl'⟩ := h.fits.exists_items
    refine congrArg Value.list (List.ext_getElem (hl.trans hl'.symm) fun i hi hi' => ?_)
    have hentry := Except.ok.inj ((he (hrow i)).symm.trans (h.rows i (hl ▸ hi)))
    simpa only [Rows.entry, List.getElem?_eq_getElem hi, List.getElem?_eq_getElem hi', Option.getD_some]
      using hentry

lemma eval_constant (hn : 0 < n) (w : Value) (single : w.isList = false) :
    I.eval all (constant w single).dotted = .ok v ↔ (constant w single).Gathers I n row v := by
  have he (s : Scope) : I.eval s (.literal w) = .ok w := rfl
  simp only [dotted, toExpr, he, Except.ok.injEq]
  constructor
  · rintro rfl
    exact ⟨Rows.fits_single single, fun i _ => by rw [Rows.entry_of_isList single, plain, toExpr, he]⟩
  · intro h
    have h0 := h.rows 0 hn
    rw [plain, toExpr, he, Rows.entry_of_isList h.fits.isList] at h0
    exact Except.ok.inj h0

lemma eval_dotted (hI : I.HasOperators) (hn : 0 < n) {xs : List String} (hs : Spreads n xs all row)
    (hp : F.params ⊆ xs) : I.eval all F.dotted = .ok v ↔ F.Gathers I n row v := by
  induction F generalizing v with
  | constant w single => exact eval_constant hn w single
  | param x =>
    obtain ⟨u, hcol, hall, hrow⟩ := hs x (hp List.mem_cons_self)
    exact eval_param hcol hall hrow
  | unary op a ih =>
    refine eval_operation hI hn op [a] rfl rfl (Bool.or_false _).symm fun F hF v => ?_
    rw [List.mem_singleton.mp hF]
    exact ih hp
  | binary op a b iha ihb =>
    have hparams := List.append_subset.mp hp
    refine eval_operation hI hn op [a, b] rfl rfl (by simp [isColumn_binary]) fun F hF v => ?_
    rcases List.mem_pair.mp hF with rfl | rfl
    · exact iha hparams.1
    · exact ihb hparams.2

section Columns

variable {ps : List String} {columns : List (List Value)} (hl : columns.length = ps.length)
  (hc : ∀ items ∈ columns, items.length = n) (scope : Scope)

def rowScope (scope : Scope) (ps : List String) (columns : List (List Value)) (i : Nat) : Scope :=
  scope.insertAll (ps.zip (Rows.row (columns.map .list) i))

include hl

lemma call_lambda {args : List Value} (ha : args.length = columns.length) (e : Expr) :
    I.call scope args (.lambda ps e) = I.eval (scope.insertAll (ps.zip args)) e := by
  rw [Interpreter.call, Interpreter.applyWith, if_pos (ha.trans hl).symm, Interpreter.eval]

include hc

lemma spreads_insertAll :
    Spreads n ps (scope.insertAll (ps.zip (columns.map .list))) (rowScope scope ps columns) := by
  intro x hx
  have hrow (i : Nat) : ps.zip (Rows.row (columns.map .list) i) =
      (ps.zip (columns.map .list)).map fun p => (p.1, Rows.entry i p.2) := List.zip_map_right
  have hmem : x ∈ (ps.zip (columns.map Value.list)).map (·.1) := by
    rwa [List.map_fst_zip (by simp [hl])]
  -- of parameters with the same name the last counts, for columns and for rows alike
  obtain ⟨v, hv⟩ : ∃ v, (ps.zip (columns.map Value.list)).reverse.lookup x = some v := by
    refine Option.ne_none_iff_exists'.mp fun hnone => ?_
    obtain ⟨p, hp, rfl⟩ := List.mem_map.mp hmem
    simpa using List.lookup_eq_none_iff.mp hnone p (List.mem_reverse.mpr hp)
  obtain ⟨l, l', he, -⟩ := List.lookup_eq_some_iff.mp hv
  have hz : (x, v) ∈ ps.zip (columns.map Value.list) := List.mem_reverse.mp (by simp [he])
  obtain ⟨items, hi, rfl⟩ := List.mem_map.mp (List.of_mem_zip hz).2
  refine ⟨_, Rows.fits_column (hc items hi), ?_, fun i => ?_⟩
  · rw [Bindings.get?_insertAll, hv, Option.some_or]
  · rw [rowScope, Bindings.get?_insertAll, hrow, ← List.map_reverse, lookup_map, hv]
    rfl

lemma call_dotted (hI : I.HasOperators) (hn : 0 < n) (hp : F.params ⊆ ps) :
    I.call scope (columns.map .list) (.lambda ps F.dotted) = .ok v ↔
    F.Gathers I n (rowScope scope ps columns) v := by
  rw [call_lambda hl scope (columns.length_map _), eval_dotted hI hn (spreads_insertAll hl hc scope) hp]

lemma call_byRow (hne : columns ≠ []) (hcolumn : F.isColumn = true) :
    I.call scope (columns.map .list) (.apply I.byRow [.lambda ps F.plain]) = .ok v ↔
      F.Gathers I n (rowScope scope ps columns) v := by
  have hb : I.call scope (columns.map .list) (.apply I.byRow [.lambda ps F.plain]) =
      (do return .list (← (List.range n).mapM fun i =>
        I.call scope (Rows.row (columns.map .list) i) (.lambda ps F.plain))) :=
    Interpreter.applyWith_byRow (Rows.commonLength_columns hne hc) rfl _
  have hrow (i : Nat) : I.call scope (Rows.row (columns.map .list) i) (.lambda ps F.plain) =
      I.eval (rowScope scope ps columns i) F.plain :=
    call_lambda hl scope (by simp [Rows.row]) F.plain
  rw [hb, Rows.list_mapM_eq_ok, ← hcolumn]
  simp only [hrow]
  exact ⟨fun h => ⟨h.1, h.2⟩, fun h => ⟨h.fits, h.rows⟩⟩

end Columns

theorem byRow_agrees_with_dotted (config : Config) (F : Formula) (ps : List String) (hp : F.params ⊆ ps)
    (hne : F.params ≠ []) (n : Nat) (hn : 1 ≤ n) (columns : List (List Value)) (hl : columns.length = ps.length)
    (hc : ∀ items ∈ columns, items.length = n) (scope : Scope) :
    let I := Interpreter.ofConfig config
    let byRow := I.call scope (columns.map .list) (.apply config.byRow [.lambda ps F.plain])
    let broadcast := I.call scope (columns.map .list) (.lambda ps F.dotted)
    (∃ items, items.length = n ∧ byRow = .ok (.list items) ∧ broadcast = .ok (.list items)) ∨
      (∃ err, byRow = .error err) ∧ ∃ err, broadcast = .error err := by
  intro I byRow broadcast
  have hcolumn : F.isColumn = true := by simpa [isColumn] using hne
  have hcolumns : columns ≠ [] := by
    rintro rfl
    rw [List.length_eq_zero_iff.mp hl.symm] at hp
    exact hne (List.subset_nil.mp hp)
  have hbyRow {v : Value} : byRow = .ok v ↔ F.Gathers I n (rowScope scope ps columns) v :=
    call_byRow hl hc scope hcolumns hcolumn
  have hbroadcast {v : Value} : broadcast = .ok v ↔ F.Gathers I n (rowScope scope ps columns) v :=
    call_dotted hl hc scope (Interpreter.hasOperators_ofConfig config) hn hp
  cases hd : broadcast with
  | ok v =>
    have hg := hbroadcast.mp hd
    obtain ⟨items, rfl, hlen⟩ := (hcolumn ▸ hg.fits).exists_items
    exact .inl ⟨items, hlen, hbyRow.mpr hg, rfl⟩
  | error err =>
    refine .inr ⟨?_, err, rfl⟩
    cases hb : byRow with
    | error err' => exact ⟨err', rfl⟩
    | ok v => exact nomatch hd.symm.trans (hbroadcast.mpr (hbyRow.mp hb))

theorem byRow_agrees_with_dotted_nested_list :
    let F : Formula := .unary .not (.binary .eq (.param "x") (.unary .sub (.constant (.int 1) rfl)))
    let columns : List (List Value) := [[.list [.int 1], .missing, .int (-1)]]
    F.params ⊆ ["x"] ∧ F.params ≠ [] ∧ (∀ items ∈ columns, items.length = 3) ∧
      (Interpreter.ofConfig {}).call ∅ (columns.map .list) (.apply "ByRow" [.lambda ["x"] F.plain]) =
        .ok (.list [.bool true, .missing, .bool false]) := by
  intro F columns
  have hd : (Interpreter.ofConfig {}).call ∅ (columns.map .list) (.lambda ["x"] F.dotted) =
      .ok (.list [.bool true, .missing, .bool false]) := rfl
  have hp : F.params ⊆ ["x"] := by simp [F, params]
  have hne : F.params ≠ [] := by simp [F, params]
  have hc : ∀ items ∈ columns, items.length = 3 := by simp [columns]
  refine ⟨hp, hne, hc, ?_⟩
  obtain ⟨items, -, hb, hi⟩ | ⟨-, err, he⟩ :=
    byRow_agrees_with_dotted {} F ["x"] hp hne 3 (by decide) columns rfl hc ∅
  · rw [← Except.ok.inj (hd.symm.trans hi)] at hb
    exact hb
  · exact nomatch hd.symm.trans he

end Formula

end Tabular
