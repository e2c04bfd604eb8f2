import Tabular.Proofs.Parameters
import Tabular.Proofs.Simulation

namespace Tabular

def Expr.AssignsNoColumn (e : Expr) : Prop := ∀ c value, .assign (.column c) value ∉ e.nodes

namespace Interpreter

variable {I : Interpreter} {e : Expr}

lemma admits_nodes {visible : String → Prop} {known : Column → Prop} (f : Column → Expr)
    (hi : ∀ x ∈ e.idents, visible x) (hm : ∀ c ∈ e.mentions, known c) (ha : e.AssignsNoColumn) :
    ∀ n ∈ e.nodes, I.Admits visible known f (∀ c, I.Calls (.column c) e → I.Uncallable (f c)) n := by
  intro n hn
  cases n with
  | ident x => exact hi x (Expr.mem_idents_of_ident hn)
  | column c => exact hm c (Expr.mem_mentions_iff.mpr hn)
  | lambda xs body => exact fun x hx => hi x (Expr.mem_idents_of_lambda hn x hx)
  | assign sink value =>
    rintro c rfl
    exact ha c value hn
  | call func args => exact fun hf c hc => hf c ⟨func, args, hn, hc⟩
  | _ => trivial

section parameters

variable {columns : Column → Option Value} {values : List Value}

lemma length_params (hl : values.length = e.abstracted.1.length) : e.parameters.params.length = values.length := by
  rw [hl, Expr.abstracted_eq, Parameters.params, Parameters.sources, List.length_map, List.length_map]

lemma represents_parameters (hl : values.length = e.abstracted.1.length)
    (hv : ∀ c ∈ e.mentions, columns c = Column.lookup e.abstracted.1 values c) (scope : Scope) :
    Represents (· ∉ e.parameters.params) (· ∈ e.mentions) (fun c => .ident (e.parameters.nameOf c)) columns
      (fun _ => none) scope (scope.insertAll (e.parameters.params.zip values)) := by
  have hz : (e.parameters.params.zip values).map (·.1) = e.parameters.params :=
    List.map_fst_zip (Nat.le_of_eq (length_params hl))
  have hn : ((e.parameters.params.zip values).map (·.1)).Nodup := by
    rw [hz]
    exact e.parameters_valid.nodup
  rw [Expr.abstracted_eq] at hl hv
  refine ⟨fun x hx => ?_, fun c hc => ?_⟩
  · rw [Bindings.get?_insertAll_of_not_mem]
    rwa [hz]
  · have hp : values.length = e.parameters.entries.length := by simpa [Parameters.sources] using hl
    obtain ⟨v, hcv, hm⟩ := Parameters.lookup_of_find? (Expr.find?_parameters hc) hp
    refine .inr ⟨_, not_not.mpr (Expr.nameOf_mem_params hc), rfl, ?_⟩
    rw [Bindings.get?_insertAll_of_mem scope hn hm, hv c hc, hcv]

lemma admits_parameters (ha : e.AssignsNoColumn) :
    ∀ n ∈ e.nodes, I.Admits (· ∉ e.parameters.params) (· ∈ e.mentions) (fun c => .ident (e.parameters.nameOf c))
      (∀ c, I.Calls (.column c) e → I.Uncallable (.ident (e.parameters.nameOf c))) n :=
  admits_nodes _ (fun x hx hx' => (e.parameters_valid.free x hx').2 hx) (fun _ hc => hc) ha

lemma applyWith_abstracted_of_uncallable (ha : e.AssignsNoColumn) (hl : values.length = e.abstracted.1.length)
    (hv : ∀ c ∈ e.mentions, columns c = Column.lookup e.abstracted.1 values c) (scope : Scope)
    (nrow : Option Nat) :
    Follows (∀ c, I.Calls (.column c) e → I.Uncallable (.ident (e.parameters.nameOf c)))
      (I.evalWith columns scope e) (I.applyWith (fun _ => none) scope nrow values e.abstracted.2.toExpr) := by
  rw [Expr.abstracted_eq, Closure.toExpr, applyWith, if_pos (length_params hl)]
  exact evalWith_mapColumns (represents_parameters hl hv scope) e (admits_parameters ha)

end parameters

lemma applyWith_abstracted (ha : e.AssignsNoColumn) {columns : Column → Option Value} {values : List Value}
    (hl : values.length = e.abstracted.1.length)
    (hv : ∀ c ∈ e.mentions, columns c = Column.lookup e.abstracted.1 values c) (scope : Scope)
    (nrow : Option Nat) : Follows (∀ c, ¬ I.Calls (.column c) e) (I.evalWith columns scope e)
      (I.applyWith (fun _ => none) scope nrow values e.abstracted.2.toExpr) :=
  (applyWith_abstracted_of_uncallable ha hl hv scope nrow).mono fun hn c hc => absurd hc (hn c)

lemma applied_mem_nodes (I : Interpreter) (e : Expr) : I.applied e ∈ e.nodes := by
  fun_induction applied I e with
  | case1 name inner hw ih => simp [Expr.nodes, ih]
  | case2 | case3 => exact Expr.self_mem_nodes _

lemma applied_mapColumns {f : Column → Expr} {c : Column} (h : I.applied e = .column c)
    (hf : I.applied (f c) = f c) : I.applied (e.mapColumns f) = f c := by
  fun_induction applied I e with
  | case1 name inner hw ih =>
    simp only [Expr.mapColumns, Expr.mapColumnsItems, applied, if_pos hw]
    exact ih h
  | case2 => cases h
  | case3 e =>
    subst h
    exact hf

lemma calls_abstracted {c : Column} (h : I.Calls (.column c) e) :
    ∃ x ∈ e.abstracted.2.params, I.Calls (.ident x) e.abstracted.2.body := by
  obtain ⟨func, args, hn, hc⟩ := h
  have hm : c ∈ e.mentions := by
    refine Expr.mem_mentions_iff.mpr (Expr.nodes_subset hn ?_)
    rw [Expr.nodes, ← hc]
    exact List.mem_cons_of_mem _ (List.mem_append_left _ (applied_mem_nodes I func))
  have ha : I.applied (func.mapColumns fun c => .ident (e.parameters.nameOf c)) = .ident (e.parameters.nameOf c) :=
    applied_mapColumns hc rfl
  have hb : (Expr.call func args).mapColumns (fun c => .ident (e.parameters.nameOf c)) ∈
      e.abstracted.2.body.nodes := by
    rw [Expr.abstracted_eq, Expr.nodes_mapColumns fun c => rfl]
    exact List.mem_map_of_mem hn
  exact ⟨_, Expr.nameOf_mem_params hm, _, _, hb, ha⟩

lemma exists_applied_of_recolumn {σ : Column → Column} {d : Column} (h : I.applied (e.recolumn σ) = .column d) :
    ∃ c, I.applied e = .column c := by
  fun_induction applied I e with
  | case1 name inner hw ih =>
    simp only [Expr.recolumn, Expr.mapColumns, Expr.mapColumnsItems, applied, if_pos hw] at h
    exact ih h
  | case2 name inner hw =>
    simp only [Expr.recolumn, Expr.mapColumns, Expr.mapColumnsItems, applied, if_neg hw] at h
    cases h
  | case3 e he =>
    cases e with
    | column c => exact ⟨c, rfl⟩
    | call func args =>
      cases func with
      | ident name =>
        rcases args with _ | ⟨inner, _ | ⟨_, _⟩⟩
        · cases h
        · exact absurd rfl (he name inner)
        · cases h
      | _ => cases h
    | _ => cases h

lemma calls_of_recolumn {σ : Column → Column} {d : Column} (h : I.Calls (.column d) (e.recolumn σ)) :
    ∃ c, I.Calls (.column c) e := by
  obtain ⟨func, args, hn, hc⟩ := h
  rw [Expr.recolumn, Expr.nodes_mapColumns fun c => rfl] at hn
  obtain ⟨n, hm, he⟩ := List.mem_map.mp hn
  cases n with
  | call func' args' =>
    cases he
    obtain ⟨c, hc⟩ := exists_applied_of_recolumn hc
    exact ⟨c, func', args', hm, hc⟩
  | _ => cases he

lemma evalWith_recolumn {σ : Column → Column} (ha : e.AssignsNoColumn) {left right : Column → Option Value}
    (h : ∀ c ∈ e.mentions, right (σ c) = left c) (scope : Scope) :
    Follows (∀ c, ¬ I.Calls (.column c) e) (I.evalWith left scope e) (I.evalWith right scope (e.recolumn σ)) := by
  have hr : Represents (fun _ => True) (· ∈ e.mentions) (fun c => .column (σ c)) left right scope scope :=
    ⟨fun _ _ => rfl, fun c hc => .inl ⟨σ c, rfl, h c hc⟩⟩
  exact (evalWith_mapColumns hr e (admits_nodes _ (fun _ _ => trivial) (fun _ hc => hc) ha)).mono fun _ _ _ =>
    trivial

end Interpreter

end Tabular
