import Tabular.Proofs.Calls
import Tabular.Proofs.Rows

/-!
Binding preserves meaning: a function whose sources were bound, and merged where they turned out to be the same
column, computes what it computed before.
-/

namespace Tabular

variable {I : Interpreter} {scope : Scope} {arg : Nat}

namespace Column

lemma bind_eq_self {c : Column} (h : c.isDynamic = false) : c.bind I scope arg = .ok c := by
  cases c with
  | dynamic target => cases h
  | _ => rfl

lemma isDynamic_of_bind {c d : Column} (h : c.bind I scope arg = .ok d) : d.isDynamic = false := by
  cases c with
  | dynamic target =>
    rw [bind] at h
    split at h
    · cases h
    next v _ =>
      rw [mapError_eq_ok] at h
      cases v with
      | symbol | str =>
        cases h
        rfl
      | int n =>
        rw [ofValue] at h
        split at h
        · cases h
          rfl
        · cases h
      | _ => cases h
  | _ =>
    cases h
    rfl

end Column

def Sink.bindOption (I : Interpreter) (scope : Scope) (arg : Nat) : Option Sink → Except Error (Option Sink)
  | some s => (s.bind I scope arg).map some
  | none => .ok none

lemma Sink.eq_of_bindOption {s s' : Option Sink} (h : Triple.isDynamicSink s = false)
    (hs : Sink.bindOption I scope arg s = .ok s') : s' = s := by
  rcases s with _ | ⟨c | _ | _⟩
  · cases hs
    rfl
  · have hc : c.isDynamic = false := h
    simp only [Sink.bindOption, Sink.bind, Column.bind_eq_self hc] at hs
    cases c with
    | position n => cases hs
    | dynamic t => cases hc
    | _ =>
      cases hs
      rfl
  · cases hs
    rfl
  · cases hs
    rfl

namespace Expr

variable {r : Expr} {columns : List Column}

def boundTo (r : Expr) (columns : List Column) (c : Column) : Column :=
  (Column.lookup r.abstracted.1 columns c).getD c

def rebound (r : Expr) (columns : List Column) : Expr := r.recolumn (r.boundTo columns)

lemma rebound_sources (h : ∀ d ∈ r.abstracted.1, d.isDynamic = false) : r.rebound r.abstracted.1 = r := by
  have hl : ∀ c ∈ r.mentions, Column.lookup r.abstracted.1 (r.abstracted.1.map id) c = some c := fun c hc =>
    Column.lookup_map_self (exists_source hc) fun d hd hs => Column.eq_of_same (h d hd) hs
  rw [List.map_id] at hl
  have hc : r.rebound r.abstracted.1 = r.mapColumns .column :=
    mapColumns_congr fun c hc => by simp only [boundTo, hl c hc, Option.getD_some]
  rw [hc, mapColumns_column]

lemma map_boundTo (hl : columns.length = r.abstracted.1.length) :
    r.abstracted.1.map (r.boundTo columns) = columns := by
  have hm : r.abstracted.1.map (Column.lookup r.abstracted.1 columns) = columns.map some :=
    Column.map_lookup r.parameters_valid.distinct hl
  rw [← List.forall₂_eq_eq_eq, List.forall₂_map_left_iff] at hm ⊢
  exact (List.forall₂_map_right_iff.mp hm).imp fun d c h => by rw [boundTo, h, Option.getD_some]

lemma boundTo_congr (hl : columns.length = r.abstracted.1.length) {c d : Column} (hc : c ∈ r.mentions)
    (h : c.same d = true) : r.boundTo columns c = r.boundTo columns d := by
  have hp : columns.length = r.parameters.entries.length := by simpa [abstracted_eq, Parameters.sources] using hl
  obtain ⟨x, hx, -⟩ := Parameters.lookup_of_find? (find?_parameters hc) hp
  have hx : Column.lookup r.abstracted.1 columns c = some x := hx
  rw [boundTo, boundTo, ← Column.lookup_congr h, hx, Option.getD_some, Option.getD_some]

lemma recolumn_assignsNoColumn (σ : Column → Column) (h : r.AssignsNoColumn) : (r.recolumn σ).AssignsNoColumn := by
  intro c v hn
  rw [recolumn, nodes_mapColumns fun c => rfl] at hn
  obtain ⟨n, hm, he⟩ := List.mem_map.mp hn
  cases n with
  | assign sink value =>
    cases sink with
    | column d => exact h d value hm
    | _ => cases he
  | _ => cases he

lemma instantiate_eq_rebound (hl : columns.length = r.abstracted.1.length) :
    r.abstracted.2.instantiate columns = r.rebound columns := r.instantiate_abstracted hl

end Expr

variable {t u : Triple} {r : Expr}

namespace Triple

lemma mapM_bind_sources (h : t.isDynamic = false) :
    t.sources.mapM (Column.bind I scope t.arg) = .ok t.sources := by
  rw [isDynamic, Bool.or_eq_false_iff, List.any_eq_false] at h
  refine mapM_eq_ok.mpr (List.forall₂_same.mpr fun c hc => ?_)
  exact Column.bind_eq_self (Bool.eq_false_iff.mpr (h.1 c hc))

lemma bind_of_isDynamic (ht : (t.sources, t.function) = r.abstracted) (h : t.isDynamic = true) :
    t.bind I scope = (do
      let columns ← t.sources.mapM (Column.bind I scope t.arg)
      let sink ← Sink.bindOption I scope t.arg t.sink
      let body := r.rebound columns
      return { t with sources := body.abstracted.1, function := body.abstracted.2, sink }) := by
  have hs : t.sources = r.abstracted.1 := congrArg Prod.fst ht
  have hf : t.function = r.abstracted.2 := congrArg Prod.snd ht
  rw [bind, if_pos h]
  cases hc : t.sources.mapM (Column.bind I scope t.arg) with
  | error e => rfl
  | ok columns =>
    have hl : columns.length = r.abstracted.1.length := by rw [← hs, (mapM_eq_ok.mp hc).length_eq]
    have hb : t.function.instantiate columns = r.rebound columns := hf ▸ Expr.instantiate_eq_rebound hl
    dsimp only [Bind.bind, Except.bind]
    rw [hb]
    cases t.sink <;> rfl

lemma rebound_of_isDynamic (ht : (t.sources, t.function) = r.abstracted) (h : t.isDynamic = false) :
    { t with
      sources := (r.rebound t.sources).abstracted.1
      function := (r.rebound t.sources).abstracted.2 } = t := by
  have hs : t.sources = r.abstracted.1 := congrArg Prod.fst ht
  have hr : r.rebound t.sources = r := by
    rw [isDynamic, Bool.or_eq_false_iff, List.any_eq_false, hs] at h
    rw [hs]
    exact Expr.rebound_sources fun d hd => Bool.eq_false_iff.mpr (h.1 d hd)
  rw [hr, ← ht]

lemma eq_of_bind (ht : (t.sources, t.function) = r.abstracted) (h : t.bind I scope = .ok u) :
    ∃ columns sink, t.sources.mapM (Column.bind I scope t.arg) = .ok columns ∧
      { t with
        sources := (r.rebound columns).abstracted.1
        function := (r.rebound columns).abstracted.2
        sink } = u := by
  cases hd : t.isDynamic with
  | true =>
    rw [bind_of_isDynamic ht hd] at h
    obtain ⟨columns, hc, h⟩ := bind_eq_ok.mp h
    obtain ⟨sink, -, h⟩ := bind_eq_ok.mp h
    exact ⟨columns, sink, hc, pure_eq_ok.mp h⟩
  | false =>
    rw [bind, hd, if_neg Bool.false_ne_true] at h
    exact ⟨t.sources, t.sink, mapM_bind_sources hd, (rebound_of_isDynamic ht hd).trans (Except.ok.inj h)⟩

lemma bind_eq (ht : (t.sources, t.function) = r.abstracted) {columns : List Column} {sink : Option Sink}
    (hc : t.sources.mapM (Column.bind I scope t.arg) = .ok columns)
    (hs : Sink.bindOption I scope t.arg t.sink = .ok sink) : t.bind I scope = .ok
      { t with
        sources := (r.rebound columns).abstracted.1
        function := (r.rebound columns).abstracted.2
        sink } := by
  cases hd : t.isDynamic with
  | true =>
    rw [bind_of_isDynamic ht hd, hc, hs]
    rfl
  | false =>
    have hcolumns : t.sources = columns := Except.ok.inj ((mapM_bind_sources hd).symm.trans hc)
    have hsink : sink = t.sink := Sink.eq_of_bindOption (Bool.or_eq_false_iff.mp hd).2 hs
    rw [bind, hd, if_neg Bool.false_ne_true, ← hcolumns, hsink, rebound_of_isDynamic ht hd]

end Triple

section Meaning

variable {J : Interpreter} {columns : List Column} (hl : columns.length = r.abstracted.1.length)
include hl

lemma Expr.mem_mentions_rebound (c : Column) : c ∈ (r.rebound columns).mentions ↔ c ∈ columns := by
  rw [rebound, mentions_recolumn, List.mem_map]
  constructor
  · rintro ⟨d, hd, rfl⟩
    obtain ⟨s, hs, hsame⟩ := exists_source hd
    rw [← boundTo_congr hl (mem_mentions_of_source hs) hsame]
    have hb : r.boundTo columns s ∈ r.abstracted.1.map (r.boundTo columns) := List.mem_map_of_mem hs
    rwa [map_boundTo hl] at hb
  · intro h
    rw [← map_boundTo hl] at h
    obtain ⟨s, hs, he⟩ := List.mem_map.mp h
    exact ⟨s, mem_mentions_of_source hs, he⟩

variable (hd : ∀ c ∈ columns, c.isDynamic = false)
include hd

lemma Expr.mem_sources_rebound (c : Column) : c ∈ (r.rebound columns).abstracted.1 ↔ c ∈ columns := by
  constructor
  · intro h
    exact (mem_mentions_rebound hl c).mp (mem_mentions_of_source h)
  · intro h
    obtain ⟨s, hs, hsame⟩ := exists_source ((mem_mentions_rebound hl c).mpr h)
    rw [Column.eq_of_same (hd c h) (Column.same_symm hsame)]
    exact hs

lemma Interpreter.applyWith_rebound (ha : r.AssignsNoColumn) (hb : ∀ c, ¬ J.Calls (.column c) r) (scope : Scope)
    (L : Column → Value) (nrow : Option Nat) : Follows True
      (J.applyWith (fun _ => none) scope nrow ((r.rebound columns).abstracted.1.map L)
        (r.rebound columns).abstracted.2.toExpr)
      (J.applyWith (fun _ => none) scope nrow (columns.map L) r.abstracted.2.toExpr) := by
  -- both functions compute the meaning of an expression, and the expressions differ in their columns only
  have hr : Follows (∀ c, ¬ J.Calls (.column c) r)
      (J.evalWith (fun c => some (L (r.boundTo columns c))) scope r)
      (J.applyWith (fun _ => none) scope nrow (columns.map L) r.abstracted.2.toExpr) := by
    refine applyWith_abstracted ha (by rwa [List.length_map]) (fun c hc => Eq.symm ?_) scope nrow
    have hm : columns.map L = r.abstracted.1.map (L ∘ r.boundTo columns) := by
      rw [← List.map_map, Expr.map_boundTo hl]
    rw [hm]
    refine Column.lookup_map_self (Expr.exists_source hc) fun d hd' hs => ?_
    rw [Function.comp_apply, Expr.boundTo_congr hl (Expr.mem_mentions_of_source hd') hs]
  have hu : Follows (∀ c, ¬ J.Calls (.column c) (r.rebound columns))
      (J.evalWith (fun c => some (L c)) scope (r.rebound columns))
      (J.applyWith (fun _ => none) scope nrow ((r.rebound columns).abstracted.1.map L)
        (r.rebound columns).abstracted.2.toExpr) := by
    refine applyWith_abstracted (Expr.recolumn_assignsNoColumn _ ha) (List.length_map _) (fun c hc => Eq.symm ?_)
      scope nrow
    refine Column.lookup_map_self (Expr.exists_source hc) fun d hd' hs => ?_
    rw [Column.eq_of_same (hd d ((Expr.mem_sources_rebound hl hd d).mp hd')) hs]
  have hm : Follows (∀ c, ¬ J.Calls (.column c) r) (J.evalWith (fun c => some (L (r.boundTo columns c))) scope r)
      (J.evalWith (fun c => some (L c)) scope (r.rebound columns)) := by
    refine evalWith_recolumn ha ?_ scope
    exact fun _ _ => rfl
  have hb' : ∀ c, ¬ J.Calls (.column c) (r.rebound columns) := by
    intro c hc
    obtain ⟨d, hd'⟩ := calls_of_recolumn hc
    exact hb d hd'
  have hback := (hm.trans (hu.mono fun _ => hb')).symm hb
  exact (hback.trans hr).mono fun _ => hb

end Meaning

lemma Triple.applyWith_callable {J : Interpreter} {t u : Triple} {ks ls : List Column} (hk : ∀ c, c ∈ ks ↔ c ∈ ls)
    (hm : t.mode = u.mode) (hp : t.passMissing = u.passMissing) {scope : Scope}
    (h : ∀ (L : Column → Value) (nrow : Option Nat), Follows True
      (J.applyWith (fun _ => none) scope nrow (ks.map L) t.function.toExpr)
      (J.applyWith (fun _ => none) scope nrow (ls.map L) u.function.toExpr))
    (config : Config) (L : Column → Value) (nrow : Option Nat) : Follows True
      (J.applyWith (fun _ => none) scope nrow (ks.map L) (t.callable config))
      (J.applyWith (fun _ => none) scope nrow (ls.map L) (u.callable config)) := by
  rw [callable, callable, hm, hp]
  cases u.passMissing with
  | false =>
    by_cases hr : u.mode = .rowWise
    · simpa [hr] using Interpreter.applyWith_wrapped hk h config.byRow L nrow
    · simpa [hr] using h L nrow
  | true =>
    have hw := Interpreter.applyWith_wrapped hk h config.passMissing
    by_cases hr : u.mode = .rowWise
    · simpa [hr] using Interpreter.applyWith_wrapped hk hw config.byRow L nrow
    · simpa [hr] using hw L nrow

theorem call_of_bind {config : Config} {inv : Invocation} {c b : Call} (h : Call.expand config inv = .ok c)
    {I : Interpreter} {scope : Scope} (hb : c.bind I scope = .ok b) : List.Forall₂ (fun t u =>
      ∃ columns, t.sources.mapM (Column.bind I scope t.arg) = .ok columns ∧
        ∀ J : Interpreter, (∀ x ∈ t.function.params, ¬ J.Calls (.ident x) t.function.body) →
        ∀ (L : Column → Value) (scope' : Scope),
          (J.call scope' (u.sources.map L) (b.callable u)).toOption =
            (J.call scope' (columns.map L) (c.callable t)).toOption ∧
          ∀ nrow, (J.callRows scope' nrow (u.sources.map L) (b.callable u)).toOption =
            (J.callRows scope' nrow (columns.map L) (c.callable t)).toOption) c.triples b.triples := by
  obtain ⟨us, hus, rfl⟩ := Call.bind_eq_ok.mp hb
  refine forall₂_of_mem hus fun t ht u _ hu => ?_
  obtain ⟨r, ha, hr⟩ := Call.exists_abstracted h ht
  obtain ⟨columns, sink, hc, hue⟩ := Triple.eq_of_bind hr hu
  refine ⟨columns, hc, fun J hJ L scope' => ?_⟩
  have hs : t.sources = r.abstracted.1 := congrArg Prod.fst hr
  have hf : t.function = r.abstracted.2 := congrArg Prod.snd hr
  have hl : columns.length = r.abstracted.1.length := by rw [← hs, (mapM_eq_ok.mp hc).length_eq]
  have hd : ∀ d ∈ columns, d.isDynamic = false := by
    intro d hd
    obtain ⟨s, -, hs⟩ := exists_of_mem_right (mapM_eq_ok.mp hc) hd
    exact Column.isDynamic_of_bind hs
  have hcalls : ∀ d, ¬ J.Calls (.column d) r := by
    intro d hd
    obtain ⟨x, hx, hcall⟩ := Interpreter.calls_abstracted hd
    rw [← hf] at hx hcall
    exact hJ x hx hcall
  have hfollows := Interpreter.applyWith_rebound hl hd ha hcalls scope'
  have hm : u.mode = t.mode := by rw [← hue]
  have hp : u.passMissing = t.passMissing := by rw [← hue]
  rw [← hf] at hfollows
  subst hue
  have hk := Triple.applyWith_callable (Expr.mem_sources_rebound hl hd) hm hp hfollows c.config L
  exact ⟨(hk none).toOption_eq trivial, fun nrow => (hk (some nrow)).toOption_eq trivial⟩

theorem call_of_bind_merged_sources : ∃ c b t u,
    Call.expand {} ⟨.transform, .ident "df", [.assign (.quote "y") (.apply "+"
      [.interp (.ident "x"), .interp (.literal (.str "a"))])], []⟩ = .ok c ∧
    c.bind (.ofConfig {}) ((∅ : Scope).insert "x" (.str "a")) = .ok b ∧ c.triples = [t] ∧ b.triples = [u] ∧
    t.sources = [.dynamic (.ident "x"), .string "a"] ∧ u.sources = [.string "a"] ∧
    (∀ x ∈ t.function.params, ¬ (Interpreter.ofConfig {}).Calls (.ident x) t.function.body) ∧
    ∀ v : Value, ((Interpreter.ofConfig {}).call ∅ [v] (b.callable u)).toOption =
      ((Interpreter.ofConfig {}).call ∅ [v, v] (c.callable t)).toOption := by
  have h : Call.expand {} ⟨.transform, .ident "df", [.assign (.quote "y") (.apply "+"
      [.interp (.ident "x"), .interp (.literal (.str "a"))])], []⟩ = .ok ⟨.transform, .ident "df",
        [⟨1, [.dynamic (.ident "x"), .string "a"], ⟨["col", "a"], .apply "+" [.ident "col", .ident "a"]⟩,
          some (.column (.symbol "y")), .rowWise, false, false⟩], [], {}⟩ := rfl
  have hb : Call.bind (.ofConfig {}) ((∅ : Scope).insert "x" (.str "a")) ⟨.transform, .ident "df",
        [⟨1, [.dynamic (.ident "x"), .string "a"], ⟨["col", "a"], .apply "+" [.ident "col", .ident "a"]⟩,
          some (.column (.symbol "y")), .rowWise, false, false⟩], [], {}⟩ = .ok ⟨.transform, .ident "df",
        [⟨1, [.string "a"], ⟨["a"], .apply "+" [.ident "a", .ident "a"]⟩,
          some (.column (.symbol "y")), .rowWise, false, false⟩], [], {}⟩ := rfl
  have hn : ∀ x ∈ ["col", "a"], ¬ (Interpreter.ofConfig {}).Calls (.ident x)
      (.apply "+" [.ident "col", .ident "a"]) := by
    simp [Interpreter.Calls, Expr.apply, Expr.nodes, Interpreter.applied]
  refine ⟨_, _, _, _, h, hb, rfl, rfl, rfl, rfl, hn, fun v => ?_⟩
  obtain ⟨columns, hc, hJ⟩ := (List.forall₂_cons.mp (call_of_bind h hb)).1
  cases hc
  exact (hJ _ hn (fun _ => v) ∅).1

end Tabular
