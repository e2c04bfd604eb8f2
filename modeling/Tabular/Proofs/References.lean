import Tabular.Proofs.Transformations

/-!
Binding goes through the references of a call in order. It fails with the error of the first one that names no
column; otherwise it leaves a call without dynamic references, and binding that call changes nothing.
-/

namespace Tabular

section errors

variable {ε α β γ : Type}

def errorOf? : Except ε α → Option ε
  | .ok _ => none
  | .error e => some e

lemma errorOf?_eq_some {x : Except ε α} {e : ε} : errorOf? x = some e ↔ x = .error e := by
  cases x <;> simp [errorOf?]

lemma errorOf?_map (x : Except ε α) (k : α → β) : errorOf? (do return k (← x)) = errorOf? x := by
  cases x <;> rfl

lemma errorOf?_map₂ (x : Except ε α) (y : Except ε β) (k : α → β → γ) :
    errorOf? (do return k (← x) (← y)) = (errorOf? x).or (errorOf? y) := by
  cases x <;> cases y <;> rfl

lemma errorOf?_mapM {f : α → Except ε β} {parts : α → List γ} {g : γ → Option ε} {l : List α}
    (h : ∀ a ∈ l, errorOf? (f a) = (parts a).findSome? g) :
    errorOf? (l.mapM f) = (l.flatMap parts).findSome? g := by
  induction l with
  | nil => rfl
  | cons a l ih =>
    obtain ⟨ha, hl⟩ := List.forall_mem_cons.mp h
    rw [List.mapM_cons, errorOf?_map₂, ha, ih hl, List.flatMap_cons, List.findSome?_append]

end errors

structure Reference where
  arg : Nat
  column : Column
  isSink : Bool

def Sink.column? : Sink → Option Column
  | column c => some c
  | _ => none

def Triple.references (t : Triple) : List Reference :=
  t.sources.map (⟨t.arg, ·, false⟩) ++ (t.sink.bind Sink.column?).toList.map (⟨t.arg, ·, true⟩)

def Call.references (c : Call) : List Reference := c.triples.flatMap Triple.references

namespace Reference

def notNaming : Value → String
  | .int _ => "Int (column positions start at 1)"
  | v => v.typeName

inductive Fails (I : Interpreter) (scope : Scope) (ref : Reference) : Error → Prop
  | eval {target : Expr} {e : EvalError} (hc : ref.column = .dynamic target)
      (he : I.eval scope target = .error e) :
    Fails I scope ref (.eval e)
  | value {target : Expr} {v : Value} (hc : ref.column = .dynamic target) (hv : I.eval scope target = .ok v)
    (hn : v.namesColumn = false) :
    Fails I scope ref (.argument ⟨ref.arg, .notColumn ref.column.render (notNaming v)⟩)
  | position {target : Expr} {n : Int64} (hc : ref.column = .dynamic target) (hs : ref.isSink = true)
    (hv : I.eval scope target = .ok (.int n)) (hn : 1 ≤ n) :
    Fails I scope ref
      (.argument ⟨ref.arg, .notColumn ref.column.render "Int (a position cannot name a new column)"⟩)

variable {I : Interpreter} {scope : Scope} {ref : Reference}

def failure? (I : Interpreter) (scope : Scope) (ref : Reference) : Option Error :=
  if ref.isSink then errorOf? ((Sink.column ref.column).bind I scope ref.arg)
  else errorOf? (ref.column.bind I scope ref.arg)

def Admissible (ref : Reference) : Prop := ref.isSink = true → ∀ n, ref.column ≠ .position n

lemma failure?_eq (arg : Nat) (c : Column) (isSink : Bool) : failure? I scope ⟨arg, c, isSink⟩ =
    match c.bind I scope arg with
    | .error err => some err
    | .ok (.position _) =>
      if isSink then some (.argument ⟨arg, .notColumn c.render "Int (a position cannot name a new column)"⟩)
      else none
    | .ok _ => none := by
  rw [failure?]
  cases isSink with
  | true =>
    simp only [if_true, Sink.bind]
    cases c.bind I scope arg with
    | error err => rfl
    | ok d => cases d <;> rfl
  | false =>
    simp only [Bool.false_eq_true, if_false]
    cases c.bind I scope arg with
    | error err => rfl
    | ok d => cases d <;> rfl

lemma failure?_of_isDynamic (h : ref.Admissible) (hd : ref.column.isDynamic = false) :
    ref.failure? I scope = none := by
  obtain ⟨arg, c, isSink⟩ := ref
  rw [failure?_eq, Column.bind_eq_self hd]
  cases c with
  | position n =>
    cases isSink with
    | true => exact absurd rfl (h rfl n)
    | false => rfl
  | _ => rfl

lemma Fails.failure? {err : Error} (h : ref.Fails I scope err) : ref.failure? I scope = some err := by
  obtain ⟨arg, c, isSink⟩ := ref
  rw [failure?_eq]
  cases h with
  | eval hc he =>
    cases hc
    simp only [Column.bind, he]
  | @value target v hc hv hn =>
    cases hc
    simp only [Column.bind, hv]
    cases v with
    | symbol | str => cases hn
    | int n =>
      have hn : ¬ 1 ≤ n := of_decide_eq_false hn
      simp only [Column.ofValue, hn, if_false, Except.mapError, notNaming]
    | _ => rfl
  | position hc hs hv hn =>
    cases hc
    simp only [Column.bind, hv, Column.ofValue, hn, if_true, Except.mapError]
    exact if_pos hs

lemma fails_of_failure? (h : ref.Admissible) {err : Error} (hf : ref.failure? I scope = some err) :
    ref.Fails I scope err := by
  cases hd : ref.column.isDynamic with
  | false => exact nomatch (failure?_of_isDynamic h hd).symm.trans hf
  | true =>
    obtain ⟨arg, c, isSink⟩ := ref
    cases c with
    | dynamic target =>
      rw [failure?_eq] at hf
      cases hv : I.eval scope target with
      | error e =>
        simp only [Column.bind, hv] at hf
        cases hf
        exact .eval rfl hv
      | ok v =>
        simp only [Column.bind, hv] at hf
        cases v with
        | symbol | str => cases hf
        | int n =>
          by_cases hn : 1 ≤ n
          · simp only [Column.ofValue, hn, if_true, Except.mapError] at hf
            cases isSink with
            | true =>
              cases hf
              exact .position rfl rfl hv hn
            | false => cases hf
          · simp only [Column.ofValue, hn, if_false, Except.mapError] at hf
            cases hf
            exact .value rfl hv (decide_eq_false hn)
        | _ =>
          cases hf
          exact .value rfl hv rfl
    | _ => cases hd

lemma fails_iff (h : ref.Admissible) {err : Error} : ref.Fails I scope err ↔ ref.failure? I scope = some err :=
  ⟨Fails.failure?, fails_of_failure? h⟩

end Reference

variable {I : Interpreter} {scope : Scope} {arg : Nat}

namespace Sink

lemma bindOption_eq_self {s : Option Sink} (hp : ∀ n, s ≠ some (.column (.position n)))
    (h : Triple.isDynamicSink s = false) : bindOption I scope arg s = .ok s := by
  rcases s with _ | ⟨c | _ | _⟩
  · rfl
  · cases c with
    | position n => exact absurd rfl (hp n)
    | dynamic target => cases h
    | _ => rfl
  · rfl
  · rfl

lemma isDynamicSink_of_bindOption {s s' : Option Sink} (h : bindOption I scope arg s = .ok s') :
    Triple.isDynamicSink s' = false := by
  rcases s with _ | ⟨c | _ | _⟩
  · cases h
    rfl
  · simp only [bindOption, Sink.bind] at h
    cases hb : c.bind I scope arg with
    | error err =>
      rw [hb] at h
      cases h
    | ok d =>
      rw [hb] at h
      have hd := Column.isDynamic_of_bind hb
      cases d with
      | position n => cases h
      | dynamic target => cases hd
      | _ =>
        cases h
        rfl
  · cases h
    rfl
  · cases h
    rfl

lemma errorOf?_bindOption (arg : Nat) (s : Option Sink) : errorOf? (bindOption I scope arg s) =
    ((s.bind column?).toList.map (Reference.mk arg · true)).findSome? (Reference.failure? I scope) := by
  rcases s with _ | ⟨c | _ | _⟩
  · rfl
  · have hf : Reference.failure? I scope ⟨arg, c, true⟩ = errorOf? ((Sink.column c).bind I scope arg) := rfl
    simp only [bindOption, Option.bind_some, column?, Option.toList_some, List.map_cons, List.map_nil,
      List.findSome?_cons, List.findSome?_nil, hf]
    cases (Sink.column c).bind I scope arg <;> rfl
  · rfl
  · rfl

end Sink

namespace Triple

variable {t u : Triple} {r : Expr}

lemma isDynamic_eq_false : t.isDynamic = false ↔ ∀ ref ∈ t.references, ref.column.isDynamic = false := by
  rw [references, List.forall_mem_append, List.forall_mem_map, List.forall_mem_map, isDynamic,
    Bool.or_eq_false_iff, List.any_eq_false]
  refine and_congr (forall₂_congr fun c _ => (Bool.eq_false_iff).symm) ?_
  rcases t.sink with _ | ⟨c | _ | _⟩ <;> simp [isDynamicSink, Sink.column?]

section rebound

variable (ht : (t.sources, t.function) = r.abstracted) (hp : ∀ n, t.sink ≠ some (.column (.position n)))

include ht hp

lemma bind_eq_rebound : t.bind I scope = (do
    let columns ← t.sources.mapM (Column.bind I scope t.arg)
    let sink ← Sink.bindOption I scope t.arg t.sink
    return { t with
      sources := (r.rebound columns).abstracted.1
      function := (r.rebound columns).abstracted.2
      sink }) := by
  cases hd : t.isDynamic with
  | true => exact bind_of_isDynamic ht hd
  | false =>
    have hc : t.sources.mapM (Column.bind I scope t.arg) = .ok t.sources := mapM_bind_sources hd
    have hs : Sink.bindOption I scope t.arg t.sink = .ok t.sink :=
      Sink.bindOption_eq_self hp (Bool.or_eq_false_iff.mp hd).2
    rw [bind_eq ht hc hs, hc, hs]
    rfl

lemma errorOf?_bind : errorOf? (t.bind I scope) = t.references.findSome? (Reference.failure? I scope) := by
  have hsources : errorOf? (t.sources.mapM (Column.bind I scope t.arg)) =
      (t.sources.map (Reference.mk t.arg · false)).findSome? (Reference.failure? I scope) := by
    rw [List.map_eq_flatMap]
    refine errorOf?_mapM fun c _ => ?_
    rw [List.findSome?_singleton]
    rfl
  rw [bind_eq_rebound ht hp, errorOf?_map₂, hsources, Sink.errorOf?_bindOption, references, List.findSome?_append]

lemma eq_of_bind_eq_ok (h : t.bind I scope = .ok u) : ∃ columns sink,
    t.sources.mapM (Column.bind I scope t.arg) = .ok columns ∧ Sink.bindOption I scope t.arg t.sink = .ok sink ∧
      { t with
        sources := (r.rebound columns).abstracted.1
        function := (r.rebound columns).abstracted.2
        sink } = u := by
  rw [bind_eq_rebound ht hp] at h
  obtain ⟨columns, hc, h⟩ := bind_eq_ok.mp h
  obtain ⟨sink, hs, h⟩ := bind_eq_ok.mp h
  exact ⟨columns, sink, hc, hs, pure_eq_ok.mp h⟩

end rebound

structure Keeps (t u : Triple) : Prop where
  arg : u.arg = t.arg
  mode : u.mode = t.mode
  passMissing : u.passMissing = t.passMissing
  passthrough : u.passthrough = t.passthrough
  sink : isDynamicSink t.sink = false → u.sink = t.sink

lemma keeps_of_bind (ht : (t.sources, t.function) = r.abstracted) (hp : ∀ n, t.sink ≠ some (.column (.position n)))
    (h : t.bind I scope = .ok u) : t.Keeps u := by
  obtain ⟨columns, sink, -, hs, rfl⟩ := eq_of_bind_eq_ok ht hp h
  exact ⟨rfl, rfl, rfl, rfl, fun hd => Sink.eq_of_bindOption hd hs⟩

lemma concrete_of_bind (ht : (t.sources, t.function) = r.abstracted)
    (hp : ∀ n, t.sink ≠ some (.column (.position n)))
    (h : t.bind I scope = .ok u) : u.isDynamic = false ∧ u.sources.Nodup := by
  obtain ⟨columns, sink, hc, hs, rfl⟩ := eq_of_bind_eq_ok ht hp h
  have hall := mapM_eq_ok.mp hc
  have hl : columns.length = r.abstracted.1.length := by rw [← hall.length_eq, ← ht]
  have hd : ∀ d ∈ columns, d.isDynamic = false := by
    intro d hd
    obtain ⟨s, -, hb⟩ := exists_of_mem_right hall hd
    exact Column.isDynamic_of_bind hb
  have hsources : ∀ d ∈ (r.rebound columns).abstracted.1, d.isDynamic = false :=
    fun d hm => hd d ((Expr.mem_sources_rebound hl hd d).mp hm)
  refine ⟨Bool.or_eq_false_iff.mpr ⟨?_, Sink.isDynamicSink_of_bindOption hs⟩, ?_⟩
  · exact List.any_eq_false.mpr fun d hm => Bool.eq_false_iff.mp (hsources d hm)
  · refine (r.rebound columns).parameters_valid.distinct.imp fun {c d} hn he => ?_
    rw [he, Column.same_refl] at hn
    cases hn

lemma bind_eq_self (h : t.isDynamic = false) : t.bind I scope = .ok t := by
  rw [bind, h]
  rfl

end Triple

namespace Call

variable {config : Config} {inv : Invocation} {c b : Call} {t : Triple}

lemma sink_ne_position (h : expand config inv = .ok c) (ht : t ∈ c.triples) (n : Nat) :
    t.sink ≠ some (.column (.position n)) := by
  obtain ⟨line, -, x, u, hx, hxu, he⟩ := exists_of_mem_right (expand_eq_ok h) ht
  exact ((Triple.wellFormed_of_expandArgument hx hxu).of_unnamed he).sink_ne_position n

lemma admissible_references (h : expand config inv = .ok c) : ∀ ref ∈ c.references, ref.Admissible := by
  intro ref hr hs n hc
  obtain ⟨t, ht, hr⟩ := List.mem_flatMap.mp hr
  rcases List.mem_append.mp hr with hr | hr
  · obtain ⟨d, -, rfl⟩ := List.mem_map.mp hr
    cases hs
  · obtain ⟨d, hd, rfl⟩ := List.mem_map.mp hr
    obtain ⟨s, hsink, hd⟩ := Option.bind_eq_some_iff.mp (Option.mem_toList.mp hd)
    cases s with
    | column d' =>
      cases hd
      cases hc
      exact sink_ne_position h ht n hsink
    | _ => cases hd

lemma errorOf?_bind (h : expand config inv = .ok c) :
    errorOf? (c.bind I scope) = c.references.findSome? (Reference.failure? I scope) := by
  rw [Call.bind, errorOf?_map, references]
  refine errorOf?_mapM fun t ht => ?_
  obtain ⟨r, -, hr⟩ := exists_abstracted h ht
  exact Triple.errorOf?_bind hr (sink_ne_position h ht)

lemma bind_eq_error (h : expand config inv = .ok c) {err : Error} : c.bind I scope = .error err ↔
    ∃ before ref after, c.references = before ++ ref :: after ∧ ref.Fails I scope err ∧
      ∀ ref' ∈ before, ∀ err', ¬ ref'.Fails I scope err' := by
  have hadm := admissible_references h
  rw [← errorOf?_eq_some, errorOf?_bind h, List.findSome?_eq_some_iff]
  refine exists₃_congr fun before ref after => and_congr_right fun he => ?_
  rw [he, List.forall_mem_append, List.forall_mem_cons] at hadm
  obtain ⟨hbefore, href, -⟩ := hadm
  rw [Reference.fails_iff href]
  refine and_congr_right fun _ => forall₂_congr fun ref' hm => ?_
  rw [Option.eq_none_iff_forall_ne_some]
  exact forall_congr' fun err' => not_congr (Reference.fails_iff (hbefore ref' hm)).symm

lemma exists_error_iff (h : expand config inv = .ok c) :
    (∃ err, c.bind I scope = .error err) ↔ ∃ ref ∈ c.references, ∃ err, ref.Fails I scope err := by
  constructor
  · rintro ⟨err, he⟩
    obtain ⟨before, ref, after, hr, hf, -⟩ := (bind_eq_error h).mp he
    exact ⟨ref, hr ▸ List.mem_append_right _ List.mem_cons_self, err, hf⟩
  · rintro ⟨ref, hr, err, hf⟩
    have hsome : (ref.failure? I scope).isSome = true := Option.isSome_iff_exists.mpr ⟨err, hf.failure?⟩
    have hfirst := List.findSome?_isSome_iff.mpr ⟨ref, hr, hsome⟩
    rw [← errorOf?_bind h] at hfirst
    obtain ⟨err', he⟩ := Option.isSome_iff_exists.mp hfirst
    exact ⟨err', errorOf?_eq_some.mp he⟩

lemma bind_eq_self (h : ∀ ref ∈ c.references, ref.column.isDynamic = false) : c.bind I scope = .ok c := by
  refine bind_eq_ok.mpr ⟨c.triples, List.forall₂_same.mpr fun t ht => Triple.bind_eq_self ?_, rfl⟩
  exact Triple.isDynamic_eq_false.mpr fun ref hr => h ref (List.mem_flatMap.mpr ⟨t, ht, hr⟩)

lemma forall₂_bind (h : expand config inv = .ok c) (hb : c.bind I scope = .ok b) :
    List.Forall₂ (fun t u => t.Keeps u ∧ u.isDynamic = false ∧ u.sources.Nodup) c.triples b.triples := by
  obtain ⟨us, hus, rfl⟩ := bind_eq_ok.mp hb
  refine forall₂_of_mem hus fun t ht u _ hu => ?_
  obtain ⟨r, -, hr⟩ := exists_abstracted h ht
  have hp := sink_ne_position h ht
  exact ⟨Triple.keeps_of_bind hr hp hu, Triple.concrete_of_bind hr hp hu⟩

end Call

theorem Call.bind_of_expand {config : Config} {inv : Invocation} {c : Call} (h : Call.expand config inv = .ok c)
    (I : Interpreter) (scope : Scope) :
    ((∃ err, c.bind I scope = .error err) ↔ ∃ ref ∈ c.references, ∃ err, ref.Fails I scope err) ∧
    (∀ err, c.bind I scope = .error err ↔ ∃ before ref after, c.references = before ++ ref :: after ∧
      ref.Fails I scope err ∧ ∀ ref' ∈ before, ∀ err', ¬ ref'.Fails I scope err') ∧
    ∀ b, c.bind I scope = .ok b →
      (∀ ref ∈ b.references, ref.column.isDynamic = false) ∧ (∀ u ∈ b.triples, u.sources.Nodup) ∧
      ((∀ ref ∈ c.references, ref.column.isDynamic = false) → b = c) ∧
      b.construct = c.construct ∧ b.table = c.table ∧ b.kwargs = c.kwargs ∧ b.config = c.config ∧
      List.Forall₂ Triple.Keeps c.triples b.triples ∧
      ∀ (J : Interpreter) (scope' : Scope), b.bind J scope' = .ok b := by
  refine ⟨exists_error_iff h, fun err => bind_eq_error h, fun b hb => ?_⟩
  have hall := forall₂_bind h hb
  have hconcrete : ∀ ref ∈ b.references, ref.column.isDynamic = false := by
    intro ref hr
    obtain ⟨u, hu, hr⟩ := List.mem_flatMap.mp hr
    obtain ⟨t, -, -, hd, -⟩ := exists_of_mem_right hall hu
    exact Triple.isDynamic_eq_false.mp hd ref hr
  have hnodup : ∀ u ∈ b.triples, u.sources.Nodup := by
    intro u hu
    obtain ⟨t, -, -, -, hn⟩ := exists_of_mem_right hall hu
    exact hn
  refine ⟨hconcrete, hnodup, fun hc => ?_, ?_⟩
  · exact (Except.ok.inj ((bind_eq_self hc).symm.trans hb)).symm
  · obtain ⟨us, -, rfl⟩ := bind_eq_ok.mp hb
    exact ⟨rfl, rfl, rfl, rfl, hall.imp fun t u ht => ht.1, fun J scope' => bind_eq_self hconcrete⟩

theorem Call.bind_of_expand_dynamic_sink : ∃ c b err,
    Call.expand {} ⟨.transform, .ident "df", [.assign (.quote "y") (.apply "+" [.interp (.ident "x"), .quote "a"]),
      .assign (.interp (.ident "s")) (.quote "b")], []⟩ = .ok c ∧
    c.bind (.ofConfig {}) (((∅ : Scope).insert "x" (.symbol "a")).insert "s" (.str "out")) = .ok b ∧
    b.triples.map Triple.sources = [[.symbol "a"], [.symbol "b"]] ∧ b.bind (.ofConfig {}) ∅ = .ok b ∧
    c.bind (.ofConfig {}) (((∅ : Scope).insert "x" (.int 2)).insert "s" (.int 2)) = .error err ∧
    err = .argument ⟨2, .notColumn (Column.dynamic (.ident "s")).render
      "Int (a position cannot name a new column)"⟩ ∧
    (∃ ref ∈ c.references, ref.Fails (.ofConfig {}) (((∅ : Scope).insert "x" (.int 2)).insert "s" (.int 2)) err) ∧
    ∃ ref ∈ c.references, ∃ err, ref.Fails (.ofConfig {}) ∅ err := by
  have h : Call.expand {} ⟨.transform, .ident "df",
    [.assign (.quote "y") (.apply "+" [.interp (.ident "x"), .quote "a"]),
      .assign (.interp (.ident "s")) (.quote "b")], []⟩ = .ok ⟨.transform, .ident "df",
        [⟨1, [.dynamic (.ident "x"), .symbol "a"], ⟨["col", "a"], .apply "+" [.ident "col", .ident "a"]⟩,
          some (.column (.symbol "y")), .rowWise, false, false⟩,
        ⟨2, [.symbol "b"], ⟨["b"], .ident "b"⟩, some (.column (.dynamic (.ident "s"))), .rowWise, false, true⟩],
        [], {}⟩ :=
    rfl
  have hbound := (bind_of_expand h (.ofConfig {})
    (((∅ : Scope).insert "x" (.symbol "a")).insert "s" (.str "out"))).2.2
  obtain ⟨-, hfirst, -⟩ := bind_of_expand h (.ofConfig {}) (((∅ : Scope).insert "x" (.int 2)).insert "s" (.int 2))
  obtain ⟨hsome, -, -⟩ := bind_of_expand h (.ofConfig {}) ∅
  refine ⟨_, _, _, h, rfl, rfl, ?_, rfl, rfl, ?_, hsome.mp ⟨_, rfl⟩⟩
  · obtain ⟨-, -, -, -, -, -, -, -, hagain⟩ := hbound _ rfl
    exact hagain (.ofConfig {}) ∅
  · obtain ⟨before, ref, after, hr, hf, -⟩ := (hfirst _).mp rfl
    exact ⟨ref, hr ▸ List.mem_append_right _ List.mem_cons_self, hf⟩

end Tabular
