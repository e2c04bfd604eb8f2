import Tabular.Proofs.FlagSets
import Tabular.Proofs.Hygiene
import Tabular.Proofs.Rows

namespace Tabular

lemma Expr.isMention_mapColumns {f : Column → Expr} {e : Expr} (h : e.isMention = false) :
    (e.mapColumns f).isMention = false := by
  cases e <;> first | rfl | cases h

lemma Expr.Resolved.body {r : Expr} (h : r.Resolved) : r.abstracted.2.body.Resolved := by
  rw [abstracted_eq]
  intro n hn
  rw [nodes_mapColumns fun c => rfl] at hn
  obtain ⟨m, hm, rfl⟩ := List.mem_map.mp hn
  have hp := h m hm
  cases m with
  | quote | interp | flagged => cases hp
  | assign sink value =>
    have hs : sink.isMention = false := by simpa [isPlain] using hp
    simp [mapColumns, isPlain, isMention_mapColumns hs]
  | _ => rfl

lemma Expr.Resolved.assigns_no_param {r : Expr} (h : r.Resolved) {x : String} {v : Expr}
    (hn : .assign (.ident x) v ∈ r.abstracted.2.body.nodes) : x ∉ r.abstracted.2.params := by
  rw [abstracted_eq, nodes_mapColumns fun c => rfl] at hn
  obtain ⟨m, hm, he⟩ := List.mem_map.mp hn
  cases m with
  | assign sink value =>
    cases sink with
    | ident y =>
      cases he
      have hx : x ∈ r.idents := mem_idents_of_ident (nodes_subset hm (by simp [nodes]))
      exact fun hp => (r.parameters_valid.free x hp).2 hx
    | column c => exact absurd hm (h.assignsNoColumn c value)
    | _ => cases he
  | _ => cases he

namespace Argument

def written : Option Expr → Expr → Expr
  | none, value => value
  | some sink, value => .assign sink value

lemma eq_written {e : Expr} {a : Argument} (h : ofExpr e = .ok a) (hf : a.flags.isEmpty = true) :
    a.flags = {} ∧ e = written a.sink a.value := by
  obtain ⟨⟨⟨ht, -⟩, -⟩, rfl⟩ := (gives_ofExpr e a).mp h
  have hn := Flags.isEmpty_ofChars.mp hf
  obtain ⟨ho, hv⟩ := List.append_eq_nil_iff.mp ((Expr.flatMap_toList_eq_nil ht).mp hn)
  rw [Expr.unflagged_eq_self ho] at hv
  rw [hn, bare, Expr.unflagged_eq_self ho, Expr.unflagged_eq_self hv]
  refine ⟨rfl, ?_⟩
  cases e <;> rfl

lemma sink_eq_none_iff {e : Expr} {a : Argument} (h : ofExpr e = .ok a) :
    a.sink = none ↔ ∀ sink v, e.unflagged ≠ .assign sink v := by
  obtain ⟨-, rfl⟩ := (gives_ofExpr e a).mp h
  rw [bare]
  cases e.unflagged <;> simp [Expr.target?]

lemma ofExpr_written {sink : Option Expr} {value : Expr} {a : Argument} (hv : value.isMention = true)
    (h : ofExpr (written sink value) = .ok a) : a = ⟨{}, sink, value⟩ := by
  obtain ⟨-, rfl⟩ := (gives_ofExpr _ a).mp h
  cases value with
  | quote | interp | column => cases sink <;> rfl
  | _ => cases hv

variable {construct : Construct} {config : Config} {s : Option Expr} {sink : Option Sink}

lemma explicitSink_of_not_takesSinks (h : explicitSink construct config s = .ok sink)
    (hc : construct.takesSinks = false) : sink = none := by
  obtain ⟨-, hs⟩ | ⟨_, _, -, ht, -⟩ := explicitSink_eq_ok.mp h
  · exact hs
  · cases hc.symm.trans ht

lemma explicitSink_ne_position (h : explicitSink construct config s = .ok sink) (n : Nat) :
    sink ≠ some (.column (.position n)) := by
  rintro rfl
  obtain ⟨-, hs⟩ | ⟨_, _, -, -, hs, hn⟩ := explicitSink_eq_ok.mp h
  · cases hs
  · cases hn
    exact Sink.resolve_ne_position n hs

lemma explicitSink_eq_none (h : explicitSink construct config s = .ok sink) : sink = none ↔ s = none := by
  obtain ⟨rfl, rfl⟩ | ⟨_, _, rfl, -, -, rfl⟩ := explicitSink_eq_ok.mp h <;> simp

lemma isAsTable_explicitSink (h : explicitSink construct config s = .ok sink) :
    isAsTable sink = true ↔ s = some (.ident config.asTable) := by
  obtain ⟨rfl, rfl⟩ | ⟨e, sink, rfl, -, hs, rfl⟩ := explicitSink_eq_ok.mp h
  · simp [isAsTable]
  · rw [Option.some_inj]
    obtain ⟨rfl, rfl⟩ | ⟨c, hc, -, rfl⟩ := Sink.resolve_eq_ok.mp hs
    · simp [isAsTable]
    · refine iff_of_false (by simp [isAsTable]) ?_
      rintro rfl
      cases hc

lemma isMention_of_resolve_column {e : Expr} {c : Column} (h : e.resolve = .ok (.column c)) :
    e.isMention = true := by
  by_contra hm
  exact Expr.resolve_ne_column h (Bool.eq_false_iff.mpr hm) c rfl

lemma resolve_eq_column {e r : Expr} (he : e.isMention = true) (h : e.resolve = .ok r) : ∃ c, r = .column c := by
  cases e with
  | quote | column =>
    cases h
    exact ⟨_, rfl⟩
  | interp target =>
    obtain ⟨c, -, h⟩ := bind_eq_ok.mp h
    exact ⟨c, (pure_eq_ok.mp h).symm⟩
  | _ => cases he

lemma isPassthrough_iff {e r : Expr} {a : Argument} (ha : ofExpr e = .ok a)
    (hs : explicitSink construct config a.sink = .ok sink) (hr : a.value.resolve = .ok r) :
    isPassthrough a.flags r.abstracted.2 sink = true ↔
      ∃ s value, e = written s value ∧ value.isMention = true ∧ s ≠ some (.ident config.asTable) := by
  simp only [isPassthrough, Bool.and_eq_true, Bool.not_eq_true', Expr.isIdentity_abstracted]
  constructor
  · rintro ⟨⟨hf, c, rfl⟩, ht⟩
    refine ⟨a.sink, a.value, (eq_written ha hf).2, isMention_of_resolve_column hr, fun he => ?_⟩
    rw [(isAsTable_explicitSink hs).mpr he] at ht
    cases ht
  · rintro ⟨s, value, rfl, hv, ht⟩
    cases ofExpr_written hv ha
    refine ⟨⟨rfl, resolve_eq_column hv hr⟩, Bool.eq_false_iff.mpr fun he => ht ?_⟩
    exact (isAsTable_explicitSink hs).mp he

end Argument

namespace Interpreter

variable {I : Interpreter} {scope : Scope}

lemma applyWith_identity {f : Closure} (hf : f.isIdentity = true) (nrow : Option Nat) (v : Value) :
    I.applyWith (fun _ => none) scope nrow [v] f.toExpr = .ok v := by
  rw [Closure.isIdentity] at hf
  split at hf
  next x y hp hb =>
    have hx : (scope.insertAll [(x, v)]).get? y = some v := by
      rw [← beq_iff_eq.mp hf]
      exact Bindings.get?_insert_self scope x v
    simp [Closure.toExpr, hp, hb, applyWith, evalWith, variableIn, hx]
  next => cases hf

lemma callRows_identity {config : Config} {t : Triple} (hb : I.byRow = config.byRow)
    (hf : t.function.isIdentity = true) (hp : t.passMissing = false) (col : List Value) :
    I.callRows scope col.length [.list col] (t.callable config) = .ok (.list col) := by
  rw [callRows, Triple.callable, hp, if_neg Bool.false_ne_true]
  split
  · have hl : Rows.commonLength [.list col] = .ok (some col.length) := rfl
    rw [← hb, applyWith_byRow hl rfl]
    refine bind_eq_ok.mpr ⟨(List.range col.length).map fun i => col.getD i .missing, mapM_eq_ok.mpr ?_, ?_⟩
    · rw [List.forall₂_map_right_iff, List.forall₂_same]
      exact fun i _ => applyWith_identity hf none _
    · refine congrArg (Except.ok ∘ Value.list) (List.ext_getElem (by simp) fun i hi _ => ?_)
      have hi : i < col.length := by simpa using hi
      simp [hi]
  · exact applyWith_identity hf _ _

end Interpreter

structure Triple.WellFormed (construct : Construct) (config : Config) (e : Expr) (t : Triple) : Prop where
  distinct : t.sources.Pairwise fun c d => c.same d = false
  arity : t.function.params.length = t.sources.length
  plain : ∀ n ∈ t.function.body.nodes, n.isPlain = true ∧ ∀ c, n ≠ .column c
  assigns : ∀ x v, .assign (.ident x) v ∈ t.function.body.nodes → x ∉ t.function.params
  sink_of_not_takesSinks : construct.takesSinks = false → t.sink = none
  sink_eq_none : construct.takesSinks = true →
    (t.sink = none ↔ t.passthrough = true ∧ ∀ sink v, e.unflagged ≠ .assign sink v)
  sink_ne_position : ∀ n, t.sink ≠ some (.column (.position n))
  passthrough : t.passthrough = true ↔
    ∃ sink v, e = Argument.written sink v ∧ v.isMention = true ∧ sink ≠ some (.ident config.asTable)
  identity : t.passthrough = true → (∃ c, t.sources = [c]) ∧ ∀ I : Interpreter, I.byRow = config.byRow →
    I.passMissing = config.passMissing → ∀ (scope : Scope) (col : List Value),
      I.callRows scope col.length [.list col] (t.callable config) = .ok (.list col)

namespace Triple

variable {construct : Construct} {config : Config} {arg : Nat} {e r : Expr} {a : Argument} {t u : Triple}

lemma WellFormed.of_unnamed (h : t.unnamed = u.unnamed) (hu : u.WellFormed construct config e) :
    t.WellFormed construct config e := by
  obtain ⟨arg, sources, function, sink, mode, passMissing, passthrough⟩ := t
  simp only [Triple.unnamed, Triple.mk.injEq] at h
  obtain ⟨-, rfl, rfl, hs, rfl, rfl, rfl⟩ := h
  have hn : sink = none ↔ u.sink = none := by
    rw [← Option.map_eq_none_iff (f := Sink.unnamed), hs, Option.map_eq_none_iff]
  refine { hu with
    sink_of_not_takesSinks := fun hc => hn.mpr (hu.sink_of_not_takesSinks hc)
    sink_eq_none := fun hc => hn.trans (hu.sink_eq_none hc)
    sink_ne_position := ?_ }
  rintro n rfl
  refine hu.sink_ne_position n ?_
  obtain ⟨s, hs, hp⟩ := Option.map_eq_some_iff.mp hs.symm
  rw [hs]
  cases s with
  | generated | asTable => cases hp
  | column c => rw [show Sink.column c = .column (.position n) from hp]

lemma wellFormed_tripleOf {sink : Option Sink} (ha : Argument.ofExpr e = .ok a)
    (hs : Argument.explicitSink construct config a.sink = .ok sink) (hr : a.value.resolve = .ok r) :
    (Argument.tripleOf construct config arg a.flags sink r).WellFormed construct config e := by
  have hres := Expr.resolved_resolve hr
  have hpass := Argument.isPassthrough_iff ha hs hr
  have hnone : sink = none ↔ ∀ s v, e.unflagged ≠ .assign s v :=
    (Argument.explicitSink_eq_none hs).trans (Argument.sink_eq_none_iff ha)
  refine ⟨r.parameters_valid.distinct, r.arity_abstracted, fun n hn => ⟨hres.body n hn, ?_⟩,
    fun x v hn => hres.assigns_no_param hn, fun hc => ?_, fun hc => ?_, fun n => ?_, hpass, fun hp => ?_⟩
  · rintro c rfl
    exact r.body_column_free c hn
  · simp [Argument.tripleOf, hc, Argument.explicitSink_of_not_takesSinks hs hc]
  · rw [← hnone]
    cases sink with
    | none =>
      cases hi : Argument.isPassthrough a.flags r.abstracted.2 none <;> simp [Argument.tripleOf, hc, hi]
    | some s => simp [Argument.tripleOf]
  · simp only [Argument.tripleOf]
    split
    · simp
    · rintro rfl
      exact Argument.explicitSink_ne_position hs n rfl
  · have hp : Argument.isPassthrough a.flags r.abstracted.2 sink = true := hp
    simp only [Argument.isPassthrough, Bool.and_eq_true] at hp
    obtain ⟨c, rfl⟩ := (Expr.isIdentity_abstracted r).mp hp.1.2
    refine ⟨⟨c, rfl⟩, fun I hb _ scope col => Interpreter.callRows_identity hb hp.1.2 ?_ col⟩
    simp [Argument.tripleOf, (Argument.eq_written ha hp.1.1).1]

lemma wellFormed_group {g : TableGroup} (ha : Argument.ofExpr e = .ok a) (htable : a.flags.table = true)
    (htakes : construct.takesSinks = true)
    (hg : TableGroup.collect arg construct.defaultMode a.flags a.sink a.value = .ok g) (ht : g.toTriple = .ok t) :
    t.WellFormed construct config e := by
  obtain ⟨ls, es, -, -, -, hb⟩ := TableGroup.collect_eq_ok hg
  have hres := TableGroup.resolved_bodyOf hb
  obtain ⟨hsources, hfunction⟩ := Prod.mk.inj (TableGroup.toTriple_eq_ok ht)
  obtain ⟨hsink, hpass⟩ := TableGroup.sink_toTriple ht
  refine ⟨?_, ?_, fun n hn => ?_, fun x v hn => ?_, fun hc => ?_, fun _ => ?_, fun n => ?_, ?_, fun hp => ?_⟩
  · rw [hsources]
    exact g.body.parameters_valid.distinct
  · rw [hsources, hfunction]
    exact g.body.arity_abstracted
  · rw [hfunction] at hn
    refine ⟨hres.body n hn, ?_⟩
    rintro c rfl
    exact g.body.body_column_free c hn
  · rw [hfunction] at hn ⊢
    exact hres.assigns_no_param hn
  · rw [htakes] at hc
    cases hc
  · simp [hsink, hpass]
  · simp [hsink]
  · rw [hpass]
    refine ⟨fun h => (nomatch h), ?_⟩
    rintro ⟨s, v, rfl, hv, -⟩
    cases Argument.ofExpr_written hv ha
    cases htable
  · rw [hpass] at hp
    cases hp

lemma wellFormed_of_expandArgument {x : Expansion} (hx : expandArgument construct config arg e = .ok x)
    (ht : x.toTriple = .ok t) : t.WellFormed construct config e := by
  cases x with
  | triple t =>
    cases ht
    obtain ⟨a, ha, -, sink, r, hs, hr, rfl⟩ := expandArgument_eq_triple.mp hx
    exact wellFormed_tripleOf ha hs hr
  | group g =>
    obtain ⟨a, ha, htable, htakes, hg⟩ := expandArgument_eq_group.mp hx
    exact wellFormed_group ha htable htakes hg ht

end Triple

theorem wellFormed_of_expand {config : Config} {inv : Invocation} {c : Call} (h : Call.expand config inv = .ok c) :
    List.Forall₂ (fun line t => t.WellFormed inv.construct config line.2) (Call.lines config inv) c.triples := by
  refine (Call.expand_eq_ok h).imp ?_
  rintro line t ⟨x, u, hx, hxu, he⟩
  exact (Triple.wellFormed_of_expandArgument hx hxu).of_unnamed he

theorem wellFormed_of_expand_mixed_arguments : ∃ passed computed collected : Triple,
    Call.expand {} ⟨.transform, .ident "df", [.quote "x", .apply "+" [.quote "x", .interp (.ident "n")],
        .flagged "t" (.tuple [.assign (.quote "a") (.quote "x")])], []⟩ =
      .ok ⟨.transform, .ident "df", [passed, computed, collected], [], {}⟩ ∧
    passed.WellFormed .transform {} (.quote "x") ∧ passed.passthrough = true ∧
    computed.WellFormed .transform {} (.apply "+" [.quote "x", .interp (.ident "n")]) ∧
      computed.sink = some (.generated "x_col_plus") ∧
    collected.WellFormed .transform {} (.flagged "t" (.tuple [.assign (.quote "a") (.quote "x")])) := by
  have h : Call.expand {} ⟨.transform, .ident "df", [.quote "x", .apply "+" [.quote "x", .interp (.ident "n")],
        .flagged "t" (.tuple [.assign (.quote "a") (.quote "x")])], []⟩ =
      .ok ⟨.transform, .ident "df",
        [⟨1, [.symbol "x"], ⟨["x"], .ident "x"⟩, none, .rowWise, false, true⟩,
          ⟨2, [.symbol "x", .dynamic (.ident "n")], ⟨["x", "col"], .apply "+" [.ident "x", .ident "col"]⟩,
            some (.generated "x_col_plus"), .rowWise, false, false⟩,
          ⟨3, [.symbol "x"], ⟨["x"], .namedTuple [("a", .ident "x")]⟩, some .asTable, .rowWise, false, false⟩],
          [], {}⟩ :=
    rfl
  refine ⟨_, _, _, h, ?_⟩
  obtain ⟨hp, hrest⟩ := List.forall₂_cons.mp (wellFormed_of_expand h)
  obtain ⟨hc, hrest⟩ := List.forall₂_cons.mp hrest
  obtain ⟨ht, -⟩ := List.forall₂_cons.mp hrest
  exact ⟨hp, rfl, hc, rfl, ht⟩

end Tabular
