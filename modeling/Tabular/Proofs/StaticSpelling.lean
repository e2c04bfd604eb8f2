import Tabular.Proofs.Binding
import Tabular.Proofs.Spelling

/-!
Dynamic references and their static spelling. A call that is bound is the call that the static spelling of its
columns gives, unless references that count as the same one name different columns.
-/

namespace Tabular

namespace Expr

lemma isIdentity_abstracted (e : Expr) : e.abstracted.2.isIdentity = true ↔ ∃ c, e = .column c := by
  constructor
  · intro h
    cases e with
    | column c => exact ⟨c, rfl⟩
    | ident x => cases h
    | _ =>
      rw [Closure.isIdentity] at h
      split at h
      next hb => cases hb
      next => cases h
  · rintro ⟨c, rfl⟩
    have hc : (Parameters.avoiding []).find? c = none := rfl
    have hp : (column c).parameters = ⟨[(c, _)], _⟩ := Parameters.cover_of_none hc
    simp [abstracted_eq, hp, Closure.isIdentity, Parameters.params, Parameters.nameOf, Parameters.find?,
      mapColumns, Column.same_refl]

lemma abstracted_injective {e e' : Expr} (he : ∀ c ∈ e.mentions, c.isDynamic = false)
    (he' : ∀ c ∈ e'.mentions, c.isDynamic = false) (h : e.abstracted = e'.abstracted) : e = e' := by
  have hs {e : Expr} (he : ∀ c ∈ e.mentions, c.isDynamic = false) : e.abstracted.2.instantiate e.abstracted.1 =
      e := by
    rw [instantiate_eq_rebound rfl]
    exact rebound_sources fun d hd => he d (mem_mentions_of_source hd)
  rw [← hs he, ← hs he', h]

variable {r : Expr} {τ : Column → Column}

lemma exists_boundTo_eq {c : Column} (hc : c ∈ r.mentions) :
    ∃ d ∈ r.mentions, d.same c = true ∧ r.boundTo (r.abstracted.1.map τ) c = τ d := by
  have hl : (r.abstracted.1.map τ).length = r.abstracted.1.length := List.length_map _
  obtain ⟨d, hd, hs⟩ := exists_source hc
  have hm : d ∈ r.mentions := mem_mentions_of_source hd
  refine ⟨d, hm, hs, ?_⟩
  rw [← boundTo_congr hl hm hs]
  exact List.map_inj_left.mp (map_boundTo hl) d hd

lemma rebound_eq_recolumn_iff : r.rebound (r.abstracted.1.map τ) = r.recolumn τ ↔
    ∀ c ∈ r.mentions, ∀ d ∈ r.mentions, c.same d = true → τ c = τ d := by
  have hl : (r.abstracted.1.map τ).length = r.abstracted.1.length := List.length_map _
  rw [rebound, recolumn_eq_iff]
  constructor
  · intro h c hc d hd hs
    rw [← h c hc, ← h d hd, boundTo_congr hl hc hs]
  · intro h c hc
    -- references that count as the same one are all bound as the first of them is
    obtain ⟨d, hd, hs, he⟩ := exists_boundTo_eq (τ := τ) hc
    rw [he, h d hd c hc hs]

lemma abstracted_rebound_eq_iff (hτ : ∀ c ∈ r.mentions, (τ c).isDynamic = false) :
    (r.rebound (r.abstracted.1.map τ)).abstracted = (r.recolumn τ).abstracted ↔
      ∀ c ∈ r.mentions, ∀ d ∈ r.mentions, c.same d = true → τ c = τ d := by
  rw [← rebound_eq_recolumn_iff]
  refine ⟨abstracted_injective (fun c hc => ?_) fun c hc => ?_, congrArg abstracted⟩
  · rw [mem_mentions_rebound (List.length_map _)] at hc
    obtain ⟨d, hd, rfl⟩ := List.mem_map.mp hc
    exact hτ d (mem_mentions_of_source hd)
  · rw [mentions_recolumn] at hc
    obtain ⟨d, hd, rfl⟩ := List.mem_map.mp hc
    exact hτ d hd

end Expr

namespace Value

def namesColumn : Value → Bool
  | symbol _ | str _ => true
  | int n => 1 ≤ n
  | _ => false

def namesNewColumn : Value → Bool
  | symbol _ | str _ => true
  | _ => false

def mention : Value → Expr
  | symbol x => .quote x
  | v => .interp (.literal v)

end Value

def Interpreter.spelling (I : Interpreter) (scope : Scope) (target : Expr) : Expr :=
  match I.eval scope target with
  | .ok v => v.mention
  | .error _ => .interp target

def Invocation.spelled (I : Interpreter) (scope : Scope) (inv : Invocation) : Invocation :=
  { inv with args := inv.args.map (Expr.respell (I.spelling scope)) }

def Column.concrete (I : Interpreter) (scope : Scope) (arg : Nat) (c : Column) : Column :=
  (c.bind I scope arg).toOption.getD c

variable {I : Interpreter} {scope : Scope} {arg : Nat}

lemma Interpreter.isMention_spelling (target : Expr) : (I.spelling scope target).isMention = true := by
  rw [spelling]
  split
  next v _ => cases v <;> rfl
  next => rfl

lemma Column.concrete_of_bind {c d : Column} (h : c.bind I scope arg = .ok d) : c.concrete I scope arg = d := by
  rw [concrete, h]
  rfl

lemma Column.bind_dynamic (arg : Nat) {target : Expr} {v : Value} (hv : I.eval scope target = .ok v)
    (hn : v.namesColumn = true) :
    ∃ d, (dynamic target).bind I scope arg = .ok d ∧ (I.spelling scope target).resolve = .ok (.column d) := by
  rw [bind, Interpreter.spelling, hv]
  cases v with
  | symbol x => exact ⟨.symbol x, rfl, rfl⟩
  | str x => exact ⟨.string x, rfl, rfl⟩
  | int n =>
    have hn : 1 ≤ n := of_decide_eq_true hn
    refine ⟨.position n.toInt.toNat, by simp [ofValue, hn, Except.mapError], ?_⟩
    simp [Value.mention, Expr.resolve, interpolated, hn]
  | _ => cases hn

lemma Sink.bind_dynamic (config : Config) (arg : Nat) {target : Expr} {v : Value}
    (hv : I.eval scope target = .ok v)
    (hn : v.namesNewColumn = true) : ∃ d, (Column.dynamic target).bind I scope arg = .ok d ∧
      Sink.resolve config (I.spelling scope target) = .ok (.column d) ∧
      (Sink.column (.dynamic target)).bind I scope arg = .ok (.column d) := by
  simp only [Sink.bind, Column.bind, Interpreter.spelling, hv]
  cases v with
  | symbol x => exact ⟨.symbol x, rfl, rfl, rfl⟩
  | str x => exact ⟨.string x, rfl, rfl, rfl⟩
  | _ => cases hn

structure Argument.BindsIn (config : Config) (I : Interpreter) (scope : Scope) (a : Argument) : Prop where
  value : ∀ r target, a.value.resolve = .ok r → .dynamic target ∈ r.mentions →
    ∃ v, I.eval scope target = .ok v ∧ v.namesColumn = true
  sink : ∀ e target, a.sink = some e → Sink.resolve config e = .ok (.column (.dynamic target)) →
    ∃ v, I.eval scope target = .ok v ∧ v.namesNewColumn = true

variable {config : Config} {a : Argument} {r : Expr}

lemma Argument.BindsIn.spelledBy (h : a.BindsIn config I scope) (arg : Nat) (hr : a.value.resolve = .ok r)
    {c : Column} (hc : c ∈ r.mentions) : c.SpelledBy (I.spelling scope) (Column.concrete I scope arg) ∧
      c.bind I scope arg = .ok (c.concrete I scope arg) := by
  cases c with
  | dynamic target =>
    obtain ⟨v, hv, hn⟩ := h.value r target hr hc
    obtain ⟨d, hb, hs⟩ := Column.bind_dynamic arg hv hn
    rw [Column.SpelledBy, Column.concrete_of_bind hb]
    exact ⟨hs, hb⟩
  | _ => exact ⟨rfl, rfl⟩

lemma Sink.resolve_ne_position {e : Expr} (n : Nat) : Sink.resolve config e ≠ .ok (.column (.position n)) := by
  intro h
  obtain ⟨-, hs⟩ | ⟨c, -, hp, hs⟩ := resolve_eq_ok.mp h
  · cases hs
  · cases hs
    exact hp n rfl

lemma Sink.spelledBy (arg : Nat) {e : Expr} {s : Sink} (h : Sink.resolve config e = .ok s)
    (hd : ∀ target, s = .column (.dynamic target) → ∃ v, I.eval scope target = .ok v ∧ v.namesNewColumn = true) :
    s.SpelledBy config (I.spelling scope) (Column.concrete I scope arg) ∧
      s.bind I scope arg = .ok (s.recolumn (Column.concrete I scope arg)) := by
  cases s with
  | column c =>
    cases c with
    | dynamic target =>
      obtain ⟨v, hv, hn⟩ := hd target rfl
      obtain ⟨d, hb, hs, hsb⟩ := Sink.bind_dynamic config arg hv hn
      rw [SpelledBy, recolumn, Column.concrete_of_bind hb]
      exact ⟨hs, hsb⟩
    | position n => exact absurd h (Sink.resolve_ne_position n)
    | _ => exact ⟨rfl, rfl⟩
  | _ => exact ⟨trivial, rfl⟩

lemma Argument.BindsIn.explicitSink (h : a.BindsIn config I scope) (arg : Nat) {construct : Construct}
    {sink : Option Sink} (hs : explicitSink construct config a.sink = .ok sink) :
    Argument.explicitSink construct config (a.sink.map (Expr.respell (I.spelling scope))) =
        .ok (sink.map (Sink.recolumn (Column.concrete I scope arg))) ∧
      Sink.bindOption I scope arg sink = .ok (sink.map (Sink.recolumn (Column.concrete I scope arg))) := by
  obtain ⟨ha, rfl⟩ | ⟨e, s, ha, ht, hres, rfl⟩ := explicitSink_eq_ok.mp hs
  · rw [ha]
    exact ⟨rfl, rfl⟩
  · obtain ⟨hsp, hb⟩ := Sink.spelledBy arg hres fun target hd => h.sink e target ha (hd ▸ hres)
    rw [ha]
    exact ⟨explicitSink_eq_ok.mpr (.inr ⟨_, _, rfl, ht, Sink.resolve_respell hres hsp, rfl⟩),
      by simp only [Sink.bindOption, hb, Option.map_some, Except.map]⟩

lemma Sink.eq_of_unnamed {s₀ s : Sink} (h : s.unnamed = s₀.unnamed) :
    s = s₀ ∨ ∃ x y, s₀ = .generated x ∧ s = .generated y := by
  cases s₀ with
  | generated x =>
    cases s with
    | generated y => exact .inr ⟨x, y, rfl, rfl⟩
    | _ => cases h
  | _ =>
    cases s with
    | generated y => cases h
    | _ => exact .inl h

lemma Sink.bindOption_of_unnamed {s s₀ s₁ : Option Sink} (h : s.map Sink.unnamed = s₀.map Sink.unnamed)
    (hb : Sink.bindOption I scope arg s₀ = .ok s₁) :
    ∃ s', Sink.bindOption I scope arg s = .ok s' ∧ s'.map Sink.unnamed = s₁.map Sink.unnamed := by
  cases s with
  | none =>
    rw [Option.map_eq_none_iff.mp h.symm] at hb
    exact ⟨s₁, hb, rfl⟩
  | some s =>
    obtain ⟨t, rfl, ht⟩ := Option.map_eq_some_iff.mp h.symm
    rcases Sink.eq_of_unnamed ht with rfl | ⟨x, y, rfl, rfl⟩
    · exact ⟨s₁, hb, rfl⟩
    · cases hb
      exact ⟨some (.generated x), rfl, rfl⟩

lemma Argument.isPassthrough_recolumn (flags : Flags) (τ : Column → Column) (sink : Option Sink) :
    isPassthrough flags (r.recolumn τ).abstracted.2 (sink.map (Sink.recolumn τ)) =
      isPassthrough flags r.abstracted.2 sink := by
  have hi : (r.recolumn τ).abstracted.2.isIdentity = r.abstracted.2.isIdentity := by
    rw [Bool.eq_iff_iff, Expr.isIdentity_abstracted, Expr.isIdentity_abstracted]
    constructor
    · rintro ⟨c, hc⟩
      cases r with
      | column d => exact ⟨d, rfl⟩
      | _ => cases hc
    · rintro ⟨c, rfl⟩
      exact ⟨τ c, rfl⟩
  have ht : isAsTable (sink.map (Sink.recolumn τ)) = isAsTable sink := by
    rcases sink with _ | ⟨_ | _ | _⟩ <;> rfl
  rw [isPassthrough, isPassthrough, hi, ht]

/-- How a transformation `u` that was bound goes with the transformation `t` that the static spelling of the same
line gives: they agree but for the name of a made-up sink, and they have the same sources and the same function if
and only if all references of the line that count as the same one name the same column. -/
structure BindsLike (I : Interpreter) (scope : Scope) (line : Nat × Expr) (u t : Triple) : Prop where
  arg : u.arg = t.arg
  mode : u.mode = t.mode
  passMissing : u.passMissing = t.passMissing
  passthrough : u.passthrough = t.passthrough
  sink : u.sink.map Sink.unnamed = t.sink.map Sink.unnamed
  function : ∃ a r, Argument.ofExpr line.2 = .ok a ∧ a.value.resolve = .ok r ∧
    (u.sources = t.sources ∧ u.function = t.function ↔ ∀ c ∈ r.mentions, ∀ d ∈ r.mentions, c.same d = true →
      c.bind I scope line.1 = d.bind I scope line.1)

lemma BindsLike.of_unnamed {line : Nat × Expr} {u t t' : Triple} (h : BindsLike I scope line u t)
    (ht : t'.unnamed = t.unnamed) : BindsLike I scope line u t' := by
  simp only [Triple.unnamed, Triple.mk.injEq] at ht
  obtain ⟨harg, hsources, hfunction, hsink, hmode, hpass, hthrough⟩ := ht
  refine ⟨h.arg.trans harg.symm, h.mode.trans hmode.symm, h.passMissing.trans hpass.symm,
    h.passthrough.trans hthrough.symm, h.sink.trans hsink.symm, ?_⟩
  rw [hsources, hfunction]
  exact h.function

namespace Argument

variable {construct : Construct} {e : Expr} {sink : Option Sink}

lemma BindsIn.expandArgument (h : a.BindsIn config I scope) (ha : ofExpr e = .ok a)
    (htable : a.flags.table = false)
    (hs : Argument.explicitSink construct config a.sink = .ok sink) (hr : a.value.resolve = .ok r) (arg : Nat) :
    expandArgument construct config arg (e.respell (I.spelling scope)) =
      .ok (.triple (tripleOf construct config arg a.flags
        (sink.map (Sink.recolumn (Column.concrete I scope arg))) (r.recolumn (Column.concrete I scope arg)))) := by
  have hf : ∀ target, (I.spelling scope target).isMention = true := Interpreter.isMention_spelling
  refine expandArgument_eq_triple.mpr ⟨_, ofExpr_respell hf ha, htable, _, _, ?_, ?_, rfl⟩
  · exact (h.explicitSink arg hs).1
  · exact Expr.resolve_respell hf hr fun c hc => (h.spelledBy arg hr hc).1

lemma bindOption_tripleOf (construct : Construct) (config : Config) (flags : Flags) (r : Expr)
    {τ : Column → Column} (hb : Sink.bindOption I scope arg sink = .ok (sink.map (Sink.recolumn τ))) :
    ∃ s, Sink.bindOption I scope arg (tripleOf construct config arg flags sink r).sink = .ok s ∧
      s.map Sink.unnamed =
        (tripleOf construct config arg flags (sink.map (Sink.recolumn τ)) (r.recolumn τ)).sink.map
          Sink.unnamed := by
  simp only [tripleOf, isPassthrough_recolumn, Option.isNone_map]
  split
  · exact ⟨_, rfl, rfl⟩
  · exact ⟨_, hb, rfl⟩

lemma BindsIn.bindsLike (h : a.BindsIn config I scope) (ha : ofExpr e = .ok a)
    (hs : Argument.explicitSink construct config a.sink = .ok sink) (hr : a.value.resolve = .ok r) {t : Triple}
    (ht : t.unnamed = (tripleOf construct config arg a.flags sink r).unnamed) :
    ∃ u, t.bind I scope = .ok u ∧ BindsLike I scope (arg, e) u (tripleOf construct config arg a.flags
      (sink.map (Sink.recolumn (Column.concrete I scope arg))) (r.recolumn (Column.concrete I scope arg))) := by
  simp only [Triple.unnamed, Triple.mk.injEq] at ht
  obtain ⟨harg, hsources, hfunction, hsink, hmode, hpass, hthrough⟩ := ht
  obtain ⟨s₁, hs₁, hn₁⟩ := bindOption_tripleOf construct config a.flags r (h.explicitSink arg hs).2
  obtain ⟨s', hs', hn'⟩ := Sink.bindOption_of_unnamed hsink hs₁
  have hb : ∀ c ∈ r.mentions, c.bind I scope arg = .ok (c.concrete I scope arg) :=
    fun c hc => (h.spelledBy arg hr hc).2
  have hc : t.sources.mapM (Column.bind I scope t.arg) =
      .ok (r.abstracted.1.map (Column.concrete I scope arg)) := by
    rw [harg, hsources, mapM_eq_ok, List.forall₂_map_right_iff]
    exact List.forall₂_same.mpr fun d hd => hb d (Expr.mem_mentions_of_source hd)
  have hab : (t.sources, t.function) = r.abstracted := by
    rw [hsources, hfunction]
    rfl
  refine ⟨_, Triple.bind_eq hab hc (harg ▸ hs'), harg, hmode, hpass, ?_, hn'.trans hn₁, a, r, ha, hr, ?_⟩
  · exact hthrough.trans (isPassthrough_recolumn _ _ _).symm
  · have hi := Expr.abstracted_rebound_eq_iff fun c hc => Column.isDynamic_of_bind (hb c hc)
    rw [Prod.ext_iff] at hi
    refine hi.trans (forall₂_congr fun c hc => forall₂_congr fun d hd => ?_)
    rw [hb c hc, hb d hd, Except.ok.injEq]

end Argument

lemma exists_bindsLike {construct : Construct} {lines : List (Nat × Expr)} {ts : List Triple}
    (hd : ∀ line ∈ lines, ∀ a, Argument.ofExpr line.2 = .ok a → a.flags.table = false ∧ a.BindsIn config I scope)
    (h : List.Forall₂ (fun line t => ∃ a sink r, Argument.ofExpr line.2 = .ok a ∧
      Argument.explicitSink construct config a.sink = .ok sink ∧ a.value.resolve = .ok r ∧
      t.unnamed = (Argument.tripleOf construct config line.1 a.flags sink r).unnamed) lines ts) :
    ∃ ps : List (Triple × Triple), List.Forall₂ (fun t p => t.bind I scope = .ok p.1) ts ps ∧
      List.Forall₂ (fun line p => expandArgument construct config line.1 (line.2.respell (I.spelling scope)) =
        .ok (.triple p.2)) lines ps ∧
      List.Forall₂ (fun line p => BindsLike I scope line p.1 p.2) lines ps := by
  induction h with
  | nil => exact ⟨[], .nil, .nil, .nil⟩
  | cons hl _ ih =>
    rw [List.forall_mem_cons] at hd
    obtain ⟨a, sink, r, ha, hs, hr, ht⟩ := hl
    obtain ⟨htable, hb⟩ := hd.1 a ha
    obtain ⟨u, hu, hlike⟩ := hb.bindsLike ha hs hr ht
    obtain ⟨ps, hbind, hexpand, hlikes⟩ := ih hd.2
    exact ⟨(u, _) :: ps, .cons hu hbind, .cons (hb.expandArgument ha htable hs hr _) hexpand, .cons hlike hlikes⟩

lemma forall₂_zip_of_unnamed {lines : List (Nat × Expr)} {ps : List (Triple × Triple)} {ts : List Triple}
    (h : List.Forall₂ (fun line p => BindsLike I scope line p.1 p.2) lines ps)
    (ht : ts.map Triple.unnamed = (ps.map (·.2)).map Triple.unnamed) :
    List.Forall₂ (fun line p => BindsLike I scope line p.1 p.2) lines ((ps.map (·.1)).zip ts) := by
  induction h generalizing ts with
  | nil => exact .nil
  | cons hl _ ih =>
    obtain ⟨t, ts, rfl, ht, hts⟩ := List.map_eq_cons_iff.mp ht
    exact .cons (hl.of_unnamed ht) (ih hts)

theorem bindsLike_of_expand (I : Interpreter) (scope : Scope) {config : Config} {inv : Invocation} {c : Call}
    (h : Call.expand config inv = .ok c)
    (hd : ∀ line ∈ Call.lines config inv, ∀ a, Argument.ofExpr line.2 = .ok a →
      a.flags.table = false ∧ a.BindsIn config I scope) :
    ∃ c' b, Call.expand config (inv.spelled I scope) = .ok c' ∧ c.bind I scope = .ok b ∧
      b.triples.length = c'.triples.length ∧
      List.Forall₂ (fun line p => BindsLike I scope line p.1 p.2) (Call.lines config inv)
        (b.triples.zip c'.triples) := by
  obtain ⟨ps, hbind, hexpand, hlike⟩ := exists_bindsLike hd
    (Call.forall₂_tripleOf h fun line hm a ha => (hd line hm a ha).1)
  have hspelled : Call.lines config (inv.spelled I scope) =
      (Call.lines config inv).map fun line => (line.1, line.2.respell (I.spelling scope)) :=
    Call.linesFrom_respell Interpreter.isMention_spelling config.flattenBlocks 1 inv.args
  have hc' : List.Forall₂ (fun line t => expandArgument inv.construct config line.1 line.2 = .ok (.triple t))
      (Call.lines config (inv.spelled I scope)) (ps.map (·.2)) := by
    rw [hspelled, List.forall₂_map_left_iff, List.forall₂_map_right_iff]
    exact hexpand
  have hn := Call.unnamed_nameSinks (Names.avoiding (Call.explicitNames (ps.map (·.2)))) (ps.map (·.2))
  refine ⟨_, _, Call.expand_eq hc',
    Call.bind_eq_ok.mpr ⟨ps.map (·.1), List.forall₂_map_right_iff.mpr hbind, rfl⟩, ?_, ?_⟩
  · simpa using (congrArg List.length hn).symm
  · exact forall₂_zip_of_unnamed hlike hn

theorem bindsLike_of_expand_zeros :
    ∃ inv c c' b u t, inv = ⟨.transform, .ident "df",
      [.assign (.quote "y") (.apply "*" [.interp (.apply "string" [.literal (.float 0.0)]),
        .interp (.apply "string" [.literal (.float (-0.0))])])], []⟩ ∧
    Call.expand {} inv = .ok c ∧ Call.expand {} (inv.spelled (.ofConfig {}) ∅) = .ok c' ∧
    c.bind (.ofConfig {}) ∅ = .ok b ∧ b.triples = [u] ∧ c'.triples = [t] ∧
    u.sources = [.string "0.0"] ∧ t.sources = [.string "0.0", .string "-0.0"] ∧
    ¬ (u.sources = t.sources ∧ u.function = t.function) := by
  have h : Call.expand {} ⟨.transform, .ident "df",
      [.assign (.quote "y") (.apply "*" [.interp (.apply "string" [.literal (.float 0.0)]),
        .interp (.apply "string" [.literal (.float (-0.0))])])], []⟩ =
        .ok ⟨.transform, .ident "df", [⟨1, [.dynamic (.apply "string" [.literal (.float 0.0)])],
          ⟨["col"], .apply "*" [.ident "col", .ident "col"]⟩, some (.column (.symbol "y")), .rowWise, false,
          false⟩], [], {}⟩ := rfl
  obtain ⟨c', b, hc', hb, -, hlike⟩ := bindsLike_of_expand (.ofConfig {}) ∅ h (by
    intro line hl a ha
    cases List.mem_singleton.mp hl
    cases ha
    refine ⟨rfl, fun r target hr hm => ?_, fun e target he hs => ?_⟩
    · cases hr
      rcases List.mem_cons.mp hm with hm | hm
      · cases hm
        exact ⟨.str "0.0", rfl, rfl⟩
      · cases List.mem_singleton.mp hm
        exact ⟨.str "-0.0", rfl, rfl⟩
    · cases he
      cases hs)
  have hs : c'.triples = [⟨1, [.string "0.0", .string "-0.0"], ⟨["c0_0", "_0_0"], .apply "*"
      [.ident "c0_0", .ident "_0_0"]⟩, some (.column (.symbol "y")), .rowWise, false, false⟩] := by
    cases hc'
    rfl
  have hu : b.triples = [⟨1, [.string "0.0"], ⟨["c0_0"], .apply "*" [.ident "c0_0", .ident "c0_0"]⟩,
      some (.column (.symbol "y")), .rowWise, false, false⟩] := by
    cases hb
    rfl
  refine ⟨_, _, c', b, _, _, rfl, h, hc', hb, hu, hs, rfl, rfl, ?_⟩
  rw [hs, hu] at hlike
  obtain ⟨a, r, ha, hr, hi⟩ := (List.forall₂_cons.mp hlike).1.function
  cases ha
  cases hr
  rw [hi]
  intro hall
  have he := hall _ List.mem_cons_self _ (List.mem_cons_of_mem _ List.mem_cons_self) rfl
  exact absurd (Column.string.inj (Except.ok.inj he)) (by decide)

end Tabular
