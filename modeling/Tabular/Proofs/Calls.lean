import Tabular.Bind
import Tabular.Proofs.CollectionBody

namespace Tabular

def Sink.unnamed : Sink → Sink
  | .generated _ => .generated ""
  | s => s

def Triple.unnamed (t : Triple) : Triple := { t with sink := t.sink.map Sink.unnamed }

namespace Call

def linesOf (flatten : Bool) (arg : Nat) (e : Expr) : List (Nat × Expr) :=
  match flatten, e with
  | true, .block lines => lines.map fun line => (arg, line)
  | _, e => [(arg, e)]

lemma linesFrom_cons (flatten : Bool) (arg : Nat) (e : Expr) (es : List Expr) :
    linesFrom flatten arg (e :: es) = linesOf flatten arg e ++ linesFrom flatten (arg + 1) es := rfl

lemma unnamed_nameSinks (names : Names) (ts : List Triple) :
    (nameSinks names ts).map Triple.unnamed = ts.map Triple.unnamed := by
  induction ts generalizing names with
  | nil => rfl
  | cons t ts ih =>
    rw [nameSinks]
    split
    next base hb => simp [Triple.unnamed, Sink.unnamed, hb, ih]
    next => simp [ih]

variable {config : Config} {inv : Invocation} {c : Call}

def lineTriple (construct : Construct) (config : Config) (line : Nat × Expr) : Except ArgumentError Triple := do
  (← expandArgument construct config line.1 line.2).toTriple

lemma expand_eq_ok_iff : expand config inv = .ok c ↔ ∃ ts,
    List.Forall₂ (fun line t => lineTriple inv.construct config line = .ok t) (lines config inv) ts ∧
      ⟨inv.construct, inv.table, nameSinks (Names.avoiding (explicitNames ts)) ts, inv.kwargs, config⟩ = c := by
  simp only [expand, lineTriple, Tabular.bind_eq_ok, pure_eq_ok, mapM_eq_ok]
  constructor
  · rintro ⟨xs, hxs, ts, hts, hc⟩
    exact ⟨ts, forall₂_comp hxs hts, hc⟩
  · rintro ⟨ts, hts, hc⟩
    obtain ⟨xs, hxs, hts⟩ := exists_of_forall₂_comp hts
    exact ⟨xs, hxs, ts, hts, hc⟩

lemma expand_eq_ok (h : expand config inv = .ok c) : List.Forall₂ (fun line t => ∃ x u,
    expandArgument inv.construct config line.1 line.2 = .ok x ∧ x.toTriple = .ok u ∧ t.unnamed = u.unnamed)
    (lines config inv) c.triples := by
  obtain ⟨ts, hts, rfl⟩ := expand_eq_ok_iff.mp h
  have hl : List.Forall₂ (fun line t => ∃ x u, expandArgument inv.construct config line.1 line.2 = .ok x ∧
      x.toTriple = .ok u ∧ t = u.unnamed) (lines config inv) (ts.map Triple.unnamed) := by
    refine List.forall₂_map_right_iff.mpr (hts.imp fun line u hu => ?_)
    obtain ⟨x, hx, hxu⟩ := Tabular.bind_eq_ok.mp hu
    exact ⟨x, u, hx, hxu, rfl⟩
  rwa [← unnamed_nameSinks (Names.avoiding (explicitNames ts)), List.forall₂_map_right_iff] at hl

lemma expand_eq {ts : List Triple} (h : List.Forall₂ (fun line t =>
      expandArgument inv.construct config line.1 line.2 = .ok (.triple t)) (lines config inv) ts) :
    expand config inv = .ok ⟨inv.construct, inv.table, nameSinks (Names.avoiding (explicitNames ts)) ts,
      inv.kwargs, config⟩ := by
  refine Tabular.bind_eq_ok.mpr ⟨ts.map .triple, ?_, Tabular.bind_eq_ok.mpr ⟨ts, ?_, rfl⟩⟩
  · exact mapM_eq_ok.mpr (List.forall₂_map_right_iff.mpr h)
  · exact mapM_eq_ok.mpr (List.forall₂_map_left_iff.mpr (List.forall₂_same.mpr fun t _ => rfl))

lemma exists_abstracted (h : expand config inv = .ok c) {t : Triple} (ht : t ∈ c.triples) :
    ∃ r : Expr, r.AssignsNoColumn ∧ (t.sources, t.function) = r.abstracted := by
  obtain ⟨line, -, x, u, hx, hxu, he⟩ := exists_of_mem_right (expand_eq_ok h) ht
  simp only [Triple.unnamed, Triple.mk.injEq] at he
  rw [he.2.1, he.2.2.1]
  cases x with
  | triple u =>
    cases hxu
    obtain ⟨a, -, -, sink, r, -, hr, rfl⟩ := expandArgument_eq_triple.mp hx
    exact ⟨r, Expr.resolve_assignsNoColumn hr, rfl⟩
  | group g =>
    obtain ⟨a, -, -, -, hc⟩ := expandArgument_eq_group.mp hx
    obtain ⟨ls, es, -, -, -, hb⟩ := TableGroup.collect_eq_ok hc
    exact ⟨g.body, TableGroup.bodyOf_assignsNoColumn hb, TableGroup.toTriple_eq_ok hxu⟩

lemma forall₂_tripleOf (h : expand config inv = .ok c)
    (ht : ∀ line ∈ lines config inv, ∀ a, Argument.ofExpr line.2 = .ok a → a.flags.table = false) :
    List.Forall₂ (fun line t => ∃ a sink r, Argument.ofExpr line.2 = .ok a ∧
      Argument.explicitSink inv.construct config a.sink = .ok sink ∧ a.value.resolve = .ok r ∧
      t.unnamed = (Argument.tripleOf inv.construct config line.1 a.flags sink r).unnamed)
      (lines config inv) c.triples := by
  refine forall₂_of_mem (expand_eq_ok h) ?_
  rintro line hm t - ⟨x, u, hx, hxu, he⟩
  cases x with
  | triple u =>
    cases hxu
    obtain ⟨a, ha, -, sink, r, hs, hr, rfl⟩ := expandArgument_eq_triple.mp hx
    exact ⟨a, sink, r, ha, hs, hr, he⟩
  | group g =>
    obtain ⟨a, ha, htable, -⟩ := expandArgument_eq_group.mp hx
    rw [ht line hm a ha] at htable
    cases htable

lemma bind_eq_ok {I : Interpreter} {scope : Scope} {b : Call} : c.bind I scope = .ok b ↔
    ∃ us, List.Forall₂ (fun t u => t.bind I scope = .ok u) c.triples us ∧ { c with triples := us } = b := by
  simp only [Call.bind, Tabular.bind_eq_ok, pure_eq_ok, mapM_eq_ok]

end Call

end Tabular
