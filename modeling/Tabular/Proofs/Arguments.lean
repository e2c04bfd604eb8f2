import Tabular.Call
import Tabular.Proofs.Resolution

namespace Tabular

lemma mapError_eq_ok {ε ε' α : Type} {f : ε → ε'} {x : Except ε α} {a : α} : x.mapError f = .ok a ↔ x = .ok a := by
  cases x <;> simp [Except.mapError]

lemma Sink.ofColumn_eq_ok {c : Column} {s : Sink} :
    ofColumn c = .ok s ↔ (∀ n, c ≠ .position n) ∧ s = .column c := by
  cases c <;> simp [ofColumn, eq_comm]

lemma Sink.resolve_eq_ok {config : Config} {e : Expr} {s : Sink} : Sink.resolve config e = .ok s ↔
    e = .ident config.asTable ∧ s = .asTable ∨
      ∃ c, e.resolve = .ok (.column c) ∧ (∀ n, c ≠ .position n) ∧ s = .column c := by
  have hne (h : e.isMention = false) (c : Column) : e.resolve ≠ .ok (.column c) :=
    fun he => Expr.resolve_ne_column he h c rfl
  cases e with
  | quote x => simp [resolve, Expr.resolve, eq_comm]
  | interp t => simp [resolve, Expr.resolve, bind_eq_ok, ofColumn_eq_ok, -bind_pure_comp, pure_eq_ok]
  | column c => simp [resolve, Expr.resolve, ofColumn_eq_ok]
  | ident x =>
    rw [resolve]
    split <;> simp [*, Expr.resolve, eq_comm]
  | _ => simp [resolve, hne rfl]

namespace Argument

def tripleOf (construct : Construct) (config : Config) (arg : Nat) (flags : Flags) (sink : Option Sink)
    (r : Expr) : Triple :=
  let passthrough := isPassthrough flags r.abstracted.2 sink
  ⟨arg, r.abstracted.1, r.abstracted.2,
    if sink.isNone && construct.takesSinks && !passthrough
      then some (.generated (generatedName config r.abstracted.1 r)) else sink,
    flags.modeOr construct.defaultMode, flags.passMissing, passthrough⟩

variable {construct : Construct} {config : Config} {arg : Nat}

lemma explicitSink_eq_ok {e : Option Expr} {sink : Option Sink} : explicitSink construct config e = .ok sink ↔
    e = none ∧ sink = none ∨
      ∃ target s, e = some target ∧ construct.takesSinks = true ∧ Sink.resolve config target = .ok s ∧
      sink = some s := by
  cases e with
  | none => simp [explicitSink, @eq_comm _ sink]
  | some target =>
    rw [explicitSink]
    split <;> simp [*, bind_eq_ok, pure_eq_ok, -bind_pure_comp, @eq_comm _ sink]

lemma toTriple_eq_ok {a : Argument} {t : Triple} : a.toTriple construct config arg = .ok t ↔
    ∃ sink r, explicitSink construct config a.sink = .ok sink ∧ a.value.resolve = .ok r ∧
      tripleOf construct config arg a.flags sink r = t := by
  have he : a.toTriple construct config arg = (do
      let sink ← explicitSink construct config a.sink
      let r ← a.value.resolve
      return tripleOf construct config arg a.flags sink r) := rfl
  simp only [he, bind_eq_ok, pure_eq_ok]
  constructor
  · rintro ⟨sink, hs, r, hr, ht⟩
    exact ⟨sink, r, hs, hr, ht⟩
  · rintro ⟨sink, r, hs, hr, ht⟩
    exact ⟨sink, hs, r, hr, ht⟩

end Argument

variable {construct : Construct} {config : Config} {arg : Nat} {e : Expr}

lemma expandArgument_eq_triple {t : Triple} : expandArgument construct config arg e = .ok (.triple t) ↔
    ∃ a, Argument.ofExpr e = .ok a ∧ a.flags.table = false ∧ ∃ sink r,
      Argument.explicitSink construct config a.sink = .ok sink ∧ a.value.resolve = .ok r ∧
        Argument.tripleOf construct config arg a.flags sink r = t := by
  simp only [expandArgument, mapError_eq_ok, Argument.expansion, bind_eq_ok, ← Argument.toTriple_eq_ok]
  refine exists_congr fun a => and_congr_right fun _ => ?_
  cases a.flags.table with
  | false =>
      simp only [Bool.false_eq_true, if_false, bind_eq_ok, pure_eq_ok, Expansion.triple.injEq, exists_eq_right,
        true_and]
  | true => cases construct.takesSinks <;> simp [bind_eq_ok, pure_eq_ok, -bind_pure_comp]

lemma expandArgument_eq_group {g : TableGroup} : expandArgument construct config arg e = .ok (.group g) ↔
    ∃ a, Argument.ofExpr e = .ok a ∧ a.flags.table = true ∧ construct.takesSinks = true ∧
      TableGroup.collect arg construct.defaultMode a.flags a.sink a.value = .ok g := by
  simp only [expandArgument, mapError_eq_ok, Argument.expansion, bind_eq_ok]
  refine exists_congr fun a => and_congr_right fun _ => ?_
  cases a.flags.table with
  | false => simp [bind_eq_ok, pure_eq_ok, -bind_pure_comp]
  | true => cases construct.takesSinks <;> simp [bind_eq_ok, pure_eq_ok, -bind_pure_comp]

namespace TableGroup

variable {g : TableGroup} {t : Triple}

lemma exists_first_of_toTriple (h : g.toTriple = .ok t) : ∃ first rest, g.fields = first :: rest ∧
    uniform first rest = .ok () ∧ t = ⟨g.arg, g.body.abstracted.1, g.body.abstracted.2, some .asTable, first.mode,
      first.passMissing, false⟩ := by
  rw [toTriple] at h
  split at h
  next => cases h
  next first rest hf =>
    split at h
    next => cases h
    next hu =>
      cases h
      exact ⟨first, rest, hf, hu, rfl⟩

lemma toTriple_eq_ok (h : g.toTriple = .ok t) : (t.sources, t.function) = g.body.abstracted := by
  obtain ⟨first, rest, -, -, rfl⟩ := exists_first_of_toTriple h
  rfl

lemma sink_toTriple (h : g.toTriple = .ok t) : t.sink = some .asTable ∧ t.passthrough = false := by
  obtain ⟨first, rest, -, -, rfl⟩ := exists_first_of_toTriple h
  exact ⟨rfl, rfl⟩

end TableGroup

end Tabular
