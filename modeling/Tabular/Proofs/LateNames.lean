import Tabular.Proofs.Binding
import Tabular.Proofs.LineByLine

/-!
Names that are not yet known where names are made up for sinks: those of sinks named by an expression, and those of
fields. They play no part in it, so that a name that is made up may be one of them.
-/

namespace Tabular

section Bind

variable {I : Interpreter} {scope : Scope} {t u : Triple}

lemma Triple.sink_of_bind (h : t.bind I scope = .ok u) :
    u.sink = t.sink ∨ Sink.bindOption I scope t.arg t.sink = .ok u.sink := by
  rw [bind] at h
  split at h
  · obtain ⟨columns, -, h⟩ := bind_eq_ok.mp h
    dsimp only at h
    split at h
    next s hs =>
      obtain ⟨sink, hsink, h⟩ := bind_eq_ok.mp h
      cases h
      rw [hs]
      exact .inr hsink
    next hs =>
      cases h
      exact .inl hs.symm
  · cases h
    exact .inl rfl

lemma Sink.generated_of_bindOption {arg : ℕ} {s s' : Option Sink} (h : bindOption I scope arg s = .ok s')
    (name : String) : s' = some (.generated name) ↔ s = some (.generated name) := by
  rcases s with _ | ⟨c | x | _⟩
  · cases h
    rfl
  · cases hc : c.bind I scope arg with
    | error e =>
      simp only [bindOption, Sink.bind, hc] at h
      cases h
    | ok d =>
      simp only [bindOption, Sink.bind, hc] at h
      cases d <;> cases h <;> simp
  · cases h
    rfl
  · cases h
    rfl

lemma Triple.generatedName?_of_bind (h : t.bind I scope = .ok u) : u.generatedName? = t.generatedName? := by
  refine Option.ext fun name => ?_
  rw [generatedName?_eq_some, generatedName?_eq_some]
  obtain hs | hs := sink_of_bind h
  · rw [hs]
  · exact Sink.generated_of_bindOption hs name

lemma Call.generatedNames_of_bind {c b : Call} (h : c.bind I scope = .ok b) :
    generatedNames b.triples = generatedNames c.triples := by
  obtain ⟨us, hus, rfl⟩ := bind_eq_ok.mp h
  have hnames : us.map Triple.generatedName? = c.triples.map Triple.generatedName? := by
    rw [← List.forall₂_eq_eq_eq, List.forall₂_map_left_iff, List.forall₂_map_right_iff]
    exact hus.flip.imp fun u t ht => Triple.generatedName?_of_bind ht
  have hgenerated (ts : List Triple) : generatedNames ts = (ts.map Triple.generatedName?).filterMap id := by
    rw [List.filterMap_map]
    rfl
  rw [hgenerated, hgenerated, hnames]

end Bind

namespace Call

/-- The names that are not yet known where names are made up: of sinks named by an expression, and of fields. -/
inductive NamedLate (config : Config) (inv : Invocation) (c b : Call) (name : String) : Prop
  | sink {t u : Triple} {target : Expr} (bound : (t, u) ∈ c.triples.zip b.triples)
      (dynamic : t.sink = some (.column (.dynamic target)))
      (named : u.sink = some (.column (.symbol name)) ∨ u.sink = some (.column (.string name)))
  | field {line : Nat × Expr} {g : TableGroup} {f : TableField} (written : line ∈ lines config inv)
      (collected : expandArgument inv.construct config line.1 line.2 = .ok (.group g)) (field : f ∈ g.fields)
      (named : f.name = name)

theorem not_namedLate_iff_of_bind {config : Config} {inv : Invocation} {I : Interpreter} {scope : Scope}
    {c b : Call}
    (h : expand config inv = .ok c) (hb : c.bind I scope = .ok b) {i : Nat} {u : Triple} {name : String}
    (hu : b.triples[i]? = some u) (hs : u.sink = some (.generated name)) : ∃ t line a r,
      c.triples[i]? = some t ∧ t.sink = some (.generated name) ∧ (lines config inv)[i]? = some line ∧
      Argument.ofExpr line.2 = .ok a ∧ a.value.resolve = .ok r ∧
      Names.IsFirst (fun x => x ∈ explicitNames c.triples ∨ x ∈ generatedNames (c.triples.take i))
        (generatedName config t.sources r) name ∧
      (¬ NamedLate config inv c b name ↔ Names.IsFirst
        (fun x => (x ∈ explicitNames c.triples ∨ x ∈ generatedNames (c.triples.take i)) ∨
          NamedLate config inv c b x)
        (generatedName config t.sources r) name) := by
  obtain ⟨us, hus, rfl⟩ := bind_eq_ok.mp hb
  obtain ⟨t, ht, hbind⟩ := exists_getElem? hus hu
  have hgen : t.sink = some (.generated name) := by
    rw [← Triple.generatedName?_eq_some, ← Triple.generatedName?_of_bind hbind, Triple.generatedName?_eq_some, hs]
  obtain ⟨line, a, r, hl, ha, hr, hfirst⟩ := isFirst_of_expand h ht hgen
  exact ⟨t, line, a, r, ht, hgen, hl, ha, hr, hfirst, hfirst.avoids_iff⟩

theorem not_namedLate_iff_of_bind_overwritten :
    let inv : Invocation := ⟨.transform, .ident "df", [.apply "+" [.quote "x", .literal (.int 1)],
      .assign (.interp (.ident "name")) (.apply "*" [.quote "y", .literal (.int 2)]),
      .apply "-" [.quote "x", .literal (.int 1)],
      .flagged "t" (.tuple [.assign (.quote "x_minus") (.apply "/" [.quote "y", .literal (.int 2)])])], []⟩
    ∃ c b, expand {} inv = .ok c ∧
      c.bind (.ofConfig {}) ((∅ : Scope).insert "name" (.symbol "x_plus")) = .ok b ∧
      generatedNames b.triples = ["x_plus", "x_minus"] ∧
      NamedLate {} inv c b "x_plus" ∧ NamedLate {} inv c b "x_minus" ∧
      ¬ Names.IsFirst (fun x => (x ∈ [] ∨ x ∈ []) ∨ NamedLate {} inv c b x) "x_plus" "x_plus" ∧
      ¬ Names.IsFirst (fun x => (x ∈ [] ∨ x ∈ ["x_plus"]) ∨ NamedLate {} inv c b x) "x_minus" "x_minus" := by
  intro inv
  let plus : Triple := ⟨1, [.symbol "x"], ⟨["x"], .apply "+" [.ident "x", .literal (.int 1)]⟩,
    some (.generated "x_plus"), .rowWise, false, false⟩
  let times (sink : Column) : Triple := ⟨2, [.symbol "y"], ⟨["y"], .apply "*" [.ident "y", .literal (.int 2)]⟩,
    some (.column sink), .rowWise, false, false⟩
  let minus : Triple := ⟨3, [.symbol "x"], ⟨["x"], .apply "-" [.ident "x", .literal (.int 1)]⟩,
    some (.generated "x_minus"), .rowWise, false, false⟩
  let table : Triple := ⟨4, [.symbol "y"],
    ⟨["y"], .namedTuple [("x_minus", .apply "/" [.ident "y", .literal (.int 2)])]⟩, some .asTable, .rowWise, false,
    false⟩
  let c : Call := ⟨.transform, .ident "df", [plus, times (.dynamic (.ident "name")), minus, table], [], {}⟩
  let b : Call := ⟨.transform, .ident "df", [plus, times (.symbol "x_plus"), minus, table], [], {}⟩
  have h : expand {} inv = .ok c := rfl
  have hb : c.bind (.ofConfig {}) ((∅ : Scope).insert "name" (.symbol "x_plus")) = .ok b := rfl
  have hplus : NamedLate {} inv c b "x_plus" :=
    .sink (t := times (.dynamic (.ident "name"))) (u := times (.symbol "x_plus")) (by simp [c, b]) rfl (.inl rfl)
  have hminus : NamedLate {} inv c b "x_minus" :=
    .field (f := ⟨"x_minus", .rowWise, false⟩) (List.mem_of_getElem? (i := 3) rfl) rfl List.mem_cons_self rfl
  refine ⟨c, b, h, hb, rfl, hplus, hminus, fun hfirst => ?_, fun hfirst => ?_⟩
  · obtain ⟨t, line, a, r, ht, -, hl, ha, hr, -, hiff⟩ := not_namedLate_iff_of_bind h hb (i := 0) rfl rfl
    cases ht
    cases hl
    cases ha
    cases hr
    exact hiff.mpr hfirst hplus
  · obtain ⟨t, line, a, r, ht, -, hl, ha, hr, -, hiff⟩ := not_namedLate_iff_of_bind h hb (i := 2) rfl rfl
    cases ht
    cases hl
    cases ha
    cases hr
    exact hiff.mpr hfirst hminus

end Call

def Sink.isLate : Sink → Bool
  | column (.dynamic _) | asTable => true
  | _ => false

namespace Call

def isEarly (s : Option Sink) : Bool := !s.any Sink.isLate

lemma explicitNames_of_early {ts us : List Triple} (h : us.map Triple.sink = (ts.map Triple.sink).filter isEarly) :
    explicitNames us = explicitNames ts := by
  induction ts generalizing us with
  | nil => rw [List.map_eq_nil_iff.mp h]
  | cons t ts ih =>
    cases he : isEarly t.sink with
    | true =>
      rw [List.map_cons, List.filter_cons_of_pos he] at h
      obtain ⟨u, us, rfl, hu, h⟩ := List.map_eq_cons_iff.mp h
      simp only [explicitNames, List.filterMap_cons, hu]
      rw [← explicitNames, ← explicitNames, ih h]
    | false =>
      rw [List.map_cons, List.filter_cons_of_neg (by simp [he])] at h
      rw [ih h, explicitNames, explicitNames, List.filterMap_cons_none]
      rcases hs : t.sink with _ | (_ | _ | _ | _) | _ | _ <;> rw [hs] at he <;> first | rfl | cases he

lemma generatedNames_of_early {names : Names} {ts us : List Triple}
    (h : us.map Triple.sink = (ts.map Triple.sink).filter isEarly) :
    generatedNames (nameSinks names us) = generatedNames (nameSinks names ts) := by
  induction ts generalizing us names with
  | nil => rw [List.map_eq_nil_iff.mp h]
  | cons t ts ih =>
    rcases generated_or_not t with ⟨base, hb⟩ | hn
    · rw [List.map_cons, List.filter_cons_of_pos (by rw [hb]; rfl)] at h
      obtain ⟨u, us, rfl, hu, h⟩ := List.map_eq_cons_iff.mp h
      rw [nameSinks_of_some (hu.trans hb), nameSinks_of_some hb, generatedNames_cons_of_some rfl,
        generatedNames_cons_of_some rfl, ih h]
    · rw [nameSinks_of_none hn, generatedNames_cons_of_none hn]
      cases he : isEarly t.sink with
      | true =>
        rw [List.map_cons, List.filter_cons_of_pos he] at h
        obtain ⟨u, us, rfl, hu, h⟩ := List.map_eq_cons_iff.mp h
        have hn' : ∀ name, u.sink ≠ some (.generated name) := by rwa [hu]
        rw [nameSinks_of_none hn', generatedNames_cons_of_none hn', ih h]
      | false =>
        rw [List.map_cons, List.filter_cons_of_neg (by simp [he])] at h
        exact ih h

def earlyLine (construct : Construct) (config : Config) (e : Expr) : Bool :=
  match lineTriple construct config (1, e) with
  | .ok t => isEarly t.sink
  | .error _ => true

variable {config : Config} {inv inv' : Invocation} {c b : Call} {I : Interpreter} {scope : Scope}

lemma sinks_of_early (hc : inv'.construct = inv.construct) (hl : (lines config inv').map Prod.snd =
      ((lines config inv).map Prod.snd).filter (earlyLine inv.construct config)) {ts : List Triple}
    (hts : List.Forall₂ (fun line t => lineTriple inv.construct config line = .ok t) (lines config inv) ts) :
    ∃ us, List.Forall₂ (fun line u => lineTriple inv'.construct config line = .ok u) (lines config inv') us ∧
      us.map Triple.sink = (ts.map Triple.sink).filter isEarly := by
  have halone : List.Forall₂ (fun e s => ∃ u, lineTriple inv.construct config (1, e) = .ok u ∧ u.sink = s)
      ((lines config inv).map Prod.snd) (ts.map Triple.sink) := by
    refine List.forall₂_map_left_iff.mpr (List.forall₂_map_right_iff.mpr (hts.imp fun line t ht => ?_))
    obtain ⟨u, hu, rfl⟩ := lineTriple_eq_ok ht
    exact ⟨u, hu, rfl⟩
  have hearly := List.rel_filter (p := earlyLine inv.construct config) (q := isEarly)
    (fun e s ⟨u, hu, hs⟩ => by simp only [earlyLine, hu, hs]) halone
  rw [← hl, List.forall₂_map_left_iff] at hearly
  have hline : List.Forall₂ (fun line s => ∃ u, lineTriple inv.construct config line = .ok u ∧ u.sink = s)
      (lines config inv') ((ts.map Triple.sink).filter isEarly) :=
    hearly.imp fun line s ⟨u, hu, hs⟩ => ⟨{ u with arg := line.1 }, lineTriple_of_alone hu line.1, hs⟩
  obtain ⟨us, hus, hsinks⟩ := exists_of_forall₂_comp hline
  rw [← hc] at hus
  refine ⟨us, hus, ?_⟩
  rwa [← List.forall₂_eq_eq_eq, List.forall₂_map_left_iff]

/-- The names made up in a call, which binding leaves as they are, are those of the call without its late sinks. -/
theorem generatedNames_of_early_lines (h : expand config inv = .ok c) (hb : c.bind I scope = .ok b)
    (hc : inv'.construct = inv.construct) (hl : (lines config inv').map Prod.snd =
      ((lines config inv).map Prod.snd).filter (earlyLine inv.construct config)) :
    ∃ d, expand config inv' = .ok d ∧ generatedNames b.triples = generatedNames d.triples := by
  obtain ⟨ts, hts, rfl⟩ := expand_eq_ok_iff.mp h
  obtain ⟨us, hus, hsinks⟩ := sinks_of_early hc hl hts
  refine ⟨_, expand_eq_ok_iff.mpr ⟨us, hus, rfl⟩, ?_⟩
  rw [generatedNames_of_bind hb, explicitNames_of_early hsinks, generatedNames_of_early hsinks]

end Call

end Tabular
