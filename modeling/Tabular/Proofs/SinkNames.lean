import Tabular.Proofs.Calls

/-!
Names that are made up for sinks. They are picked in the order of the transformations, each the first that neither
a sink written out nor an earlier one has.
-/

namespace Tabular

def Triple.generatedName? (t : Triple) : Option String :=
  match t.sink with
  | some (.generated name) => some name
  | _ => none

lemma Triple.generatedName?_eq_some {t : Triple} {name : String} :
    t.generatedName? = some name ↔ t.sink = some (.generated name) := by
  rw [generatedName?]
  split
  next x hx => rw [hx, Option.some_inj, Option.some_inj, Sink.generated.injEq]
  next hx => exact ⟨fun h => (nomatch h), fun h => absurd h (hx name)⟩

namespace Call

def generatedNames (ts : List Triple) : List String := ts.filterMap Triple.generatedName?

variable {names : Names} {t : Triple} {ts : List Triple} {base name : String}

lemma generatedNames_cons_of_some (h : t.sink = some (.generated name)) :
    generatedNames (t :: ts) = name :: generatedNames ts :=
  List.filterMap_cons_some (Triple.generatedName?_eq_some.mpr h)

lemma generatedNames_cons_of_none (h : ∀ name, t.sink ≠ some (.generated name)) :
    generatedNames (t :: ts) = generatedNames ts := by
  refine List.filterMap_cons_none (Option.eq_none_iff_forall_ne_some.mpr fun name hn => ?_)
  exact h name (Triple.generatedName?_eq_some.mp hn)

lemma mem_explicitNames : name ∈ explicitNames ts ↔
    ∃ t ∈ ts, t.sink = some (.column (.symbol name)) ∨ t.sink = some (.column (.string name)) := by
  rw [explicitNames, List.mem_filterMap]
  refine exists_congr fun t => and_congr_right fun _ => ?_
  split
  next c hc => cases c <;> simp [hc, Sink.staticName?]
  next hc => simpa using ⟨hc (.symbol name), hc (.string name)⟩

lemma nameSinks_of_some (h : t.sink = some (.generated base)) : nameSinks names (t :: ts) =
    { t with sink := some (.generated (names.free base)) } :: nameSinks (names.fresh base).2 ts := by
  rw [nameSinks]
  split
  next x hx =>
    cases h.symm.trans hx
    rfl
  next hx => exact absurd h (hx base)

lemma nameSinks_of_none (h : ∀ name, t.sink ≠ some (.generated name)) :
    nameSinks names (t :: ts) = t :: nameSinks names ts := by
  rw [nameSinks]
  split
  next x hx => exact absurd hx (h x)
  next => rfl

lemma generated_or_not (t : Triple) :
    (∃ base, t.sink = some (.generated base)) ∨ ∀ name, t.sink ≠ some (.generated name) := by
  by_cases h : ∃ base, t.sink = some (.generated base)
  · exact .inl h
  · exact .inr (not_exists.mp h)

lemma explicitNames_nameSinks (names : Names) (ts : List Triple) :
    explicitNames (nameSinks names ts) = explicitNames ts := by
  induction ts generalizing names with
  | nil => rfl
  | cons t ts ih =>
    rcases generated_or_not t with ⟨base, hb⟩ | hn
    · rw [nameSinks_of_some hb]
      simp only [explicitNames, List.filterMap_cons, hb]
      exact ih _
    · rw [nameSinks_of_none hn]
      simp only [explicitNames, List.filterMap_cons]
      rw [← explicitNames, ← explicitNames, ih]

lemma generatedNames_nameSinks (names : Names) (ts : List Triple) : (generatedNames (nameSinks names ts)).Nodup ∧
    ∀ name ∈ generatedNames (nameSinks names ts), name ∉ names.taken := by
  induction ts generalizing names with
  | nil => exact ⟨List.nodup_nil, fun _ h => absurd h List.not_mem_nil⟩
  | cons t ts ih =>
    rcases generated_or_not t with ⟨base, hb⟩ | hn
    · obtain ⟨hd, hf⟩ := ih (names.fresh base).2
      simp only [Names.mem_taken_fresh, not_or] at hf
      rw [nameSinks_of_some hb, generatedNames_cons_of_some rfl, List.nodup_cons, List.forall_mem_cons]
      exact ⟨⟨fun h => (hf _ h).1 rfl, hd⟩, names.free_not_taken base, fun name h => (hf name h).2⟩
    · rw [nameSinks_of_none hn, generatedNames_cons_of_none hn]
      exact ih names

lemma isFirst_nameSinks {i : Nat} (ht : (nameSinks names ts)[i]? = some t) (hs : t.sink = some (.generated name)) :
    ∃ base, ts[i]? = some { t with sink := some (.generated base) } ∧ Names.IsFirst
      (fun x => x ∈ names.taken ∨ x ∈ generatedNames ((nameSinks names ts).take i)) base name := by
  induction ts generalizing names i with
  | nil => cases ht
  | cons u ts ih =>
    rcases generated_or_not u with ⟨base, hb⟩ | hn
    · rw [nameSinks_of_some hb] at ht ⊢
      cases i with
      | zero =>
        cases ht
        cases hs
        refine ⟨base, by simp [← hb], ?_⟩
        simpa [generatedNames] using names.isFirst_free base
      | succ i =>
        obtain ⟨base', hi, hfirst⟩ := ih ht
        refine ⟨base', hi, ?_⟩
        rw [List.take_succ_cons, generatedNames_cons_of_some rfl]
        simpa only [Names.mem_taken_fresh, List.mem_cons, or_assoc, or_left_comm] using hfirst
    · rw [nameSinks_of_none hn] at ht ⊢
      cases i with
      | zero =>
        cases ht
        exact absurd hs (hn name)
      | succ i =>
        rw [List.take_succ_cons, generatedNames_cons_of_none hn]
        exact ih ht

end Call

lemma Argument.explicitSink_ne_generated {construct : Construct} {config : Config} {s : Option Expr}
    {sink : Option Sink} (h : explicitSink construct config s = .ok sink) (name : String) :
    sink ≠ some (.generated name) := by
  obtain ⟨-, rfl⟩ | ⟨e, sink, -, -, hs, rfl⟩ := explicitSink_eq_ok.mp h
  · exact nofun
  · obtain ⟨-, rfl⟩ | ⟨c, -, -, rfl⟩ := Sink.resolve_eq_ok.mp hs <;> exact nofun

lemma Call.base_of_lineTriple {construct : Construct} {config : Config} {line : Nat × Expr} {t : Triple}
    {base : String} (h : lineTriple construct config line = .ok t) (hs : t.sink = some (.generated base)) :
    ∃ a r, Argument.ofExpr line.2 = .ok a ∧ a.value.resolve = .ok r ∧ base = generatedName config t.sources r := by
  obtain ⟨x, hx, ht⟩ := Tabular.bind_eq_ok.mp h
  cases x with
  | triple t =>
    cases ht
    obtain ⟨a, ha, -, sink, r, he, hr, rfl⟩ := expandArgument_eq_triple.mp hx
    refine ⟨a, r, ha, hr, ?_⟩
    simp only [Argument.tripleOf] at hs ⊢
    split at hs
    · cases hs
      rfl
    · exact absurd hs (Argument.explicitSink_ne_generated he base)
  | group g =>
    rw [(TableGroup.sink_toTriple ht).1] at hs
    cases hs

namespace Call

variable {config : Config} {inv : Invocation} {c : Call} {i : Nat} {t : Triple} {name : String}

lemma generatedNames_fresh (h : expand config inv = .ok c) : (generatedNames c.triples).Nodup ∧
    ∀ name ∈ generatedNames c.triples, name ∉ explicitNames c.triples := by
  obtain ⟨ts, -, rfl⟩ := expand_eq_ok_iff.mp h
  obtain ⟨hd, hf⟩ := generatedNames_nameSinks (Names.avoiding (explicitNames ts)) ts
  simp only [Names.mem_taken_avoiding] at hf
  refine ⟨hd, ?_⟩
  rwa [explicitNames_nameSinks]

lemma isFirst_of_expand (h : expand config inv = .ok c) (ht : c.triples[i]? = some t)
    (hs : t.sink = some (.generated name)) : ∃ line a r, (lines config inv)[i]? = some line ∧
      Argument.ofExpr line.2 = .ok a ∧ a.value.resolve = .ok r ∧ Names.IsFirst
        (fun x => x ∈ explicitNames c.triples ∨ x ∈ generatedNames (c.triples.take i))
        (generatedName config t.sources r) name := by
  obtain ⟨ts, hts, rfl⟩ := expand_eq_ok_iff.mp h
  obtain ⟨base, hi, hfirst⟩ := isFirst_nameSinks ht hs
  obtain ⟨line, hl, htriple⟩ := exists_getElem? hts hi
  obtain ⟨a, r, ha, hr, hbase⟩ := base_of_lineTriple htriple rfl
  refine ⟨line, a, r, hl, ha, hr, ?_⟩
  rw [← hbase, explicitNames_nameSinks]
  simpa only [Names.mem_taken_avoiding] using hfirst

theorem generatedNames_of_expand (h : expand config inv = .ok c) : (generatedNames c.triples).Nodup ∧
    (∀ name ∈ generatedNames c.triples, ∀ t ∈ c.triples,
      t.sink ≠ some (.column (.symbol name)) ∧ t.sink ≠ some (.column (.string name))) ∧
    ∀ i t name, c.triples[i]? = some t → t.sink = some (.generated name) →
      ∃ line a r, (lines config inv)[i]? = some line ∧ Argument.ofExpr line.2 = .ok a ∧ a.value.resolve = .ok r ∧
        Names.IsFirst (fun x => x ∈ explicitNames c.triples ∨ x ∈ generatedNames (c.triples.take i))
          (generatedName config t.sources r) name := by
  obtain ⟨hd, hf⟩ := generatedNames_fresh h
  refine ⟨hd, fun name hn t ht => ⟨fun hs => hf name hn ?_, fun hs => hf name hn ?_⟩,
    fun i t name ht hs => isFirst_of_expand h ht hs⟩
  · exact mem_explicitNames.mpr ⟨t, ht, .inl hs⟩
  · exact mem_explicitNames.mpr ⟨t, ht, .inr hs⟩

theorem generatedNames_of_expand_skipping_number : ∃ c, expand {} ⟨.transform, .ident "df",
      [.apply "+" [.quote "x", .literal (.int 1)], .apply "+" [.quote "x", .literal (.int 2)],
        .assign (.quote "x_plus_2") (.quote "y")], []⟩ = .ok c ∧
    generatedNames c.triples = ["x_plus", "x_plus_3"] ∧ (generatedNames c.triples).Nodup ∧
    Names.IsFirst (fun x => x ∈ ["x_plus_2"] ∨ x ∈ ["x_plus"]) "x_plus" "x_plus_3" := by
  have h : expand {} ⟨.transform, .ident "df",
        [.apply "+" [.quote "x", .literal (.int 1)], .apply "+" [.quote "x", .literal (.int 2)],
          .assign (.quote "x_plus_2") (.quote "y")], []⟩ =
      .ok ⟨.transform, .ident "df",
        [⟨1, [.symbol "x"], ⟨["x"], .apply "+" [.ident "x", .literal (.int 1)]⟩,
            some (.generated "x_plus"), .rowWise, false, false⟩,
          ⟨2, [.symbol "x"], ⟨["x"], .apply "+" [.ident "x", .literal (.int 2)]⟩,
            some (.generated "x_plus_3"), .rowWise, false, false⟩,
          ⟨3, [.symbol "y"], ⟨["y"], .ident "y"⟩,
            some (.column (.symbol "x_plus_2")), .rowWise, false, true⟩], [], {}⟩ := rfl
  obtain ⟨hd, -, hfirst⟩ := generatedNames_of_expand h
  obtain ⟨line, a, r, hl, ha, hr, hfirst⟩ := hfirst 1 _ "x_plus_3" rfl rfl
  cases hl
  cases ha
  cases hr
  exact ⟨_, h, rfl, hd, hfirst⟩

end Call

end Tabular
