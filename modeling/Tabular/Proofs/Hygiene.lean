import Tabular.Proofs.StaticSpelling

/-!
The function that an expression is abstracted into. Its parameters are new names, one for each distinct column, and
putting the columns back for them gives the expression.
-/

namespace Tabular

namespace Parameters

lemma sources_cover (p : Parameters) (c : Column) :
    (p.cover c).sources = if p.sources.all fun b => !b.same c then p.sources ++ [c] else p.sources := by
  have hn : (p.sources.all fun b => !b.same c) = true ↔ p.find? c = none := by
    rw [find?_eq_none_iff, List.all_eq_true]
    simp
  cases hc : p.find? c with
  | some x =>
    rw [cover_of_some hc, if_neg]
    rw [hn, hc]
    exact Option.some_ne_none x
  | none =>
    rw [cover_of_none hc, if_pos (hn.mpr hc)]
    simp [sources]

lemma sources_coverAll (p : Parameters) (cs : List Column) : (p.coverAll cs).sources =
    p.sources ++ (Column.distinct cs).filter fun d => p.sources.all fun b => !b.same d := by
  induction cs generalizing p with
  | nil => simp [coverAll, Column.distinct]
  | cons c cs ih =>
    rw [coverAll, List.foldl_cons, ← coverAll, ih, sources_cover, Column.distinct, List.filter_cons,
      List.filter_filter]
    split
    · simp
    next hc =>
      -- a column like one that is there already is skipped, and so is every later column like it
      obtain ⟨b, hb, hbc⟩ : ∃ b ∈ p.sources, b.same c = true := by simpa using hc
      congr 1
      refine List.filter_congr fun d _ => ?_
      rw [eq_comm, Bool.and_eq_left_iff_imp]
      intro hd
      by_contra hcd
      have hbd := Column.same_trans hbc (by simpa using hcd)
      simpa [hbd] using List.all_eq_true.mp hd b hb

lemma mem_sources_coverAll_of_mem {p : Parameters} {c : Column} (h : c ∈ p.sources) (cs : List Column) :
    c ∈ (p.coverAll cs).sources := by
  rw [sources_coverAll]
  exact List.mem_append_left _ h

lemma find?_congr (p : Parameters) {c d : Column} (h : c.same d = true) : p.find? c = p.find? d := by
  have he (b : Column) : b.same c = b.same d :=
    Bool.eq_iff_iff.mpr ⟨fun hb => Column.same_trans hb h, fun hb => Column.same_euclidean hb h⟩
  simp only [find?, he]

lemma coverAll_map {ρ : Column → Column} {cs : List Column} (hs : ∀ c ∈ cs, (ρ c).same c = true) {p : Parameters}
    (hp : ∀ d ∈ (p.coverAll cs).sources, ρ d = d) : p.coverAll (cs.map ρ) = p.coverAll cs := by
  induction cs generalizing p with
  | nil => rfl
  | cons c cs ih =>
    obtain ⟨hc, hcs⟩ := List.forall_mem_cons.mp hs
    have hcover : p.cover (ρ c) = p.cover c := by
      cases hf : p.find? c with
      | some x => rw [cover_of_some hf, cover_of_some ((p.find?_congr hc).trans hf)]
      | none =>
        have hm : c ∈ (p.cover c).sources := by simp [cover_of_none hf, sources]
        rw [hp c (mem_sources_coverAll_of_mem hm cs)]
    rw [List.map_cons, coverAll, List.foldl_cons, hcover]
    exact ih hcs hp

end Parameters

namespace Expr

variable {σ : Column → Column}

lemma idents_recolumn (σ : Column → Column) (e : Expr) : (e.recolumn σ).idents = e.idents := by
  unfold recolumn
  induction e with
  | literal | ident | quote | column => rfl
  | interp _ ih | keyword _ _ ih | field _ _ ih | flagged _ _ ih | lambda _ _ ih =>
      simp only [mapColumns, idents, ih]
  | assign _ _ hl hr | pair _ _ hl hr => simp only [mapColumns, idents, hl, hr]
  | call _ _ hf hes | index _ _ hf hes => simp [mapColumns, idents, hf, List.flatMap_map, List.flatMap_congr hes]
  | block _ hes | tuple _ hes | vector _ hes => simp [mapColumns, idents, List.flatMap_map, List.flatMap_congr hes]
  | namedTuple _ hfs => simp [mapColumns, idents, List.flatMap_map, List.flatMap_congr hfs]

lemma mapColumns_recolumn (f : Column → Expr) (e : Expr) :
    (e.recolumn σ).mapColumns f = e.mapColumns fun c => f (σ c) := by
  unfold recolumn
  induction e with
  | literal | ident | quote | column => rfl
  | interp _ ih | keyword _ _ ih | field _ _ ih | flagged _ _ ih | lambda _ _ ih => simp only [mapColumns, ih]
  | assign _ _ hl hr | pair _ _ hl hr => simp only [mapColumns, hl, hr]
  | call _ _ hf hes | index _ _ hf hes => simpa [mapColumns, hf] using hes
  | block _ hes | tuple _ hes | vector _ hes => simpa [mapColumns] using hes
  | namedTuple _ hfs => simpa [mapColumns] using fun x e he => hfs (x, e) he

lemma sameItems_map {f : Expr → Expr} {es : List Expr} (h : ∀ e ∈ es, (f e).same e = true) :
    sameItems (es.map f) es = true := by
  induction es with
  | nil => rfl
  | cons e es ih =>
    obtain ⟨he, hes⟩ := List.forall_mem_cons.mp h
    simp [sameItems, he, ih hes]

lemma sameFields_map {f : Expr → Expr} {fs : List (String × Expr)}
    (h : ∀ field ∈ fs, (f field.2).same field.2 = true) :
    sameFields (fs.map fun field => (field.1, f field.2)) fs = true := by
  induction fs with
  | nil => rfl
  | cons field fs ih =>
    obtain ⟨hf, hfs⟩ := List.forall_mem_cons.mp h
    simp [sameFields, hf, ih hfs]

lemma same_recolumn {e : Expr} (h : ∀ c ∈ e.mentions, (σ c).same c = true) : (e.recolumn σ).same e = true := by
  unfold recolumn
  induction e with
  | literal v => simp [mapColumns, same, Value.same_refl]
  | ident | quote => simp [mapColumns, same]
  | column c => simpa [mapColumns, same] using h c (by simp [mentions])
  | interp _ ih | keyword _ _ ih | field _ _ ih | flagged _ _ ih | lambda _ _ ih => simp [mapColumns, same, ih h]
  | assign _ _ hl hr | pair _ _ hl hr =>
    simp only [mentions, List.mem_append] at h
    simp [mapColumns, same, hl fun c hc => h c (.inl hc), hr fun c hc => h c (.inr hc)]
  | call _ es hf hes | index _ es hf hes =>
    simp only [mentions, mentionsOf_eq, List.mem_append, List.mem_flatMap] at h
    simp [mapColumns, same, hf fun c hc => h c (.inl hc),
      sameItems_map fun e he => hes e he fun c hc => h c (.inr ⟨e, he, hc⟩)]
  | block es hes | tuple es hes | vector es hes =>
    simp only [mentions, mentionsOf_eq, List.mem_flatMap] at h
    simp [mapColumns, same, sameItems_map fun e he => hes e he fun c hc => h c ⟨e, he, hc⟩]
  | namedTuple fs hfs =>
    simp only [mentions, mentionsOfFields_eq, List.mem_flatMap] at h
    simp [mapColumns, same, sameFields_map fun f hf => hfs f hf fun c hc => h c ⟨f, hf, hc⟩]

lemma sources_eq_columns (e : Expr) : e.abstracted.1 = e.columns := by
  have hs := Parameters.sources_coverAll (.avoiding e.idents) e.mentions
  simpa [Parameters.avoiding, Parameters.sources, abstracted_eq, parameters, columns] using hs

lemma arity_abstracted (e : Expr) : e.abstracted.2.params.length = e.abstracted.1.length := by
  simp [abstracted_eq, Parameters.params, Parameters.sources]

lemma body_column_free (e : Expr) (c : Column) : .column c ∉ e.abstracted.2.body.nodes := by
  rw [abstracted_eq, nodes_mapColumns fun c => rfl]
  intro hn
  obtain ⟨n, -, he⟩ := List.mem_map.mp hn
  cases n <;> cases he

lemma boundTo_sources_same {e : Expr} {c : Column} (hc : c ∈ e.mentions) :
    (e.boundTo e.abstracted.1 c).same c = true := by
  obtain ⟨d, -, hs, he⟩ := exists_boundTo_eq (τ := id) hc
  rw [List.map_id] at he
  rwa [he]

lemma abstracted_rebound_sources (e : Expr) : (e.rebound e.abstracted.1).abstracted = e.abstracted := by
  have hs : ∀ c ∈ e.mentions, (e.boundTo e.abstracted.1 c).same c = true := fun c hc => boundTo_sources_same hc
  have hp : (e.rebound e.abstracted.1).parameters = e.parameters := by
    rw [parameters, rebound, idents_recolumn, mentions_recolumn]
    refine Parameters.coverAll_map hs fun d hd => ?_
    exact List.map_inj_left.mp ((map_boundTo rfl).trans (List.map_id _).symm) d hd
  have hb : (e.rebound e.abstracted.1).mapColumns (fun c => ident (e.parameters.nameOf c)) =
      e.mapColumns fun c => ident (e.parameters.nameOf c) := by
    rw [rebound, mapColumns_recolumn]
    refine mapColumns_congr fun c hc => ?_
    rw [Parameters.nameOf, Parameters.find?_congr _ (hs c hc), ← Parameters.nameOf]
  rw [abstracted_eq, hp, hb, ← abstracted_eq]

theorem instantiate_inverts_abstracted (e : Expr) :
    e.abstracted.1 = e.columns ∧ e.columns.Pairwise (fun c d => c.same d = false) ∧
      (∀ c ∈ e.mentions, ∃ d ∈ e.columns, d.same c = true) ∧ (e.abstracted.1 = [] ↔ ∀ c, .column c ∉ e.nodes) ∧
    e.abstracted.2.params.length = e.abstracted.1.length ∧ e.abstracted.2.params.Nodup ∧
      (∀ x ∈ e.abstracted.2.params, x ∉ Names.reservedWords ∧ x ∉ e.idents) ∧
      (∀ c, .column c ∉ e.abstracted.2.body.nodes) ∧
    (e.abstracted.2.instantiate e.abstracted.1).same e = true ∧
      (e.abstracted.2.instantiate e.abstracted.1 = e ↔
        ∀ c ∈ e.mentions, ∀ d ∈ e.mentions, c.same d = true → c = d) ∧
      (e.abstracted.2.instantiate e.abstracted.1).abstracted = e.abstracted ∧
    ∀ cols : List Column, cols.length = e.abstracted.1.length → ∃ σ : Column → Column,
      e.abstracted.1.map σ = cols ∧ (∀ c ∈ e.mentions, ∀ d, c.same d = true → σ c = σ d) ∧
      e.abstracted.2.instantiate cols = e.recolumn σ := by
  have hi : e.abstracted.2.instantiate e.abstracted.1 = e.rebound e.abstracted.1 := instantiate_eq_rebound rfl
  rw [hi, ← sources_eq_columns]
  refine ⟨rfl, e.parameters_valid.distinct, fun c => exists_source, ?_, e.arity_abstracted,
    e.parameters_valid.nodup, e.parameters_valid.free, e.body_column_free,
    same_recolumn fun c => boundTo_sources_same, ?_, e.abstracted_rebound_sources, fun cols hl =>
      ⟨e.boundTo cols, map_boundTo hl, fun c hc d => boundTo_congr hl hc, ?_⟩⟩
  · constructor
    · intro hs c hc
      obtain ⟨d, hd, -⟩ := exists_source (mem_mentions_iff.mpr hc)
      rw [show e.parameters.sources = [] from hs] at hd
      exact List.not_mem_nil hd
    · intro hn
      refine List.eq_nil_iff_forall_not_mem.mpr fun c hc => hn c (mem_mentions_iff.mp (mem_mentions_of_source hc))
  · have h := rebound_eq_recolumn_iff (r := e) (τ := id)
    rwa [List.map_id, show e.recolumn id = e from mapColumns_column e] at h
  · exact instantiate_eq_rebound hl

theorem instantiate_inverts_abstracted_beside_namesake :
    (apply "+" [column (.symbol "x"), ident "x"]).abstracted =
        ([.symbol "x"], ⟨["x_2"], apply "+" [ident "x_2", ident "x"]⟩) ∧
      (apply "+" [column (.symbol "x"), ident "x"]).abstracted.2.instantiate [.symbol "y"] =
        apply "+" [column (.symbol "y"), ident "x"] := by
  have ha : (apply "+" [column (.symbol "x"), ident "x"]).abstracted =
      ([.symbol "x"], ⟨["x_2"], apply "+" [ident "x_2", ident "x"]⟩) := rfl
  obtain ⟨-, -, -, -, -, -, -, -, -, -, -, hcols⟩ :=
    instantiate_inverts_abstracted (apply "+" [column (.symbol "x"), ident "x"])
  obtain ⟨σ, hσ, -, hi⟩ := hcols [.symbol "y"] rfl
  have hx : σ (.symbol "x") = .symbol "y" := List.head_eq_of_cons_eq hσ
  refine ⟨ha, hi.trans ?_⟩
  simp [recolumn, apply, mapColumns, hx]

end Expr

end Tabular
