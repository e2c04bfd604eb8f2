import Tabular.Proofs.FieldVariables
import Tabular.Proofs.Retargeting

/-!
What dynamic references are aimed at. It shows in the references alone, except that the variables for the fields of
a table collection avoid the identifiers inside of interpolations.
-/

namespace Tabular

def DeclaredField.retarget (ρ : Expr → Expr) (f : DeclaredField) : DeclaredField :=
  { f with value := f.value.retarget ρ }

namespace Collection

variable (ρ : Expr → Expr)

lemma isField_retarget (line : Expr) : isField (line.retarget ρ) = isField line := by
  rw [Bool.eq_iff_iff, isField_iff, isField_iff, Expr.unflagged_retarget]
  simp only [Expr.retarget_eq_assign_quote]
  exact exists_congr fun name => ⟨fun ⟨_, w, hw, _⟩ => ⟨w, hw⟩, fun ⟨w, hw⟩ => ⟨_, w, hw, rfl⟩⟩

lemma field?_retarget (cs : List Char) (line : Expr) :
    field? cs (line.retarget ρ) = (field? cs line).map (DeclaredField.retarget ρ) := by
  cases hf : isField line with
  | false =>
    have hn {line : Expr} (h : isField line = false) : field? cs line = none := by
      rwa [TableGroup.isField_eq cs, Option.isSome_eq_false_iff, Option.isNone_iff_eq_none] at h
    rw [hn hf, hn ((isField_retarget ρ line).trans hf), Option.map_none]
  | true =>
    obtain ⟨name, value, h⟩ := isField_iff.mp hf
    have h' : (line.retarget ρ).unflagged = .assign (.quote name) (value.retarget ρ) := by
      rw [Expr.unflagged_retarget, h]
      rfl
    rw [field?_of_unflagged cs h, field?_of_unflagged cs h', Expr.flagChars_retarget, Expr.unflagged_retarget]
    rfl

lemma assignsColumn_retarget (line : Expr) : assignsColumn (line.retarget ρ) = assignsColumn line := by
  rw [assignsColumn, assignsColumn, Expr.unflagged_retarget, Expr.target?_retarget, Option.any_map]
  exact congrArg (Option.any · line.unflagged.target?) (funext fun sink => Expr.isMention_retarget ρ sink)

lemma lineFits_retarget (cs : List Char) (line : Expr) :
    TableGroup.LineFits cs (line.retarget ρ) ↔ TableGroup.LineFits cs line := by
  rw [TableGroup.LineFits, TableGroup.LineFits, Expr.flagTexts_retarget, Expr.flagChars_retarget]

lemma lines_retarget (p : Option Expr × Expr) :
    lines (p.1.map (Expr.retarget ρ), p.2.retarget ρ) = (lines p).map (Expr.retarget ρ) := by
  obtain ⟨_ | sink, value⟩ := p
  · cases value with
    | tuple items => exact congrArg (fun v => lines (none, v)) (Expr.retarget_tuple ρ items)
    | block items => exact congrArg (fun v => lines (none, v)) (Expr.retarget_block ρ items)
    | quote | interp | column =>
      exact Expr.retarget_of_isMention (P := fun m => lines (none, m) = []) ρ rfl (fun _ => rfl) (fun _ => rfl)
        fun _ => rfl
    | _ => rfl
  · rfl

lemma fields_retarget (cs : List Char) (p : Option Expr × Expr) :
    fields cs (p.1.map (Expr.retarget ρ), p.2.retarget ρ) = (fields cs p).map (DeclaredField.retarget ρ) := by
  obtain ⟨_ | sink, value⟩ := p
  · have hl := lines_retarget ρ (none, value)
    rw [Option.map_none] at hl ⊢
    rw [fields_of_none, fields_of_none, hl, List.filterMap_map, List.map_filterMap]
    exact List.filterMap_congr fun line _ => field?_retarget ρ cs line
  · by_cases hq : ∃ name, sink = .quote name
    · obtain ⟨name, rfl⟩ := hq
      rfl
    · have hq' : ∀ name, sink.retarget ρ ≠ .quote name := fun name h => hq ⟨name, Expr.retarget_eq_quote.mp h⟩
      rw [Option.map_some, fields_of_some cs _ hq', fields_of_some cs _ fun name h => hq ⟨name, h⟩, List.map_nil]

lemma shaped_retarget (p : Option Expr × Expr) :
    Shaped (p.1.map (Expr.retarget ρ), p.2.retarget ρ) ↔ Shaped p := by
  obtain ⟨_ | sink, value⟩ := p
  · cases value with
    | tuple items =>
      rw [Option.map_none, Expr.retarget_tuple]
      simp only [Shaped, List.forall_mem_map, isField_retarget]
    | block items =>
      rw [Option.map_none, Expr.retarget_block]
      simp only [Shaped, List.forall_mem_map, isField_retarget, assignsColumn_retarget, Expr.outerFlags_retarget]
    | quote | interp | column =>
      exact Expr.retarget_of_isMention (P := fun m => Shaped (none, m) ↔ False) ρ rfl (fun _ => Iff.rfl)
        (fun _ => Iff.rfl)
        fun _ => Iff.rfl
    | _ => exact Iff.rfl
  · exact exists_congr fun name => Expr.retarget_eq_quote

variable {ρ} {e line : Expr}

lemma mem_surface_of_mem_lines {p : Option Expr × Expr} (h : line ∈ lines p) : line ∈ p.2.surface := by
  revert h
  fun_cases lines p with
  | case1 items | case2 items =>
    intro h
    rw [Expr.surface, Expr.surfaceOf_eq]
    exact List.mem_cons_of_mem _ (List.mem_flatMap.mpr ⟨line, h, line.self_mem_surface⟩)
  | case3 => exact fun h => absurd h List.not_mem_nil

lemma mem_surface_of_field? {cs : List Char} {f : DeclaredField} (h : field? cs line = some f) :
    f.value ∈ line.surface := by
  have hf : isField line = true := by rw [TableGroup.isField_eq cs, h, Option.isSome_some]
  obtain ⟨name, value, he⟩ := isField_iff.mp hf
  rw [field?_of_unflagged cs he] at h
  cases h
  refine Expr.surface_subset (Expr.surface_subset line.unflagged_mem_surface ?_) value.unflagged_mem_surface
  rw [he]
  exact Expr.assigned_mem_surface (.assign (.quote name) value)

lemma mem_surface_of_mem_fields {cs : List Char} {p : Option Expr × Expr} {f : DeclaredField}
    (h : f ∈ fields cs p) : f.value ∈ p.2.surface := by
  obtain ⟨_ | sink, value⟩ := p
  · rw [fields_of_none] at h
    obtain ⟨line, hl, hf⟩ := List.mem_filterMap.mp h
    exact Expr.surface_subset (mem_surface_of_mem_lines hl) (mem_surface_of_field? hf)
  · cases sink with
    | quote name =>
      cases List.mem_singleton.mp h
      exact value.self_mem_surface
    | _ => cases h

lemma declared_retarget (ρ : Expr → Expr) (e : Expr) :
    declared (e.retarget ρ) = (declared e).map (DeclaredField.retarget ρ) := by
  rw [declared, declared, Expr.bare_retarget, Expr.flagChars_retarget, fields_retarget]

lemma lines_bare_retarget (ρ : Expr → Expr) (e : Expr) :
    lines (Argument.bare (e.retarget ρ)) = (lines (Argument.bare e)).map (Expr.retarget ρ) := by
  rw [Expr.bare_retarget, lines_retarget]

lemma resolve_ok_retarget (h : e.Retargets ρ) : (∃ r, (e.retarget ρ).resolve = .ok r) ↔ ∃ r, e.resolve = .ok r :=
  h.gives_resolve.ok_iff.trans e.gives_resolve.ok_iff.symm

lemma accepted_retarget (h : e.Retargets ρ) (default : Mode) :
    Accepted default (e.retarget ρ) ↔ Accepted default e := by
  have hlines {P : Expr → Prop} : (∀ line ∈ lines (Argument.bare (e.retarget ρ)), P line) ↔
      ∀ line ∈ lines (Argument.bare e), P (line.retarget ρ) := by
    rw [lines_bare_retarget, List.forall_mem_map]
  have hpart {n : Expr} (hn : n ∈ (Argument.bare e).2.surface) :
      (∃ r, (n.retarget ρ).resolve = .ok r) ↔ ∃ r, n.resolve = .ok r :=
    resolve_ok_retarget (h.of_mem_surface (Expr.surface_subset e.bare_value_mem_surface hn))
  have hfit : (∀ line ∈ lines (Argument.bare (e.retarget ρ)), TableGroup.LineFits (e.retarget ρ).flagChars line) ↔
      ∀ line ∈ lines (Argument.bare e), TableGroup.LineFits e.flagChars line := by
    rw [hlines, Expr.flagChars_retarget]
    exact forall₂_congr fun line _ => lineFits_retarget ρ _ line
  have hshaped : Shaped (Argument.bare (e.retarget ρ)) ↔ Shaped (Argument.bare e) := by
    rw [Expr.bare_retarget]
    exact shaped_retarget ρ _
  have hvalues : (∀ f ∈ declared (e.retarget ρ), ∃ r, f.value.resolve = .ok r) ↔
      ∀ f ∈ declared e, ∃ r, f.value.resolve = .ok r := by
    rw [declared_retarget, List.forall_mem_map]
    exact forall₂_congr fun f hf => hpart (mem_surface_of_mem_fields hf)
  have hothers :
      (∀ line ∈ lines (Argument.bare (e.retarget ρ)), isField line = false → ∃ r, line.resolve = .ok r) ↔
      ∀ line ∈ lines (Argument.bare e), isField line = false → ∃ r, line.resolve = .ok r := by
    rw [hlines]
    refine forall₂_congr fun line hl => ?_
    rw [isField_retarget, hpart (mem_surface_of_mem_lines hl)]
  have hnames : (declared (e.retarget ρ)).map DeclaredField.name = (declared e).map DeclaredField.name := by
    rw [declared_retarget, List.map_map]
    rfl
  have hfields : (declared (e.retarget ρ)).map (DeclaredField.toField default) =
      (declared e).map (DeclaredField.toField default) := by
    rw [declared_retarget, List.map_map]
    rfl
  have hnil : declared (e.retarget ρ) ≠ [] ↔ declared e ≠ [] := by
    rw [declared_retarget, ne_eq, List.map_eq_nil_iff]
  constructor
  · rintro ⟨fits, linesFit, shaped, nonempty, distinct, uniform, values, others⟩
    exact ⟨(Expr.flagsFit_retarget ρ e).mp fits, hfit.mp linesFit, hshaped.mp shaped, hnil.mp nonempty,
      hnames ▸ distinct, hfields ▸ uniform, hvalues.mp values, hothers.mp others⟩
  · rintro ⟨fits, linesFit, shaped, nonempty, distinct, uniform, values, others⟩
    exact ⟨(Expr.flagsFit_retarget ρ e).mpr fits, hfit.mpr linesFit, hshaped.mpr shaped, hnil.mpr nonempty,
      hnames ▸ distinct, hfields ▸ uniform, hvalues.mpr values, hothers.mpr others⟩

end Collection

namespace TableGroup

variable (ρ : Expr → Expr) (default : Mode) (cs : List Char)

lemma entryOf_retarget (line : Expr) :
    entryOf default cs (line.retarget ρ) = (entryOf default cs line).map (Expr.retarget ρ) := by
  rw [entryOf, entryOf, Collection.field?_retarget]
  cases Collection.field? cs line with
  | none =>
    rw [Option.map_none, Expr.unflagged_retarget]
    rfl
  | some f => rfl

lemma entriesOf_retarget (p : Option Expr × Expr) :
    entriesOf default cs (p.1.map (Expr.retarget ρ), p.2.retarget ρ) =
    (entriesOf default cs p).map (Entry.map (Expr.retarget ρ)) := by
  obtain ⟨_ | sink, value⟩ := p
  · have hl := Collection.lines_retarget ρ (none, value)
    rw [Option.map_none] at hl ⊢
    rw [entriesOf_of_none, entriesOf_of_none, hl, List.map_map, List.map_map]
    exact List.map_congr_left fun line _ => entryOf_retarget ρ default cs line
  · have hf := Collection.fields_retarget ρ cs (some sink, value)
    rw [Option.map_some] at hf ⊢
    rw [entriesOf_of_some, entriesOf_of_some, hf, List.map_map, List.map_map]
    rfl

lemma mem_surface_of_mem_entriesOf {p : Option Expr × Expr} {entry : Entry} (h : entry ∈ entriesOf default cs p) :
    entry.expr ∈ p.2.surface := by
  obtain ⟨_ | sink, value⟩ := p
  · rw [entriesOf_of_none] at h
    obtain ⟨line, hl, rfl⟩ := List.mem_map.mp h
    refine Expr.surface_subset (Collection.mem_surface_of_mem_lines hl) ?_
    rw [entryOf]
    split
    next f hf => exact Collection.mem_surface_of_field? hf
    next => exact line.unflagged_mem_surface
  · rw [entriesOf_of_some] at h
    obtain ⟨f, hf, rfl⟩ := List.mem_map.mp h
    exact Collection.mem_surface_of_mem_fields hf

end TableGroup

namespace Collection

variable {arg : Nat} {e : Expr} {ρ : Expr → Expr} {t : Triple}

lemma mem_surface_of_mem_entriesOf {default : Mode} {entry : TableGroup.Entry}
    (h : entry ∈ TableGroup.entriesOf default e.flagChars (Argument.bare e)) : entry.expr ∈ e.surface :=
  Expr.surface_subset e.bare_value_mem_surface (TableGroup.mem_surface_of_mem_entriesOf default e.flagChars h)

lemma entries_retarget (h : e.Retargets ρ) {default : Mode} (ha : Accepted default e) :
    entries default (e.retarget ρ) =
      (entries default e).map (TableGroup.Entry.map (Expr.recolumn (Column.retarget ρ))) := by
  rw [entries, entries, Expr.bare_retarget, Expr.flagChars_retarget, TableGroup.entriesOf_retarget, List.map_map,
    List.map_map]
  refine List.map_congr_left fun entry he => ?_
  have hn := (h.of_mem_surface (mem_surface_of_mem_entriesOf he)).withMentionsNamed_retarget (ha.clean he)
  cases entry with
  | field f value => exact congrArg (TableGroup.Entry.field f) hn
  | statement e => exact congrArg TableGroup.Entry.statement hn

lemma mentions_entries_subset (default : Mode) (e : Expr) :
    ((entries default e).flatMap fun entry => entry.expr.mentions) ⊆ e.withMentionsNamed.mentions := by
  intro c hc
  obtain ⟨_, hm, hc⟩ := List.mem_flatMap.mp hc
  obtain ⟨entry, he, rfl⟩ := List.mem_map.mp hm
  rw [TableGroup.expr_map] at hc
  exact Expr.mentions_subset_of_mem_surface (mem_surface_of_mem_entriesOf he) hc

lemma all_isField_retarget (ρ : Expr → Expr) (e : Expr) :
    (lines (Argument.bare (e.retarget ρ))).all isField = (lines (Argument.bare e)).all isField := by
  rw [lines_bare_retarget, List.all_map]
  exact congrArg (List.all _) (funext fun line => isField_retarget ρ line)

lemma function_retarget_iff (ρ : Expr → Expr) (ht : 't' ∈ e.flagChars) (default : Mode) :
    (TableGroup.bodyIn (fieldVariables (e.retarget ρ)) (entries default e)).abstracted.2 =
        (TableGroup.bodyIn (fieldVariables e) (entries default e)).abstracted.2 ↔
      fieldVariables (e.retarget ρ) = fieldVariables e := by
  have hl' := all_isField_retarget ρ e
  cases hl : (lines (Argument.bare e)).all isField with
  | true =>
    have hv : fieldVariables (e.retarget ρ) = fieldVariables e := by
      rw [fieldVariables, fieldVariables, hl', hl, if_neg (by simp), if_neg (by simp)]
    rw [hv]
    exact iff_of_true rfl rfl
  | false =>
    have hlength := length_fieldVariables ((Expr.flagChars_retarget ρ e).symm ▸ ht) (hl'.trans hl)
    rw [declared_retarget, List.map_map] at hlength
    have hnames := congrArg List.length (fieldNames_entries default e)
    exact TableGroup.function_bodyIn_iff ((isField_entries default e).trans hl) (hlength.trans hnames.symm)
      ((length_fieldVariables ht hl).trans hnames.symm)

lemma retargeted_of_yields (h : e.Retargets ρ) (ht : 't' ∈ e.flagChars) {default : Mode} (ha : Accepted default e)
    {t' : Triple} (hy : Yields default arg e t) (hy' : Yields default arg (e.retarget ρ) t') :
    t.Retargeted ρ t' ∧ (t'.function = t.function ↔ fieldVariables (e.retarget ρ) = fieldVariables e) := by
  have hσ : Column.Mirrors (Column.retarget ρ)
      (TableGroup.bodyIn (fieldVariables (e.retarget ρ)) (entries default e)).mentions := by
    rw [TableGroup.mentions_bodyIn]
    exact h.mirrors (mentions_entries_subset default e)
  have hsources := hy'.sources
  have hfunction := hy'.function
  rw [entries_retarget h ha, TableGroup.bodyIn_recolumn, Expr.abstracted_recolumn hσ] at hsources hfunction
  obtain ⟨f, hf⟩ := List.exists_mem_of_ne_nil _ ha.nonempty
  obtain ⟨hmode, hpass⟩ := hy.modes f hf
  obtain ⟨hmode', hpass'⟩ := hy'.modes (f.retarget ρ) (declared_retarget ρ e ▸ List.mem_map_of_mem hf)
  refine ⟨⟨hy'.arg.trans hy.arg.symm, ?_, ?_, hmode'.trans hmode.symm, hpass'.trans hpass.symm,
    hy'.passthrough.trans hy.passthrough.symm⟩, ?_⟩
  · rw [hsources, hy.sources, Expr.sources_eq_columns, Expr.sources_eq_columns, Expr.columns, Expr.columns,
      TableGroup.mentions_bodyIn, TableGroup.mentions_bodyIn]
  · rw [hy'.sink, hy.sink]
    rfl
  · rw [hfunction, hy.function]
    exact function_retarget_iff ρ ht default

end Collection

namespace Argument

variable {construct : Construct} {config : Config} {arg : Nat} {e : Expr} {ρ : Expr → Expr}

lemma lineTriple_retarget_eq_ok_iff (h : e.Retargets ρ) (ht : 't' ∉ e.flagChars) {t' : Triple} :
    Call.lineTriple construct config (arg, e.retarget ρ) = .ok t' ↔
      (FlagsFit e ∧ hasForm (bare e) = true) ∧ ∃ sink r, explicitSink construct config (bare e).1 = .ok sink ∧
        (bare e).2.resolve = .ok r ∧ tripleOf construct config arg (.ofChars e.flagChars)
          (sink.map (Sink.recolumn (Column.retarget ρ))) (r.recolumn (Column.retarget ρ)) = t' := by
  have hsink := explicitSink_retarget_eq_ok config construct fun sink (hs : (bare e).1 = some sink) =>
    h.of_mem_surface (Expr.bare_sink_mem_surface hs)
  have hvalue := (h.of_mem_surface e.bare_value_mem_surface).resolve_eq_ok
  rw [lineTriple_eq_ok_iff (Expr.flagChars_retarget ρ e ▸ ht), Expr.flagsFit_retarget, Expr.hasForm_retarget,
    Expr.flagChars_retarget, Expr.bare_retarget]
  simp only [hsink, hvalue]
  constructor
  · rintro ⟨hf, _, _, ⟨sink, hs, rfl⟩, ⟨r, hr, rfl⟩, ht⟩
    exact ⟨hf, sink, r, hs, hr, ht⟩
  · rintro ⟨hf, sink, r, hs, hr, ht⟩
    exact ⟨hf, _, _, ⟨sink, hs, rfl⟩, ⟨r, hr, rfl⟩, ht⟩

lemma retargeted_of_lineTriple (h : e.Retargets ρ) (ht : 't' ∉ e.flagChars) {t t' : Triple}
    (hx : Call.lineTriple construct config (arg, e) = .ok t)
    (hx' : Call.lineTriple construct config (arg, e.retarget ρ) = .ok t') :
    t.Retargeted ρ t' ∧ t'.function = t.function := by
  obtain ⟨-, sink, r, hs, hr, rfl⟩ := (lineTriple_eq_ok_iff ht).mp hx
  obtain ⟨-, sink', r', hs', hr', rfl⟩ := (lineTriple_retarget_eq_ok_iff h ht).mp hx'
  cases hs.symm.trans hs'
  cases hr.symm.trans hr'
  refine tripleOf_retarget construct config arg _ sink (h.mirrors ?_)
  rw [(bare e).2.gives_resolve.eq_of_ok hr]
  exact Expr.mentions_subset_of_mem_surface e.bare_value_mem_surface

end Argument

/-- What dynamic references are aimed at shows in nothing but the references and the variables that hold the fields
of a collection. -/
theorem Call.lineTriple_retarget (construct : Construct) (config : Config) (arg : Nat) {e : Expr} {ρ : Expr → Expr}
    (h : e.Retargets ρ) :
    ((∃ t, lineTriple construct config (arg, e.retarget ρ) = .ok t) ↔
      ∃ t, lineTriple construct config (arg, e) = .ok t) ∧
    ∀ t t', lineTriple construct config (arg, e) = .ok t →
      lineTriple construct config (arg, e.retarget ρ) = .ok t' →
      t.Retargeted ρ t' ∧
        (t'.function = t.function ↔ Collection.fieldVariables (e.retarget ρ) = Collection.fieldVariables e) := by
  have hchars := Expr.flagChars_retarget ρ e
  by_cases ht : 't' ∈ e.flagChars
  · have ht' : 't' ∈ (e.retarget ρ).flagChars := hchars.symm ▸ ht
    refine ⟨?_, fun t t' hx hx' => ?_⟩
    · rw [Collection.lineTriple_ok_iff ht', Collection.lineTriple_ok_iff ht, Collection.accepted_retarget h]
    · have ha := ((Collection.lineTriple_ok_iff ht).mp ⟨t, hx⟩).2
      exact Collection.retargeted_of_yields h ht ha (Collection.yields_of_lineTriple ht hx)
        (Collection.yields_of_lineTriple ht' hx')
  · refine ⟨?_, fun t t' hx hx' => ?_⟩
    · simp only [Argument.lineTriple_retarget_eq_ok_iff h ht, Argument.lineTriple_eq_ok_iff ht]
      constructor <;> exact fun ⟨_, hf, sink, r, hs, hr, _⟩ => ⟨_, hf, sink, r, hs, hr, rfl⟩
    · obtain ⟨hr, hf⟩ := Argument.retargeted_of_lineTriple h ht hx hx'
      refine ⟨hr, iff_of_true hf ?_⟩
      rw [Collection.fieldVariables, Collection.fieldVariables, hchars, if_neg fun hc => ht hc.1,
        if_neg fun hc => ht hc.1]

theorem Call.lineTriple_retarget_beside_namesake :
    let e := Expr.flagged "t"
      (.block [.assign (.quote "a") (.interp (.ident "a")), .assign (.ident "s") (.literal (.int 1))])
    let ρ := fun _ : Expr => Expr.ident "b"
    e.Retargets ρ ∧ ∃ t t', lineTriple .transform {} (1, e) = .ok t ∧
      lineTriple .transform {} (1, e.retarget ρ) = .ok t' ∧ t.Retargeted ρ t' ∧
      t.sources = [.dynamic (.ident "a")] ∧ t'.sources = [.dynamic (.ident "b")] ∧
      Collection.fieldVariables e = ["a_2"] ∧ Collection.fieldVariables (e.retarget ρ) = ["a"] ∧
      t'.function ≠ t.function := by
  intro e ρ
  have htargets : e.targets = [.ident "a"] := rfl
  have h : e.Retargets ρ := by
    refine ⟨fun t _ => rfl, fun t ht u hu => ?_⟩
    rw [htargets, List.mem_singleton] at ht hu
    rw [ht, hu]
    rfl
  have hv : Collection.fieldVariables e = ["a_2"] := rfl
  have hv' : Collection.fieldVariables (e.retarget ρ) = ["a"] := rfl
  obtain ⟨t, ht⟩ : ∃ t, lineTriple .transform {} (1, e) = .ok t := ⟨_, rfl⟩
  obtain ⟨hiff, hall⟩ := lineTriple_retarget .transform {} 1 h
  obtain ⟨t', ht'⟩ := hiff.mpr ⟨t, ht⟩
  obtain ⟨hr, hf⟩ := hall t t' ht ht'
  have hs : t.sources = [.dynamic (.ident "a")] := by
    cases ht
    rfl
  refine ⟨h, t, t', ht, ht', hr, hs, by rw [hr.sources, hs]; rfl, hv, hv', fun he => ?_⟩
  have hne := hf.mp he
  rw [hv, hv'] at hne
  exact absurd hne (by decide)

end Tabular
