import Tabular.Proofs.FlagSpelling
import Tabular.Proofs.Hygiene
import Tabular.Proofs.NormalForms

/-!
Dynamic references aimed at other targets. An expression goes on resolving, with nothing changed but the
references, and is abstracted into the same function as long as no two different targets become one.
-/

namespace Tabular

namespace Column

def target? : Column → Option Expr
  | dynamic target => some target
  | _ => none

def retarget (ρ : Expr → Expr) : Column → Column
  | dynamic target => dynamic (ρ target)
  | c => c

end Column

namespace Expr

def isTarget : Expr → Bool
  | literal _ | quote _ | column _ => false
  | _ => true

def targets (e : Expr) : List Expr := e.withMentionsNamed.mentions.filterMap Column.target?

def retarget (ρ : Expr → Expr) (e : Expr) : Expr := e.respell fun target => interp (ρ target)

structure Retargets (e : Expr) (ρ : Expr → Expr) : Prop where
  isTarget : ∀ t ∈ e.targets, (ρ t).isTarget = true
  same : ∀ t ∈ e.targets, ∀ u ∈ e.targets, (ρ t).same (ρ u) = t.same u

variable {ρ : Expr → Expr} {e n : Expr}

lemma interpolated_of_isTarget (h : e.isTarget = true) : Column.interpolated e = .ok (.dynamic e) := by
  cases e with
  | literal | quote | column => cases h
  | _ => rfl

lemma of_isMention {P : Expr → Prop} (quote : ∀ x, P (quote x)) (interp : ∀ t, P (interp t))
    (column : ∀ c, P (column c)) (h : e.isMention = true) : P e := by
  cases e with
  | quote x => exact quote x
  | interp t => exact interp t
  | column c => exact column c
  | _ => cases h

lemma self_mem_surface (e : Expr) : e ∈ e.surface := by cases e <;> exact List.mem_cons_self

lemma surface_subset (h : n ∈ e.surface) : n.surface ⊆ e.surface := by
  induction e <;> simp only [surface, surfaceOf_eq, surfaceOfFields_eq, List.mem_cons, List.mem_append,
    List.mem_flatMap, List.not_mem_nil, or_false] at h <;> grind [surface, surfaceOf_eq, surfaceOfFields_eq]

lemma mentions_subset_of_mem_surface (h : n ∈ e.surface) :
    n.withMentionsNamed.mentions ⊆ e.withMentionsNamed.mentions := by
  induction e <;> simp only [surface, surfaceOf_eq, surfaceOfFields_eq, List.mem_cons, List.mem_append,
    List.mem_flatMap, List.not_mem_nil, or_false] at h <;>
      grind [withMentionsNamed, mentions, mentionsOf_eq, mentionsOfFields_eq, withMentionsNamedItems_eq,
        withMentionsNamedFields_eq]

lemma targets_subset (h : n ∈ e.surface) : n.targets ⊆ e.targets := by
  intro t ht
  obtain ⟨c, hc, hct⟩ := List.mem_filterMap.mp ht
  exact List.mem_filterMap.mpr ⟨c, mentions_subset_of_mem_surface h hc, hct⟩

lemma Retargets.of_mem_surface (h : e.Retargets ρ) (hn : n ∈ e.surface) : n.Retargets ρ where
  isTarget t ht := h.isTarget t (targets_subset hn ht)
  same t ht u hu := h.same t (targets_subset hn ht) u (targets_subset hn hu)

lemma mem_targets {t : Expr} : t ∈ e.targets ↔ .dynamic t ∈ e.withMentionsNamed.mentions := by
  rw [targets, List.mem_filterMap]
  constructor
  · rintro ⟨c, hc, ht⟩
    cases c with
    | dynamic u => exact Option.some.inj ht ▸ hc
    | _ => cases ht
  · exact fun h => ⟨_, h, rfl⟩

lemma mem_targets_interp {t u : Expr} (h : Column.interpolated t = .ok (.dynamic u)) : u ∈ (interp t).targets := by
  rw [mem_targets, withMentionsNamed, named, h]
  exact List.mem_cons_self

section retarget

lemma isMention_retarget (ρ : Expr → Expr) (e : Expr) : (e.retarget ρ).isMention = e.isMention :=
  isMention_respell (fun _ => rfl) e

lemma retarget_of_isMention {P : Expr → Prop} (ρ : Expr → Expr) (h : e.isMention = true) (quote : ∀ x, P (quote x))
    (interp : ∀ t, P (interp t)) (column : ∀ c, P (column c)) : P (e.retarget ρ) :=
  of_isMention quote interp column ((isMention_retarget ρ e).trans h)

lemma retarget_interp {t : Expr} {c : Column} : Column.interpolated t = .ok c →
    (interp t).retarget ρ = match c with
      | .dynamic u => interp (ρ u)
      | _ => interp t :=
  respell_interp

lemma retarget_of_interpolated_error {t : Expr} {fault : Fault} (h : Column.interpolated t = .error fault) :
    (interp t).retarget ρ = interp t := by
  rw [retarget, respell, h]

lemma retarget_eq_quote {x : String} : e.retarget ρ = quote x ↔ e = quote x := by
  cases e with
  | interp t =>
    cases hc : Column.interpolated t with
    | error fault => rw [retarget_of_interpolated_error hc]
    | ok c =>
      rw [retarget_interp hc]
      cases c <;> simp
  | column c => cases c <;> simp [retarget, respell]
  | _ => simp [retarget, respell]

lemma retarget_eq_assign_quote {x : String} {v : Expr} :
    e.retarget ρ = assign (quote x) v ↔ ∃ w, e = assign (quote x) w ∧ w.retarget ρ = v := by
  cases e with
  | assign s w =>
    change assign (s.retarget ρ) (w.retarget ρ) = _ ↔ _
    simp [retarget_eq_quote]
  | quote | interp | column =>
    refine iff_of_false ?_ (by simp)
    exact retarget_of_isMention (P := (· ≠ assign (quote x) v)) ρ rfl (by simp) (by simp) (by simp)
  | _ => simp [retarget, respell]

lemma surface_respell {f : Expr → Expr} (hf : ∀ t, (f t).isMention = true) (e : Expr) :
    (e.respell f).surface = e.surface.map (respell f) := by
  induction e with
  | quote | interp | column =>
    exact of_isMention (P := fun m => m.surface = [m]) (fun _ => rfl) (fun _ => rfl) (fun _ => rfl)
      ((isMention_respell hf _).trans rfl)
  | literal | ident => rfl
  | keyword _ _ ih | field _ _ ih | flagged _ _ ih | lambda _ _ ih =>
      simp only [respell, surface, List.map_cons, ih]
  | assign _ _ hl hr | pair _ _ hl hr => simp only [respell, surface, List.map_cons, List.map_append, hl, hr]
  | call _ _ hg hes | index _ _ hg hes =>
    simp [respell, surface, surfaceOf_eq, hg, List.flatMap_map, List.map_flatMap, List.flatMap_congr hes]
  | block _ hes | tuple _ hes | vector _ hes =>
    simp [respell, surface, surfaceOf_eq, List.flatMap_map, List.map_flatMap, List.flatMap_congr hes]
  | namedTuple _ hfs =>
    simp [respell, surface, surfaceOfFields_eq, List.flatMap_map, List.map_flatMap, List.flatMap_congr hfs]

lemma surface_retarget (ρ : Expr → Expr) (e : Expr) : (e.retarget ρ).surface = e.surface.map (retarget ρ) :=
  surface_respell (fun _ => rfl) e

lemma isMisplaced_interp {t : Expr} (h : t.isTarget = true) : (interp t).isMisplaced = false := by
  cases t with
  | literal => cases h
  | _ => rfl

lemma isMisplaced_retarget (h : ∀ t ∈ n.targets, (ρ t).isTarget = true) :
    (n.retarget ρ).isMisplaced = n.isMisplaced := by
  cases n with
  | interp t =>
    cases hc : Column.interpolated t with
    | error fault =>
      rw [retarget_of_interpolated_error hc]
    | ok c =>
      rw [(interpolated_ok_iff t).mp ⟨c, hc⟩, retarget_interp hc]
      cases c with
      | dynamic u => exact isMisplaced_interp (h u (mem_targets_interp hc))
      | _ => exact (interpolated_ok_iff t).mp ⟨_, hc⟩
  | column c =>
    cases c with
    | dynamic t => exact isMisplaced_interp (h t (mem_targets.mpr List.mem_cons_self))
    | _ => rfl
  | assign sink value => exact isMention_retarget ρ sink
  | _ => rfl

variable (h : e.Retargets ρ)

include h

lemma Retargets.clean_iff : (e.retarget ρ).Clean ↔ e.Clean := by
  rw [Clean, surface_retarget, List.forall_mem_map]
  exact forall₂_congr fun n hn => by rw [isMisplaced_retarget (h.of_mem_surface hn).isTarget]

lemma Retargets.spelledBy {c : Column} (hc : c ∈ e.withMentionsNamed.mentions) :
    c.SpelledBy (fun target => interp (ρ target)) (Column.retarget ρ) := by
  cases c with
  | dynamic t =>
    rw [Column.SpelledBy, resolve, interpolated_of_isTarget (h.isTarget t (mem_targets.mpr hc))]
    rfl
  | _ => rfl

lemma Retargets.gives_resolve :
    Gives (e.retarget ρ).resolve e.Clean (e.withMentionsNamed.recolumn (Column.retarget ρ)) := by
  refine ((e.retarget ρ).gives_resolve.congr h.clean_iff).of_eq fun hc => ?_
  have hr : e.resolve = .ok e.withMentionsNamed := (e.gives_resolve _).mpr ⟨hc, rfl⟩
  have hr' := resolve_respell (fun _ => rfl) hr fun c hm => h.spelledBy hm
  exact ((e.retarget ρ).gives_resolve.eq_of_ok hr').symm

lemma Retargets.withMentionsNamed_retarget (hc : e.Clean) :
    (e.retarget ρ).withMentionsNamed = e.withMentionsNamed.recolumn (Column.retarget ρ) :=
  ((e.retarget ρ).gives_resolve.eq_of_ok ((h.gives_resolve _).mpr ⟨hc, rfl⟩)).symm

lemma Retargets.resolve_eq_ok (r' : Expr) : (e.retarget ρ).resolve = .ok r' ↔
    ∃ r, e.resolve = .ok r ∧ r.recolumn (Column.retarget ρ) = r' := by
  rw [h.gives_resolve r']
  simp only [e.gives_resolve _]
  exact ⟨fun ⟨hc, hr⟩ => ⟨_, ⟨hc, rfl⟩, hr.symm⟩, fun ⟨_, ⟨hc, hr⟩, hr'⟩ => ⟨hc, hr ▸ hr'.symm⟩⟩

end retarget

section flags

variable (ρ : Expr → Expr) (e : Expr)

lemma retarget_block (es : List Expr) : (block es).retarget ρ = block (es.map (retarget ρ)) :=
  congrArg block (respellItems_eq _ es)

lemma retarget_tuple (es : List Expr) : (tuple es).retarget ρ = tuple (es.map (retarget ρ)) :=
  congrArg tuple (respellItems_eq _ es)

lemma unflagged_retarget : (e.retarget ρ).unflagged = (e.unflagged).retarget ρ := by
  induction e with
  | flagged text e ih => exact ih
  | quote | interp | column =>
    exact retarget_of_isMention (P := fun m => m.unflagged = m) ρ rfl (fun _ => rfl) (fun _ => rfl) fun _ => rfl
  | _ => rfl

lemma outerFlags_retarget : (e.retarget ρ).outerFlags = e.outerFlags := by
  induction e with
  | flagged text e ih => exact congrArg (text :: ·) ih
  | quote | interp | column =>
    exact retarget_of_isMention (P := fun m => m.outerFlags = []) ρ rfl (fun _ => rfl) (fun _ => rfl) fun _ => rfl
  | _ => rfl

lemma target?_retarget : (e.retarget ρ).target? = e.target?.map (retarget ρ) := by
  cases e with
  | quote | interp | column =>
    exact retarget_of_isMention (P := fun m => m.target? = none) ρ rfl (fun _ => rfl) (fun _ => rfl) fun _ => rfl
  | _ => rfl

lemma assigned_retarget : (e.retarget ρ).assigned = e.assigned.retarget ρ := by
  cases e with
  | quote | interp | column =>
    exact retarget_of_isMention (P := fun m => m.assigned = m) ρ rfl (fun _ => rfl) (fun _ => rfl) fun _ => rfl
  | _ => rfl

lemma flagTexts_retarget : (e.retarget ρ).flagTexts = e.flagTexts := by
  rw [flagTexts, flagTexts, unflagged_retarget, assigned_retarget, outerFlags_retarget, outerFlags_retarget]

lemma flagChars_retarget : (e.retarget ρ).flagChars = e.flagChars := by
  rw [flagChars, flagChars, flagTexts_retarget]

lemma bare_retarget : Argument.bare (e.retarget ρ) =
    ((Argument.bare e).1.map (retarget ρ), (Argument.bare e).2.retarget ρ) := by
  rw [Argument.bare, Argument.bare, unflagged_retarget, target?_retarget, assigned_retarget, unflagged_retarget]

lemma flagsFit_retarget : Argument.FlagsFit (e.retarget ρ) ↔ Argument.FlagsFit e := by
  rw [Argument.FlagsFit, Argument.FlagsFit, flagTexts_retarget, flagChars_retarget]

lemma hasForm_retarget : Argument.hasForm (Argument.bare (e.retarget ρ)) = Argument.hasForm (Argument.bare e) := by
  rw [bare_retarget]
  rcases Argument.bare e with ⟨_ | sink, value⟩
  · cases value with
    | quote | interp | column =>
      exact retarget_of_isMention (P := fun m => Argument.hasForm (none, m) = true) ρ rfl (fun _ => rfl)
        (fun _ => rfl)
        fun _ => rfl
    | _ => rfl
  · cases sink with
    | quote | interp | column =>
      exact retarget_of_isMention (P := fun m => Argument.hasForm (some m, _) = true) ρ rfl (fun _ => rfl)
        (fun _ => rfl)
        fun _ => rfl
    | _ => rfl

variable {e}

lemma unflagged_mem_surface (e : Expr) : e.unflagged ∈ e.surface := by
  induction e with
  | flagged text e ih => exact List.mem_cons_of_mem _ ih
  | _ => exact self_mem_surface _

lemma assigned_mem_surface (e : Expr) : e.assigned ∈ e.surface := by
  cases e with
  | assign sink value => exact List.mem_cons_of_mem _ (List.mem_append_right _ value.self_mem_surface)
  | _ => exact self_mem_surface _

lemma mem_surface_of_target? {sink : Expr} (h : e.target? = some sink) : sink ∈ e.surface := by
  cases e with
  | assign s value =>
    cases h
    exact List.mem_cons_of_mem _ (List.mem_append_left _ sink.self_mem_surface)
  | _ => cases h

lemma bare_value_mem_surface (e : Expr) : (Argument.bare e).2 ∈ e.surface := by
  have ha : e.unflagged.assigned ∈ e.surface := surface_subset e.unflagged_mem_surface (assigned_mem_surface _)
  exact surface_subset ha (unflagged_mem_surface _)

lemma bare_sink_mem_surface {sink : Expr} (h : (Argument.bare e).1 = some sink) : sink ∈ e.surface :=
  surface_subset e.unflagged_mem_surface (mem_surface_of_target? h)

end flags

end Expr

section sinks

variable {ρ : Expr → Expr} {e : Expr} (config : Config)

lemma Sink.resolve_retarget_eq_ok (h : e.Retargets ρ) {s' : Sink} : Sink.resolve config (e.retarget ρ) = .ok s' ↔
    ∃ s, Sink.resolve config e = .ok s ∧ s.recolumn (Column.retarget ρ) = s' := by
  have hposition (c : Column) : (∀ n, c.retarget ρ ≠ .position n) ↔ ∀ n, c ≠ .position n := by
    cases c <;> simp [Column.retarget]
  constructor
  · intro hs
    obtain ⟨he, rfl⟩ | ⟨c', hc, hp, rfl⟩ := resolve_eq_ok.mp hs
    · obtain ⟨r, hr, hx⟩ := (h.resolve_eq_ok _).mp (by rw [he, Expr.resolve])
      cases r <;> cases hx
      exact ⟨.asTable, resolve_eq_ok.mpr (.inl ⟨Expr.eq_of_resolve_ident hr, rfl⟩), rfl⟩
    · obtain ⟨r, hr, hx⟩ := (h.resolve_eq_ok _).mp hc
      cases r <;> cases hx
      exact ⟨_, resolve_eq_ok.mpr (.inr ⟨_, hr, (hposition _).mp hp, rfl⟩), rfl⟩
  · rintro ⟨s, hs, rfl⟩
    obtain ⟨rfl, rfl⟩ | ⟨c, hc, hp, rfl⟩ := resolve_eq_ok.mp hs
    · exact resolve_eq_ok.mpr (.inl ⟨rfl, rfl⟩)
    · exact resolve_eq_ok.mpr (.inr ⟨_, (h.resolve_eq_ok _).mpr ⟨_, hc, rfl⟩, (hposition c).mpr hp, rfl⟩)

lemma Argument.explicitSink_retarget_eq_ok (construct : Construct) {sink : Option Expr}
    (h : ∀ e, sink = some e → e.Retargets ρ) (s' : Option Sink) :
    explicitSink construct config (sink.map (Expr.retarget ρ)) = .ok s' ↔
      ∃ s, explicitSink construct config sink = .ok s ∧ s.map (Sink.recolumn (Column.retarget ρ)) = s' := by
  cases sink with
  | none => simp [explicitSink]
  | some e =>
    rw [Option.map_some, explicitSink, explicitSink]
    split
    · simp only [bind_eq_ok, pure_eq_ok, Sink.resolve_retarget_eq_ok config (h e rfl)]
      constructor
      · rintro ⟨_, ⟨s, hs, rfl⟩, rfl⟩
        exact ⟨some s, ⟨s, hs, rfl⟩, rfl⟩
      · rintro ⟨_, ⟨s, hs, rfl⟩, rfl⟩
        exact ⟨_, ⟨s, hs, rfl⟩, rfl⟩
    · simp

end sinks

namespace Parameters

def recolumn (σ : Column → Column) (p : Parameters) : Parameters :=
  ⟨p.entries.map fun entry => (σ entry.1, entry.2), p.names⟩

end Parameters

/-- Columns put in for `cs` that are told apart as these are and yield the same names. -/
structure Column.Mirrors (σ : Column → Column) (cs : List Column) : Prop where
  same : ∀ c ∈ cs, ∀ d ∈ cs, (σ c).same (σ d) = c.same d
  stem : ∀ c ∈ cs, (σ c).stem = c.stem

namespace Parameters

variable {σ : Column → Column} {cs : List Column} {p : Parameters} {c : Column}

lemma find?_recolumn (hσ : Column.Mirrors σ cs) (hp : p.sources ⊆ cs) (hc : c ∈ cs) :
    (p.recolumn σ).find? (σ c) = p.find? c := by
  have he : p.entries.filter (fun entry => (σ entry.1).same (σ c)) =
      p.entries.filter fun entry => entry.1.same c :=
    List.filter_congr fun entry he => hσ.same entry.1 (hp (List.mem_map_of_mem he)) c hc
  rw [find?, find?, recolumn, List.find?_map, Option.map_map, ← List.head?_filter, ← List.head?_filter]
  exact congrArg (fun entries => (List.head? entries).map Prod.snd) he

lemma cover_recolumn (hσ : Column.Mirrors σ cs) (hp : p.sources ⊆ cs) (hc : c ∈ cs) :
    (p.recolumn σ).cover (σ c) = (p.cover c).recolumn σ := by
  have hf := find?_recolumn hσ hp hc
  cases h : p.find? c with
  | some x => rw [cover_of_some h, cover_of_some (hf.trans h)]
  | none =>
    rw [cover_of_none h, cover_of_none (hf.trans h), hσ.stem c hc]
    simp [recolumn]

lemma coverAll_recolumn (hσ : Column.Mirrors σ cs) (hp : p.sources ⊆ cs) {ds : List Column} (hd : ds ⊆ cs) :
    (p.recolumn σ).coverAll (ds.map σ) = (p.coverAll ds).recolumn σ := by
  induction ds generalizing p with
  | nil => rfl
  | cons d ds ih =>
    rw [List.cons_subset] at hd
    rw [List.map_cons, coverAll, List.foldl_cons, cover_recolumn hσ hp hd.1]
    refine ih (fun b hb => ?_) hd.2
    rcases mem_sources_coverAll (show b ∈ (p.coverAll [d]).sources from hb) with hb | hb
    · exact hp hb
    · exact List.mem_singleton.mp hb ▸ hd.1

end Parameters

section abstracted

variable {σ : Column → Column} {r : Expr}

lemma Expr.parameters_recolumn (hσ : Column.Mirrors σ r.mentions) :
    (r.recolumn σ).parameters = r.parameters.recolumn σ := by
  rw [parameters, mentions_recolumn, idents_recolumn]
  exact Parameters.coverAll_recolumn (p := .avoiding r.idents) hσ (List.nil_subset _) (List.Subset.refl _)

lemma Expr.abstracted_recolumn (hσ : Column.Mirrors σ r.mentions) :
    (r.recolumn σ).abstracted = (r.abstracted.1.map σ, r.abstracted.2) := by
  have hb : (r.recolumn σ).mapColumns (fun c => ident ((r.parameters.recolumn σ).nameOf c)) =
      r.mapColumns fun c => ident (r.parameters.nameOf c) := by
    rw [mapColumns_recolumn]
    refine mapColumns_congr fun c hc => ?_
    rw [Parameters.nameOf, Parameters.find?_recolumn hσ (fun d => mem_mentions_of_source) hc, ← Parameters.nameOf]
  rw [abstracted_eq, abstracted_eq, parameters_recolumn hσ, hb]
  simp [Parameters.recolumn, Parameters.sources, Parameters.params]

lemma Expr.operationWord_recolumn (σ : Column → Column) (r : Expr) :
    (r.recolumn σ).operationWord = r.operationWord := by
  cases r with
  | call f es => cases f <;> rfl
  | _ => rfl

lemma generatedName_recolumn (config : Config) (hσ : Column.Mirrors σ r.mentions) :
    generatedName config (r.abstracted.1.map σ) (r.recolumn σ) = generatedName config r.abstracted.1 r := by
  have hs : (r.abstracted.1.map σ).map Column.stem = r.abstracted.1.map Column.stem := by
    rw [List.map_map]
    exact List.map_congr_left fun c hc => hσ.stem c (Expr.mem_mentions_of_source hc)
  rw [generatedName, generatedName, hs, r.operationWord_recolumn]

end abstracted

/-- One transformation with the references of another aimed at other targets; the functions are not compared. -/
structure Triple.Retargeted (ρ : Expr → Expr) (t t' : Triple) : Prop where
  arg : t'.arg = t.arg
  sources : t'.sources = t.sources.map (Column.retarget ρ)
  sink : t'.sink = t.sink.map (Sink.recolumn (Column.retarget ρ))
  mode : t'.mode = t.mode
  passMissing : t'.passMissing = t.passMissing
  passthrough : t'.passthrough = t.passthrough

variable {ρ : Expr → Expr} {e : Expr}

lemma Expr.Retargets.mirrors (h : e.Retargets ρ) {cs : List Column} (hcs : cs ⊆ e.withMentionsNamed.mentions) :
    Column.Mirrors (Column.retarget ρ) cs where
  same c hc d hd := by
    cases c with
    | dynamic t =>
      cases d with
      | dynamic u => exact h.same t (mem_targets.mpr (hcs hc)) u (mem_targets.mpr (hcs hd))
      | _ => rfl
    | _ => cases d <;> rfl
  stem c _ := by cases c <;> rfl

lemma Argument.tripleOf_retarget (construct : Construct) (config : Config) (arg : Nat) (flags : Flags)
    (sink : Option Sink) {r : Expr} (h : Column.Mirrors (Column.retarget ρ) r.mentions) :
    let t := tripleOf construct config arg flags sink r
    let t' := tripleOf construct config arg flags (sink.map (Sink.recolumn (Column.retarget ρ)))
      (r.recolumn (Column.retarget ρ))
    t.Retargeted ρ t' ∧ t'.function = t.function := by
  have ha := Expr.abstracted_recolumn h
  obtain ⟨hsources, hfunction⟩ := Prod.mk.inj ha
  refine ⟨⟨rfl, hsources, ?_, rfl, rfl, isPassthrough_recolumn _ _ _⟩, hfunction⟩
  simp only [tripleOf, isPassthrough_recolumn, Option.isNone_map]
  split
  · rw [ha, generatedName_recolumn config h]
    rfl
  · rfl

end Tabular
