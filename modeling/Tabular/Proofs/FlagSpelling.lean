import Tabular.Proofs.CollectionShape

namespace Tabular

structure SameFlagged (e e' : Expr) : Prop where
  bare : Argument.bare e = Argument.bare e'
  chars : ∀ c, c ∈ e.flagChars ↔ c ∈ e'.flagChars

lemma SameFlagged.symm {e e' : Expr} (h : SameFlagged e e') : SameFlagged e' e :=
  ⟨h.bare.symm, fun c => (h.chars c).symm⟩

section sets

variable {cs ds : List Char} (h : ∀ c, c ∈ cs ↔ c ∈ ds)

include h

lemma Flags.Consistent.of_mem_iff (hc : Consistent cs) : Consistent ds := hc.mono fun c hd => (h c).mpr hd

lemma mem_append_iff (xs : List Char) (c : Char) : c ∈ cs ++ xs ↔ c ∈ ds ++ xs := by
  rw [List.mem_append, List.mem_append, h]

lemma Flags.modeOr_of_mem_iff (default : Mode) : (ofChars cs).modeOr default = (ofChars ds).modeOr default := by
  simp only [ofChars, modeOr, h]

lemma Flags.passMissing_of_mem_iff : (ofChars cs).passMissing = (ofChars ds).passMissing := by
  simp only [ofChars, h]

lemma Flags.isEmpty_of_mem_iff : (ofChars cs).isEmpty = (ofChars ds).isEmpty := by
  rw [Bool.eq_iff_iff, isEmpty_ofChars, isEmpty_ofChars, List.eq_nil_iff_forall_not_mem,
    List.eq_nil_iff_forall_not_mem]
  exact forall_congr' fun c => not_congr (h c)

lemma Argument.tripleOf_of_mem_iff (construct : Construct) (config : Config) (arg : Nat) (sink : Option Sink)
    (r : Expr) :
    tripleOf construct config arg (.ofChars cs) sink r = tripleOf construct config arg (.ofChars ds) sink r := by
  rw [tripleOf, tripleOf, isPassthrough, isPassthrough, Flags.isEmpty_of_mem_iff h, Flags.modeOr_of_mem_iff h,
    Flags.passMissing_of_mem_iff h]

lemma DeclaredField.toField_of_mem_iff (default : Mode) (name : String) (value : Expr) :
    toField default ⟨name, cs, value⟩ = toField default ⟨name, ds, value⟩ := by
  simp only [toField, Flags.modeOr_of_mem_iff h, Flags.passMissing_of_mem_iff h]

namespace TableGroup

lemma LineFits.of_mem_iff {line : Expr} (hf : LineFits cs line) : LineFits ds line :=
  ⟨hf.1, hf.2.1.of_mem_iff (mem_append_iff h line.flagChars), hf.2.2⟩

lemma entryOf_of_mem_iff (default : Mode) (line : Expr) : entryOf default cs line = entryOf default ds line := by
  rw [entryOf, entryOf, Collection.field?, Collection.field?]
  cases line.unflagged with
  | assign sink value =>
    cases sink with
    | quote name =>
      have ht := DeclaredField.toField_of_mem_iff (mem_append_iff h line.flagChars) default name value.unflagged
      simp only [ht]
    | _ => rfl
  | _ => rfl

lemma entriesOf_of_mem_iff (default : Mode) (p : Option Expr × Expr) :
    entriesOf default cs p = entriesOf default ds p := by
  have hitems (items : List Expr) : items.map (entryOf default cs) = items.map (entryOf default ds) :=
    List.map_congr_left fun line _ => entryOf_of_mem_iff h default line
  fun_cases entriesOf default cs p with
  | case1 name value =>
    rw [entriesOf, DeclaredField.toField_of_mem_iff h]
  | case2 items => exact hitems items
  | case3 items => exact hitems items
  | case4 =>
    rw [entriesOf]
    all_goals assumption

lemma collect_of_mem_iff (hc : Flags.Consistent cs) {p : Option Expr × Expr}
    (hp : p.1 = none → p.2.unflagged.target? = none) {arg : Nat} {default : Mode} {g : TableGroup}
    (hg : collect arg default (.ofChars cs) p.1 p.2 = .ok g) :
    collect arg default (.ofChars ds) p.1 p.2 = .ok g := by
  have hentries := entriesOf_of_mem_iff h default p
  have hfields : (Collection.fields cs p).map (DeclaredField.toField default) =
      (Collection.fields ds p).map (DeclaredField.toField default) := by
    rw [← fields_entriesOf, ← fields_entriesOf, hentries]
  have hnames : (Collection.fields cs p).map DeclaredField.name =
      (Collection.fields ds p).map DeclaredField.name := by
    have hmap := congrArg (List.map TableField.name) hfields
    rw [List.map_map, List.map_map] at hmap
    exact hmap
  obtain ⟨⟨hs, hfit, hd⟩, hn, body, hb, rfl⟩ := (collect_ofChars hc hp).mp hg
  refine (collect_ofChars (hc.of_mem_iff h) hp).mpr
    ⟨⟨hs, fun line hl hf => (hfit line hl hf).of_mem_iff h, hnames ▸ hd⟩, ?_⟩
  refine ⟨fun he => hn ?_, body, hentries ▸ hb, by rw [hfields]⟩
  rw [he] at hnames
  exact List.map_eq_nil_iff.mp hnames

end TableGroup

end sets

namespace Argument

variable {construct : Construct} {config : Config} {arg : Nat} {e e' : Expr}

lemma ofExpr_of_flagsOf_error {fault : Fault} (h : flagsOf e = .error fault) : ofExpr e = .error fault := by
  rcases bind_eq_error.mp h with hs | ⟨⟨flags, inner⟩, hs, h⟩
  · rw [ofExpr, hs]
    rfl
  · rcases bind_eq_error.mp h with hv | ⟨_, -, h⟩
    · cases inner with
      | assign sink value =>
        refine bind_eq_error.mpr (.inr ⟨(flags, .assign sink value), hs, ?_⟩)
        refine bind_eq_error.mpr (.inr ⟨(some sink, value), rfl, ?_⟩)
        exact bind_eq_error.mpr (.inl hv)
      | flagged text inner =>
        have hf := e.outerFlags_unflagged
        rw [← Flags.eq_unflagged hs] at hf
        cases hf
      | _ => cases hv
    · cases h

lemma flagsOf_error_iff (ht : ∀ text ∈ e.flagTexts, text ≠ "") : (∃ fault, flagsOf e = .error fault) ↔
    (∃ c ∈ e.flagChars, c ∉ ['r', 'c', 'm', 't']) ∨ 'r' ∈ e.flagChars ∧ 'c' ∈ e.flagChars := by
  have hok := (gives_flagsOf e).ok_iff
  have herror : (∃ fault, flagsOf e = .error fault) ↔ ¬ ∃ flags, flagsOf e = .ok flags := by
    cases flagsOf e <;> simp
  rw [herror, hok, FlagsFit, and_iff_right ht, Flags.Consistent, not_and_or, not_not]
  simp only [not_forall, exists_prop]

lemma FlagsFit.of_sameFlagged (h : SameFlagged e e') (ht : ∀ text ∈ e'.flagTexts, text ≠ "") (hf : FlagsFit e) :
    FlagsFit e' := ⟨ht, hf.2.of_mem_iff h.chars⟩

lemma expandArgument_eq_tripleOf {t : Triple} : expandArgument construct config arg e = .ok (.triple t) ↔
    (FlagsFit e ∧ hasForm (bare e) = true) ∧ 't' ∉ e.flagChars ∧ ∃ sink r,
      explicitSink construct config (bare e).1 = .ok sink ∧ (bare e).2.resolve = .ok r ∧
        tripleOf construct config arg (.ofChars e.flagChars) sink r = t := by
  rw [expandArgument_eq_triple]
  simp only [gives_ofExpr e _]
  constructor
  · rintro ⟨_, ⟨hf, rfl⟩, hn, hr⟩
    exact ⟨hf, of_decide_eq_false hn, hr⟩
  · rintro ⟨hf, hn, hr⟩
    exact ⟨_, ⟨hf, rfl⟩, decide_eq_false hn, hr⟩

lemma expandArgument_of_sameFlagged (h : SameFlagged e e') (ht : ∀ text ∈ e'.flagTexts, text ≠ "") {x : Expansion}
    (hx : expandArgument construct config arg e = .ok x) : expandArgument construct config arg e' = .ok x := by
  cases x with
  | triple t =>
    obtain ⟨⟨hf, hform⟩, hn, sink, r, hs, hr, rfl⟩ := expandArgument_eq_tripleOf.mp hx
    rw [h.bare] at hform hs hr
    refine expandArgument_eq_tripleOf.mpr ⟨⟨hf.of_sameFlagged h ht, hform⟩,
      fun hm => hn ((h.chars 't').mpr hm), ?_⟩
    exact ⟨sink, r, hs, hr, (tripleOf_of_mem_iff h.chars _ _ _ _ _).symm⟩
  | group g =>
    obtain ⟨a, ha, htable, hs, hg⟩ := expandArgument_eq_group.mp hx
    obtain ⟨⟨hf, hform⟩, rfl⟩ := (gives_ofExpr e a).mp ha
    have hm := (h.chars 't').mp (of_decide_eq_true htable)
    have hg := TableGroup.collect_of_mem_iff h.chars hf.2 (target?_bare e) hg
    rw [h.bare] at hform hg
    exact (expandArgument_eq_collect hm hs).mpr ⟨⟨hf.of_sameFlagged h ht, hform⟩, g, rfl, hg⟩

end Argument

theorem expandArgument_of_flagChars (construct : Construct) (config : Config) (arg : Nat) {e : Expr}
    (ht : ∀ text ∈ e.flagTexts, text ≠ "") :
    ((∃ fault, Argument.flagsOf e = .error fault) ↔
      (∃ c ∈ e.flagChars, c ∉ ['r', 'c', 'm', 't']) ∨ 'r' ∈ e.flagChars ∧ 'c' ∈ e.flagChars) ∧
    (∀ fault, Argument.flagsOf e = .error fault → expandArgument construct config arg e = .error ⟨arg, fault⟩) ∧
    (∀ a, Argument.ofExpr e = .ok a → Argument.flagsOf e = .ok a.flags) ∧
    (∀ e', (∀ text ∈ e'.flagTexts, text ≠ "") → SameFlagged e e' →
      (expandArgument construct config arg e).toOption = (expandArgument construct config arg e').toOption) ∧
    ∀ t, expandArgument construct config arg e = .ok (.triple t) →
      t.mode = (if 'r' ∈ e.flagChars then .rowWise else if 'c' ∈ e.flagChars then .columnWise
        else construct.defaultMode) ∧ (t.passMissing = true ↔ 'm' ∈ e.flagChars) := by
  refine ⟨Argument.flagsOf_error_iff ht, fun fault hf => ?_, fun a ha => ?_, fun e' ht' h => ?_, fun t hx => ?_⟩
  · rw [expandArgument, Argument.expansion, Argument.ofExpr_of_flagsOf_error hf]
    rfl
  · obtain ⟨⟨hf, -⟩, rfl⟩ := (Argument.gives_ofExpr e a).mp ha
    exact (Argument.gives_flagsOf e _).mpr ⟨hf, rfl⟩
  · have hboth : Follows True (expandArgument construct config arg e) (expandArgument construct config arg e') :=
      ⟨fun _ => Argument.expandArgument_of_sameFlagged h ht',
        fun _ _ => Argument.expandArgument_of_sameFlagged h.symm ht⟩
    exact hboth.toOption_eq trivial
  · obtain ⟨-, -, sink, r, -, -, rfl⟩ := Argument.expandArgument_eq_tripleOf.mp hx
    refine ⟨?_, decide_eq_true_iff⟩
    simp only [Argument.tripleOf, Flags.modeOr, Flags.ofChars]
    split
    · rfl
    · split <;> rfl

theorem expandArgument_of_flagChars_across_assignment :
    let value := Expr.apply "f" [.quote "a"]
    let e := Expr.flagged "mr" (.assign (.quote "x") (.flagged "m" value))
    let e' := Expr.assign (.quote "x") (.flagged "r" (.flagged "rm" value))
    let clash := Expr.flagged "mr" (.assign (.quote "x") (.flagged "c" value))
    (∀ text ∈ e.flagTexts, text ≠ "") ∧ (∀ text ∈ e'.flagTexts, text ≠ "") ∧ SameFlagged e e' ∧
      (∃ t, expandArgument .combine {} 1 e = .ok (.triple t) ∧ t.mode = .rowWise ∧ t.passMissing = true ∧
        (expandArgument .combine {} 1 e').toOption = some (.triple t)) ∧
      ∃ fault, expandArgument .combine {} 1 clash = .error ⟨1, fault⟩ := by
  intro value e e' clash
  have ht : ∀ text ∈ e.flagTexts, text ≠ "" := by decide
  have ht' : ∀ text ∈ e'.flagTexts, text ≠ "" := by decide
  have hclash : ∀ text ∈ clash.flagTexts, text ≠ "" := by decide
  have hsame : SameFlagged e e' := by
    refine ⟨rfl, fun c => ?_⟩
    have hc : e.flagChars = ['m', 'r', 'm'] := by decide
    have hc' : e'.flagChars = ['r', 'r', 'm'] := by decide
    rw [hc, hc']
    simp only [List.mem_cons, List.not_mem_nil]
    tauto
  obtain ⟨t, hx⟩ : ∃ t, expandArgument .combine {} 1 e = .ok (.triple t) := ⟨_, rfl⟩
  obtain ⟨-, -, -, hspelled, hresult⟩ := expandArgument_of_flagChars .combine {} 1 ht
  obtain ⟨hmode, hpass⟩ := hresult t hx
  obtain ⟨hiff, hfails, -⟩ := expandArgument_of_flagChars .combine {} 1 hclash
  obtain ⟨fault, hfault⟩ := hiff.mpr (.inr (by decide))
  refine ⟨ht, ht', hsame, ⟨t, hx, hmode, hpass.mpr (by decide), ?_⟩, fault, hfails fault hfault⟩
  rw [← hspelled e' ht' hsame, hx]
  rfl

end Tabular
