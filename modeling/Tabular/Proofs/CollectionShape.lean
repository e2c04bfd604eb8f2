import Tabular.Proofs.CollectionBody
import Tabular.Proofs.CollectionReading

namespace Tabular

namespace TableGroup

lemma bodyOf_ok_iff {es : List Entry} (locals : Names) :
    (∃ body, bodyOf locals es = .ok body) ↔ ∀ entry ∈ es, ∃ r, entry.expr.resolve = .ok r := by
  rw [bodyOf_eq, map_ok_iff, mapM_ok_iff]
  exact forall₂_congr fun _ _ => Entry.resolve_ok_iff

def YieldsFields (names : List String) (body : Expr) : Prop := ∃ values : List (String × Expr),
  values.map Prod.fst = names ∧
  (body = .namedTuple values ∨ ∃ lines, body = .block (lines ++ [.namedTuple values]))

lemma yieldsFields_bodyOf {locals : Names} {es : List Entry} {body : Expr} (h : bodyOf locals es = .ok body) :
    YieldsFields ((es.filterMap Entry.field?).map TableField.name) body := by
  obtain ⟨rs, hrs, rfl⟩ := bodyOf_eq_ok h
  rw [← fields_of_resolve hrs, bodyIn]
  split
  · exact ⟨_, map_fst_pairs rs, .inl rfl⟩
  · exact ⟨_, map_fst_readings (Names.length_freshAll _ _), .inr ⟨_, rfl⟩⟩

def Uniform (fs : List TableField) : Prop := ∀ f ∈ fs, ∀ g ∈ fs, f.mode = g.mode ∧ f.passMissing = g.passMissing

lemma uniform_eq_ok {first : TableField} {fs : List TableField} :
    uniform first fs = .ok () ↔ ∀ f ∈ fs, f.mode = first.mode ∧ f.passMissing = first.passMissing := by
  induction fs with
  | nil => simp [uniform]
  | cons f fs ih =>
    rw [List.forall_mem_cons, uniform]
    split
    next h => rw [ih, and_iff_right h]
    next h => exact iff_of_false (fun he => nomatch he) fun hf => h hf.1

lemma uniform_cons {first : TableField} {fs : List TableField} :
    Uniform (first :: fs) ↔ ∀ f ∈ fs, f.mode = first.mode ∧ f.passMissing = first.passMissing := by
  constructor
  · exact fun h f hf => h f (List.mem_cons_of_mem _ hf) first List.mem_cons_self
  · intro h
    have hall : ∀ f ∈ first :: fs, f.mode = first.mode ∧ f.passMissing = first.passMissing :=
      List.forall_mem_cons.mpr ⟨⟨rfl, rfl⟩, h⟩
    intro f hf g hg
    obtain ⟨hm, hp⟩ := hall f hf
    obtain ⟨hm', hp'⟩ := hall g hg
    exact ⟨hm.trans hm'.symm, hp.trans hp'.symm⟩

lemma toTriple_ok_iff {g : TableGroup} : (∃ t, g.toTriple = .ok t) ↔ g.fields ≠ [] ∧ Uniform g.fields := by
  rw [toTriple]
  split
  next h => simp [h]
  next first rest h =>
    rw [h, uniform_cons, ← uniform_eq_ok]
    cases hu : uniform first rest <;> simp

lemma fields_toTriple {g : TableGroup} {t : Triple} (h : g.toTriple = .ok t) :
    t.arg = g.arg ∧ ∀ f ∈ g.fields, t.mode = f.mode ∧ t.passMissing = f.passMissing := by
  have hu := (toTriple_ok_iff.mp ⟨t, h⟩).2
  obtain ⟨first, rest, hf, -, rfl⟩ := exists_first_of_toTriple h
  exact ⟨rfl, hu first (hf ▸ List.mem_cons_self)⟩

lemma collect_eq_ok_iff {arg : Nat} {default : Mode} {flags : Flags} {sink : Option Expr} {value : Expr}
    {g : TableGroup} : collect arg default flags sink value = .ok g ↔
      ∃ es, (do entries default [] (← lines flags sink value)) = .ok es ∧ es.filterMap Entry.field? ≠ [] ∧
        ∃ body, bodyOf (Names.forIdentifiers value.idents) es = .ok body ∧
        ⟨arg, es.filterMap Entry.field?, body⟩ = g := by
  simp only [collect, bind_eq_ok]
  constructor
  · rintro ⟨ls, hls, es, hes, h⟩
    split at h
    · cases h
    next hn =>
      obtain ⟨body, hb, h⟩ := bind_eq_ok.mp h
      exact ⟨es, ⟨ls, hls, hes⟩, fun he => hn (List.isEmpty_iff.mpr he), body, hb, pure_eq_ok.mp h⟩
  · rintro ⟨es, ⟨ls, hls, hes⟩, hn, body, hb, rfl⟩
    refine ⟨ls, hls, es, hes, ?_⟩
    rw [if_neg fun he => hn (List.isEmpty_iff.mp he), hb]
    rfl

lemma field?_entryOf (default : Mode) (cs : List Char) (line : Expr) :
    (entryOf default cs line).field? = (Collection.field? cs line).map (DeclaredField.toField default) := by
  rw [entryOf]
  cases Collection.field? cs line <;> rfl

lemma isField_eq (cs : List Char) (line : Expr) :
    Collection.isField line = (Collection.field? cs line).isSome := by
  rw [Collection.isField, Collection.field?]
  split <;> rfl

lemma resolves_entryOf (default : Mode) (cs : List Char) (line : Expr) :
    (∃ r, (entryOf default cs line).expr.resolve = .ok r) ↔
      (∀ f, Collection.field? cs line = some f → ∃ r, f.value.resolve = .ok r) ∧
        (Collection.isField line = false → ∃ r, line.unflagged.resolve = .ok r) := by
  rw [entryOf, isField_eq cs line]
  cases Collection.field? cs line <;> simp [Entry.expr]

lemma fields_entriesOf (default : Mode) (cs : List Char) (p : Option Expr × Expr) :
    (entriesOf default cs p).filterMap Entry.field? =
    (Collection.fields cs p).map (DeclaredField.toField default) := by
  have hitems (items : List Expr) : (items.map (entryOf default cs)).filterMap Entry.field? =
      (items.filterMap (Collection.field? cs)).map (DeclaredField.toField default) := by
    rw [List.filterMap_map, List.map_filterMap]
    exact List.filterMap_congr fun line _ => field?_entryOf default cs line
  fun_cases entriesOf default cs p with
  | case1 name value => rfl
  | case2 items => exact hitems items
  | case3 items => exact hitems items
  | case4 p hq ht hb =>
    rw [Collection.fields]
    · rfl
    all_goals assumption

lemma resolves_entriesOf (default : Mode) (cs : List Char) (p : Option Expr × Expr) :
    (∀ entry ∈ entriesOf default cs p, ∃ r, entry.expr.resolve = .ok r) ↔
      (∀ f ∈ Collection.fields cs p, ∃ r, f.value.resolve = .ok r) ∧
        ∀ line ∈ Collection.lines p, Collection.isField line = false → ∃ r, line.unflagged.resolve = .ok r := by
  have hitems (items : List Expr) : (∀ entry ∈ items.map (entryOf default cs), ∃ r, entry.expr.resolve = .ok r) ↔
      (∀ f ∈ items.filterMap (Collection.field? cs), ∃ r, f.value.resolve = .ok r) ∧
        ∀ line ∈ items, Collection.isField line = false → ∃ r, line.unflagged.resolve = .ok r := by
    rw [List.forall_mem_map, List.forall_mem_filterMap, ← forall₂_and]
    exact forall₂_congr fun line _ => resolves_entryOf default cs line
  fun_cases entriesOf default cs p with
  | case1 name value => simp [Collection.fields, Collection.lines, Entry.expr]
  | case2 items => exact hitems items
  | case3 items => exact hitems items
  | case4 p hq ht hb =>
    rw [Collection.fields, Collection.lines]
    · simp
    all_goals assumption

lemma collect_ofChars (hc : Flags.Consistent cs) {p : Option Expr × Expr}
    (hp : p.1 = none → p.2.unflagged.target? = none) {arg : Nat} {default : Mode} {g : TableGroup} :
    collect arg default (.ofChars cs) p.1 p.2 = .ok g ↔
      (Collection.Shaped p ∧ (∀ line ∈ Collection.lines p, Collection.isField line = true → LineFits cs line) ∧
        ((Collection.fields cs p).map DeclaredField.name).Nodup) ∧ Collection.fields cs p ≠ [] ∧
      ∃ body, bodyOf (Names.forIdentifiers p.2.idents) (entriesOf default cs p) = .ok body ∧
        ⟨arg, (Collection.fields cs p).map (DeclaredField.toField default), body⟩ = g := by
  rw [collect_eq_ok_iff]
  simp only [gives_read hc default p hp _]
  constructor
  · rintro ⟨_, ⟨hr, rfl⟩, hn, hb⟩
    rw [fields_entriesOf] at hn hb
    exact ⟨hr, fun he => hn (List.map_eq_nil_iff.mpr he), hb⟩
  · rintro ⟨hr, hn, hb⟩
    refine ⟨_, ⟨hr, rfl⟩, ?_⟩
    rw [fields_entriesOf]
    exact ⟨fun he => hn (List.map_eq_nil_iff.mp he), hb⟩

end TableGroup

lemma Argument.target?_bare (e : Expr) (h : (bare e).1 = none) : (bare e).2.unflagged.target? = none := by
  have ha : e.unflagged.assigned = e.unflagged := by
    rw [bare] at h
    cases hu : e.unflagged with
    | assign sink value =>
      rw [hu] at h
      cases h
    | _ => rfl
  rw [bare, ha, e.unflagged_unflagged, e.unflagged_unflagged]
  exact h

lemma expandArgument_eq_collect {construct : Construct} {config : Config} {arg : Nat} {e : Expr} {x : Expansion}
    (ht : 't' ∈ e.flagChars) (hs : construct.takesSinks = true) : expandArgument construct config arg e = .ok x ↔
      (Argument.FlagsFit e ∧ Argument.hasForm (Argument.bare e) = true) ∧ ∃ g, .group g = x ∧
        TableGroup.collect arg construct.defaultMode (.ofChars e.flagChars)
          (Argument.bare e).1 (Argument.bare e).2 = .ok g := by
  have htable : (Flags.ofChars e.flagChars).table = true := decide_eq_true ht
  cases x with
  | triple t =>
    rw [expandArgument_eq_triple]
    simp only [Argument.gives_ofExpr e _]
    refine iff_of_false ?_ (by simp)
    rintro ⟨_, ⟨-, rfl⟩, hf, -⟩
    exact Bool.false_ne_true (hf.symm.trans htable)
  | group g =>
    rw [expandArgument_eq_group]
    simp only [Argument.gives_ofExpr e _, Expansion.group.injEq, exists_eq_left]
    constructor
    · rintro ⟨_, ⟨hf, rfl⟩, -, -, hg⟩
      exact ⟨hf, hg⟩
    · rintro ⟨hf, hg⟩
      exact ⟨_, ⟨hf, rfl⟩, htable, hs, hg⟩

namespace Collection

def declared (e : Expr) : List DeclaredField := fields e.flagChars (Argument.bare e)

/-- What an argument with a `t` has to be like; `default` is the mode of fields that do not choose one. -/
structure Accepted (default : Mode) (e : Expr) : Prop where
  fits : Argument.FlagsFit e
  linesFit : ∀ line ∈ lines (Argument.bare e), TableGroup.LineFits e.flagChars line
  shaped : Shaped (Argument.bare e)
  nonempty : declared e ≠ []
  distinct : ((declared e).map DeclaredField.name).Nodup
  uniform : TableGroup.Uniform ((declared e).map (DeclaredField.toField default))
  values : ∀ f ∈ declared e, ∃ r, f.value.resolve = .ok r
  others : ∀ line ∈ lines (Argument.bare e), isField line = false → ∃ r, line.resolve = .ok r

variable {p : Option Expr × Expr} {line : Expr}

lemma Shaped.hasForm (h : Shaped p) : Argument.hasForm p = true := by
  fun_cases Argument.hasForm p with
  | case1 =>
    obtain ⟨name, hn⟩ := h
    cases hn
  | case2 | case3 => cases h
  | case4 => rfl

lemma Shaped.outerFlags_eq_nil (h : Shaped p) (hl : line ∈ lines p) (hf : isField line = false) :
    line.outerFlags = [] := by
  have hn := Bool.eq_false_iff.mp hf
  revert hl
  fun_cases lines p with
  | case1 items => exact fun hl => absurd (h line hl) hn
  | case2 items => exact fun hl => (h line hl).2 (Bool.eq_false_iff.mpr fun ha => hn ((h line hl).1 ha))
  | case3 => exact fun hl => absurd hl List.not_mem_nil

lemma flagTexts_of_resolve {r : Expr} (ho : line.outerFlags = []) (h : line.resolve = .ok r) :
    line.flagTexts = [] := by
  rw [Expr.flagTexts, ho, Expr.unflagged_eq_self ho]
  cases line with
  | flagged => cases ho
  | assign sink value =>
    rw [Expr.resolve] at h
    split at h
    · cases h
    · obtain ⟨s, -, h⟩ := bind_eq_ok.mp h
      obtain ⟨v, hv, -⟩ := bind_eq_ok.mp h
      cases value with
      | flagged => cases hv
      | _ => rfl
  | _ => rfl

lemma Accepted.intro {default : Mode} {e : Expr} (hfits : Argument.FlagsFit e) (hs : Shaped (Argument.bare e))
    (hfit : ∀ line ∈ lines (Argument.bare e), isField line = true → TableGroup.LineFits e.flagChars line)
    (hd : ((declared e).map DeclaredField.name).Nodup) (hn : declared e ≠ [])
    (hu : TableGroup.Uniform ((declared e).map (DeclaredField.toField default)))
    (hv : ∀ f ∈ declared e, ∃ r, f.value.resolve = .ok r)
    (ho : ∀ line ∈ lines (Argument.bare e), isField line = false → ∃ r, line.unflagged.resolve = .ok r) :
    Accepted default e := by
  have hplain : ∀ line ∈ lines (Argument.bare e), isField line = false → line.unflagged = line :=
    fun line hl hf => Expr.unflagged_eq_self (hs.outerFlags_eq_nil hl hf)
  have hothers : ∀ line ∈ lines (Argument.bare e), isField line = false → ∃ r, line.resolve = .ok r :=
    fun line hl hf => hplain line hl hf ▸ ho line hl hf
  refine ⟨hfits, fun line hl => ?_, hs, hn, hd, hu, hv, hothers⟩
  cases hf : isField line with
  | true => exact hfit line hl hf
  | false =>
    -- reading does not look at these flags, but there are none
    obtain ⟨r, hr⟩ := hothers line hl hf
    have hnone := flagTexts_of_resolve (hs.outerFlags_eq_nil hl hf) hr
    have hchars : line.flagChars = [] := by rw [Expr.flagChars, hnone, List.flatMap_nil]
    rw [TableGroup.LineFits, hnone, hchars, List.append_nil]
    exact ⟨fun _ ht => absurd ht List.not_mem_nil, hfits.2, List.not_mem_nil⟩

lemma accepted_iff {default : Mode} {e : Expr} (arg : Nat) : Accepted default e ↔
    (Argument.FlagsFit e ∧ Argument.hasForm (Argument.bare e) = true) ∧ ∃ g : TableGroup,
      TableGroup.collect arg default (.ofChars e.flagChars) (Argument.bare e).1 (Argument.bare e).2 = .ok g ∧
        ∃ t, g.toTriple = .ok t := by
  constructor
  · intro h
    refine ⟨⟨h.fits, h.shaped.hasForm⟩, ?_⟩
    have hfields := TableGroup.fields_entriesOf default e.flagChars (Argument.bare e)
    have hentries := (TableGroup.resolves_entriesOf default e.flagChars (Argument.bare e)).mpr
      ⟨h.values, fun line hl hf => ?_⟩
    · obtain ⟨body, hb⟩ :=
        (TableGroup.bodyOf_ok_iff (Names.forIdentifiers (Argument.bare e).2.idents)).mpr hentries
      refine ⟨_, (TableGroup.collect_ofChars h.fits.2 (Argument.target?_bare e)).mpr
        ⟨⟨h.shaped, fun line hl _ => h.linesFit line hl, h.distinct⟩, h.nonempty, body, hb, rfl⟩, ?_⟩
      exact TableGroup.toTriple_ok_iff.mpr ⟨fun he => h.nonempty (List.map_eq_nil_iff.mp he), h.uniform⟩
    · rw [Expr.unflagged_eq_self (h.shaped.outerFlags_eq_nil hl hf)]
      exact h.others line hl hf
  · rintro ⟨⟨hfits, -⟩, g, hg, ht⟩
    obtain ⟨⟨hs, hfit, hd⟩, hn, body, hb, rfl⟩ :=
      (TableGroup.collect_ofChars hfits.2 (Argument.target?_bare e)).mp hg
    obtain ⟨hv, ho⟩ := (TableGroup.resolves_entriesOf default _ _).mp ((TableGroup.bodyOf_ok_iff _).mp ⟨body, hb⟩)
    exact .intro hfits hs hfit hd hn (TableGroup.toTriple_ok_iff.mp ht).2 hv ho

end Collection

theorem expandArgument_of_collection (construct : Construct) (config : Config) (arg : Nat) {e : Expr}
    (ht : 't' ∈ e.flagChars) (hs : construct.takesSinks = true) :
    ((∃ x t, expandArgument construct config arg e = .ok x ∧ x.toTriple = .ok t) ↔
      Collection.Accepted construct.defaultMode e) ∧
    ∀ x t, expandArgument construct config arg e = .ok x → x.toTriple = .ok t →
      t.arg = arg ∧ t.sink = some .asTable ∧ t.passthrough = false ∧
      (∀ f ∈ Collection.declared e, t.mode = (f.toField construct.defaultMode).mode ∧
        t.passMissing = (f.toField construct.defaultMode).passMissing) ∧
      ∃ g, x = .group g ∧ (t.sources, t.function) = g.body.abstracted ∧
        TableGroup.YieldsFields ((Collection.declared e).map DeclaredField.name) g.body := by
  constructor
  · rw [Collection.accepted_iff arg]
    simp only [expandArgument_eq_collect ht hs]
    constructor
    · rintro ⟨x, t, ⟨hf, g, rfl, hg⟩, ht⟩
      exact ⟨hf, g, hg, t, ht⟩
    · rintro ⟨hf, g, hg, t, ht⟩
      exact ⟨.group g, t, ⟨hf, g, rfl, hg⟩, ht⟩
  · intro x t hx hxt
    obtain ⟨⟨hf, -⟩, g, rfl, hg⟩ := (expandArgument_eq_collect ht hs).mp hx
    obtain ⟨-, -, body, hb, rfl⟩ := (TableGroup.collect_ofChars hf.2 (Argument.target?_bare e)).mp hg
    obtain ⟨ha, hmodes⟩ := TableGroup.fields_toTriple hxt
    obtain ⟨hsink, hpass⟩ := TableGroup.sink_toTriple hxt
    have hy := TableGroup.yieldsFields_bodyOf hb
    rw [TableGroup.fields_entriesOf, List.map_map] at hy
    exact ⟨ha, hsink, hpass, List.forall_mem_map.mp hmodes, _, rfl, TableGroup.toTriple_eq_ok hxt, hy⟩

theorem expandArgument_of_collection_default_matters :
    let e := Expr.flagged "tm" (.block [.assign (.ident "z") (.apply "+" [.quote "a", .literal (.int 1)]),
      .flagged "r" (.assign (.quote "x") (.ident "z")), .assign (.quote "y") (.flagged "mm" (.quote "b"))])
    't' ∈ e.flagChars ∧ Construct.transform.takesSinks = true ∧ Construct.combine.takesSinks = true ∧
      Collection.Accepted .rowWise e ∧
      (∃ x t, expandArgument .transform {} 1 e = .ok x ∧ x.toTriple = .ok t ∧ t.mode = .rowWise ∧
        t.passMissing = true ∧ t.sink = some .asTable) ∧
      ¬ ∃ x t, expandArgument .combine {} 1 e = .ok x ∧ x.toTriple = .ok t := by
  intro e
  have ht : 't' ∈ e.flagChars := by decide
  have hx : ∃ g t, expandArgument .transform {} 1 e = .ok (.group g) ∧ g.toTriple = .ok t := ⟨_, _, rfl, rfl⟩
  obtain ⟨g, t, hx, hxt⟩ := hx
  obtain ⟨hiff, hresult⟩ := expandArgument_of_collection .transform {} 1 ht rfl
  obtain ⟨-, hsink, -, hmodes, -⟩ := hresult _ t hx hxt
  obtain ⟨hm, hp⟩ := hmodes ⟨"x", ['t', 'm', 'r'], .ident "z"⟩ List.mem_cons_self
  refine ⟨ht, rfl, rfl, hiff.mp ⟨_, t, hx, hxt⟩, ⟨_, t, hx, hxt, hm, hp, hsink⟩, fun hc => ?_⟩
  have hu := ((expandArgument_of_collection .combine {} 1 ht rfl).1.mp hc).uniform
  have hmode : Mode.rowWise = Mode.columnWise :=
    (hu _ List.mem_cons_self _ (List.mem_cons_of_mem _ List.mem_cons_self)).1
  cases hmode

end Tabular
