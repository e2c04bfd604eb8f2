import Tabular.Proofs.FlagSpelling
import Tabular.Proofs.NormalForms

namespace Tabular

namespace TableGroup

variable {es : List Entry}

lemma Entry.gives_resolve (entry : Entry) :
    Gives entry.resolve entry.expr.Clean (entry.map Expr.withMentionsNamed) := by
  cases entry with
  | field f value => exact value.gives_resolve.map (Entry.field f)
  | statement e => exact e.gives_resolve.map Entry.statement

lemma gives_bodyOf (locals : Names) (es : List Entry) : Gives (bodyOf locals es) (∀ entry ∈ es, entry.expr.Clean)
    (bodyIn (locals.freshAll (fieldNames es)) (es.map (Entry.map Expr.withMentionsNamed))) := by
  rw [bodyOf_eq]
  exact (Gives.mapM fun entry _ => entry.gives_resolve).map (bodyIn (locals.freshAll (fieldNames es)))

section body

variable (σ : Column → Column)

lemma assignments_recolumn (xs : List String) (es : List Entry) :
    assignments xs (es.map (Entry.map (Expr.recolumn σ))) = (assignments xs es).map (Expr.recolumn σ) := by
  induction es generalizing xs with
  | nil => rfl
  | cons entry es ih =>
    cases entry with
    | statement e => exact congrArg (e.recolumn σ :: ·) (ih xs)
    | field f value => exact congrArg ((Expr.assign (.ident (xs.headD "")) value).recolumn σ :: ·) (ih xs.tail)

lemma mapColumns_readings (f : Column → Expr) (xs : List String) (es : List Entry) :
    (readings xs es).map (fun field => (field.1, field.2.mapColumns f)) = readings xs es := by
  rw [readings, ← List.map_id (fieldNames es), List.zip_map, List.map_map]
  rfl

lemma pairs_recolumn (es : List Entry) : (es.map (Entry.map (Expr.recolumn σ))).filterMap Entry.pair? =
    (es.filterMap Entry.pair?).map fun field => (field.1, field.2.recolumn σ) := by
  have hp (entry : Entry) : (entry.map (Expr.recolumn σ)).pair? =
      entry.pair?.map fun field => (field.1, field.2.recolumn σ) := by cases entry <;> rfl
  rw [List.filterMap_map, List.map_filterMap]
  exact List.filterMap_congr fun entry _ => hp entry

lemma bodyIn_recolumn (xs : List String) (es : List Entry) :
    bodyIn xs (es.map (Entry.map (Expr.recolumn σ))) = (bodyIn xs es).recolumn σ := by
  rw [bodyIn, bodyIn, all_isField_map]
  split
  · rw [pairs_recolumn, Expr.recolumn, Expr.mapColumns, Expr.mapColumnsFields_eq]
    rfl
  · rw [assignments_recolumn, Expr.recolumn, Expr.mapColumns, Expr.mapColumnsItems_eq, List.map_append,
      List.map_singleton, Expr.mapColumns, Expr.mapColumnsFields_eq, mapColumns_readings, readings, readings,
      fieldNames_map]
    rfl

lemma mentions_assignments (xs : List String) (es : List Entry) :
    (assignments xs es).flatMap Expr.mentions = es.flatMap fun entry => entry.expr.mentions := by
  induction es generalizing xs with
  | nil => rfl
  | cons entry es ih =>
    cases entry with
    | statement e => exact congrArg (e.mentions ++ ·) (ih xs)
    | field f value => exact congrArg (value.mentions ++ ·) (ih xs.tail)

lemma mentions_readings (xs : List String) (es : List Entry) : (readings xs es).flatMap (·.2.mentions) = [] := by
  refine List.flatMap_eq_nil_iff.mpr fun field hf => ?_
  obtain ⟨x, hx⟩ := exists_ident_of_mem_readings hf
  rw [hx]
  rfl

lemma mentions_pairs (h : es.all Entry.isField = true) : (es.filterMap Entry.pair?).flatMap (·.2.mentions) =
    es.flatMap fun entry => entry.expr.mentions := by
  induction es with
  | nil => rfl
  | cons entry es ih =>
    cases entry with
    | statement e => cases h
    | field f value => exact congrArg (value.mentions ++ ·) (ih h)

lemma mentions_bodyIn (xs : List String) (es : List Entry) :
    (bodyIn xs es).mentions = es.flatMap fun entry => entry.expr.mentions := by
  rw [bodyIn]
  split
  next h => rw [Expr.mentions, Expr.mentionsOfFields_eq, mentions_pairs h]
  next =>
    rw [Expr.mentions, Expr.mentionsOf_eq, List.flatMap_append, mentions_assignments, List.flatMap_singleton,
      Expr.mentions, Expr.mentionsOfFields_eq, mentions_readings, List.append_nil]

lemma readings_injective {xs ys : List String} (hx : xs.length = (fieldNames es).length)
    (hy : ys.length = (fieldNames es).length) (h : readings xs es = readings ys es) : xs = ys := by
  have hm := congrArg (List.map Prod.snd) h
  rw [map_snd_readings hx, map_snd_readings hy] at hm
  exact List.map_injective_iff.mpr (fun _ _ => Expr.ident.inj) hm

lemma function_bodyIn_iff {xs ys : List String} (hn : es.all Entry.isField = false)
    (hx : xs.length = (fieldNames es).length) (hy : ys.length = (fieldNames es).length) :
    (bodyIn xs es).abstracted.2 = (bodyIn ys es).abstracted.2 ↔ xs = ys := by
  refine ⟨fun h => ?_, fun h => by rw [h]⟩
  have hb := congrArg Closure.body h
  simp only [Expr.abstracted_eq, bodyIn, hn, Bool.false_eq_true, if_false, Expr.mapColumns,
    Expr.mapColumnsItems_eq, List.map_append, List.map_singleton, Expr.mapColumnsFields_eq, mapColumns_readings,
    Expr.block.injEq] at hb
  have hl := List.append_inj_right' hb rfl
  exact readings_injective hx hy (Expr.namedTuple.inj (List.singleton_inj.mp hl))

end body

end TableGroup

namespace Collection

lemma field?_of_unflagged (cs : List Char) {line value : Expr} {name : String}
    (h : line.unflagged = .assign (.quote name) value) :
    field? cs line = some ⟨name, cs ++ line.flagChars, value.unflagged⟩ := by
  rw [field?, h]

lemma fields_of_none (cs : List Char) (value : Expr) :
    fields cs (none, value) = (lines (none, value)).filterMap (field? cs) := by
  cases value <;> rfl

lemma fields_of_some (cs : List Char) {sink : Expr} (value : Expr) (h : ∀ name, sink ≠ .quote name) :
    fields cs (some sink, value) = [] := by
  cases sink with
  | quote name => exact absurd rfl (h name)
  | _ => rfl

end Collection

namespace TableGroup

variable (default : Mode) (cs : List Char)

lemma entriesOf_of_none (value : Expr) :
    entriesOf default cs (none, value) = (Collection.lines (none, value)).map (entryOf default cs) := by
  cases value <;> rfl

lemma entriesOf_of_some (sink value : Expr) : entriesOf default cs (some sink, value) =
    (Collection.fields cs (some sink, value)).map fun f => .field (f.toField default) f.value := by
  cases sink <;> rfl

lemma isField_entryOf (line : Expr) : (entryOf default cs line).isField = Collection.isField line := by
  rw [entryOf, isField_eq cs]
  cases Collection.field? cs line <;> rfl

lemma all_isField_entriesOf (p : Option Expr × Expr) :
    (entriesOf default cs p).all Entry.isField = (Collection.lines p).all Collection.isField := by
  obtain ⟨_ | sink, value⟩ := p
  · rw [entriesOf_of_none, List.all_map]
    exact congrArg (List.all _) (funext fun line => isField_entryOf default cs line)
  · rw [entriesOf_of_some, List.all_map]
    exact List.all_eq_true.mpr fun _ _ => rfl

end TableGroup

namespace Collection

def entries (default : Mode) (e : Expr) : List TableGroup.Entry :=
  (TableGroup.entriesOf default e.flagChars (Argument.bare e)).map (TableGroup.Entry.map Expr.withMentionsNamed)

/-- The variables that hold the fields of a collection with statements. They avoid all identifiers that are written
in it, those inside interpolations included. -/
def fieldVariables (e : Expr) : List String :=
  if 't' ∈ e.flagChars ∧ (lines (Argument.bare e)).all isField = false then
    (Names.forIdentifiers (Argument.bare e).2.idents).freshAll ((declared e).map DeclaredField.name)
  else []

variable {construct : Construct} {config : Config} {arg : Nat} {e : Expr} {t : Triple}

lemma lineTriple_eq_ok_iff (ht : 't' ∈ e.flagChars) : Call.lineTriple construct config (arg, e) = .ok t ↔
    construct.takesSinks = true ∧ (Argument.FlagsFit e ∧ Argument.hasForm (Argument.bare e) = true) ∧
    ∃ g : TableGroup,
      TableGroup.collect arg construct.defaultMode (.ofChars e.flagChars)
        (Argument.bare e).1 (Argument.bare e).2 = .ok g ∧ g.toTriple = .ok t := by
  rw [Call.lineTriple, bind_eq_ok]
  constructor
  · rintro ⟨x, hx, hxt⟩
    cases hs : construct.takesSinks with
    | true =>
      obtain ⟨hf, g, rfl, hg⟩ := (expandArgument_eq_collect ht hs).mp hx
      exact ⟨rfl, hf, g, hg, hxt⟩
    | false =>
      cases x with
      | triple u => exact absurd ht (Argument.expandArgument_eq_tripleOf.mp hx).2.1
      | group g =>
        obtain ⟨a, -, -, htakes, -⟩ := expandArgument_eq_group.mp hx
        cases hs.symm.trans htakes
  · rintro ⟨hs, hf, g, hg, hxt⟩
    exact ⟨.group g, (expandArgument_eq_collect ht hs).mpr ⟨hf, g, rfl, hg⟩, hxt⟩

lemma lineTriple_ok_iff (ht : 't' ∈ e.flagChars) : (∃ t, Call.lineTriple construct config (arg, e) = .ok t) ↔
    construct.takesSinks = true ∧ Accepted construct.defaultMode e := by
  simp only [lineTriple_eq_ok_iff ht, accepted_iff arg]
  constructor
  · rintro ⟨t, hs, hf, g, hg, hxt⟩
    exact ⟨hs, hf, g, hg, t, hxt⟩
  · rintro ⟨hs, hf, g, hg, t, hxt⟩
    exact ⟨t, hs, hf, g, hg, hxt⟩

lemma fieldNames_entries (default : Mode) (e : Expr) :
    TableGroup.fieldNames (entries default e) = (declared e).map DeclaredField.name := by
  rw [entries, TableGroup.fieldNames_map, TableGroup.fieldNames, TableGroup.fields_entriesOf, List.map_map]
  rfl

lemma isField_entries (default : Mode) (e : Expr) :
    (entries default e).all TableGroup.Entry.isField = (lines (Argument.bare e)).all isField := by
  rw [entries, TableGroup.all_isField_map, TableGroup.all_isField_entriesOf]

lemma bodyIn_fieldVariables (ht : 't' ∈ e.flagChars) (default : Mode) :
    TableGroup.bodyIn ((Names.forIdentifiers (Argument.bare e).2.idents).freshAll
      ((declared e).map DeclaredField.name))
      (entries default e) = TableGroup.bodyIn (fieldVariables e) (entries default e) := by
  have ha := isField_entries default e
  cases hl : (lines (Argument.bare e)).all isField with
  | true => rw [TableGroup.bodyIn, TableGroup.bodyIn, if_pos (ha.trans hl), if_pos (ha.trans hl)]
  | false => rw [fieldVariables, if_pos ⟨ht, hl⟩]

structure Yields (default : Mode) (arg : Nat) (e : Expr) (t : Triple) : Prop where
  arg : t.arg = arg
  sink : t.sink = some .asTable
  passthrough : t.passthrough = false
  modes : ∀ f ∈ declared e, t.mode = (f.toField default).mode ∧ t.passMissing = (f.toField default).passMissing
  sources : t.sources = (TableGroup.bodyIn (fieldVariables e) (entries default e)).abstracted.1
  function : t.function = (TableGroup.bodyIn (fieldVariables e) (entries default e)).abstracted.2

lemma yields_of_lineTriple (ht : 't' ∈ e.flagChars) (h : Call.lineTriple construct config (arg, e) = .ok t) :
    Yields construct.defaultMode arg e t := by
  obtain ⟨-, ⟨hf, -⟩, g, hg, hgt⟩ := (lineTriple_eq_ok_iff ht).mp h
  obtain ⟨-, -, body, hb, rfl⟩ := (TableGroup.collect_ofChars hf.2 (Argument.target?_bare e)).mp hg
  obtain ⟨ha, hmodes⟩ := TableGroup.fields_toTriple hgt
  obtain ⟨hsink, hpass⟩ := TableGroup.sink_toTriple hgt
  have habstracted := TableGroup.toTriple_eq_ok hgt
  have hbody := (TableGroup.gives_bodyOf _ _).eq_of_ok hb
  rw [← TableGroup.fieldNames_map Expr.withMentionsNamed] at hbody
  change body = TableGroup.bodyIn (Names.freshAll _ (TableGroup.fieldNames (entries _ e))) (entries _ e) at hbody
  rw [fieldNames_entries, bodyIn_fieldVariables ht] at hbody
  rw [hbody] at habstracted
  exact ⟨ha, hsink, hpass, List.forall_mem_map.mp hmodes, congrArg Prod.fst habstracted,
    congrArg Prod.snd habstracted⟩

lemma Accepted.clean {default : Mode} (h : Accepted default e) {entry : TableGroup.Entry}
    (he : entry ∈ TableGroup.entriesOf default e.flagChars (Argument.bare e)) : entry.expr.Clean := by
  obtain ⟨-, g, hg, -⟩ := (accepted_iff 1).mp h
  obtain ⟨-, -, body, hb, -⟩ := (TableGroup.collect_ofChars h.fits.2 (Argument.target?_bare e)).mp hg
  exact (TableGroup.gives_bodyOf _ _).ok_iff.mp ⟨body, hb⟩ entry he

lemma length_fieldVariables (ht : 't' ∈ e.flagChars) (hl : (lines (Argument.bare e)).all isField = false) :
    (fieldVariables e).length = ((declared e).map DeclaredField.name).length := by
  rw [fieldVariables, if_pos ⟨ht, hl⟩, Names.length_freshAll]

end Collection

namespace Argument

variable {construct : Construct} {config : Config} {arg : Nat} {e : Expr}

lemma lineTriple_eq_ok_iff (ht : 't' ∉ e.flagChars) {t : Triple} :
    Call.lineTriple construct config (arg, e) = .ok t ↔
    (FlagsFit e ∧ hasForm (bare e) = true) ∧ ∃ sink r, explicitSink construct config (bare e).1 = .ok sink ∧
      (bare e).2.resolve = .ok r ∧ tripleOf construct config arg (.ofChars e.flagChars) sink r = t := by
  rw [Call.lineTriple, bind_eq_ok]
  constructor
  · rintro ⟨x, hx, hxt⟩
    cases x with
    | triple u =>
      cases hxt
      obtain ⟨hf, -, hr⟩ := expandArgument_eq_tripleOf.mp hx
      exact ⟨hf, hr⟩
    | group g =>
      obtain ⟨a, ha, htable, -⟩ := expandArgument_eq_group.mp hx
      rw [(gives_ofExpr e).eq_of_ok ha] at htable
      exact absurd (of_decide_eq_true htable) ht
  · rintro ⟨hf, hr⟩
    exact ⟨.triple t, expandArgument_eq_tripleOf.mpr ⟨hf, ht, hr⟩, rfl⟩

end Argument

end Tabular
