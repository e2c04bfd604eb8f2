import Tabular.Proofs.CollectionLines

/-!
What the entries of a table collection become. They are resolved one by one. Without statements the values go
straight into the tuple; with statements every field is held in a variable of its own, from which the tuple is
made at the end.
-/

namespace Tabular

def Names.freshAll (s : Names) : List String → List String
  | [] => []
  | base :: bases => s.free base :: (s.fresh base).2.freshAll bases

lemma Names.length_freshAll (s : Names) (bases : List String) : (s.freshAll bases).length = bases.length := by
  induction bases generalizing s with
  | nil => rfl
  | cons base bases ih => exact congrArg (· + 1) (ih _)

namespace TableGroup

def Entry.map (f : Expr → Expr) : Entry → Entry
  | field d value => field d (f value)
  | statement e => statement (f e)

def Entry.pair? : Entry → Option (String × Expr)
  | field f value => some (f.name, value)
  | statement _ => none

def Entry.resolve : Entry → Except Fault Entry
  | field f value => return field f (← value.resolve)
  | statement e => return statement (← e.resolve)

def fieldNames (es : List Entry) : List String := (es.filterMap Entry.field?).map TableField.name

def assignments (xs : List String) : List Entry → List Expr
  | [] => []
  | .statement e :: es => e :: assignments xs es
  | .field _ value :: es => .assign (.ident (xs.headD "")) value :: assignments xs.tail es

def readings (xs : List String) (es : List Entry) : List (String × Expr) := (fieldNames es).zip (xs.map .ident)

def bodyIn (xs : List String) (es : List Entry) : Expr :=
  if es.all Entry.isField then .namedTuple (es.filterMap Entry.pair?)
  else .block (assignments xs es ++ [.namedTuple (readings xs es)])

variable {es rs : List Entry} {body : Expr}

lemma assignments_field (locals : Names) (f : TableField) (value : Expr) (es : List Entry) :
    assignments (locals.freshAll (fieldNames (.field f value :: es))) (.field f value :: es) =
      .assign (.ident (locals.free f.name)) value ::
        assignments ((locals.fresh f.name).2.freshAll (fieldNames es)) es := rfl

lemma readings_field (locals : Names) (f : TableField) (value : Expr) (es : List Entry) :
    readings (locals.freshAll (fieldNames (.field f value :: es))) (.field f value :: es) =
      (f.name, .ident (locals.free f.name)) ::
        readings ((locals.fresh f.name).2.freshAll (fieldNames es)) es := rfl

lemma Entry.resolve_eq_ok {entry r : Entry} (h : entry.resolve = .ok r) :
    ∃ e, entry.expr.resolve = .ok e ∧ r = entry.map fun _ => e := by
  cases entry with
  | field f value | statement value =>
    obtain ⟨e, he, h⟩ := bind_eq_ok.mp h
    exact ⟨e, he, (pure_eq_ok.mp h).symm⟩

lemma Entry.resolve_ok_iff {entry : Entry} : (∃ r, entry.resolve = .ok r) ↔ ∃ e, entry.expr.resolve = .ok e := by
  cases entry <;> exact map_ok_iff

@[simp] lemma isField_map (f : Expr → Expr) (entry : Entry) : (entry.map f).isField = entry.isField := by
  cases entry <;> rfl

@[simp] lemma field?_map (f : Expr → Expr) (entry : Entry) : (entry.map f).field? = entry.field? := by
  cases entry <;> rfl

@[simp] lemma expr_map (f : Expr → Expr) (entry : Entry) : (entry.map f).expr = f entry.expr := by
  cases entry <;> rfl

@[simp] lemma fieldNames_map (f : Expr → Expr) (es : List Entry) :
    fieldNames (es.map (Entry.map f)) = fieldNames es := by
  rw [fieldNames, fieldNames, List.filterMap_map]
  exact congrArg (List.map TableField.name) (List.filterMap_congr fun entry _ => field?_map f entry)

lemma all_isField_map (f : Expr → Expr) (es : List Entry) :
    (es.map (Entry.map f)).all Entry.isField = es.all Entry.isField := by
  simp [List.all_map, Function.comp_def]

lemma all_isField_of_resolve (h : List.Forall₂ (fun entry r => entry.resolve = .ok r) es rs) :
    rs.all Entry.isField = es.all Entry.isField := by
  induction h with
  | nil => rfl
  | cons hr _ ih =>
    obtain ⟨e, -, rfl⟩ := Entry.resolve_eq_ok hr
    rw [List.all_cons, List.all_cons, isField_map, ih]

lemma fields_of_resolve (h : List.Forall₂ (fun entry r => entry.resolve = .ok r) es rs) :
    rs.filterMap Entry.field? = es.filterMap Entry.field? := by
  induction h with
  | nil => rfl
  | cons hr _ ih =>
    obtain ⟨e, -, rfl⟩ := Entry.resolve_eq_ok hr
    rw [List.filterMap_cons, List.filterMap_cons, field?_map, ih]

lemma inlineFields_eq (h : es.all Entry.isField = true) :
    inlineFields es = do return (← es.mapM Entry.resolve).filterMap Entry.pair? := by
  induction es with
  | nil => rfl
  | cons entry es ih =>
    cases entry with
    | statement => cases h
    | field f value =>
      simp only [inlineFields, ih h, List.mapM_cons, Entry.resolve, bind_assoc, pure_bind]
      rfl

lemma statements_eq (locals : Names) (es : List Entry) : statements locals es = do
    let rs ← es.mapM Entry.resolve
    return (assignments (locals.freshAll (fieldNames es)) rs, readings (locals.freshAll (fieldNames es)) rs) := by
  induction es generalizing locals with
  | nil => rfl
  | cons entry es ih =>
    cases entry with
    | statement e =>
      simp only [statements, ih, List.mapM_cons, Entry.resolve, bind_assoc, pure_bind]
      rfl
    | field f value =>
      simp only [statements, ih, List.mapM_cons, Entry.resolve, bind_assoc, pure_bind]
      rfl

theorem bodyOf_eq (locals : Names) (es : List Entry) :
    bodyOf locals es = do return bodyIn (locals.freshAll (fieldNames es)) (← es.mapM Entry.resolve) := by
  rw [bodyOf]
  split
  next h =>
    rw [inlineFields_eq h]
    simp only [bind_assoc, pure_bind]
    -- which of the two forms applies can be seen after resolving as well
    refine map_congr_of_ok fun rs hrs => ?_
    rw [bodyIn, if_pos ((all_isField_of_resolve (mapM_eq_ok.mp hrs)).trans h)]
  next h =>
    rw [statements_eq]
    simp only [bind_assoc, pure_bind]
    refine map_congr_of_ok fun rs hrs => ?_
    rw [bodyIn, all_isField_of_resolve (mapM_eq_ok.mp hrs), if_neg h]

lemma bodyOf_eq_ok {locals : Names} (h : bodyOf locals es = .ok body) :
    ∃ rs, List.Forall₂ (fun entry r => entry.resolve = .ok r) es rs ∧
      body = bodyIn (locals.freshAll (fieldNames rs)) rs := by
  rw [bodyOf_eq] at h
  obtain ⟨rs, hrs, h⟩ := bind_eq_ok.mp h
  replace hrs := mapM_eq_ok.mp hrs
  refine ⟨rs, hrs, ?_⟩
  rw [fieldNames, fields_of_resolve hrs]
  exact (pure_eq_ok.mp h).symm

lemma exists_ident_of_mem_readings {xs : List String} {field : String × Expr} (h : field ∈ readings xs es) :
    ∃ x, field.2 = .ident x := by
  obtain ⟨x, -, hx⟩ := List.mem_map.mp (List.of_mem_zip h).2
  exact ⟨x, hx.symm⟩

lemma map_fst_readings {xs : List String} (h : xs.length = (fieldNames es).length) :
    (readings xs es).map Prod.fst = fieldNames es :=
  List.map_fst_zip (by simp [h])

lemma map_snd_readings {xs : List String} (h : xs.length = (fieldNames es).length) :
    (readings xs es).map Prod.snd = xs.map .ident :=
  List.map_snd_zip (by simp [h])

lemma map_fst_pairs (es : List Entry) : (es.filterMap Entry.pair?).map Prod.fst = fieldNames es := by
  rw [fieldNames, List.map_filterMap, List.map_filterMap]
  exact List.filterMap_congr fun entry _ => by cases entry <;> rfl

lemma resolved_assignments (xs : List String) (h : ∀ r ∈ rs, r.expr.Resolved) :
    ∀ line ∈ assignments xs rs, line.Resolved := by
  induction rs generalizing xs with
  | nil => exact List.forall_mem_nil _
  | cons r rs ih =>
    obtain ⟨hr, hrs⟩ := List.forall_mem_cons.mp h
    cases r with
    | statement e => exact List.forall_mem_cons.mpr ⟨hr, ih xs hrs⟩
    | field f value =>
      have hx (x : String) : (Expr.ident x).Resolved := List.forall_mem_singleton.mpr rfl
      exact List.forall_mem_cons.mpr ⟨Expr.all_assign.mpr ⟨rfl, hx _, hr⟩, ih xs.tail hrs⟩

lemma resolved_bodyIn (xs : List String) (h : ∀ r ∈ rs, r.expr.Resolved) : (bodyIn xs rs).Resolved := by
  rw [bodyIn]
  split
  · refine Expr.all_namedTuple.mpr ⟨rfl, fun field hf => ?_⟩
    obtain ⟨r, hr, hp⟩ := List.mem_filterMap.mp hf
    cases r with
    | statement => cases hp
    | field f value =>
      cases hp
      exact h _ hr
  · refine Expr.all_block.mpr ⟨rfl, List.forall_mem_append.mpr ⟨resolved_assignments xs h, ?_⟩⟩
    refine List.forall_mem_singleton.mpr (Expr.all_namedTuple.mpr ⟨rfl, fun field hf => ?_⟩)
    obtain ⟨x, hx⟩ := exists_ident_of_mem_readings hf
    rw [hx]
    exact List.forall_mem_singleton.mpr rfl

theorem resolved_bodyOf {locals : Names} (h : bodyOf locals es = .ok body) : body.Resolved := by
  obtain ⟨rs, hrs, rfl⟩ := bodyOf_eq_ok h
  refine resolved_bodyIn _ fun r hr => ?_
  obtain ⟨entry, -, hentry⟩ := exists_of_mem_right hrs hr
  obtain ⟨e, he, rfl⟩ := Entry.resolve_eq_ok hentry
  rw [expr_map]
  exact Expr.resolved_resolve he

lemma bodyOf_assignsNoColumn {locals : Names} (h : bodyOf locals es = .ok body) : body.AssignsNoColumn :=
  (resolved_bodyOf h).assignsNoColumn

end TableGroup

end Tabular
