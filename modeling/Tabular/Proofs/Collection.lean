import Tabular.Proofs.CollectionBody

/-!
Table collection preserves meaning: the function that a collection is merged into computes the fields that its
lines, taken one after the other, describe.
-/

namespace Tabular

namespace Interpreter

def meaningOf (I : Interpreter) (columns : Column → Option Value) (scope : Scope) (e : Expr) : EvalResult :=
  match e.resolve with
  | .ok r => I.evalWith columns scope r
  | .error _ => .error (unsupported e)

/-- The fields that the lines of a collection describe. A line that assigns to an identifier binds it for the lines
below, one that assigns to a column is a field and binds nothing, and any other line is evaluated and dropped. -/
def collected (I : Interpreter) (columns : Column → Option Value) (scope : Scope) :
    List Expr → Except EvalError (List (String × Value))
  | [] => .ok []
  | line :: lines =>
    match line.unflagged with
    | .assign (.quote name) value => do
      let v ← I.meaningOf columns scope value.unflagged
      let fields ← collected I columns scope lines
      return (name, v) :: fields
    | .assign (.ident name) value => do
      let v ← I.meaningOf columns scope value
      collected I columns (scope.insert name v) lines
    | e => do
      let _ ← I.meaningOf columns scope e
      collected I columns scope lines

variable {I : Interpreter} {columns : Column → Option Value} {scope : Scope} {line : Expr} {lines : List Expr}

lemma meaningOf_of_resolve {e r : Expr} (h : e.resolve = .ok r) :
    I.meaningOf columns scope e = I.evalWith columns scope r := by
  rw [meaningOf, h]

lemma collected_field {name : String} {v r : Expr} (h : line.unflagged = .assign (.quote name) v)
    (hr : v.unflagged.resolve = .ok r) : I.collected columns scope (line :: lines) = (do
      let v ← I.evalWith columns scope r
      let fields ← I.collected columns scope lines
      return (name, v) :: fields) := by
  simp only [collected, h, meaningOf_of_resolve hr]

lemma collected_binding {name : String} {v r : Expr} (h : line.unflagged = .assign (.ident name) v)
    (hr : v.resolve = .ok r) : I.collected columns scope (line :: lines) = (do
      let v ← I.evalWith columns scope r
      I.collected columns (scope.insert name v) lines) := by
  simp only [collected, h, meaningOf_of_resolve hr]

lemma collected_other {r : Expr} (hq : ∀ name v, line.unflagged ≠ .assign (.quote name) v)
    (hi : ∀ name v, line.unflagged ≠ .assign (.ident name) v) (hr : line.unflagged.resolve = .ok r) :
    I.collected columns scope (line :: lines) = (do
      let _ ← I.evalWith columns scope r
      I.collected columns scope lines) := by
  rw [collected]
  split
  next he => exact absurd he (hq _ _)
  next he => exact absurd he (hi _ _)
  next he => rw [meaningOf_of_resolve hr]

lemma evalLines_other {both : Prop} {last : Option Value} {r : Expr} (h : ∀ x v, r ≠ .assign (.ident x) v) :
    Follows both (do
      let v ← I.evalWith columns scope r
      I.evalLines columns scope (some v) lines) (I.evalLines columns scope last (r :: lines)) := by
  cases r with
  | assign sink v =>
    cases sink with
    | ident x => exact absurd rfl (h x v)
    | _ => exact Follows.errors both _ _
  | _ => exact Follows.refl both _

lemma evalWith_block {both : Prop} {x : EvalResult}
    (h : Follows both (do return some (← x)) (I.evalLines columns scope none lines)) :
    Follows both x (I.evalWith columns scope (.block lines)) := by
  constructor
  · intro v hv
    rw [evalWith, h.1 (some v) (bind_eq_ok.mpr ⟨v, hv, rfl⟩)]
    rfl
  · intro hb v hv
    obtain ⟨last, hl, hv⟩ := bind_eq_ok.mp hv
    cases last with
    | none => cases hv
    | some w =>
      obtain ⟨u, hu, hw⟩ := bind_eq_ok.mp (h.2 hb (some w) hl)
      cases hv
      cases hw
      exact hu

lemma evalWith_agree {r : Expr} (hr : r.AssignsNoColumn) {s t : Scope} (h : ∀ x ∈ r.idents, s.get? x = t.get? x) :
    Follows (∀ c, ¬ I.Calls (.column c) r) (I.evalWith columns s r) (I.evalWith columns t r) := by
  have hs : Represents (· ∈ r.idents) (fun _ => True) .column columns columns s t :=
    ⟨h, fun c _ => .inl ⟨c, rfl, rfl⟩⟩
  have hn := admits_nodes (I := I) .column (fun _ hx => hx) (fun _ _ => trivial) hr
  have hf := (evalWith_mapColumns hs r hn).mono fun (_ : ∀ c, ¬ I.Calls (.column c) r) _ _ => trivial
  simpa only [Expr.mapColumns_column] using hf

lemma evalWith_resolved {both : Prop} {e r : Expr} (hr : e.resolve = .ok r) {s t : Scope}
    (h : ∀ x ∈ e.idents, s.get? x = t.get? x) (hb : both → ∀ c, ¬ I.Calls (.column c) r) :
    Follows both (I.evalWith columns s r) (I.evalWith columns t r) :=
  (evalWith_agree (Expr.resolve_assignsNoColumn hr) fun x hx => h x (Expr.idents_of_resolve hr x hx)).mono hb

end Interpreter

namespace TableGroup

structure Done where
  name : String
  var : String
  value : Value

/-- How the scope `t` in which the statements run goes with the scope `s` in which the lines mean what they
say: the names of the collection have the same values, and the fields so far are kept in variables that it
does not use. -/
structure Keeps (names : List String) (locals : Names) (s t : Scope) (done : List Done) : Prop where
  taken : ∀ x ∈ names, x ∈ locals.taken
  scope : ∀ x ∈ names, s.get? x = t.get? x
  done : ∀ d ∈ done, d.var ∈ locals.taken ∧ d.var ∉ names ∧ t.get? d.var = some d.value

variable {names : List String} {locals : Names} {s t : Scope} {done : List Done}

lemma Keeps.binding (h : Keeps names locals s t done) {x : String} (hx : x ∈ names) (v : Value) :
    Keeps names locals (s.insert x v) (t.insert x v) done where
  taken := h.taken
  scope y hy := by rw [Bindings.get?_insert, Bindings.get?_insert, h.scope y hy]
  done d hd := by
    obtain ⟨ht, hn, hv⟩ := h.done d hd
    have hne : d.var ≠ x := fun he => hn (he ▸ hx)
    exact ⟨ht, hn, by rw [Bindings.get?_insert_of_ne t v hne, hv]⟩

lemma Keeps.field (h : Keeps names locals s t done) (name : String) (v : Value) :
    Keeps names (locals.fresh name).2 s (t.insert (locals.free name) v)
      (done ++ [⟨name, locals.free name, v⟩]) where
  taken x hx := (Names.mem_taken_fresh locals name x).mpr (.inr (h.taken x hx))
  scope x hx := by
    have hne : x ≠ locals.free name := fun he => Names.free_not_taken locals name (he ▸ h.taken x hx)
    rw [Bindings.get?_insert_of_ne t v hne, h.scope x hx]
  done d hd := by
    rw [Names.mem_taken_fresh]
    rcases List.mem_append.mp hd with hd | hd
    · obtain ⟨ht, hn, hv⟩ := h.done d hd
      have hne : d.var ≠ locals.free name := fun he => Names.free_not_taken locals name (he ▸ ht)
      exact ⟨.inr ht, hn, by rw [Bindings.get?_insert_of_ne t v hne, hv]⟩
    · rw [List.mem_singleton.mp hd]
      exact ⟨.inl rfl, fun hn => Names.free_not_taken locals name (h.taken _ hn), Bindings.get?_insert_self t _ v⟩

variable {I : Interpreter} {columns : Column → Option Value} {both : Prop}

lemma evalFields_done (h : ∀ d ∈ done, t.get? d.var = some d.value) :
    I.evalFields columns t (done.map fun d => (d.name, .ident d.var)) =
      .ok (done.map fun d => (d.name, d.value)) := by
  induction done with
  | nil => rfl
  | cons d done ih =>
    rw [List.forall_mem_cons] at h
    simp only [List.map_cons, Interpreter.evalFields, Interpreter.evalWith, Interpreter.variableIn, h.1, ih h.2]
    rfl

lemma evalLines_statement {line e r : Expr} {lines rest : List Expr}
    {f : List (String × Value) → Except EvalError (Option Value)}
    (hl : (Entry.statement e).ReadsIn names line) (hr : e.resolve = .ok r) (hk : Keeps names locals s t done)
    (hb : both → ∀ c, ¬ I.Calls (.column c) r) (last : Option Value)
    (ih : ∀ {s t : Scope}, Keeps names locals s t done → ∀ last,
      Follows both (I.collected columns s lines >>= f) (I.evalLines columns t last rest)) :
    Follows both (I.collected columns s (line :: lines) >>= f) (I.evalLines columns t last (r :: rest)) := by
  obtain ⟨⟨rfl, hm⟩, hi⟩ := hl
  by_cases hbind : ∃ x r', r = .assign (.ident x) r'
  · obtain ⟨x, r', rfl⟩ := hbind
    obtain ⟨v, he, hv⟩ := Expr.eq_of_resolve_assign hr
    simp only [Entry.expr, he, Expr.idents, List.mem_append] at hi
    have hx : x ∈ names := hi x (.inl List.mem_cons_self)
    rw [Interpreter.collected_binding he hv, bind_assoc, Interpreter.evalLines]
    refine (Interpreter.evalWith_resolved hv (fun y hy => hk.scope y (hi y (.inr hy))) ?_).bind fun w => ?_
    · exact fun hboth c hc => hb hboth c (hc.mono (by simp [Expr.nodes]))
    · exact ih (hk.binding hx w) (some w)
  · push Not at hbind
    have hq (name : String) (v : Expr) : line.unflagged ≠ .assign (.quote name) v := by
      intro he
      cases hm _ _ he
    have hni (x : String) (v : Expr) : line.unflagged ≠ .assign (.ident x) v := by
      intro he
      rw [he, Expr.resolve_assign_ident] at hr
      obtain ⟨r', -, hr'⟩ := bind_eq_ok.mp hr
      exact hbind x r' (pure_eq_ok.mp hr').symm
    rw [Interpreter.collected_other hq hni hr, bind_assoc]
    refine Follows.trans ?_ (Interpreter.evalLines_other hbind)
    refine (Interpreter.evalWith_resolved hr (fun y hy => hk.scope y (hi y hy)) hb).bind fun w => ?_
    exact ih hk (some w)

theorem evalLines_assignments {lines : List Expr} {es rs : List Entry}
    (hr : List.Forall₂ (Entry.ReadsIn names) lines es)
    (h : List.Forall₂ (fun entry r => entry.resolve = .ok r) es rs) (hk : Keeps names locals s t done)
    (hb : both → ∀ line ∈ assignments (locals.freshAll (fieldNames rs)) rs, ∀ c, ¬ I.Calls (.column c) line)
    (last : Option Value) :
    Follows both (do
      let fs ← I.collected columns s lines
      return some (.record ((done.map fun d => (d.name, d.value)) ++ fs)))
      (I.evalLines columns t last (assignments (locals.freshAll (fieldNames rs)) rs ++
        [.namedTuple ((done.map fun d => (d.name, .ident d.var)) ++
          readings (locals.freshAll (fieldNames rs)) rs)])) := by
  -- the fields above a line are done: their values stay in variables of their own until the tuple is made
  induction hr generalizing locals rs s t done last with
  | nil =>
    cases h
    have hf : I.evalFields columns t (done.map fun d => (d.name, .ident d.var)) = _ :=
      evalFields_done fun d hd => (hk.done d hd).2.2
    have hn : readings (locals.freshAll (fieldNames [])) [] = [] := rfl
    simp only [Interpreter.collected, assignments, hn, List.nil_append, List.append_nil, Interpreter.evalLines,
      Interpreter.evalWith, hf, bind, Except.bind, pure, Except.pure]
    exact Follows.refl both _
  | @cons line entry lines es hl hr ih =>
    obtain ⟨r, rs, hentry, hrs, rfl⟩ := List.forall₂_cons_left_iff.mp h
    obtain ⟨e, hres, rfl⟩ := Entry.resolve_eq_ok hentry
    cases entry with
    | statement value =>
      have hb' (hboth : both) := List.forall_mem_cons.mp (hb hboth)
      exact evalLines_statement hl hres hk (fun hboth => (hb' hboth).1) last fun hk last =>
        ih hrs hk (fun hboth => (hb' hboth).2) last
    | field f value =>
      obtain ⟨⟨v, he, rfl⟩, hi⟩ := hl
      rw [Entry.map, assignments_field] at hb
      have hb' (hboth : both) := List.forall_mem_cons.mp (hb hboth)
      rw [Entry.map, assignments_field, readings_field, List.cons_append, Interpreter.collected_field he hres,
        bind_assoc, Interpreter.evalLines]
      refine (Interpreter.evalWith_resolved hres (fun y hy => hk.scope y (hi y hy)) ?_).bind fun w => ?_
      · exact fun hboth c hc => (hb' hboth).1 c (hc.mono (by simp [Expr.nodes]))
      · simpa using ih hrs (hk.field f.name w) (fun hboth => (hb' hboth).2) (some w)

lemma collected_pairs {lines : List Expr} {es rs : List Entry} (hr : List.Forall₂ (Entry.ReadsIn names) lines es)
    (h : List.Forall₂ (fun entry r => entry.resolve = .ok r) es rs) (ha : ∀ r ∈ rs, r.isField = true) :
    I.collected columns s lines = I.evalFields columns s (rs.filterMap Entry.pair?) := by
  induction hr generalizing rs with
  | nil =>
    cases h
    rfl
  | @cons line entry lines es hl hr ih =>
    obtain ⟨r, rs, hentry, hrs, rfl⟩ := List.forall₂_cons_left_iff.mp h
    obtain ⟨e, hres, rfl⟩ := Entry.resolve_eq_ok hentry
    rw [List.forall_mem_cons] at ha
    cases entry with
    | statement => cases ha.1
    | field f value =>
      obtain ⟨⟨v, he, rfl⟩, -⟩ := hl
      rw [Interpreter.collected_field he hres, ih hrs ha.2]
      rfl

lemma evalWith_bodyOf {lines : List Expr} {es : List Entry} {body : Expr}
    (hr : List.Forall₂ (Entry.ReadsIn names) lines es)
    (h : bodyOf (Names.forIdentifiers names) es = .ok body) :
    Follows (∀ c, ¬ I.Calls (.column c) body) (do return .record (← I.collected columns s lines))
      (I.evalWith columns s body) := by
  obtain ⟨rs, hrs, rfl⟩ := bodyOf_eq_ok h
  rw [bodyIn]
  split
  next ha =>
    rw [collected_pairs hr hrs (List.all_eq_true.mp ha), Interpreter.evalWith]
    exact Follows.refl _ _
  next =>
    have hk : Keeps names (Names.forIdentifiers names) s s [] := by
      refine ⟨fun x hx => (Names.mem_taken_forIdentifiers names x).mpr (.inr hx), fun _ _ => rfl, fun d hd => ?_⟩
      exact absurd hd List.not_mem_nil
    have hb (xs : List String)
        (h : ∀ c, ¬ I.Calls (.column c) (.block (assignments xs rs ++ [.namedTuple (readings xs rs)]))) :
        ∀ line ∈ assignments xs rs, ∀ c, ¬ I.Calls (.column c) line := by
      refine fun line hl c hc => h c (hc.mono fun n hn => ?_)
      simp only [Expr.nodes, Expr.nodesOf_eq, List.flatMap_append, List.mem_cons, List.mem_append,
        List.mem_flatMap]
      exact .inr (.inl ⟨line, hl, hn⟩)
    have hf : Follows _ _ (I.evalLines columns s none _) := evalLines_assignments hr hrs hk (hb _) none
    refine Interpreter.evalWith_block ?_
    simpa only [bind_assoc, pure_bind, List.map_nil, List.nil_append] using hf

lemma collected_names {lines : List Expr} {es : List Entry}
    (hr : List.Forall₂ (Entry.ReadsIn names) lines es)
    {fields : List (String × Value)} (h : I.collected columns s lines = .ok fields) :
    fields.map (·.1) = (es.filterMap Entry.field?).map (·.name) := by
  induction hr generalizing s fields with
  | nil =>
    cases h
    rfl
  | @cons line entry lines es hl hr ih =>
    rw [Interpreter.collected] at h
    cases entry with
    | field f value =>
      obtain ⟨⟨v, he, -⟩, -⟩ := hl
      rw [he] at h
      obtain ⟨w, -, h⟩ := bind_eq_ok.mp h
      obtain ⟨rest, hrest, h⟩ := bind_eq_ok.mp h
      rw [← pure_eq_ok.mp h, List.map_cons, ih hrest]
      rfl
    | statement e =>
      obtain ⟨⟨rfl, hm⟩, -⟩ := hl
      split at h
      next he => cases hm _ _ he
      next =>
        obtain ⟨w, -, h⟩ := bind_eq_ok.mp h
        exact ih h
      next =>
        obtain ⟨w, -, h⟩ := bind_eq_ok.mp h
        exact ih h

end TableGroup

theorem call_of_collection {construct : Construct} {config : Config} {arg : Nat} {e : Expr} {g : TableGroup}
    {t : Triple}
    (h : expandArgument construct config arg e = .ok (.group g)) (ht : g.toTriple = .ok t) (I : Interpreter)
    (scope : Scope) (values : List Value) (hl : values.length = t.sources.length) :
    (∀ fields, I.collected (Column.lookup t.sources values) scope (collectionLines e) = .ok fields →
      fields.map (·.1) = g.fields.map (·.name) ∧ I.call scope values t.function.toExpr = .ok (.record fields)) ∧
    ((∀ c, ¬ I.Calls (.column c) g.body) → ∀ v, I.call scope values t.function.toExpr = .ok v →
      ∃ fields, I.collected (Column.lookup t.sources values) scope (collectionLines e) = .ok fields) := by
  obtain ⟨a, ha, -, -, hc⟩ := expandArgument_eq_group.mp h
  obtain ⟨ls, es, hls, hes, hfields, hbody⟩ := TableGroup.collect_eq_ok hc
  obtain ⟨hs, hf⟩ := Prod.mk.inj (TableGroup.toTriple_eq_ok ht)
  have hr := TableGroup.reads_collectionLines ha hls hes
  have hm : Follows (∀ c, ¬ I.Calls (.column c) g.body)
      (do return .record (← I.collected (Column.lookup t.sources values) scope (collectionLines e)))
      (I.call scope values t.function.toExpr) := by
    rw [hs] at hl ⊢
    rw [hf]
    refine (TableGroup.evalWith_bodyOf hr hbody).trans ?_
    exact Interpreter.applyWith_abstracted (TableGroup.bodyOf_assignsNoColumn hbody) hl (fun _ _ => rfl) scope none
  refine ⟨fun fields hfs => ⟨?_, hm.1 _ (bind_eq_ok.mpr ⟨fields, hfs, rfl⟩)⟩, fun hb v hv => ?_⟩
  · rw [hfields]
    exact TableGroup.collected_names hr hfs
  · obtain ⟨fields, hfs, -⟩ := bind_eq_ok.mp (hm.2 hb v hv)
    exact ⟨fields, hfs⟩

theorem call_of_collection_shadowed_field : ∃ g t, expandArgument .transform {} 1 (.flagged "t" (.block
      [.assign (.ident "x") (.literal (.int 5)), .assign (.quote "x") (.quote "a"),
        .assign (.quote "y") (.apply "+" [.ident "x", .quote "a"])])) = .ok (.group g) ∧
    g.toTriple = .ok t ∧ t.sources.length = 1 ∧
    (Interpreter.ofConfig {}).call ∅ [.int 2] t.function.toExpr =
      .ok (.record [("x", .int 2), ("y", .int 7)]) := by
  have h : expandArgument .transform {} 1 (.flagged "t" (.block
      [.assign (.ident "x") (.literal (.int 5)), .assign (.quote "x") (.quote "a"),
        .assign (.quote "y") (.apply "+" [.ident "x", .quote "a"])])) = .ok (.group ⟨1,
          [⟨"x", .rowWise, false⟩, ⟨"y", .rowWise, false⟩],
          .block [.assign (.ident "x") (.literal (.int 5)), .assign (.ident "x_2") (.column (.symbol "a")),
            .assign (.ident "y") (.apply "+" [.ident "x", .column (.symbol "a")]),
            .namedTuple [("x", .ident "x_2"), ("y", .ident "y")]]⟩) := rfl
  refine ⟨_, _, h, rfl, rfl, ?_⟩
  exact ((call_of_collection h rfl (.ofConfig {}) ∅ [.int 2] rfl).1 _ rfl).2

end Tabular
