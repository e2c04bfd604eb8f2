import Tabular.Proofs.Hygiene

/-!
A register of parameters: a map, an order and a supply of names, kept apart from each other and filled in one pass
over each expression. Under any use its three parts agree, and they are the table of parameters.
-/

namespace Tabular

structure Register where
  bindings : Column → Option String
  order : List Column
  names : Names

namespace Register

def rebind (bindings : Column → Option String) (c : Column) (entry : Option String) : Column → Option String :=
  fun d => if c.same d then entry else bindings d

def avoiding (reserved : List String) : Register := ⟨fun _ => none, [], Names.forIdentifiers reserved⟩

def paramFor (c : Column) : StateM Register String := fun r =>
  match r.bindings c with
  | some name => (name, r)
  | none =>
    let (name, names) := r.names.fresh c.stem
    (name, ⟨rebind r.bindings c (some name), r.order ++ [c], names⟩)

open Tabular.Expr

mutual

def substitute : Expr → StateM Register Expr
  | literal v => return literal v
  | ident name => return ident name
  | quote name => return quote name
  | interp target => return interp (← substitute target)
  | column c => return ident (← paramFor c)
  | call func args => return call (← substitute func) (← substituteItems args)
  | keyword name value => return keyword name (← substitute value)
  | index target indices => return index (← substitute target) (← substituteItems indices)
  | field target name => return field (← substitute target) name
  | assign sink value => return assign (← substitute sink) (← substitute value)
  | flagged flags inner => return flagged flags (← substitute inner)
  | block lines => return block (← substituteItems lines)
  | tuple items => return tuple (← substituteItems items)
  | namedTuple fields => return namedTuple (← substituteFields fields)
  | vector items => return vector (← substituteItems items)
  | lambda params body => return lambda params (← substitute body)
  | pair left right => return pair (← substitute left) (← substitute right)

def substituteItems : List Expr → StateM Register (List Expr)
  | [] => return []
  | e :: es => return (← substitute e) :: (← substituteItems es)

def substituteFields : List (String × Expr) → StateM Register (List (String × Expr))
  | [] => return []
  | (name, e) :: fields => return (name, ← substitute e) :: (← substituteFields fields)

end

def takeOut : (Column → Option String) → List Column → List String
  | _, [] => []
  | bindings, c :: cs => (bindings c).toList ++ takeOut (rebind bindings c none) cs

def parts (r : Register) : List Column × List String := (r.order, takeOut r.bindings r.order)

end Register

inductive Use where
  | param (c : Column)
  | apply (e : Expr)

inductive Answer where
  | name (x : String)
  | body (e : Expr)

namespace Use

def mentions : Use → List Column
  | param c => [c]
  | apply e => e.mentions

def answer : Use → (nameOf : Column → String) → Answer
  | param c, nameOf => .name (nameOf c)
  | apply e, nameOf => .body (e.mapColumns fun c => .ident (nameOf c))

end Use

def Parameters.use : Use → StateM Parameters Answer
  | .param c => fun p => (.name (p.paramFor c).1, (p.paramFor c).2)
  | .apply e => fun p => (.body (p.apply e).1, (p.apply e).2)

def Register.use : Use → StateM Register Answer
  | .param c => return .name (← paramFor c)
  | .apply e => return .body (← substitute e)

lemma Parameters.coverAll_append (p : Parameters) (cs ds : List Column) :
    p.coverAll (cs ++ ds) = (p.coverAll cs).coverAll ds :=
  List.foldl_append

/-- Under the relation `M` between states and tables, the computation `x` covers the columns `cs` and gives what
`f` has for the parameters that columns have from then on, whatever is covered later. -/
def Covers {σ α : Type} (M : σ → Parameters → Prop) (x : StateM σ α) (cs : List Column)
    (f : (Column → String) → α) : Prop :=
  ∀ s p, M s p → ∃ t, M t (p.coverAll cs) ∧ ∀ ds, x.run s = (f ((p.coverAll cs).coverAll ds).nameOf, t)

namespace Covers

variable {σ α β γ ι : Type} {M : σ → Parameters → Prop} {x : StateM σ α} {y : StateM σ β} {cs ds : List Column}
  {f : (Column → String) → α} {g : (Column → String) → β}

lemma pure (a : α) : Covers M (Pure.pure a : StateM σ α) [] fun _ => a := fun s _ h => ⟨s, h, fun _ => rfl⟩

lemma map (h : Covers M x cs f) (k : α → β) : Covers M (do return k (← x)) cs fun ν => k (f ν) := by
  intro s p hp
  obtain ⟨t, ht, hx⟩ := h s p hp
  refine ⟨t, ht, fun ds => ?_⟩
  rw [StateT.run_bind, hx ds]
  rfl

lemma map₂ (hx : Covers M x cs f) (hy : Covers M y ds g) (k : α → β → γ) :
    Covers M (do return k (← x) (← y)) (cs ++ ds) fun ν => k (f ν) (g ν) := by
  intro s p hp
  obtain ⟨t, ht, hx⟩ := hx s p hp
  obtain ⟨u, hu, hy⟩ := hy t _ ht
  rw [p.coverAll_append]
  refine ⟨u, hu, fun bs => ?_⟩
  -- what the second part covers comes later for the first part
  rw [StateT.run_bind, hx (ds ++ bs), Parameters.coverAll_append]
  change ((y >>= fun b => Pure.pure (k _ b)) : StateM σ γ).run t = _
  rw [StateT.run_bind, hy bs]
  rfl

lemma mapM {is : List ι} {x : ι → StateM σ α} {cs : ι → List Column} {f : ι → (Column → String) → α}
    (h : ∀ i ∈ is, Covers M (x i) (cs i) (f i)) :
    Covers M (is.mapM x) (is.flatMap cs) fun ν => is.map (f · ν) := by
  induction is with
  | nil => exact .pure []
  | cons i is ih =>
    obtain ⟨hi, his⟩ := List.forall_mem_cons.mp h
    rw [List.mapM_cons]
    exact hi.map₂ (ih his) (· :: ·)

end Covers

namespace Parameters

lemma nameOf_of_find? {p : Parameters} {c : Column} {x : String} (h : p.find? c = some x) : p.nameOf c = x := by
  rw [nameOf, h, Option.getD_some]

lemma nameOf_coverAll {p : Parameters} {c : Column} {x : String} (h : p.find? c = some x) (ds : List Column) :
    (p.coverAll ds).nameOf c = x :=
  nameOf_of_find? (find?_coverAll_of_some h ds)

lemma find?_cover_of_none {p : Parameters} {c : Column} (h : p.find? c = none) (d : Column) :
    (p.cover c).find? d = if c.same d then some (p.names.free c.stem) else p.find? d := by
  have happend : (p.cover c).find? d = (p.find? d).or (if c.same d then some (p.names.free c.stem) else none) := by
    rw [cover_of_none h, find?, List.find?_append, Option.map_or, ← find?]
    by_cases hd : c.same d <;> simp [hd]
  rw [happend]
  split
  next hd => rw [← p.find?_congr hd, h, Option.none_or]
  next hd => rw [Option.or_none]

lemma covers_use (u : Use) : Covers Eq (use u) u.mentions u.answer := by
  rintro p _ rfl
  refine ⟨p.coverAll u.mentions, rfl, fun ds => ?_⟩
  have hlater {c : Column} (hc : c ∈ u.mentions) :
      ((p.coverAll u.mentions).coverAll ds).nameOf c = (p.coverAll u.mentions).nameOf c := by
    obtain ⟨x, hx⟩ := find?_coverAll p hc
    rw [nameOf_coverAll hx, nameOf_of_find? hx]
  cases u with
  | param c =>
    rw [Use.answer, hlater List.mem_cons_self]
    rfl
  | apply e =>
    rw [Use.answer, Expr.mapColumns_congr fun c hc => congrArg Expr.ident (hlater hc)]
    rfl

end Parameters

namespace Register

open Tabular.Expr

structure Holds (r : Register) (p : Parameters) : Prop where
  bindings : r.bindings = p.find?
  order : r.order = p.sources
  names : r.names = p.names

lemma holds_avoiding (reserved : List String) : Holds (avoiding reserved) (.avoiding reserved) := ⟨rfl, rfl, rfl⟩

lemma paramFor_of_some {r : Register} {c : Column} {x : String} (h : r.bindings c = some x) :
    (paramFor c).run r = (x, r) := by
  simp only [paramFor, StateT.run, h]

lemma paramFor_of_none {r : Register} {c : Column} (h : r.bindings c = none) : (paramFor c).run r =
    (r.names.free c.stem, ⟨rebind r.bindings c (some (r.names.free c.stem)), r.order ++ [c],
      (r.names.fresh c.stem).2⟩) := by
  simp only [paramFor, StateT.run, h, Names.fresh]

lemma covers_paramFor (c : Column) : Covers Holds (paramFor c) [c] (· c) := by
  intro r p h
  cases hc : p.find? c with
  | some x =>
    have hp : p.coverAll [c] = p := Parameters.cover_of_some hc
    rw [hp]
    refine ⟨r, h, fun ds => ?_⟩
    rw [paramFor_of_some (h.bindings ▸ hc)]
    exact Prod.ext (Parameters.nameOf_coverAll hc ds).symm rfl
  | none =>
    have hfind := Parameters.find?_cover_of_none hc
    have hself : (p.cover c).find? c = some (p.names.free c.stem) := by rw [hfind, if_pos (Column.same_refl c)]
    have hholds : Holds ⟨rebind r.bindings c (some (r.names.free c.stem)), r.order ++ [c],
      (r.names.fresh c.stem).2⟩
        (p.cover c) := by
      refine ⟨?_, ?_, ?_⟩
      · rw [h.bindings, h.names]
        exact funext fun d => (hfind d).symm
      · rw [h.order]
        simp [Parameters.cover_of_none hc, Parameters.sources]
      · rw [h.names, Parameters.cover_of_none hc]
    refine ⟨_, hholds, fun ds => ?_⟩
    rw [paramFor_of_none (h.bindings ▸ hc), h.names]
    exact Prod.ext (Parameters.nameOf_coverAll hself ds).symm rfl

lemma substituteItems_eq (es : List Expr) : substituteItems es = es.mapM substitute := by
  induction es with
  | nil => rfl
  | cons e es ih => rw [substituteItems, ih, List.mapM_cons]

lemma substituteFields_eq (fs : List (String × Expr)) :
    substituteFields fs = fs.mapM fun f => do return (f.1, ← substitute f.2) := by
  induction fs with
  | nil => rfl
  | cons f fs ih => rw [substituteFields, ih, List.mapM_cons, bind_assoc]; simp only [pure_bind]

lemma covers_substitute (e : Expr) :
    Covers Holds (substitute e) e.mentions fun ν => e.mapColumns fun c => ident (ν c) := by
  induction e with
  | literal | ident | quote => exact .pure _
  | column c => exact (covers_paramFor c).map ident
  | interp e ih => exact ih.map interp
  | keyword x e ih => exact ih.map (keyword x)
  | field e x ih => exact ih.map (field · x)
  | flagged x e ih => exact ih.map (flagged x)
  | lambda xs e ih => exact ih.map (lambda xs)
  | assign l r hl hr => exact hl.map₂ hr assign
  | pair l r hl hr => exact hl.map₂ hr pair
  | call _ es hf hes | index _ es hf hes =>
    simp only [substitute, substituteItems_eq, mentions, mentionsOf_eq, mapColumns, mapColumnsItems_eq]
    exact hf.map₂ (.mapM hes) _
  | block es hes | tuple es hes | vector es hes =>
    simp only [substitute, substituteItems_eq, mentions, mentionsOf_eq, mapColumns, mapColumnsItems_eq]
    exact Covers.map (.mapM hes) _
  | namedTuple fs hfs =>
    simp only [substitute, substituteFields_eq, mentions, mentionsOfFields_eq, mapColumns, mapColumnsFields_eq]
    exact Covers.map (.mapM fun f hf => (hfs f hf).map (f.1, ·)) namedTuple

lemma covers_use (u : Use) : Covers Holds (use u) u.mentions u.answer := by
  cases u with
  | param c => exact (covers_paramFor c).map Answer.name
  | apply e => exact (covers_substitute e).map Answer.body

lemma takeOut_eq {bindings : Column → Option String} {cs : List Column}
    (h : cs.Pairwise fun c d => c.same d = false) : takeOut bindings cs = cs.filterMap bindings := by
  induction cs generalizing bindings with
  | nil => rfl
  | cons c cs ih =>
    obtain ⟨hc, hcs⟩ := List.pairwise_cons.mp h
    have hrest : cs.filterMap (rebind bindings c none) = cs.filterMap bindings := by
      refine List.filterMap_congr fun d hd => ?_
      rw [rebind, hc d hd]
      rfl
    rw [takeOut, ih hcs, hrest, List.filterMap_cons]
    cases bindings c <;> rfl

end Register

namespace Parameters

variable {p : Parameters}

lemma find?_eq_lookup (p : Parameters) (c : Column) : p.find? c = Column.lookup p.sources p.params c := by
  rw [find?, Column.lookup, sources, params]
  have hzip : (p.entries.map (·.1)).zip (p.entries.map (·.2)) = p.entries := by
    simpa [List.unzip_eq_map] using List.zip_unzip p.entries
  rw [hzip]

lemma map_find?_sources (h : p.sources.Pairwise fun c d => c.same d = false) :
    p.sources.map p.find? = p.params.map some := by
  have hl : p.params.length = p.sources.length := by simp [params, sources]
  rw [← Column.map_lookup h hl]
  exact List.map_congr_left fun c _ => p.find?_eq_lookup c

lemma map_nameOf_sources (h : p.sources.Pairwise fun c d => c.same d = false) :
    p.sources.map p.nameOf = p.params := by
  calc
    p.sources.map p.nameOf = (p.sources.map p.find?).map (·.getD "") := by rw [List.map_map]; rfl
    _ = (p.params.map some).map (·.getD "") := by rw [map_find?_sources h]
    _ = p.params := by simp [Function.comp_def]

lemma same_of_nameOf_eq (h : p.params.Nodup) {c d : Column} {x : String} (hc : p.find? c = some x)
    (hd : p.find? d = some x) : c.same d = true := by
  obtain ⟨entry, hentry, rfl⟩ := Option.map_eq_some_iff.mp hc
  obtain ⟨entry', hentry', hx⟩ := Option.map_eq_some_iff.mp hd
  obtain rfl := List.inj_on_of_nodup_map h (List.mem_of_find?_eq_some hentry')
    (List.mem_of_find?_eq_some hentry) hx
  have hsame : entry'.1.same c = true := by simpa using List.find?_some hentry
  have hsame' : entry'.1.same d = true := by simpa using List.find?_some hentry'
  exact Column.same_trans (Column.same_symm hsame) hsame'

lemma params_eq_filterMap (h : p.sources.Pairwise fun c d => c.same d = false) :
    p.sources.filterMap p.find? = p.params := by
  calc
    p.sources.filterMap p.find? = (p.sources.map p.find?).filterMap id := by rw [List.filterMap_map]; rfl
    _ = (p.params.map some).filterMap id := by rw [map_find?_sources h]
    _ = p.params := by simp [List.filterMap_map]

lemma Valid.nameOf_eq_iff {reserved : List String} (h : Valid reserved p) {c d : Column} {x y : String}
    (hc : p.find? c = some x) (hd : p.find? d = some y) : p.nameOf c = p.nameOf d ↔ c.same d = true := by
  constructor
  · intro he
    rw [nameOf_of_find? hc, nameOf_of_find? hd] at he
    exact same_of_nameOf_eq h.nodup hc (he ▸ hd)
  · intro hs
    rw [nameOf, nameOf, p.find?_congr hs]

lemma covers_uses (uses : List Use) :
    Covers Eq (uses.mapM use) (uses.flatMap Use.mentions) fun ν => uses.map (·.answer ν) :=
  .mapM fun u _ => covers_use u

end Parameters

namespace Register

lemma covers_uses (uses : List Use) :
    Covers Holds (uses.mapM use) (uses.flatMap Use.mentions) fun ν => uses.map (·.answer ν) :=
  .mapM fun u _ => covers_use u

lemma Holds.parts {r : Register} {p : Parameters} (h : Holds r p)
    (hd : p.sources.Pairwise fun c d => c.same d = false) : r.parts = (p.sources, p.params) := by
  rw [Register.parts, h.order, h.bindings, takeOut_eq hd, Parameters.params_eq_filterMap hd]

end Register

namespace Parameters

/-- Whatever is asked of a table, each column has one parameter throughout, no other column has it, and the columns
and their parameters come in the order of first mention; a register gives the same answers and the same lists. -/
theorem answers_of_uses (reserved : List String) (uses : List Use) :
    let cs := uses.flatMap Use.mentions
    ∃ p r, (uses.mapM Parameters.use).run (avoiding reserved) = (uses.map (·.answer p.nameOf), p) ∧
      (uses.mapM Register.use).run (.avoiding reserved) = (uses.map (·.answer p.nameOf), r) ∧
      (∀ c ∈ cs, ∀ d ∈ cs, p.nameOf c = p.nameOf d ↔ c.same d = true) ∧
      (∀ c ∈ cs, p.nameOf c ∉ Names.reservedWords ∧ p.nameOf c ∉ reserved) ∧
      p.entries.length = (Column.distinct cs).length ∧ r.order.length = (Column.distinct cs).length ∧
      (p.sources, p.params) = (Column.distinct cs, (Column.distinct cs).map p.nameOf) ∧
      r.parts = (Column.distinct cs, (Column.distinct cs).map p.nameOf) := by
  intro cs
  have hvalid : ((avoiding reserved).coverAll cs).Valid reserved := (valid_avoiding reserved).coverAll cs
  have hsources : ((avoiding reserved).coverAll cs).sources = Column.distinct cs := by
    simpa [avoiding, sources] using sources_coverAll (avoiding reserved) cs
  have hparams := map_nameOf_sources hvalid.distinct
  rw [hsources] at hparams
  obtain ⟨_, rfl, hanswers⟩ := covers_uses uses (avoiding reserved) _ rfl
  obtain ⟨r, hr, hsame⟩ := Register.covers_uses uses _ _ (Register.holds_avoiding reserved)
  have hparts := hr.parts hvalid.distinct
  rw [hsources, ← hparams] at hparts
  refine ⟨(avoiding reserved).coverAll cs, r, hanswers [], hsame [], fun c hc d hd => ?_, fun c hc => ?_,
    ?_, ?_, ?_, hparts⟩
  · obtain ⟨x, hx⟩ := find?_coverAll (avoiding reserved) hc
    obtain ⟨y, hy⟩ := find?_coverAll (avoiding reserved) hd
    exact hvalid.nameOf_eq_iff hx hy
  · obtain ⟨x, hx⟩ := find?_coverAll (avoiding reserved) hc
    rw [nameOf_of_find? hx]
    exact hvalid.free x (mem_params_of_find? hx)
  · rw [← hsources, sources, List.length_map]
  · rw [hr.order, hsources]
  · rw [hsources, ← hparams]

end Parameters

end Tabular
