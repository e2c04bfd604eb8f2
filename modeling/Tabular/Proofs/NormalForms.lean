import Tabular.Proofs.StaticSpelling

/-!
Resolution as a projection. It fails exactly on markers that are out of place, changes nothing but the mentions of
columns, and leaves what is resolved as it is.
-/

namespace Tabular.Expr

mutual

/-- The nodes of an expression that stand outside the targets of interpolations. -/
def surface : Expr → List Expr
  | literal v => [literal v]
  | ident x => [ident x]
  | quote x => [quote x]
  | interp e => [interp e]
  | column c => [column c]
  | call f es => call f es :: (surface f ++ surfaceOf es)
  | keyword x e => keyword x e :: surface e
  | index t es => index t es :: (surface t ++ surfaceOf es)
  | field e x => field e x :: surface e
  | assign s e => assign s e :: (surface s ++ surface e)
  | flagged x e => flagged x e :: surface e
  | block es => block es :: surfaceOf es
  | tuple es => tuple es :: surfaceOf es
  | namedTuple fs => namedTuple fs :: surfaceOfFields fs
  | vector es => vector es :: surfaceOf es
  | lambda xs e => lambda xs e :: surface e
  | pair l r => pair l r :: (surface l ++ surface r)

def surfaceOf : List Expr → List Expr
  | [] => []
  | e :: es => surface e ++ surfaceOf es

def surfaceOfFields : List (String × Expr) → List Expr
  | [] => []
  | (_, e) :: fs => surface e ++ surfaceOfFields fs

end

def named (target : Expr) : Expr :=
  match Column.interpolated target with
  | .ok c => column c
  | .error _ => interp target

mutual

def withMentionsNamed : Expr → Expr
  | literal v => literal v
  | ident x => ident x
  | quote x => column (.symbol x)
  | interp target => named target
  | column c => column c
  | call f es => call (withMentionsNamed f) (withMentionsNamedItems es)
  | keyword x e => keyword x (withMentionsNamed e)
  | index t es => index (withMentionsNamed t) (withMentionsNamedItems es)
  | field e x => field (withMentionsNamed e) x
  | assign s e => assign (withMentionsNamed s) (withMentionsNamed e)
  | flagged x e => flagged x (withMentionsNamed e)
  | block es => block (withMentionsNamedItems es)
  | tuple es => tuple (withMentionsNamedItems es)
  | namedTuple fs => namedTuple (withMentionsNamedFields fs)
  | vector es => vector (withMentionsNamedItems es)
  | lambda xs e => lambda xs (withMentionsNamed e)
  | pair l r => pair (withMentionsNamed l) (withMentionsNamed r)

def withMentionsNamedItems : List Expr → List Expr
  | [] => []
  | e :: es => withMentionsNamed e :: withMentionsNamedItems es

def withMentionsNamedFields : List (String × Expr) → List (String × Expr)
  | [] => []
  | (x, e) :: fs => (x, withMentionsNamed e) :: withMentionsNamedFields fs

end

lemma surfaceOf_eq (es : List Expr) : surfaceOf es = es.flatMap surface := by
  induction es with
  | nil => rfl
  | cons e es ih => exact congrArg (e.surface ++ ·) ih

lemma surfaceOfFields_eq (fs : List (String × Expr)) : surfaceOfFields fs = fs.flatMap (·.2.surface) := by
  induction fs with
  | nil => rfl
  | cons f fs ih => exact congrArg (f.2.surface ++ ·) ih

lemma withMentionsNamedItems_eq (es : List Expr) : withMentionsNamedItems es = es.map withMentionsNamed := by
  induction es with
  | nil => rfl
  | cons e es ih => exact congrArg (List.cons _) ih

lemma withMentionsNamedFields_eq (fs : List (String × Expr)) :
    withMentionsNamedFields fs = fs.map fun f => (f.1, f.2.withMentionsNamed) := by
  induction fs with
  | nil => rfl
  | cons f fs ih => exact congrArg (List.cons _) ih

def isMisplaced : Expr → Bool
  | flagged _ _ => true
  | assign sink _ => sink.isMention
  | interp (literal v) => !v.namesColumn
  | _ => false

def Clean (e : Expr) : Prop := ∀ n ∈ e.surface, n.isMisplaced = false

lemma interpolated_ok_iff (target : Expr) :
    (∃ c, Column.interpolated target = .ok c) ↔ (interp target).isMisplaced = false := by
  cases target with
  | literal v =>
    cases v with
    | int n => by_cases hn : 1 ≤ n <;> simp [Column.interpolated, isMisplaced, Value.namesColumn, hn]
    | _ => simp [Column.interpolated, isMisplaced, Value.namesColumn]
  | _ => simp [Column.interpolated, isMisplaced]

lemma gives_interpolated (target : Expr) :
    Gives (do return column (← Column.interpolated target)) (interp target).Clean (named target) := by
  have hc : (interp target).Clean ↔ ∃ c, Column.interpolated target = .ok c :=
    List.forall_mem_singleton.trans (interpolated_ok_iff target).symm
  rw [named]
  cases h : Column.interpolated target with
  | ok c => exact (Gives.ok Fault (column c)).congr (by simp [hc, h])
  | error fault => exact (Gives.error fault _).congr (by simp [hc, h])

lemma gives_resolveItems {es : List Expr} (h : ∀ e ∈ es, Gives e.resolve e.Clean e.withMentionsNamed) :
    Gives (resolveItems es) (∀ n ∈ surfaceOf es, n.isMisplaced = false) (withMentionsNamedItems es) := by
  rw [resolveItems_eq, surfaceOf_eq, withMentionsNamedItems_eq]
  exact (Gives.mapM h).congr List.forall_mem_flatMap.symm

lemma gives_resolveFields {fs : List (String × Expr)}
    (h : ∀ f ∈ fs, Gives f.2.resolve f.2.Clean f.2.withMentionsNamed) :
    Gives (resolveFields fs) (∀ n ∈ surfaceOfFields fs, n.isMisplaced = false) (withMentionsNamedFields fs) := by
  rw [resolveFields_eq, surfaceOfFields_eq, withMentionsNamedFields_eq]
  exact (Gives.mapM fun f hf => (h f hf).map (f.1, ·)).congr List.forall_mem_flatMap.symm

lemma clean_cons {e n : Expr} {ns : List Expr} (h : e.surface = n :: ns) (hn : n.isMisplaced = false) :
    e.Clean ↔ ∀ m ∈ ns, m.isMisplaced = false := by
  rw [Clean, h, List.forall_mem_cons, and_iff_right hn]

lemma clean_append {e n : Expr} {ls rs : List Expr} (h : e.surface = n :: (ls ++ rs))
    (hn : n.isMisplaced = false) :
    e.Clean ↔ (∀ m ∈ ls, m.isMisplaced = false) ∧ ∀ m ∈ rs, m.isMisplaced = false :=
  (clean_cons h hn).trans List.forall_mem_append

lemma gives_resolve (e : Expr) : Gives e.resolve e.Clean e.withMentionsNamed := by
  induction e with
  | literal | ident | quote | column => exact (Gives.ok Fault _).congr (by simp [Clean, surface, isMisplaced])
  | flagged x e => exact (Gives.error _ _).congr (by simp [Clean, surface, isMisplaced])
  | interp target => exact gives_interpolated target
  | keyword x e ih => exact (ih.map (keyword x)).congr (clean_cons rfl rfl).symm
  | field e x ih => exact (ih.map (field · x)).congr (clean_cons rfl rfl).symm
  | lambda xs e ih => exact (ih.map (lambda xs)).congr (clean_cons rfl rfl).symm
  | call f es hf hes => exact (hf.map₂ (gives_resolveItems hes) call).congr (clean_append rfl rfl).symm
  | index t es ht hes => exact (ht.map₂ (gives_resolveItems hes) index).congr (clean_append rfl rfl).symm
  | pair l r hl hr => exact (hl.map₂ hr pair).congr (clean_append rfl rfl).symm
  | block es hes => exact ((gives_resolveItems hes).map block).congr (clean_cons rfl rfl).symm
  | tuple es hes => exact ((gives_resolveItems hes).map tuple).congr (clean_cons rfl rfl).symm
  | vector es hes => exact ((gives_resolveItems hes).map vector).congr (clean_cons rfl rfl).symm
  | namedTuple fs hfs => exact ((gives_resolveFields hfs).map namedTuple).congr (clean_cons rfl rfl).symm
  | assign s e hs he =>
    have hn : (assign s e).isMisplaced = s.isMention := rfl
    rw [resolve]
    split
    next hm =>
      refine (Gives.error _ _).congr (iff_of_false not_false fun hc => ?_)
      rw [hc _ List.mem_cons_self] at hn
      exact Bool.false_ne_true (hn.trans hm)
    next hm => exact (hs.map₂ he assign).congr (clean_append rfl (hn.trans (Bool.eq_false_iff.mpr hm))).symm

lemma Resolved.resolve_eq_self {e : Expr} (h : e.Resolved) : e.resolve = .ok e := by
  have items {es : List Expr} (hes : ∀ e ∈ es, e.resolve = .ok e) : resolveItems es = .ok es := by
    rw [resolveItems_eq, mapM_eq_ok]
    exact List.forall₂_same.mpr hes
  replace h : e.All (·.isPlain = true) := h
  induction e with
  | literal | ident | column => rfl
  | quote | interp | flagged => cases h.self
  | keyword x e ih =>
    rw [resolve, ih (all_keyword.mp h).2]
    rfl
  | field e x ih =>
    rw [resolve, ih (all_field.mp h).2]
    rfl
  | lambda xs e ih =>
    rw [resolve, ih (all_lambda.mp h).2]
    rfl
  | call f es hf hes =>
    obtain ⟨-, hf', hes'⟩ := all_call.mp h
    rw [resolve, hf hf', items fun e he => hes e he (hes' e he)]
    rfl
  | index t es ht hes =>
    obtain ⟨-, ht', hes'⟩ := all_index.mp h
    rw [resolve, ht ht', items fun e he => hes e he (hes' e he)]
    rfl
  | block es hes =>
    rw [resolve, items fun e he => hes e he ((all_block.mp h).2 e he)]
    rfl
  | tuple es hes =>
    rw [resolve, items fun e he => hes e he ((all_tuple.mp h).2 e he)]
    rfl
  | vector es hes =>
    rw [resolve, items fun e he => hes e he ((all_vector.mp h).2 e he)]
    rfl
  | namedTuple fs hfs =>
    have hf : resolveFields fs = .ok fs := by
      rw [resolveFields_eq, mapM_eq_ok]
      refine List.forall₂_same.mpr fun f hf => ?_
      rw [hfs f hf ((all_namedTuple.mp h).2 f hf)]
      rfl
    rw [resolve, hf]
    rfl
  | assign s e hs he =>
    obtain ⟨hp, hs', he'⟩ := all_assign.mp h
    rw [resolve, if_neg (by simpa [isPlain] using hp), hs hs', he he']
    rfl
  | pair l r hl hr =>
    obtain ⟨-, hl', hr'⟩ := all_pair.mp h
    rw [resolve, hl hl', hr hr']
    rfl

theorem resolve_projects (e : Expr) : ((∃ r, e.resolve = .ok r) ↔ ∀ n ∈ e.surface, n.isMisplaced = false) ∧
    ∀ r, e.resolve = .ok r → r.Resolved ∧ r = e.withMentionsNamed ∧ r.resolve = .ok r := by
  refine ⟨e.gives_resolve.ok_iff, fun r h => ?_⟩
  have hr := resolved_resolve h
  exact ⟨hr, e.gives_resolve.eq_of_ok h, hr.resolve_eq_self⟩

theorem resolve_projects_flagged_target :
    let e := block [assign (ident "z") (quote "a"),
      apply "f" [ident "z", interp (flagged "r" (quote "b")), interp (literal (.int 2))]]
    let r := block [assign (ident "z") (column (.symbol "a")),
      apply "f" [ident "z", column (.dynamic (flagged "r" (quote "b"))), column (.position 2)]]
    e.resolve = .ok r ∧ r.Resolved ∧ r = e.withMentionsNamed ∧ r.resolve = .ok r ∧
      ¬ ∃ r, (lambda ["x"] (interp (literal (.int 0)))).resolve = .ok r := by
  intro e r
  have h : e.resolve = .ok r := rfl
  obtain ⟨hr, hn, hs⟩ := (resolve_projects e).2 r h
  refine ⟨h, hr, hn, hs, fun hok => ?_⟩
  have hclean := (resolve_projects _).1.mp hok
  exact absurd (hclean (interp (literal (.int 0))) (by simp [surface])) (by decide)

end Tabular.Expr
