import Tabular.Expr.Resolve
import Tabular.Proofs.Abstraction

namespace Tabular.Expr

lemma resolveItems_eq (es : List Expr) : resolveItems es = es.mapM resolve := by
  induction es with
  | nil => rfl
  | cons e es ih => rw [resolveItems, ih, List.mapM_cons]

lemma resolveFields_eq (fs : List (String × Expr)) :
    resolveFields fs = fs.mapM fun field => return (field.1, ← field.2.resolve) := by
  induction fs with
  | nil => rfl
  | cons field fs ih =>
    rw [resolveFields, ih, List.mapM_cons]
    simp only [bind_assoc, pure_bind]

theorem resolve_induction {P : Expr → Expr → Prop} (literal : ∀ v, P (literal v) (literal v))
    (ident : ∀ x, P (ident x) (ident x)) (quote : ∀ x, P (quote x) (column (.symbol x)))
    (interp : ∀ e c, Column.interpolated e = .ok c → P (interp e) (column c))
    (column : ∀ c, P (column c) (column c))
    (call : ∀ f es g rs, P f g → List.Forall₂ P es rs → P (call f es) (call g rs))
    (keyword : ∀ x e r, P e r → P (keyword x e) (keyword x r))
    (index : ∀ t es u rs, P t u → List.Forall₂ P es rs → P (index t es) (index u rs))
    (field : ∀ e x r, P e r → P (field e x) (field r x))
    (assign : ∀ s e s' r, s.isMention = false → s.resolve = .ok s' → P s s' → P e r → P (assign s e) (assign s' r))
    (block : ∀ es rs, List.Forall₂ P es rs → P (block es) (block rs))
    (tuple : ∀ es rs, List.Forall₂ P es rs → P (tuple es) (tuple rs))
    (namedTuple : ∀ fs rs, List.Forall₂ (fun f r => f.1 = r.1 ∧ P f.2 r.2) fs rs →
      P (namedTuple fs) (namedTuple rs))
    (vector : ∀ es rs, List.Forall₂ P es rs → P (vector es) (vector rs))
    (lambda : ∀ xs e r, P e r → P (lambda xs e) (lambda xs r))
    (pair : ∀ l r l' r', P l l' → P r r' → P (pair l r) (pair l' r')) {e r : Expr} (h : e.resolve = .ok r) :
    P e r := by
  have items {es rs : List Expr} (hes : ∀ e ∈ es, ∀ {r}, e.resolve = .ok r → P e r)
    (h : resolveItems es = .ok rs) :
      List.Forall₂ P es rs :=
    forall₂_of_mem (mapM_eq_ok.mp (resolveItems_eq es ▸ h)) fun e he r _ hr => hes e he hr
  induction e generalizing r with
  | literal v =>
    cases h
    exact literal v
  | ident x =>
    cases h
    exact ident x
  | quote x =>
    cases h
    exact quote x
  | column c =>
    cases h
    exact column c
  | interp e =>
    obtain ⟨c, hc, hr⟩ := bind_eq_ok.mp h
    exact pure_eq_ok.mp hr ▸ interp e c hc
  | flagged => cases h
  | keyword x e ih =>
    obtain ⟨r, he, hr⟩ := bind_eq_ok.mp h
    exact pure_eq_ok.mp hr ▸ keyword x e r (ih he)
  | field e x ih =>
    obtain ⟨r, he, hr⟩ := bind_eq_ok.mp h
    exact pure_eq_ok.mp hr ▸ field e x r (ih he)
  | lambda xs e ih =>
    obtain ⟨r, he, hr⟩ := bind_eq_ok.mp h
    exact pure_eq_ok.mp hr ▸ lambda xs e r (ih he)
  | call f es hf hes =>
    obtain ⟨g, hg, hr⟩ := bind_eq_ok.mp h
    obtain ⟨rs, hrs, hr⟩ := bind_eq_ok.mp hr
    exact pure_eq_ok.mp hr ▸ call f es g rs (hf hg) (items hes hrs)
  | index t es ht hes =>
    obtain ⟨u, hu, hr⟩ := bind_eq_ok.mp h
    obtain ⟨rs, hrs, hr⟩ := bind_eq_ok.mp hr
    exact pure_eq_ok.mp hr ▸ index t es u rs (ht hu) (items hes hrs)
  | block es hes =>
    obtain ⟨rs, hrs, hr⟩ := bind_eq_ok.mp h
    exact pure_eq_ok.mp hr ▸ block es rs (items hes hrs)
  | tuple es hes =>
    obtain ⟨rs, hrs, hr⟩ := bind_eq_ok.mp h
    exact pure_eq_ok.mp hr ▸ tuple es rs (items hes hrs)
  | vector es hes =>
    obtain ⟨rs, hrs, hr⟩ := bind_eq_ok.mp h
    exact pure_eq_ok.mp hr ▸ vector es rs (items hes hrs)
  | namedTuple fs hfs =>
    obtain ⟨rs, hrs, hr⟩ := bind_eq_ok.mp h
    rw [resolveFields_eq] at hrs
    refine pure_eq_ok.mp hr ▸ namedTuple fs rs (forall₂_of_mem (mapM_eq_ok.mp hrs) fun f hf r _ hr => ?_)
    obtain ⟨e, he, hr⟩ := bind_eq_ok.mp hr
    exact pure_eq_ok.mp hr ▸ ⟨rfl, hfs f hf he⟩
  | pair left right hl hr =>
    obtain ⟨l, hl', h⟩ := bind_eq_ok.mp h
    obtain ⟨r, hr', h⟩ := bind_eq_ok.mp h
    exact pure_eq_ok.mp h ▸ pair left right l r (hl hl') (hr hr')
  | assign s e hs he =>
    -- a mention as the target is refused, so the case below knows that it is none
    rw [resolve] at h
    split at h
    next => cases h
    next hm =>
      obtain ⟨s', hs', h⟩ := bind_eq_ok.mp h
      obtain ⟨r, hr, h⟩ := bind_eq_ok.mp h
      exact pure_eq_ok.mp h ▸ assign s e s' r (Bool.eq_false_iff.mpr hm) hs' (hs hs') (he hr)

lemma resolve_ne_column {e r : Expr} (h : e.resolve = .ok r) (he : e.isMention = false) (c : Column) :
    r ≠ .column c := by
  revert he
  apply resolve_induction (P := fun e r => e.isMention = false → r ≠ .column c) (h := h)
  all_goals simp [isMention]

lemma eq_of_resolve_ident {e : Expr} {x : String} (h : e.resolve = .ok (.ident x)) : e = .ident x := by
  suffices hi : ∀ r, e.resolve = .ok r → r = .ident x → e = .ident x from hi _ h rfl
  intro r hr
  apply resolve_induction (P := fun e r => r = .ident x → e = .ident x) (h := hr)
  all_goals simp

lemma resolve_assign_ident (x : String) (v : Expr) :
    (assign (.ident x) v).resolve = (do return assign (.ident x) (← v.resolve)) := by
  rw [resolve, if_neg (by simp [isMention])]
  rfl

lemma eq_of_resolve_assign {e r : Expr} {x : String} (h : e.resolve = .ok (.assign (.ident x) r)) :
    ∃ v, e = .assign (.ident x) v ∧ v.resolve = .ok r := by
  cases e with
  | assign s v =>
    rw [resolve] at h
    split at h
    · cases h
    · obtain ⟨s', hs, h⟩ := bind_eq_ok.mp h
      obtain ⟨r', hr, h⟩ := bind_eq_ok.mp h
      cases h
      exact ⟨v, by rw [eq_of_resolve_ident hs], hr⟩
  | literal | ident | quote | column | flagged => cases h
  | interp | keyword | field | lambda | block | tuple | vector | namedTuple =>
    obtain ⟨_, -, h⟩ := bind_eq_ok.mp h
    cases h
  | call | index | pair =>
    obtain ⟨_, -, h⟩ := bind_eq_ok.mp h
    obtain ⟨_, -, h⟩ := bind_eq_ok.mp h
    cases h

def isPlain : Expr → Bool
  | quote _ | interp _ | flagged _ _ => false
  | assign sink _ => !sink.isMention
  | _ => true

def Resolved (e : Expr) : Prop := ∀ n ∈ e.nodes, n.isPlain = true

lemma Resolved.assignsNoColumn {e : Expr} (h : e.Resolved) : e.AssignsNoColumn :=
  fun _ _ hn => nomatch h _ hn

lemma Resolved.isMention_eq_false {e : Expr} (h : e.Resolved) (hc : ∀ c, e ≠ .column c) : e.isMention = false := by
  have he := h e e.self_mem_nodes
  cases e with
  | column c => exact absurd rfl (hc c)
  | quote | interp => cases he
  | _ => rfl

lemma resolved_resolve {e r : Expr} (h : e.resolve = .ok r) : r.Resolved := by
  apply resolve_induction (P := fun _ r => r.Resolved) (h := h)
  case literal | ident | quote | interp | column => simp [Resolved, nodes, isPlain]
  case keyword | field | lambda =>
    intro _ _ _ hr
    exact List.forall_mem_cons.mpr ⟨rfl, hr⟩
  case call | index =>
    intro _ _ _ _ hg hes
    refine List.forall_mem_cons.mpr ⟨rfl, List.forall_mem_append.mpr ⟨hg, fun n hn => ?_⟩⟩
    obtain ⟨r, hr, hn⟩ := List.mem_flatMap.mp (nodesOf_eq _ ▸ hn)
    obtain ⟨_, -, hr⟩ := exists_of_mem_right hes hr
    exact hr n hn
  case block | tuple | vector =>
    intro _ _ hes
    refine List.forall_mem_cons.mpr ⟨rfl, fun n hn => ?_⟩
    obtain ⟨r, hr, hn⟩ := List.mem_flatMap.mp (nodesOf_eq _ ▸ hn)
    obtain ⟨_, -, hr⟩ := exists_of_mem_right hes hr
    exact hr n hn
  case namedTuple =>
    intro _ _ hfs
    refine List.forall_mem_cons.mpr ⟨rfl, fun n hn => ?_⟩
    obtain ⟨r, hr, hn⟩ := List.mem_flatMap.mp (nodesOfFields_eq _ ▸ hn)
    obtain ⟨_, -, -, hr⟩ := exists_of_mem_right hfs hr
    exact hr n hn
  case pair =>
    intro _ _ _ _ hl hr
    exact List.forall_mem_cons.mpr ⟨rfl, List.forall_mem_append.mpr ⟨hl, hr⟩⟩
  case assign =>
    intro s e s' r hm hs hs' hr
    have hp : (assign s' r).isPlain = true := by
      simp [isPlain, hs'.isMention_eq_false (resolve_ne_column hs hm)]
    exact List.forall_mem_cons.mpr ⟨hp, List.forall_mem_append.mpr ⟨hs', hr⟩⟩

lemma resolve_assignsNoColumn {e r : Expr} (h : e.resolve = .ok r) : r.AssignsNoColumn :=
  (resolved_resolve h).assignsNoColumn

lemma idents_of_resolve {e r : Expr} (h : e.resolve = .ok r) : ∀ x ∈ r.idents, x ∈ e.idents := by
  intro x
  apply resolve_induction (P := fun e r => x ∈ r.idents → x ∈ e.idents) (h := h)
  case literal | ident | quote | interp | column => simp [idents]
  case keyword | field => exact fun _ _ _ ih => ih
  case lambda => exact fun xs e r ih => by simpa [idents] using fun hx => hx.imp id ih
  case call | index =>
    intro _ _ _ _ hg hes
    simp only [idents, identsOf_eq, List.mem_append, List.mem_flatMap]
    rintro (hx | ⟨r, hr, hx⟩)
    · exact .inl (hg hx)
    · obtain ⟨e, he, hr⟩ := exists_of_mem_right hes hr
      exact .inr ⟨e, he, hr hx⟩
  case block | tuple | vector =>
    intro _ _ hes
    simp only [idents, identsOf_eq, List.mem_flatMap]
    rintro ⟨r, hr, hx⟩
    obtain ⟨e, he, hr⟩ := exists_of_mem_right hes hr
    exact ⟨e, he, hr hx⟩
  case namedTuple =>
    intro _ _ hfs
    simp only [idents, identsOfFields_eq, List.mem_flatMap]
    rintro ⟨r, hr, hx⟩
    obtain ⟨f, hf, hr⟩ := exists_of_mem_right hfs hr
    exact ⟨f, hf, hr.2 hx⟩
  case pair =>
    intro _ _ _ _ hl hr
    simpa [idents] using Or.imp hl hr
  case assign =>
    intro _ _ _ _ _ _ hl hr
    simpa [idents] using Or.imp hl hr

end Tabular.Expr
