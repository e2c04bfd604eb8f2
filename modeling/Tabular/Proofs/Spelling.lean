import Tabular.Proofs.Calls

namespace Tabular

namespace Expr

mutual

def respell (f : Expr → Expr) : Expr → Expr
  | literal v => literal v
  | ident x => ident x
  | quote x => quote x
  | interp target => match Column.interpolated target with
    | .ok (.dynamic t) => f t
    | _ => interp target
  | column c => match c with
    | .dynamic t => f t
    | c => column c
  | call func args => call (respell f func) (respellItems f args)
  | keyword x value => keyword x (respell f value)
  | index target indices => index (respell f target) (respellItems f indices)
  | field target x => field (respell f target) x
  | assign sink value => assign (respell f sink) (respell f value)
  | flagged flags inner => flagged flags (respell f inner)
  | block lines => block (respellItems f lines)
  | tuple items => tuple (respellItems f items)
  | namedTuple fields => namedTuple (respellFields f fields)
  | vector items => vector (respellItems f items)
  | lambda xs body => lambda xs (respell f body)
  | pair left right => pair (respell f left) (respell f right)

def respellItems (f : Expr → Expr) : List Expr → List Expr
  | [] => []
  | e :: es => respell f e :: respellItems f es

def respellFields (f : Expr → Expr) : List (String × Expr) → List (String × Expr)
  | [] => []
  | (x, e) :: fields => (x, respell f e) :: respellFields f fields

end

end Expr

def Column.SpelledBy (f : Expr → Expr) (τ : Column → Column) (c : Column) : Prop :=
  match c with
  | .dynamic t => (f t).resolve = .ok (.column (τ c))
  | c => τ c = c

namespace Expr

variable {f : Expr → Expr}

@[simp] lemma respellItems_eq (f : Expr → Expr) (es : List Expr) : respellItems f es = es.map (respell f) := by
  induction es with
  | nil => rfl
  | cons e es ih => simp [respellItems, ih]

@[simp] lemma respellFields_eq (f : Expr → Expr) (fs : List (String × Expr)) :
    respellFields f fs = fs.map fun field => (field.1, field.2.respell f) := by
  induction fs with
  | nil => rfl
  | cons field fs ih => simp [respellFields, ih]

lemma respell_interp {e : Expr} {c : Column} : Column.interpolated e = .ok c →
    (interp e).respell f = match c with
      | .dynamic t => f t
      | _ => interp e := by
  intro h
  rw [respell, h]
  cases c <;> rfl

lemma respell_of_isMention {e : Expr} (he : e.isMention = true) : e.respell f = e ∨ ∃ t, e.respell f = f t := by
  cases e with
  | quote x => exact .inl rfl
  | interp target =>
    rw [respell]
    split
    next t _ => exact .inr ⟨t, rfl⟩
    next => exact .inl rfl
  | column c =>
    cases c with
    | dynamic t => exact .inr ⟨t, rfl⟩
    | _ => exact .inl rfl
  | _ => cases he

lemma isMention_respell (hf : ∀ t, (f t).isMention = true) (e : Expr) : (e.respell f).isMention = e.isMention := by
  cases he : e.isMention with
  | true =>
    rcases respell_of_isMention (f := f) he with h | ⟨t, h⟩
    · rw [h, he]
    · rw [h, hf t]
  | false =>
    cases e with
    | quote | interp | column => cases he
    | _ => rfl

variable {τ : Column → Column}

lemma resolve_respell_column {c : Column} (hc : c.SpelledBy f τ) :
    ((column c).respell f).resolve = .ok (column (τ c)) := by
  cases c with
  | dynamic t => exact hc
  | _ =>
    rw [show τ _ = _ from hc]
    rfl

lemma resolve_respell_interp {e : Expr} {c : Column} (h : Column.interpolated e = .ok c) (hc : c.SpelledBy f τ) :
    ((interp e).respell f).resolve = .ok (column (τ c)) := by
  rw [respell_interp h]
  cases c with
  | dynamic t => exact hc
  | _ =>
    rw [show τ _ = _ from hc]
    simp only [resolve, h]
    rfl

lemma resolveItems_respell {es rs : List Expr}
    (h : List.Forall₂ (fun e r => (∀ c ∈ r.mentions, c.SpelledBy f τ) → (e.respell f).resolve =
      .ok (r.recolumn τ)) es rs)
    (hc : ∀ r ∈ rs, ∀ c ∈ r.mentions, c.SpelledBy f τ) :
    resolveItems (respellItems f es) = .ok (mapColumnsItems (fun c => column (τ c)) rs) := by
  rw [resolveItems_eq, respellItems_eq, mapColumnsItems_eq, mapM_eq_ok, List.forall₂_map_left_iff,
    List.forall₂_map_right_iff]
  exact forall₂_of_mem h fun e _ r hr h => h (hc r hr)

lemma resolveFields_respell {fs rs : List (String × Expr)}
    (h : List.Forall₂ (fun f' r => f'.1 = r.1 ∧
      ((∀ c ∈ r.2.mentions, c.SpelledBy f τ) → (f'.2.respell f).resolve = .ok (r.2.recolumn τ))) fs rs)
    (hc : ∀ r ∈ rs, ∀ c ∈ r.2.mentions, c.SpelledBy f τ) :
    resolveFields (respellFields f fs) = .ok (mapColumnsFields (fun c => column (τ c)) rs) := by
  rw [resolveFields_eq, respellFields_eq, mapColumnsFields_eq, mapM_eq_ok, List.forall₂_map_left_iff,
    List.forall₂_map_right_iff]
  refine forall₂_of_mem h fun field _ r hr h => bind_eq_ok.mpr ⟨_, h.2 (hc r hr), ?_⟩
  rw [h.1]
  rfl

theorem resolve_respell (hf : ∀ t, (f t).isMention = true) {e r : Expr} (h : e.resolve = .ok r)
    (hc : ∀ c ∈ r.mentions, c.SpelledBy f τ) : (e.respell f).resolve = .ok (r.recolumn τ) := by
  revert hc
  apply resolve_induction (h := h)
    (P := fun e r => (∀ c ∈ r.mentions, c.SpelledBy f τ) → (e.respell f).resolve = .ok (r.recolumn τ))
  case literal | ident => exact fun _ _ => rfl
  case quote => exact fun x hc => resolve_respell_column (hc (.symbol x) List.mem_cons_self)
  case column => exact fun c hc => resolve_respell_column (hc c List.mem_cons_self)
  case interp => exact fun e c h hc => resolve_respell_interp h (hc c List.mem_cons_self)
  case keyword | field | lambda =>
    intro _ _ _ ih hc
    rw [respell, resolve, ih hc]
    rfl
  case call | index =>
    intro _ _ _ _ hg hes hc
    simp only [mentions, mentionsOf_eq, List.mem_append, List.mem_flatMap] at hc
    rw [respell, resolve, hg fun c h => hc c (.inl h), resolveItems_respell hes fun r hr c h =>
      hc c (.inr ⟨r, hr, h⟩)]
    rfl
  case block | tuple | vector =>
    intro _ _ hes hc
    simp only [mentions, mentionsOf_eq, List.mem_flatMap] at hc
    rw [respell, resolve, resolveItems_respell hes fun r hr c h => hc c ⟨r, hr, h⟩]
    rfl
  case namedTuple =>
    intro fs rs hfs hc
    simp only [mentions, mentionsOfFields_eq, List.mem_flatMap] at hc
    rw [respell, resolve, resolveFields_respell hfs fun r hr c h => hc c ⟨r, hr, h⟩]
    rfl
  case pair =>
    intro _ _ _ _ hl hr hc
    simp only [mentions, List.mem_append] at hc
    rw [respell, resolve, hl fun c h => hc c (.inl h), hr fun c h => hc c (.inr h)]
    rfl
  case assign =>
    intro s e s' r hm _ hs he hc
    simp only [mentions, List.mem_append] at hc
    rw [respell, resolve, isMention_respell hf, hm, if_neg Bool.false_ne_true, hs fun c h => hc c (.inl h),
      he fun c h => hc c (.inr h)]
    rfl

end Expr

variable {f : Expr → Expr} {τ : Column → Column}

lemma Flags.stripped_of_isMention (flags : Flags) {e : Expr} (he : e.isMention = true) :
    flags.stripped e = .ok (flags, e) := by
  cases e with
  | quote | interp | column => rfl
  | _ => cases he

lemma Argument.sides_of_isMention {e : Expr} (he : e.isMention = true) : sides e = .ok (none, e) := by
  cases e with
  | quote | interp | column => rfl
  | _ => cases he

section Mentions

variable (hf : ∀ t, (f t).isMention = true)
include hf

lemma Flags.stripped_respell {flags flags' : Flags} {e inner : Expr} (h : flags.stripped e = .ok (flags', inner)) :
    flags.stripped (e.respell f) = .ok (flags', inner.respell f) := by
  induction e generalizing flags with
  | flagged text e ih =>
    rw [Expr.respell]
    rw [stripped_flagged] at h ⊢
    obtain ⟨g, hg, h⟩ := bind_eq_ok.mp h
    exact bind_eq_ok.mpr ⟨g, hg, ih h⟩
  | quote | interp | column =>
    cases h
    exact stripped_of_isMention _ (Expr.isMention_respell hf _)
  | _ =>
    cases h
    rfl

lemma Argument.sides_respell {e value : Expr} {sink : Option Expr} (h : sides e = .ok (sink, value)) :
    sides (e.respell f) = .ok (sink.map (Expr.respell f), value.respell f) := by
  cases e with
  | keyword | pair => cases h
  | quote | interp | column =>
    cases h
    exact sides_of_isMention (Expr.isMention_respell hf _)
  | _ =>
    cases h
    rfl

lemma Argument.ofExpr_respell {e : Expr} {a : Argument} (h : ofExpr e = .ok a) :
    ofExpr (e.respell f) = .ok ⟨a.flags, a.sink.map (Expr.respell f), a.value.respell f⟩ := by
  obtain ⟨⟨flags, inner⟩, hs, h⟩ := bind_eq_ok.mp h
  obtain ⟨⟨sink, value⟩, hsides, h⟩ := bind_eq_ok.mp h
  obtain ⟨⟨flags', value'⟩, hv, h⟩ := bind_eq_ok.mp h
  refine bind_eq_ok.mpr ⟨_, Flags.stripped_respell hf hs, bind_eq_ok.mpr ⟨_, sides_respell hf hsides, ?_⟩⟩
  refine bind_eq_ok.mpr ⟨_, Flags.stripped_respell hf hv, ?_⟩
  dsimp only at h ⊢
  split at h
  · cases h
  next hn =>
    cases h
    split
    next text inner he =>
      -- nothing but flags is spelled with flags
      obtain ⟨s, rfl, hs⟩ := Option.map_eq_some_iff.mp he
      have hm := Expr.isMention_respell hf s
      cases s with
      | flagged text inner => exact absurd rfl (hn text inner)
      | quote | interp | column =>
        rw [hs] at hm
        cases hm
      | _ => cases hs
    next => rfl

end Mentions

def Sink.recolumn (τ : Column → Column) : Sink → Sink
  | .column c => .column (τ c)
  | s => s

def Sink.SpelledBy (config : Config) (f : Expr → Expr) (τ : Column → Column) : Sink → Prop
  | .column (.dynamic t) => Sink.resolve config (f t) = .ok (.column (τ (.dynamic t)))
  | .column c => τ c = c
  | _ => True

lemma Sink.resolve_respell {config : Config} {e : Expr} {s : Sink} (h : Sink.resolve config e = .ok s)
    (hs : s.SpelledBy config f τ) : Sink.resolve config (e.respell f) = .ok (s.recolumn τ) := by
  cases e with
  | quote x =>
    cases h
    rw [recolumn, show τ _ = _ from hs]
    rfl
  | ident x =>
    rw [resolve] at h
    split at h
    next hx =>
      cases h
      exact if_pos hx
    next => cases h
  | interp target =>
    obtain ⟨c, hc, h⟩ := bind_eq_ok.mp h
    rw [Expr.respell_interp hc]
    cases c with
    | position n => cases h
    | dynamic t =>
      cases h
      exact hs
    | _ =>
      cases h
      rw [recolumn, show τ _ = _ from hs]
      exact bind_eq_ok.mpr ⟨_, hc, rfl⟩
  | column c =>
    cases c with
    | position n => cases h
    | dynamic t =>
      cases h
      exact hs
    | _ =>
      cases h
      rw [recolumn, show τ _ = _ from hs]
      rfl
  | _ => cases h

namespace Call

lemma linesOf_of_isMention {flatten : Bool} {arg : Nat} {e : Expr} (he : e.isMention = true) :
    linesOf flatten arg e = [(arg, e)] := by
  cases e with
  | quote | interp | column => cases flatten <;> rfl
  | _ => cases he

lemma linesOf_respell (hf : ∀ t, (f t).isMention = true) (flatten : Bool) (arg : Nat) (e : Expr) :
    linesOf flatten arg (e.respell f) = (linesOf flatten arg e).map fun line => (line.1, line.2.respell f) := by
  cases e with
  | block lines =>
    cases flatten with
    | false => rfl
    | true =>
      change (Expr.respellItems f lines).map _ = (lines.map _).map _
      rw [Expr.respellItems_eq, List.map_map, List.map_map]
      rfl
  | quote | interp | column =>
    rw [linesOf_of_isMention (Expr.isMention_respell hf _), linesOf_of_isMention rfl]
    rfl
  | _ => cases flatten <;> rfl

lemma linesFrom_respell (hf : ∀ t, (f t).isMention = true) (flatten : Bool) (arg : Nat) (es : List Expr) :
    linesFrom flatten arg (es.map (Expr.respell f)) =
      (linesFrom flatten arg es).map fun line => (line.1, line.2.respell f) := by
  induction es generalizing arg with
  | nil => rfl
  | cons e es ih => rw [List.map_cons, linesFrom_cons, linesFrom_cons, linesOf_respell hf, ih, List.map_append]

end Call

end Tabular
