import Mathlib.Data.List.Forall2
import Mathlib.Tactic.Lemma

namespace Tabular

variable {ε α β γ : Type}

/-- Where `x` has a result, `y` has the same; if `both` holds, also the other way round. -/
def Follows (both : Prop) (x y : Except ε α) : Prop :=
  (∀ a, x = .ok a → y = .ok a) ∧ (both → ∀ a, y = .ok a → x = .ok a)

lemma bind_eq_ok {x : Except ε α} {f : α → Except ε β} {b : β} :
    (x >>= f) = .ok b ↔ ∃ a, x = .ok a ∧ f a = .ok b := by
  cases x <;> simp [bind, Except.bind]

lemma bind_eq_error {x : Except ε α} {f : α → Except ε β} {e : ε} :
    (x >>= f) = .error e ↔ x = .error e ∨ ∃ a, x = .ok a ∧ f a = .error e := by
  cases x <;> simp [bind, Except.bind]

lemma mapM_eq_ok {f : α → Except ε β} {l : List α} {bs : List β} :
    l.mapM f = .ok bs ↔ List.Forall₂ (fun a b => f a = .ok b) l bs := by
  induction l generalizing bs with
  | nil =>
    rw [List.mapM_nil, List.forall₂_nil_left_iff]
    exact ⟨fun h => (Except.ok.inj h).symm, fun h => congrArg Except.ok h.symm⟩
  | cons a l ih =>
    simp only [List.mapM_cons, bind_eq_ok, List.forall₂_cons_left_iff, ih]
    constructor
    · rintro ⟨b, hb, bs', hbs, h⟩
      exact ⟨b, bs', hb, hbs, (Except.ok.inj h).symm⟩
    · rintro ⟨b, bs', hb, hbs, rfl⟩
      exact ⟨b, hb, bs', hbs, rfl⟩

lemma pure_eq_ok {a b : α} : (pure a : Except ε α) = .ok b ↔ a = b := Except.ok.injEq a b ▸ Iff.rfl

lemma exists_of_mem_right {R : α → β → Prop} {as : List α} {bs : List β} (h : List.Forall₂ R as bs) {b : β}
    (hb : b ∈ bs) : ∃ a ∈ as, R a b := by
  induction h with
  | nil => exact absurd hb List.not_mem_nil
  | cons ha hf ih =>
    rcases List.mem_cons.mp hb with rfl | hb
    · exact ⟨_, List.mem_cons_self, ha⟩
    · obtain ⟨a, hm, ha⟩ := ih hb
      exact ⟨a, List.mem_cons_of_mem _ hm, ha⟩

lemma exists_getElem? {R : α → β → Prop} {as : List α} {bs : List β} (h : List.Forall₂ R as bs) {i : ℕ} {b : β}
    (hb : bs[i]? = some b) : ∃ a, as[i]? = some a ∧ R a b := by
  obtain ⟨hi, rfl⟩ := List.getElem?_eq_some_iff.mp hb
  have hl : i < as.length := h.length_eq.symm ▸ hi
  exact ⟨as[i], List.getElem?_eq_getElem hl, h.get hl hi⟩

lemma exists_forall₂ {R : α → β → Prop} {as : List α} (h : ∀ a ∈ as, ∃ b, R a b) : ∃ bs, List.Forall₂ R as bs := by
  induction as with
  | nil => exact ⟨[], .nil⟩
  | cons a as ih =>
    obtain ⟨b, hb⟩ := h a List.mem_cons_self
    obtain ⟨bs, hbs⟩ := ih fun a' ha => h a' (List.mem_cons_of_mem a ha)
    exact ⟨b :: bs, .cons hb hbs⟩

lemma forall₂_of_mem {R S : α → β → Prop} {as : List α} {bs : List β} (h : List.Forall₂ R as bs)
    (hs : ∀ a ∈ as, ∀ b ∈ bs, R a b → S a b) : List.Forall₂ S as bs := by
  induction h with
  | nil => exact .nil
  | cons ha hf ih =>
    refine .cons (hs _ List.mem_cons_self _ List.mem_cons_self ha) (ih fun a hm b hb => ?_)
    exact hs a (List.mem_cons_of_mem _ hm) b (List.mem_cons_of_mem _ hb)

lemma forall₂_comp {R : α → β → Prop} {S : β → γ → Prop} {as : List α} {bs : List β} {cs : List γ}
    (hr : List.Forall₂ R as bs) (hs : List.Forall₂ S bs cs) :
    List.Forall₂ (fun a c => ∃ b, R a b ∧ S b c) as cs := by
  induction hr generalizing cs with
  | nil =>
    rw [List.forall₂_nil_left_iff.mp hs]
    exact .nil
  | cons ha hr ih =>
    obtain ⟨c, cs, hc, hcs, rfl⟩ := List.forall₂_cons_left_iff.mp hs
    exact .cons ⟨_, ha, hc⟩ (ih hcs)

lemma exists_of_forall₂_comp {R : α → β → Prop} {S : β → γ → Prop} {as : List α} {cs : List γ}
    (h : List.Forall₂ (fun a c => ∃ b, R a b ∧ S b c) as cs) :
    ∃ bs, List.Forall₂ R as bs ∧ List.Forall₂ S bs cs := by
  induction h with
  | nil => exact ⟨[], .nil, .nil⟩
  | cons ha _ ih =>
    obtain ⟨b, hr, hs⟩ := ha
    obtain ⟨bs, hrs, hss⟩ := ih
    exact ⟨b :: bs, .cons hr hrs, .cons hs hss⟩

lemma exists_of_mapM_eq_error {f : α → Except ε β} {l : List α} {e : ε} (h : l.mapM f = .error e) :
    ∃ a ∈ l, f a = .error e := by
  induction l with
  | nil => cases h
  | cons a l ih =>
    rw [List.mapM_cons] at h
    rcases bind_eq_error.mp h with ha | ⟨b, -, h⟩
    · exact ⟨a, List.mem_cons_self, ha⟩
    · rcases bind_eq_error.mp h with hl | ⟨bs, -, h⟩
      · obtain ⟨a', ha', he⟩ := ih hl
        exact ⟨a', List.mem_cons_of_mem a ha', he⟩
      · cases h

lemma map_ok_iff {x : Except ε α} {k : α → β} : (∃ b, (do return k (← x)) = .ok b) ↔ ∃ a, x = .ok a := by
  cases x with
  | ok a => exact iff_of_true ⟨k a, rfl⟩ ⟨a, rfl⟩
  | error e => exact iff_of_false (fun ⟨_, h⟩ => nomatch h) fun ⟨_, h⟩ => nomatch h

lemma mapM_ok_iff {f : α → Except ε β} {l : List α} : (∃ bs, l.mapM f = .ok bs) ↔ ∀ a ∈ l, ∃ b, f a = .ok b := by
  simp only [mapM_eq_ok]
  refine ⟨fun ⟨bs, h⟩ a ha => ?_, exists_forall₂⟩
  obtain ⟨b, -, hb⟩ := exists_of_mem_right h.flip ha
  exact ⟨b, hb⟩

lemma map_congr_of_ok {x : Except ε α} {k k' : α → β} (h : ∀ a, x = .ok a → k a = k' a) :
    (do return k (← x)) = (do return k' (← x) : Except ε β) := by
  cases x with
  | ok a => exact congrArg Except.ok (h a rfl)
  | error e => rfl

/-- `x` has a result exactly if `P` holds, and then the result is `a`. -/
def Gives (x : Except ε α) (P : Prop) (a : α) : Prop := ∀ b, x = .ok b ↔ P ∧ b = a

namespace Gives

variable {x : Except ε α} {f : α → Except ε β} {P Q : Prop} {a : α} {b : β}

lemma ok (ε : Type) (a : α) : Gives (.ok a : Except ε α) True a := fun b => by
  rw [Except.ok.injEq, true_and, eq_comm]

lemma error (e : ε) (a : α) : Gives (.error e) False a := fun _ => ⟨fun h => (nomatch h), fun h => h.1.elim⟩

lemma congr (h : Gives x P a) (hp : P ↔ Q) : Gives x Q a := fun b => by rw [h b, hp]

lemma bind (hx : Gives x P a) (hf : P → Gives (f a) Q b) : Gives (x >>= f) (P ∧ Q) b := by
  intro d
  simp only [bind_eq_ok, hx _]
  constructor
  · rintro ⟨_, ⟨hp, rfl⟩, hd⟩
    obtain ⟨hq, rfl⟩ := (hf hp d).mp hd
    exact ⟨⟨hp, hq⟩, rfl⟩
  · rintro ⟨⟨hp, hq⟩, rfl⟩
    exact ⟨a, ⟨hp, rfl⟩, (hf hp d).mpr ⟨hq, rfl⟩⟩

lemma map (hx : Gives x P a) (k : α → β) : Gives (do return k (← x)) P (k a) :=
  (hx.bind fun _ => ok ε (k a)).congr (and_iff_left trivial)

lemma guarded {c : Prop} [Decidable c] (e : ε) (hx : ¬ c → Gives x P a) :
    Gives (if c then .error e else x) (¬ c ∧ P) a := by
  split
  next hc => exact (error e a).congr (iff_of_false not_false fun h => h.1 hc)
  next hc => exact (hx hc).congr (and_iff_right hc).symm

lemma of_eq (h : Gives x P a) {b : α} (he : P → a = b) : Gives x P b := by
  intro d
  rw [h d]
  refine and_congr_right fun hp => ?_
  rw [he hp]

lemma map₂ {y : Except ε β} {γ : Type} (hx : Gives x P a) (hy : Gives y Q b) (k : α → β → γ) :
    Gives (do return k (← x) (← y)) (P ∧ Q) (k a b) :=
  hx.bind fun _ => hy.map (k a)

lemma mapM {P : α → Prop} {g : α → β} {l : List α} (h : ∀ a ∈ l, Gives (f a) (P a) (g a)) :
    Gives (l.mapM f) (∀ a ∈ l, P a) (l.map g) := by
  induction l with
  | nil => exact (ok ε []).congr (by simp)
  | cons a l ih =>
    obtain ⟨ha, hl⟩ := List.forall_mem_cons.mp h
    rw [List.mapM_cons]
    exact (ha.map₂ (ih hl) List.cons).congr List.forall_mem_cons.symm

lemma ok_iff (h : Gives x P a) : (∃ b, x = .ok b) ↔ P :=
  ⟨fun ⟨b, hb⟩ => ((h b).mp hb).1, fun hp => ⟨a, (h a).mpr ⟨hp, rfl⟩⟩⟩

lemma eq_of_ok (h : Gives x P a) {b : α} (hb : x = .ok b) : b = a := ((h b).mp hb).2

end Gives

namespace Follows

variable {both : Prop} {x y z : Except ε α}

lemma refl (both : Prop) (x : Except ε α) : Follows both x x := ⟨fun _ h => h, fun _ _ h => h⟩

lemma error_of_both {e : ε} (h : both → ∃ e', y = .error e') : Follows both (.error e) y := by
  refine ⟨fun a ha => (nomatch ha), fun hb a ha => ?_⟩
  obtain ⟨e', he⟩ := h hb
  exact nomatch he.symm.trans ha

lemma errors (both : Prop) (e e' : ε) : Follows both (.error e : Except ε α) (.error e') :=
  error_of_both fun _ => ⟨e', rfl⟩

lemma trans (hx : Follows both x y) (hy : Follows both y z) : Follows both x z :=
  ⟨fun a h => hy.1 a (hx.1 a h), fun hb a h => hx.2 hb a (hy.2 hb a h)⟩

lemma mono {both' : Prop} (h : Follows both x y) (hb : both' → both) : Follows both' x y :=
  ⟨h.1, fun hb' => h.2 (hb hb')⟩

lemma symm (h : Follows both x y) (hb : both) : Follows both y x := ⟨h.2 hb, fun _ => h.1⟩

lemma bind {f g : α → Except ε β} (h : Follows both x y) (hf : ∀ a, Follows both (f a) (g a)) :
    Follows both (x >>= f) (y >>= g) := by
  constructor
  · intro b hb
    obtain ⟨a, ha, hfa⟩ := bind_eq_ok.mp hb
    exact bind_eq_ok.mpr ⟨a, h.1 a ha, (hf a).1 b hfa⟩
  · intro hb b hgb
    obtain ⟨a, ha, hga⟩ := bind_eq_ok.mp hgb
    exact bind_eq_ok.mpr ⟨a, h.2 hb a ha, (hf a).2 hb b hga⟩

lemma mapM {f g : α → Except ε β} {l : List α} (h : ∀ a ∈ l, Follows both (f a) (g a)) :
    Follows both (l.mapM f) (l.mapM g) := by
  induction l with
  | nil => exact refl both _
  | cons a l ih =>
    rw [List.mapM_cons, List.mapM_cons]
    refine (h a List.mem_cons_self).bind fun b => ?_
    exact (ih fun c hc => h c (List.mem_cons_of_mem a hc)).bind fun bs => refl both _

lemma toOption_eq (h : Follows both x y) (hb : both) : x.toOption = y.toOption := by
  cases x with
  | ok a => rw [h.1 a rfl]
  | error e =>
    cases y with
    | ok a => exact nomatch h.2 hb a rfl
    | error e' => rfl

end Follows

end Tabular
