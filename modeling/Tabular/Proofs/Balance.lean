import Tabular.Proofs.Legibility
import Tabular.Proofs.Nesting

/-!
A written expression never leaves more brackets and blocks open than there were before it, and it leaves as many
only if the reader can follow it.
-/

namespace Tabular

open Lexer Operator Parse Wording Nesting

namespace Nesting

/-- A run that ends behind an operand and leaves no more open than `fs`; if it leaves as much, `P` holds of it. -/
structure Lands (fs : List Frame) (P : List Frame → Prop) (s : State) : Prop where
  done : s.place = .done
  le : s.frames.length ≤ fs.length
  kept : s.frames.length = fs.length → P s.frames

def Settles (P : List Frame → List Frame → Prop) (ts : List Lexeme) : Prop :=
  ∀ fs s, run ⟨fs, .start⟩ ts = some s → Lands fs (P fs) s

def Encloses (f : Frame) (P : Prop) (ts : List Lexeme) : Prop :=
  ∀ fs s, run ⟨f :: fs, .start⟩ ts = some s →
    s.frames.length ≤ fs.length + 1 ∧ (s.frames.length = fs.length + 1 → P ∧ s.frames.tail = fs)

variable {fs gs : List Frame} {s s' : State} {ts us : List Lexeme} {P Q : List Frame → List Frame → Prop}
  {A B : Prop}

lemma run_append_eq_some : run s (ts ++ us) = some s' ↔ ∃ s₁, run s ts = some s₁ ∧ run s₁ us = some s' := by
  rw [run_append, Option.bind_eq_some_iff]

lemma run_cons_eq_some {l : Lexeme} :
    run s (l :: ts) = some s' ↔ ∃ s₁, s.step l.token = some s₁ ∧ run s₁ ts = some s' := by
  rw [run_cons, Option.bind_eq_some_iff]

lemma Lands.eq {R : List Frame → Prop} (h : Lands fs R s) : s = ⟨s.frames, .done⟩ := by
  rw [← h.done]

lemma Lands.mono {R S : List Frame → Prop} (h : Lands fs R s) (hs : ∀ gs, R gs → S gs) : Lands fs S s :=
  ⟨h.done, h.le, fun he => hs _ (h.kept he)⟩

lemma Settles.mono (h : Settles P ts) (hs : ∀ fs gs, P fs gs → Q fs gs) : Settles Q ts :=
  fun fs s hr => (h fs s hr).mono (hs fs)

lemma settles_single {t : Token} {space : Bool} (h : ∀ fs, (State.mk fs .start).step t = some ⟨fs, .done⟩) :
    Settles (fun fs gs => gs = fs) [t.spaced space] := by
  intro fs s hr
  obtain ⟨s₁, hs, hr⟩ := run_cons_eq_some.mp hr
  cases (h fs).symm.trans hs
  cases hr
  exact ⟨rfl, Nat.le_refl _, fun _ => rfl⟩

lemma close_eq_some (h : s.close = some s') : ∃ f, s.frames = f :: s'.frames ∧ s'.place = .done := by
  unfold State.close at h
  split at h
  next hf =>
    cases h
    exact ⟨_, hf, rfl⟩
  next hf =>
    cases h
    exact ⟨_, hf, rfl⟩
  next => cases h

lemma step_end {p : Place} (hp : p = .line ∨ p = .done) (h : (State.mk fs p).step (.ident "end") = some s) :
    ∃ gs, fs = .block :: gs ∧ s = ⟨gs, .done⟩ := by
  cases fs with
  | nil => rcases hp with rfl | rfl <;> cases h
  | cons f gs =>
    cases f with
    | block => exact ⟨gs, rfl, by rcases hp with rfl | rfl <;> cases h <;> rfl⟩
    | _ => rcases hp with rfl | rfl <;> cases h

lemma widen_of_head? (h : fs.head? = some .block) : widen fs = fs := by
  cases fs with
  | nil => cases h
  | cons f fs => cases h; rfl

lemma Encloses.lands {f : Frame} (h : Encloses f A ts) {closing : Lexeme}
    (hc : closing.token = .closeParen ∨ closing.token = .closeBracket)
    (hr : run ⟨f :: fs, .start⟩ (ts ++ [closing]) = some s) : Lands fs (fun gs => A ∧ gs = fs) s := by
  obtain ⟨s₁, hr, hclose⟩ := run_append_eq_some.mp hr
  obtain ⟨s₂, hclose, hr₂⟩ := run_cons_eq_some.mp hclose
  cases hr₂
  have hclose : s₁.close = some s := by rcases hc with hc | hc <;> simpa [hc, State.step] using hclose
  obtain ⟨g, hg, hdone⟩ := close_eq_some hclose
  obtain ⟨hle, hkept⟩ := h fs s₁ hr
  rw [hg] at hle hkept
  simp only [List.length_cons, List.tail_cons, Nat.add_le_add_iff_right, Nat.add_right_cancel_iff] at hle hkept
  exact ⟨hdone, hle, hkept⟩

lemma Encloses.bracketed (h : Encloses .round A ts) {opening closing : Token} {p : Place} (hp : p ≠ .dollar)
    (ho : opening = .openParen ∧ closing = .closeParen ∨ opening = .openBracket ∧ closing = .closeBracket)
    {space : Bool} (hr : run ⟨fs, p⟩ (bracketed opening closing ts space) = some s) :
    Lands fs (fun gs => A ∧ gs = fs) s := by
  obtain ⟨s₁, hs, hr⟩ := run_cons_eq_some.mp hr
  rcases ho with ⟨rfl, rfl⟩ | ⟨rfl, rfl⟩
  · have hs : s₁ = ⟨.round :: fs, .start⟩ := by simpa [State.step, Token.spaced, hp] using hs.symm
    subst hs
    exact h.lands (.inl rfl) hr
  · have hs : s₁ = ⟨.round :: fs, .start⟩ := by simpa [State.step, Token.spaced] using hs.symm
    subst hs
    exact h.lands (.inr rfl) hr

lemma Settles.infixed (hl : Settles P ts) (hr : Settles Q us) (op : String) (space : Bool) :
    Settles (fun fs gs => ∃ hs, P fs hs ∧ (op = "=" → widen hs = hs) ∧ Q hs gs)
      (ts ++ (Token.op op).spaced space :: us) := by
  intro fs s hrun
  obtain ⟨s₁, hrun, hrun'⟩ := run_append_eq_some.mp hrun
  obtain ⟨s₂, hop, hrun'⟩ := run_cons_eq_some.mp hrun'
  have h₁ := hl fs s₁ hrun
  rw [h₁.eq] at hop
  have hop : (op = "=" → widen s₁.frames = s₁.frames) ∧ s₂ = ⟨s₁.frames, .start⟩ := by
    simp only [State.step, Token.spaced, reduceCtorEq, false_or, Option.ite_none_left_eq_some, not_and,
      not_not] at hop
    exact ⟨hop.1, (Option.some.inj hop.2).symm⟩
  obtain ⟨hassign, rfl⟩ := hop
  have h₂ := hr _ s hrun'
  refine ⟨h₂.done, Nat.le_trans h₂.le h₁.le, fun he => ⟨s₁.frames, h₁.kept ?_, hassign, h₂.kept ?_⟩⟩
  · exact Nat.le_antisymm h₁.le (he ▸ h₂.le)
  · exact Nat.le_antisymm h₂.le (he ▸ h₁.le)

end Nesting

namespace Expr

def Settled (e : Expr) (fs gs : List Frame) : Prop :=
  e.All Followed ∧ (gs = fs ∨ e.level = 0 ∧ gs = widen fs) ∧ (widen fs ≠ fs → e.spills = false)

def Listed (e : Expr) (fs gs : List Frame) : Prop := widen fs = fs → e.All Followed ∧ gs = fs

lemma Settled.listed {e : Expr} {fs gs : List Frame} (h : e.Settled fs gs) : e.Listed fs gs := by
  intro hw
  obtain ⟨he, rfl | ⟨-, rfl⟩, -⟩ := h
  · exact ⟨he, rfl⟩
  · exact ⟨he, hw⟩

variable {e : Expr} {es : List Expr}

lemma settles_operand (h : ∀ space, Settles e.Settled (e.lexemesAt 0 space)) {q : Nat} (hq : 0 < q)
    (hq' : q ≤ atomLevel) (space : Bool) :
    Settles (fun fs gs => e.All Followed ∧ gs = fs) (e.lexemesAt q space) := by
  by_cases hle : q ≤ e.level
  · rw [lexemesAt_of_le hle]
    refine (h space).mono fun fs gs ⟨he, hgs, _⟩ => ⟨he, hgs.resolve_right fun hl => ?_⟩
    omega
  · rw [lexemesAt_of_lt (Nat.lt_of_not_le hle) hq']
    intro fs s hr
    have henc : Encloses .round (e.All Followed) (e.lexemesAt 0 false) := by
      intro fs s hr
      have hl := h false _ s hr
      refine ⟨hl.le, fun he => ?_⟩
      obtain ⟨he, hgs⟩ := (hl.kept he).listed rfl
      exact ⟨he, by rw [hgs, List.tail_cons]⟩
    exact henc.bracketed (by decide) (.inl ⟨rfl, rfl⟩) hr

lemma run_listing (h : ∀ e ∈ es, ∀ space, Settles e.Listed (e.lexemesAt 0 space)) {space : Bool} {fs : List Frame}
    {s : State} (hr : run ⟨fs, .start⟩ (listing .comma space (es.map (·.lexemesAt 0))) = some s) :
    s.frames.length ≤ fs.length ∧
      (s.frames.length = fs.length → widen fs = fs → (∀ e ∈ es, e.All Followed) ∧ s.frames = fs) := by
  induction es generalizing fs space with
  | nil =>
    cases hr
    exact ⟨Nat.le_refl _, fun _ _ => ⟨nofun, rfl⟩⟩
  | cons e es ih =>
    have he := h e List.mem_cons_self space
    cases es with
    | nil =>
      have hl := he fs s hr
      refine ⟨hl.le, fun heq hw => ?_⟩
      obtain ⟨hall, hfs⟩ := hl.kept heq hw
      exact ⟨by simpa using hall, hfs⟩
    | cons e' es =>
      obtain ⟨s₁, hr, hr'⟩ := run_append_eq_some.mp hr
      obtain ⟨s₂, hcomma, hr'⟩ := run_cons_eq_some.mp hr'
      cases hcomma
      have hl := he fs s₁ hr
      obtain ⟨hle, hkept⟩ := ih (fun e hm => h e (List.mem_cons_of_mem _ hm)) hr'
      refine ⟨Nat.le_trans hle hl.le, fun heq hw => ?_⟩
      have heq₁ : s₁.frames.length = fs.length := Nat.le_antisymm hl.le (heq ▸ hle)
      obtain ⟨hall, hfs⟩ := hl.kept heq₁ hw
      rw [hfs] at hkept
      obtain ⟨hes, hfs'⟩ := hkept heq hw
      exact ⟨List.forall_mem_cons.mpr ⟨hall, hes⟩, hfs'⟩

lemma encloses_listing (h : ∀ e ∈ es, ∀ space, Settles e.Listed (e.lexemesAt 0 space)) (space : Bool)
    {ts : List Lexeme} (hts : ts = [] ∨ ts = [Token.comma.spaced false]) :
    Encloses .round (∀ e ∈ es, e.All Followed) (listing .comma space (es.map (·.lexemesAt 0)) ++ ts) := by
  intro fs s hr
  obtain ⟨s₁, hr, hr'⟩ := run_append_eq_some.mp hr
  have hframes : s.frames = s₁.frames := by
    rcases hts with rfl | rfl
    · cases hr'
      rfl
    · obtain ⟨s₂, hcomma, hr'⟩ := run_cons_eq_some.mp hr'
      cases hcomma
      cases hr'
      rfl
  obtain ⟨hle, hkept⟩ := run_listing h hr
  rw [hframes]
  refine ⟨hle, fun heq => ?_⟩
  obtain ⟨hes, hfs⟩ := hkept heq rfl
  exact ⟨hes, by rw [hfs, List.tail_cons]⟩

lemma encloses_items (h : ∀ e ∈ es, ∀ space, Settles e.Listed (e.lexemesAt 0 space)) (space : Bool) :
    Encloses .round (∀ e ∈ es, e.All Followed) (listing .comma space (es.map (·.lexemesAt 0))) := by
  simpa only [List.append_nil] using encloses_listing h space (.inl rfl)

lemma lands_line (h : ∀ space, Settles e.Listed (e.lexemesAt 0 space)) {fs : List Frame} {p : Place} {s : State}
    (hp : p = .line ∨ p = .start) (hr : run ⟨fs, p⟩ (e.lexemesAt 0 true) = some s) :
    Lands fs (fun gs => p = .line → widen fs = fs →
      (e.All Followed ∧ HeadNot (· = .ident "end") (e.lexemesAt 0 true)) ∧ gs = fs) s := by
  have h := h true
  rcases hp with rfl | rfl
  · cases hts : e.lexemesAt 0 true with
    | nil =>
      rw [hts] at h
      cases (h fs _ (run_nil _)).done
    | cons l ts =>
      rw [hts] at h hr
      by_cases hend : l.token = .ident "end"
      · obtain ⟨s₁, hs, hr⟩ := run_cons_eq_some.mp hr
        rw [hend] at hs
        obtain ⟨gs, rfl, rfl⟩ := step_end (.inl rfl) hs
        have hname : run ⟨gs, .start⟩ (l :: ts) = some s := by simpa [hend, State.step, State.word] using hr
        have hl := h gs s hname
        refine ⟨hl.done, Nat.le_succ_of_le hl.le, fun heq => ?_⟩
        exact absurd hl.le (by rw [heq, List.length_cons]; omega)
      · rw [run_of_ne_end (.inl rfl) hend] at hr
        refine (h fs s hr).mono fun gs hgs _ hw => ?_
        obtain ⟨hall, hgs⟩ := hgs hw
        refine ⟨⟨hall, ?_⟩, hgs⟩
        rintro _ ⟨⟩
        exact hend
  · refine (h fs s hr).mono fun gs _ hp => ?_
    cases hp

lemma run_lines (h : ∀ e ∈ es, ∀ space, Settles e.Listed (e.lexemesAt 0 space)) (hn : es ≠ []) {fs : List Frame}
    {p : Place} {s : State} (hp : p = .line ∨ p = .start)
    (hr : run ⟨fs, p⟩
      (listing .semicolon true (es.map (·.lexemesAt 0)) ++ [(Token.ident "end").spaced true]) = some s) :
    s.place = .done ∧ s.frames.length + 1 ≤ fs.length ∧ (s.frames.length + 1 = fs.length → p = .line →
      fs.head? = some .block →
      (∀ e ∈ es, e.All Followed ∧ HeadNot (· = .ident "end") (e.lexemesAt 0 true)) ∧ s.frames = fs.tail) := by
  induction es generalizing fs p with
  | nil => exact absurd rfl hn
  | cons e es ih =>
    have he := h e List.mem_cons_self
    cases es with
    | nil =>
      obtain ⟨s₁, hr, hend⟩ := run_append_eq_some.mp hr
      have hl := lands_line he hp hr
      rw [hl.eq] at hend
      obtain ⟨s₂, hend, hr⟩ := run_cons_eq_some.mp hend
      cases hr
      obtain ⟨gs, hfs, rfl⟩ := step_end (.inr rfl) hend
      have hlen : s₁.frames.length = gs.length + 1 := by rw [hfs, List.length_cons]
      refine ⟨rfl, hlen ▸ hl.le, fun heq hp hb => ?_⟩
      obtain ⟨hall, hkept⟩ := hl.kept (hlen.trans heq) hp (widen_of_head? hb)
      rw [hkept] at hfs
      rw [hfs]
      exact ⟨by simpa using hall, rfl⟩
    | cons e' es =>
      rw [List.map_cons, List.map_cons, listing, ← List.map_cons, List.append_assoc] at hr
      obtain ⟨s₁, hr, hr'⟩ := run_append_eq_some.mp hr
      obtain ⟨s₂, hsemi, hr'⟩ := run_cons_eq_some.mp hr'
      cases hsemi
      have hl := lands_line he hp hr
      obtain ⟨hdone, hle, hkept⟩ :=
        ih (fun e hm => h e (List.mem_cons_of_mem _ hm)) (by simp) (by split <;> simp) hr'
      refine ⟨hdone, Nat.le_trans hle hl.le, fun heq hp hb => ?_⟩
      have heq₁ : s₁.frames.length = fs.length := Nat.le_antisymm hl.le (heq ▸ hle)
      obtain ⟨hall, hfs⟩ := hl.kept heq₁ hp (widen_of_head? hb)
      rw [hfs] at hkept
      obtain ⟨hes, hfs'⟩ := hkept heq (if_pos hb) hb
      exact ⟨List.forall_mem_cons.mpr ⟨hall, hes⟩, hfs'⟩

end Expr

namespace Expr

variable {e : Expr} {es : List Expr} {ts : List Lexeme}

lemma settles_of_kept (hs : e.spills = false) (h : Settles (fun fs gs => e.All Followed ∧ gs = fs) ts) :
    Settles e.Settled ts :=
  h.mono fun _ _ ⟨he, hgs⟩ => ⟨he, .inl hgs, fun _ => hs⟩

lemma listed_of_settled (h : ∀ e ∈ es, ∀ space, Settles e.Settled (e.lexemesAt 0 space)) :
    ∀ e ∈ es, ∀ space, Settles e.Listed (e.lexemesAt 0 space) :=
  fun e he space => (h e he space).mono fun _ _ hs => hs.listed

lemma all_followed_ident (x : String) : (ident x).All Followed := by simp [All, nodes, Followed]

lemma settles_leaf (hn : e.nodes = [e]) (hf : e.Followed) (hs : e.spills = false)
    (h : Settles (fun fs gs => gs = fs) ts) : Settles e.Settled ts :=
  settles_of_kept hs (h.mono fun _ _ hgs => ⟨by simpa [All, hn] using hf, hgs⟩)

lemma step_name {x : String} (hx : x ∉ words) (fs : List Frame) :
    (State.mk fs .start).step (.ident x) = some ⟨fs, .done⟩ := by
  have hb : x ≠ "begin" := by
    rintro rfl
    exact hx (by decide)
  simp [State.step, State.word, hb]

lemma settles_signed {op : String} {P : List Frame → List Frame → Prop} (hop : op ≠ "=") (space : Bool)
    (h : Settles P ts) : Settles P ((Token.op op).spaced space :: ts) := by
  intro fs s hr
  obtain ⟨s₁, hs, hr⟩ := run_cons_eq_some.mp hr
  cases (step_op (by decide) hop).symm.trans hs
  exact h fs s hr

lemma settles_literal {v : Value} (h : Legible words (.literal v)) (space : Bool) :
    Settles (fun fs gs => gs = fs) (v.lexemes space) := by
  cases h with
  | @int n _ =>
    simp only [Value.lexemes]
    split
    · exact settles_signed (by decide) space (settles_single fun fs => rfl)
    · exact settles_single fun fs => rfl
  | bool b => cases b <;> exact settles_single fun fs => rfl
  | str | missing => exact settles_single fun fs => rfl

lemma run_bare (h : Legible words e) (hb : e.isBare = true) {fs : List Frame} {s : State}
    (hr : run ⟨fs, .dollar⟩ (e.lexemesAt 0 false) = some s) :
    (e.minusLed = false ∧ e.All Followed ∧ e.spills = false) ∧ s = ⟨fs, .done⟩ := by
  have hleaf (hn : e.nodes = [e]) (hf : e.Followed) : e.All Followed := by simpa [All, hn] using hf
  cases h with
  | @int n _ =>
    by_cases hneg : n < 0
    · simp [lexemesAt, Value.lexemes, hneg, Token.spaced, State.step] at hr
    · refine ⟨⟨by simpa [minusLed] using hneg, hleaf rfl trivial, rfl⟩, ?_⟩
      simpa [lexemesAt, Value.lexemes, hneg, Token.spaced, State.step] using hr.symm
  | @ident x _ hx =>
    have hx : x ≠ "begin" := by
      rintro rfl
      exact hx (by decide)
    refine ⟨⟨rfl, hleaf rfl trivial, rfl⟩, ?_⟩
    simpa [lexemesAt, Token.alone, Token.spaced, State.step, State.word, hx] using hr.symm
  | bool b =>
    refine ⟨⟨rfl, hleaf rfl trivial, rfl⟩, ?_⟩
    cases b <;> exact (Option.some.inj hr).symm
  | str | missing => exact ⟨⟨rfl, hleaf rfl trivial, rfl⟩, (Option.some.inj hr).symm⟩
  | _ => cases hb

lemma settles_interp (h : Legible words e) (ih : ∀ space, Settles e.Settled (e.lexemesAt 0 space)) (space : Bool) :
    Settles (interp e).Settled ((interp e).lexemesAt 0 space) := by
  refine settles_of_kept rfl ?_
  intro fs s hr
  obtain ⟨s₁, hs, hr⟩ := run_cons_eq_some.mp hr
  cases hs
  split at hr
  next hb =>
    obtain ⟨⟨hm, he, hs⟩, rfl⟩ := run_bare h hb hr
    exact ⟨rfl, Nat.le_refl _, fun _ => ⟨all_interp.mpr ⟨⟨fun _ => hm, hs⟩, he⟩, rfl⟩⟩
  next hb =>
    have henc : Encloses .hole (e.All Followed ∧ e.spills = false) (e.lexemesAt 0 false) := by
      intro fs s hr
      have hl := ih false _ s hr
      refine ⟨hl.le, fun heq => ?_⟩
      obtain ⟨he, hgs, hs⟩ := hl.kept heq
      refine ⟨⟨he, hs (by simp [widen])⟩, ?_⟩
      rcases hgs with hgs | ⟨-, hgs⟩ <;> rw [hgs] <;> rfl
    obtain ⟨s₁, hs, hr⟩ := run_cons_eq_some.mp hr
    cases hs
    refine (henc.lands (.inl rfl) hr).mono ?_
    rintro gs ⟨⟨he, hs⟩, hgs⟩
    exact ⟨all_interp.mpr ⟨⟨fun hb' => absurd hb' hb, hs⟩, he⟩, hgs⟩

lemma settles_bracketed {A B : Prop} {us : List Lexeme} {opening closing : Token}
    (ht : Settles (fun fs gs => A ∧ gs = fs) ts) (h : Encloses .round B us)
    (ho : opening = .openParen ∧ closing = .closeParen ∨ opening = .openBracket ∧ closing = .closeBracket) :
    Settles (fun fs gs => (A ∧ B) ∧ gs = fs) (ts ++ bracketed opening closing us false) := by
  intro fs s hr
  obtain ⟨s₁, hr, hr'⟩ := run_append_eq_some.mp hr
  have hl := ht fs s₁ hr
  rw [hl.eq] at hr'
  have hl' := h.bracketed (by decide) ho hr'
  refine ⟨hl'.done, Nat.le_trans hl'.le hl.le, fun heq => ?_⟩
  obtain ⟨ha, hfs⟩ := hl.kept (Nat.le_antisymm hl.le (heq ▸ hl'.le))
  obtain ⟨hb, hgs⟩ := hl'.kept (Nat.le_antisymm hl'.le (heq ▸ hl.le))
  exact ⟨⟨ha, hb⟩, hgs.trans hfs⟩

lemma settles_keyword {x : String} (hx : x ∉ words) (ih : ∀ space, Settles e.Settled (e.lexemesAt 0 space))
    (space : Bool) : Settles (keyword x e).Listed ((keyword x e).lexemesAt 0 space) := by
  have hname : Settles (fun fs gs => gs = fs) ((Token.ident x).alone space) := settles_single (step_name hx)
  refine (hname.infixed (ih true) "=" true).mono fun fs gs hk hw => ?_
  obtain ⟨_, rfl, -, he⟩ := hk
  obtain ⟨he, hgs⟩ := he.listed hw
  exact ⟨all_keyword.mpr ⟨trivial, he⟩, hgs⟩

lemma settles_enclosed {A : Prop} {opening closing : Token} (h : Encloses .round A ts)
    (ho : opening = .openParen ∧ closing = .closeParen ∨ opening = .openBracket ∧ closing = .closeBracket)
    (space : Bool) : Settles (fun fs gs => A ∧ gs = fs) (bracketed opening closing ts space) :=
  fun _ _ hr => h.bracketed (by decide) ho hr

lemma settles_tuple (h : ∀ e ∈ es, ∀ space, Settles e.Listed (e.lexemesAt 0 space)) (space : Bool) :
    Settles (fun fs gs => (∀ e ∈ es, e.All Followed) ∧ gs = fs)
      (Wording.tuple (es.map (·.lexemesAt 0)) space) := by
  refine settles_enclosed (encloses_listing h false ?_) (.inl ⟨rfl, rfl⟩) space
  split
  · exact .inr rfl
  · exact .inl rfl

lemma settles_namedTuple {fields : List (String × Expr)} (hnames : ∀ f ∈ fields, isName f.1 = true ∧ f.1 ∉ words)
    (ih : ∀ f ∈ fields, ∀ space, Settles f.2.Settled (f.2.lexemesAt 0 space)) (space : Bool) :
    Settles (namedTuple fields).Settled ((namedTuple fields).lexemesAt 0 space) := by
  refine settles_of_kept rfl ?_
  cases fields with
  | nil =>
    have hsemi : Encloses .round True [Token.semicolon.spaced false] := by
      rintro fs s ⟨⟩
      exact ⟨Nat.le_refl _, fun _ => ⟨trivial, rfl⟩⟩
    refine (settles_enclosed hsemi (.inl ⟨rfl, rfl⟩) space).mono ?_
    rintro fs gs ⟨-, hgs⟩
    exact ⟨all_namedTuple.mpr ⟨trivial, List.forall_mem_nil _⟩, hgs⟩
  | cons f fields =>
    -- the fields are written as keywords are
    have hitems : ∀ e ∈ (f :: fields).map fun f => keyword f.1 f.2, ∀ space,
        Settles e.Listed (e.lexemesAt 0 space) :=
      List.forall_mem_map.mpr fun g hg => settles_keyword (hnames g hg).2 (ih g hg)
    have h := settles_tuple hitems space
    rw [List.map_map] at h
    rw [lexemesAt, lexemesOfFields_eq]
    · refine h.mono ?_
      rintro fs gs ⟨hes, hgs⟩
      refine ⟨all_namedTuple.mpr ⟨trivial, fun g hg => ?_⟩, hgs⟩
      exact (all_keyword.mp (hes _ (List.mem_map_of_mem hg))).2
    · simp

lemma settles_params {xs : List String} (h : ∀ x ∈ xs, isName x = true ∧ x ∉ words) (space : Bool) :
    Settles (fun fs gs => gs = fs) (params xs space) := by
  have hlist : ∀ e ∈ xs.map ident, ∀ space, Settles e.Listed (e.lexemesAt 0 space) := by
    refine List.forall_mem_map.mpr fun x hx space => ?_
    have hname : Settles (fun fs gs => gs = fs) ((Token.ident x).alone space) :=
      settles_single (step_name (h x hx).2)
    exact (settles_leaf rfl (by trivial) rfl hname).mono fun fs gs hs => hs.listed
  have hparens := settles_enclosed (encloses_items hlist false) (.inl ⟨rfl, rfl⟩) space
  rw [List.map_map] at hparens
  rcases xs with _ | ⟨x, _ | ⟨y, xs⟩⟩
  · exact hparens.mono fun fs gs hs => hs.2
  · exact settles_single (step_name (h x List.mem_cons_self).2)
  · exact hparens.mono fun fs gs hs => hs.2

lemma settles_block (h : ∀ e ∈ es, ∀ space, Settles e.Listed (e.lexemesAt 0 space)) (space : Bool) :
    Settles (block es).Settled ((block es).lexemesAt 0 space) := by
  refine settles_of_kept rfl ?_
  intro fs s hr
  rw [lexemesAt, lexemesOf_eq] at hr
  obtain ⟨s₁, hs, hr⟩ := run_cons_eq_some.mp hr
  cases hs
  by_cases hn : es = []
  · subst hn
    obtain ⟨s₁, hend, hr⟩ := run_cons_eq_some.mp hr
    cases hr
    obtain ⟨gs, hgs, rfl⟩ := step_end (.inl rfl) hend
    cases hgs
    exact ⟨rfl, Nat.le_refl _, fun _ => ⟨all_block.mpr ⟨List.forall_mem_nil _, List.forall_mem_nil _⟩, rfl⟩⟩
  · obtain ⟨hdone, hle, hkept⟩ := run_lines h hn (.inl rfl) hr
    refine ⟨hdone, Nat.le_of_succ_le_succ hle, fun heq => ?_⟩
    obtain ⟨hall, hfs⟩ := hkept (congrArg Nat.succ heq) rfl rfl
    exact ⟨all_block.mpr ⟨fun e he => (hall e he).2, fun e he => (hall e he).1⟩, hfs⟩

end Expr

theorem Legible.settles {e : Expr} (h : Legible words e) : ∀ space, Settles e.Settled (e.lexemesAt 0 space) := by
  induction h with
  | int hn => exact fun space => Expr.settles_leaf rfl (by trivial) rfl (Expr.settles_literal (.int hn) space)
  | str s => exact fun space => Expr.settles_leaf rfl (by trivial) rfl (Expr.settles_literal (.str s) space)
  | bool b => exact fun space => Expr.settles_leaf rfl (by trivial) rfl (Expr.settles_literal (.bool b) space)
  | missing => exact fun space => Expr.settles_leaf rfl (by trivial) rfl (Expr.settles_literal .missing space)
  | ident _ hw => exact fun space => Expr.settles_leaf rfl (by trivial) rfl (settles_single (Expr.step_name hw))
  | quote => exact fun space => Expr.settles_leaf rfl (by trivial) rfl (settles_single fun fs => rfl)
  | interp he ih => exact Expr.settles_interp he ih
  | @infixed op b l r hb _ _ ihl ihr =>
    intro space
    rw [lexemesAt_infixed hb]
    have hlevels : ∀ b ∈ baseBindings,
        0 < b.leftLevel ∧ b.leftLevel ≤ atomLevel ∧ 0 < b.rightLevel ∧ b.rightLevel ≤ atomLevel := by decide
    obtain ⟨hl, hl', hr, hr'⟩ := hlevels b (mem_of_baseBinding? hb)
    have h := (Expr.settles_operand ihl hl hl' space).infixed (Expr.settles_operand ihr hr hr' true) op true
    refine Expr.settles_of_kept rfl (h.mono ?_)
    rintro fs gs ⟨hs, ⟨hel, hfs⟩, _, her, hgs⟩
    exact ⟨Expr.all_call.mpr ⟨trivial, Expr.all_followed_ident op, by simpa using ⟨hel, her⟩⟩, hgs.trans hfs⟩
  | @unary op e hop _ _ ih =>
    intro space
    rw [lexemesAt_unary (isUnary_of_sign hop)]
    have hne : op ≠ "=" := by rcases hop with rfl | rfl <;> decide
    have h := Expr.settles_signed hne space
      (Expr.settles_operand ih (q := unaryLevel) (by decide) (by decide) false)
    refine Expr.settles_of_kept rfl (h.mono ?_)
    rintro fs gs ⟨he, hgs⟩
    exact ⟨Expr.all_call.mpr ⟨trivial, Expr.all_followed_ident op, by simpa using he⟩, hgs⟩
  | @call f as hf _ _ hks _ ihf ihes ihvs =>
    intro space
    rw [lexemesAt_call hf.not_operator]
    have hargs : ∀ e ∈ as.toList, ∀ space, Settles e.Listed (e.lexemesAt 0 space) := by
      refine Parse.Arguments.forall_toList.mpr ⟨Expr.listed_of_settled ihes, fun k hk space => ?_⟩
      exact Expr.settles_keyword (hks k hk).2 (ihvs k hk) space
    have h := Expr.settles_bracketed (Expr.settles_operand ihf (q := atomLevel) (by decide) (by decide) space)
      (Expr.encloses_items hargs false) (.inl ⟨rfl, rfl⟩)
    refine Expr.settles_of_kept rfl (h.mono ?_)
    rintro fs gs ⟨⟨hef, hes⟩, hgs⟩
    exact ⟨Expr.all_call.mpr ⟨trivial, hef, hes⟩, hgs⟩
  | index _ _ iht ihes =>
    intro space
    rw [Expr.lexemesAt, Expr.lexemesOf_eq]
    have h := Expr.settles_bracketed (Expr.settles_operand iht (q := atomLevel) (by decide) (by decide) space)
      (Expr.encloses_items (Expr.listed_of_settled ihes) false) (.inr ⟨rfl, rfl⟩)
    refine Expr.settles_of_kept rfl (h.mono ?_)
    rintro fs gs ⟨⟨het, hes⟩, hgs⟩
    exact ⟨Expr.all_index.mpr ⟨trivial, het, hes⟩, hgs⟩
  | field _ _ iht =>
    intro space
    refine Expr.settles_of_kept rfl ?_
    intro fs s hr
    obtain ⟨s₁, hr, hr'⟩ := run_append_eq_some.mp hr
    have hl := Expr.settles_operand iht (by decide) (by decide) space fs s₁ hr
    cases hr'
    refine ⟨rfl, hl.le, fun heq => ?_⟩
    obtain ⟨ht, hfs⟩ := hl.kept heq
    exact ⟨Expr.all_field.mpr ⟨trivial, ht⟩, hfs⟩
  | assign _ _ ihs ihv =>
    intro space
    have h := (Expr.settles_operand ihs (q := atomLevel) (by decide) (by decide) space).infixed (ihv true) "=" true
    refine h.mono ?_
    rintro fs gs ⟨hs, ⟨hes, rfl⟩, hw, hev⟩
    obtain ⟨hev, hgs⟩ := hev.listed (hw rfl)
    exact ⟨Expr.all_assign.mpr ⟨trivial, hes, hev⟩, .inl hgs, fun hn => absurd (hw rfl) hn⟩
  | flagged _ _ ih =>
    intro space fs s hr
    obtain ⟨s₁, hs, hr⟩ := run_cons_eq_some.mp hr
    cases hs
    -- behind the flag the operand is read in a wide frame, and to widen a frame once more changes nothing
    have hlen : (widen fs).length = fs.length := by
      cases fs with
      | nil => rfl
      | cons f fs => cases f <;> rfl
    have hl := ih true _ s hr
    refine ⟨hl.done, hlen ▸ hl.le, fun heq => ?_⟩
    obtain ⟨he, hgs⟩ := (hl.kept (heq.trans hlen.symm)).listed (widen_widen fs)
    exact ⟨Expr.all_flagged.mpr ⟨trivial, he⟩, .inr ⟨rfl, hgs⟩, fun _ => rfl⟩
  | block _ ihes => exact Expr.settles_block (Expr.listed_of_settled ihes)
  | tuple _ _ ihes =>
    intro space
    rw [Expr.lexemesAt, Expr.lexemesOf_eq]
    refine Expr.settles_of_kept rfl ((Expr.settles_tuple (Expr.listed_of_settled ihes) space).mono ?_)
    rintro fs gs ⟨h, hgs⟩
    exact ⟨Expr.all_tuple.mpr ⟨trivial, h⟩, hgs⟩
  | namedTuple hnames _ ih => exact Expr.settles_namedTuple hnames ih
  | vector _ ihes =>
    intro space
    rw [Expr.lexemesAt, Expr.lexemesOf_eq]
    have hitems := Expr.encloses_items (Expr.listed_of_settled ihes) false
    refine Expr.settles_of_kept rfl ((Expr.settles_enclosed hitems (.inr ⟨rfl, rfl⟩) space).mono ?_)
    rintro fs gs ⟨h, hgs⟩
    exact ⟨Expr.all_vector.mpr ⟨trivial, h⟩, hgs⟩
  | lambda hxs _ ih =>
    intro space
    refine ((Expr.settles_params hxs space).infixed (ih true) "->" true).mono ?_
    rintro fs gs ⟨hs, rfl, -, he, hgs, hspills⟩
    refine ⟨Expr.all_lambda.mpr ⟨trivial, he⟩, ?_, hspills⟩
    exact hgs.imp_right fun hgs => ⟨rfl, hgs.2⟩
  | pair _ _ ihl ihr =>
    intro space
    have hl := Expr.settles_operand ihl (q := pairLevel + 1) (by decide) (by decide) space
    have h := hl.infixed (Expr.settles_operand ihr (q := pairLevel) (by decide) (by decide) true) "=>" true
    refine Expr.settles_of_kept rfl (h.mono ?_)
    rintro fs gs ⟨hs, ⟨hel, hfs⟩, _, her, hgs⟩
    exact ⟨Expr.all_pair.mpr ⟨trivial, hel, her⟩, hgs.trans hfs⟩

theorem Legible.eq_reread {e e' : Expr} (h : Legible words e) (hr : parseExpr e.render = .ok e') :
    e' = e.reread := by
  obtain ⟨ts, g, hscan, hreads, -⟩ := reads_of_parseExpr hr
  have hts : ts = e.lexemesAt 0 false := by
    have heq := congrArg Prod.fst (hscan.symm.trans h.scan_render)
    exact (List.append_inj' heq rfl).1
  have hrun := keeps_of_reads hreads [] rfl
  rw [hts] at hrun
  have hfollowed : e.All Expr.Followed := ((h.settles false [] _ hrun).kept rfl).1
  exact Except.ok.inj (hr.symm.trans (h.parseExpr_written (List.Subset.refl words) hfollowed))

end Tabular
