import Tabular.Proofs.Phrases

/-!
The brackets and blocks that are open between two lexemes. What is read as a phrase closes all that it opens, and
it does so without a look at the names, numbers and operators in it.
-/

namespace Tabular.Nesting

open Parse Operator

inductive Frame where
  | round
  -- the parentheses of an interpolation, in which nothing is assigned
  | hole
  | block
  deriving DecidableEq

inductive Place where
  | start
  | line
  | done
  | name
  | dollar
  deriving DecidableEq

structure State where
  frames : List Frame
  place : Place

def widen : List Frame → List Frame
  | .hole :: fs => .round :: fs
  | fs => fs

/-- A word is a name where an operand has to stand; at the end of a line `end` closes the block. -/
def State.word (s : State) (x : String) : Option State :=
  if s.place = .name then some ⟨s.frames, .done⟩
  else if x = "begin" then some ⟨.block :: s.frames, .line⟩
  else if x = "end" ∧ (s.place = .line ∨ s.place = .done) then
    match s.frames with
    | .block :: fs => some ⟨fs, .done⟩
    | _ => none
  else some ⟨s.frames, .done⟩

def State.close (s : State) : Option State :=
  match s.frames with
  | .round :: fs | .hole :: fs => some ⟨fs, .done⟩
  | _ => none

def State.step (s : State) : Token → Option State
  | .int _ | .float _ | .str _ | .quote _ => some ⟨s.frames, .done⟩
  | .ident x => s.word x
  | .dollar => some ⟨s.frames, .dollar⟩
  | .marker _ => some ⟨widen s.frames, .start⟩
  | .openParen => some ⟨(if s.place = .dollar then .hole else .round) :: s.frames, .start⟩
  | .openBracket => some ⟨.round :: s.frames, .start⟩
  | .closeParen | .closeBracket => s.close
  | .comma => some ⟨s.frames, .start⟩
  | .semicolon => some ⟨s.frames, if s.frames.head? = some .block then .line else .start⟩
  | .dot => some ⟨s.frames, .name⟩
  | .op symbol =>
    if s.place = .dollar ∨ symbol = "=" ∧ widen s.frames ≠ s.frames then none else some ⟨s.frames, .start⟩
  | .eof => none

def run (s : State) (ts : List Lexeme) : Option State := ts.foldlM (fun s l => s.step l.token) s

@[simp] lemma run_nil (s : State) : run s [] = some s := rfl

@[simp] lemma run_cons (s : State) (l : Lexeme) (ts : List Lexeme) :
    run s (l :: ts) = (s.step l.token).bind (run · ts) := by
  rw [run, List.foldlM_cons]
  rfl

@[simp] lemma run_append (s : State) (ts us : List Lexeme) : run s (ts ++ us) = (run s ts).bind (run · us) := by
  rw [run, List.foldlM_append]
  rfl

@[simp] lemma widen_widen (fs : List Frame) : widen (widen fs) = widen fs := by
  cases fs with
  | nil => rfl
  | cons f fs => cases f <;> rfl

def Kept (fs gs : List Frame) : Prop := gs = fs ∨ gs = widen fs

lemma Kept.trans {fs gs hs : List Frame} (h : Kept fs gs) (h' : Kept gs hs) : Kept fs hs := by
  rcases h with rfl | rfl
  · exact h'
  · rcases h' with rfl | rfl
    · exact .inr rfl
    · exact .inr (widen_widen fs)

lemma Kept.eq {fs gs : List Frame} (h : Kept fs gs) (hw : widen fs = fs) : gs = fs := by
  rcases h with rfl | rfl
  · rfl
  · exact hw

lemma step_op {fs : List Frame} {p : Place} {symbol : String} (hp : p ≠ .dollar) (hs : symbol ≠ "=") :
    (State.mk fs p).step (.op symbol) = some ⟨fs, .start⟩ := by
  simp [State.step, hp, hs]

lemma step_of_ne_end {fs : List Frame} {p : Place} {t : Token} (hp : p = .line ∨ p = .done)
    (he : t ≠ .ident "end") : (State.mk fs p).step t = (State.mk fs .start).step t := by
  cases t with
  | ident x =>
    have hx : x ≠ "end" := by
      rintro rfl
      exact he rfl
    rcases hp with rfl | rfl <;> simp [State.step, State.word, hx]
  | _ => rcases hp with rfl | rfl <;> simp [State.step, State.close]

lemma run_of_ne_end {fs : List Frame} {p : Place} {l : Lexeme} {ts : List Lexeme} (hp : p = .line ∨ p = .done)
    (he : l.token ≠ .ident "end") : run ⟨fs, p⟩ (l :: ts) = run ⟨fs, .start⟩ (l :: ts) := by
  rw [run_cons, run_cons, step_of_ne_end hp he]

lemma step_infix {fs : List Frame} {p : Place} {b : Bool} {l : Lexeme} {op : String} {binding : Binding}
    (h : infixAt? b l = some (op, binding)) (hp : p ≠ .dollar) :
    (State.mk fs p).step l.token = some ⟨fs, .start⟩ := by
  unfold infixAt? at h
  split at h
  · cases h
  split at h
  next symbol ht =>
    obtain ⟨binding', hb, -⟩ := Option.map_eq_some_iff.mp h
    rw [ht]
    refine step_op hp ?_
    rintro rfl
    cases hb
  next => cases h

lemma step_dollar {fs : List Frame} {t : Token} (ht : startsPrimary t = true) (hp : t ≠ .openParen) :
    (State.mk fs .dollar).step t = (State.mk fs .start).step t := by
  cases t <;> simp_all [State.step, State.word, startsPrimary]

lemma step_atom {fs : List Frame} {t : Token} {e : Expr} (h : atom? t = some e) :
    (State.mk fs .start).step t = some ⟨fs, .done⟩ := by
  unfold atom? at h
  split at h
  next => rfl
  next => rfl
  next => rfl
  next => rfl
  next => cases h
  next x hb =>
    have hx : x ≠ "begin" := by
      rintro rfl
      exact hb rfl
    simp [State.step, State.word, hx]
  all_goals cases h

def Keeps : Phrase → List Lexeme → Prop
  | .argument _, ts => ∀ fs, widen fs = fs → run ⟨fs, .start⟩ ts = some ⟨fs, .done⟩
  | .joined _ _ _, ts | .operand _ _, ts | .postfixed _ _, ts | .primary _ _, ts =>
    ∀ fs, ∃ gs, Kept fs gs ∧ run ⟨fs, .start⟩ ts = some ⟨gs, .done⟩
  | .lines _, ts => ∀ fs p, p = .line ∨ p = .done → run ⟨.block :: fs, p⟩ ts = some ⟨fs, .done⟩
  | .listed _ _, ts | .arguments _ _ _, ts =>
    ∀ fs, ∃ p, run ⟨.round :: fs, .start⟩ ts = some ⟨.round :: fs, p⟩

theorem keeps_of_reads {b : Bool} {p : Phrase} {ts : List Lexeme} (h : Reads b p ts) : Keeps p ts := by
  induction h with
  | flagged hl _ ih =>
    intro fs hw
    simp [hl, State.step, hw, ih fs hw]
  | plain _ _ ih =>
    intro fs hw
    obtain ⟨gs, hk, hr⟩ := ih fs
    rw [hr, hk.eq hw]
  | assigned _ _ _ hl _ ih ihv =>
    intro fs hw
    obtain ⟨gs, hk, hr⟩ := ih fs
    simp [hr, hk.eq hw, hl, State.step, hw, ihv fs hw]
  | single _ ih | unsigned _ ih | bare _ ih => exact ih
  | infixed _ hop _ _ _ _ ih ihr =>
    intro fs
    obtain ⟨gs, hk, hr⟩ := ih fs
    obtain ⟨hs, hk', hr'⟩ := ihr gs
    refine ⟨hs, hk.trans hk', ?_⟩
    rw [run_append, hr, Option.bind_some, run_cons, step_infix hop (by decide), Option.bind_some, hr']
  | @signed _ _ symbol _ _ _ hl hu _ ih =>
    intro fs
    obtain ⟨gs, hk, hr⟩ := ih fs
    have hne : symbol ≠ "=" := by
      rintro rfl
      cases hu
    exact ⟨gs, hk, by rw [run_cons, hl, step_op (by decide) hne, Option.bind_some, hr]⟩
  | called _ _ hl _ _ hr ih ihs | indexed _ _ hl _ _ hr ih ihs =>
    intro fs
    obtain ⟨gs, hk, h⟩ := ih fs
    obtain ⟨p, hs⟩ := ihs gs
    exact ⟨gs, hk, by simp [h, hl, hr, hs, State.step, State.close]⟩
  | field _ _ hl _ hm ih =>
    intro fs
    obtain ⟨gs, hk, h⟩ := ih fs
    exact ⟨gs, hk, by simp [h, hl, hm, State.step, State.word]⟩
  | atom h =>
    intro fs
    exact ⟨fs, .inl rfl, by simp [step_atom h]⟩
  | block hl _ ih =>
    intro fs
    exact ⟨fs, .inl rfl, by simp [hl, State.step, State.word, ih fs .line (.inl rfl)]⟩
  | hole hl hr hn ih =>
    intro fs
    obtain ⟨gs, hk, h⟩ := ih fs
    obtain ⟨m, us, rfl, hm⟩ := hr.heads
    refine ⟨gs, hk, ?_⟩
    -- behind the sign the first lexeme of the operand steps as it does at the start
    rw [run_cons, hl]
    rw [run_cons, ← step_dollar hm (hn m rfl)] at h
    exact h
  | wideHole hl hm _ hr ih =>
    intro fs
    obtain ⟨gs, hk, h⟩ := ih (.hole :: fs)
    refine ⟨fs, .inl rfl, ?_⟩
    rcases hk with rfl | rfl <;> simp [hl, hm, hr, h, State.step, State.close, widen]
  | marked hl _ ih =>
    intro fs
    exact ⟨widen fs, .inr rfl, by simp [hl, State.step, ih (widen fs) (widen_widen fs)]⟩
  | unit hl hm hr =>
    intro fs
    exact ⟨fs, .inl rfl, by simp [hl, hm, hr, State.step, State.close]⟩
  | tuple hl _ hr ih | vector hl _ hr ih =>
    intro fs
    obtain ⟨p, h⟩ := ih fs
    exact ⟨fs, .inl rfl, by simp [hl, hr, h, State.step, State.close]⟩
  | noLines hl =>
    intro fs p hp
    rcases hp with rfl | rfl <;> simp [hl, State.step, State.word]
  | skip hl _ ih =>
    intro fs p hp
    simp [hl, State.step, ih fs .line (.inl rfl)]
  | line hr hn _ _ _ ih ihs =>
    intro fs p hp
    obtain ⟨m, us, rfl, -⟩ := hr.heads
    -- no line begins with the word that ends the block, so the block is still open here
    rw [run_append, run_of_ne_end hp (hn m rfl), ih (.block :: fs) rfl]
    exact ihs fs .done (.inr rfl)
  | listedNil | argumentsNil => exact fun fs => ⟨.start, rfl⟩
  | listedLast _ ih | argumentsLast _ _ ih => exact fun fs => ⟨.done, ih _ rfl⟩
  | listedCons _ hl _ ih ihs | argumentsCons _ _ hl _ ih ihs =>
    intro fs
    obtain ⟨p, h⟩ := ihs fs
    exact ⟨p, by simp [ih (.round :: fs) rfl, hl, State.step, h]⟩
  | argumentsKeywords hl _ ih =>
    intro fs
    obtain ⟨p, h⟩ := ih fs
    exact ⟨p, by simp [hl, State.step, h]⟩
  | argumentsThenKeywords _ _ hl _ ih ihs =>
    intro fs
    obtain ⟨p, h⟩ := ihs fs
    exact ⟨p, by simpa [ih (.round :: fs) rfl, hl, State.step] using h⟩

end Tabular.Nesting
