import Tabular.Eval.Interpreter
import Tabular.Proofs.Balance

/-!
A written expression keeps its meaning when it is read again. What is read as something else has no value in either
form, but for a power of a number below zero.
-/

namespace Tabular

open Lexer Operator Parse Wording

namespace Interpreter

/-- The same value, the same result as a function and the same effect as a line of a block. -/
structure Alike (I : Interpreter) (e e' : Expr) : Prop where
  value : ∀ columns scope, Follows True (I.evalWith columns scope e) (I.evalWith columns scope e')
  result : ∀ columns scope nrow args,
    Follows True (I.applyWith columns scope nrow args e) (I.applyWith columns scope nrow args e')
  line : ∀ {columns es es'}, (∀ scope last, Follows True (I.evalLines columns scope last es)
    (I.evalLines columns scope last es')) → ∀ scope last,
    Follows True (I.evalLines columns scope last (e :: es)) (I.evalLines columns scope last (e' :: es'))

structure Stuck (I : Interpreter) (e : Expr) : Prop where
  value : ∀ columns scope, ∃ err, I.evalWith columns scope e = .error err
  result : ∀ columns scope nrow args, ∃ err, I.applyWith columns scope nrow args e = .error err

end Interpreter

def Expr.isInert : Expr → Bool
  | interp _ | keyword _ _ | assign _ _ | flagged _ _ | pair _ _ => true
  | _ => false

namespace Interpreter

variable {I : Interpreter} {e e' f f' : Expr} {es : List Expr} {g : Expr → Expr}
  {columns : Column → Option Value} {scope : Scope}

lemma stuck_of_isInert (h : e.isInert = true) : I.Stuck e := by
  cases e with
  | interp | keyword | assign | flagged | pair => exact ⟨fun _ _ => ⟨_, rfl⟩, fun _ _ _ _ => ⟨_, rfl⟩⟩
  | _ => cases h

lemma evalLines_of_named? (h : named? e = none) (es : List Expr) (last : Option Value) :
    Follows True (I.evalLines columns scope last (e :: es))
      (I.evalWith columns scope e >>= fun v => I.evalLines columns scope (some v) es) := by
  cases e with
  | assign sink value =>
    cases sink with
    | ident => cases h
    | _ => exact Follows.errors True _ _
  | _ => exact Follows.refl True _

lemma applyWith_call {nrow : Option Nat} {vs : List Value} {args : List Expr} (h : ∀ x, f ≠ .ident x) :
    ∃ err, I.applyWith columns scope nrow vs (.call f args) = .error err := by
  cases f with
  | ident x => exact absurd rfl (h x)
  | _ => exact ⟨_, rfl⟩

namespace Alike

lemma of_named? (hn : named? e = none) (hn' : named? e' = none)
    (hv : ∀ columns scope, Follows True (I.evalWith columns scope e) (I.evalWith columns scope e'))
    (hr : ∀ columns scope nrow args,
      Follows True (I.applyWith columns scope nrow args e) (I.applyWith columns scope nrow args e')) :
    I.Alike e e' where
  value := hv
  result := hr
  line hes scope last := by
    refine (evalLines_of_named? hn _ last).trans (.trans ?_ ((evalLines_of_named? hn' _ last).symm trivial))
    exact (hv _ scope).bind fun v => hes scope (some v)

lemma of_stuck (hn : named? e = none) (hn' : named? e' = none) (h : I.Stuck e) (h' : I.Stuck e') :
    I.Alike e e' := by
  refine of_named? hn hn' (fun columns scope => ?_) fun columns scope nrow args => ?_
  · obtain ⟨err, he⟩ := h.value columns scope
    rw [he]
    exact Follows.error_of_both fun _ => h'.value columns scope
  · obtain ⟨err, he⟩ := h.result columns scope nrow args
    rw [he]
    exact Follows.error_of_both fun _ => h'.result columns scope nrow args

lemma refl (e : Expr) : I.Alike e e := by
  refine ⟨fun _ _ => .refl True _, fun _ _ _ _ => .refl True _, fun hes scope last => ?_⟩
  cases hn : named? e with
  | none =>
    refine (evalLines_of_named? hn _ last).trans (.trans ?_ ((evalLines_of_named? hn _ last).symm trivial))
    exact (Follows.refl True _).bind fun v => hes scope (some v)
  | some f =>
    rw [Expr.named?_eq_some.mp hn]
    exact (Follows.refl True _).bind fun v => hes _ (some v)

lemma items (h : ∀ e ∈ es, I.Alike e (g e)) :
    Follows True (I.evalItems columns scope es) (I.evalItems columns scope (es.map g)) := by
  induction es with
  | nil => exact Follows.refl True _
  | cons e es ih =>
    obtain ⟨he, hes⟩ := List.forall_mem_cons.mp h
    refine (he.value columns scope).bind fun v => ?_
    exact (ih hes).bind fun vs => Follows.refl True _

lemma fields {fs : List (String × Expr)} (h : ∀ f ∈ fs, I.Alike f.2 (g f.2)) :
    Follows True (I.evalFields columns scope fs) (I.evalFields columns scope (fs.map fun f => (f.1, g f.2))) := by
  induction fs with
  | nil => exact Follows.refl True _
  | cons f fs ih =>
    obtain ⟨hf, hfs⟩ := List.forall_mem_cons.mp h
    refine (hf.value columns scope).bind fun v => ?_
    exact (ih hfs).bind fun vs => Follows.refl True _

lemma lines (h : ∀ e ∈ es, I.Alike e (g e)) (scope : Scope) (last : Option Value) :
    Follows True (I.evalLines columns scope last es) (I.evalLines columns scope last (es.map g)) := by
  induction es generalizing scope last with
  | nil => exact Follows.refl True _
  | cons e es ih =>
    obtain ⟨he, hes⟩ := List.forall_mem_cons.mp h
    exact he.line (ih hes) scope last

lemma call (hf : I.Alike f f') (hx : ∀ x, f' = .ident x ↔ f = .ident x) (h : ∀ e ∈ es, I.Alike e (g e)) :
    I.Alike (.call f es) (.call f' (es.map g)) := by
  refine of_named? rfl rfl (fun columns scope => ?_) fun columns scope nrow args => ?_
  · exact (items h).bind fun vs => hf.result columns scope none vs
  · by_cases hfx : ∃ x, f = .ident x
    · obtain ⟨x, rfl⟩ := hfx
      rw [(hx x).mpr rfl]
      rcases es with _ | ⟨e, _ | ⟨e', es⟩⟩
      · exact Follows.errors True _ _
      · have he := h e List.mem_cons_self
        rw [List.map_cons, List.map_nil, applyWith, applyWith]
        split
        · refine (Follows.refl True _).bind fun length => ?_
          cases length.or nrow with
          | none => exact he.result columns scope none args
          | some rows =>
            exact (Follows.mapM fun i _ => he.result columns scope none (Rows.row args i)).bind fun vs =>
              .refl True _
        split
        · split
          · exact Follows.refl True _
          · exact he.result columns scope nrow args
        · exact Follows.errors True _ _
      · exact Follows.errors True _ _
    · have hfail : ∃ err, I.applyWith columns scope nrow args (.call f es) = .error err :=
        applyWith_call fun x hfx' => hfx ⟨x, hfx'⟩
      obtain ⟨err, he⟩ := hfail
      rw [he]
      exact Follows.error_of_both fun _ => applyWith_call fun x hfx' => hfx ⟨x, (hx x).mp hfx'⟩

lemma index (he : I.Alike e e') (h : ∀ e ∈ es, I.Alike e (g e)) :
    I.Alike (.index e es) (.index e' (es.map g)) := by
  refine of_named? rfl rfl (fun columns scope => ?_) fun columns scope nrow args => Follows.errors True _ _
  refine (he.value columns scope).bind fun v => ?_
  exact (items h).bind fun vs => Follows.refl True _

lemma field (he : I.Alike e e') (x : String) : I.Alike (.field e x) (.field e' x) := by
  refine of_named? rfl rfl (fun columns scope => ?_) fun columns scope nrow args => Follows.errors True _ _
  exact (he.value columns scope).bind fun v => Follows.refl True _

lemma block (h : ∀ e ∈ es, I.Alike e (g e)) : I.Alike (.block es) (.block (es.map g)) := by
  refine of_named? rfl rfl (fun columns scope => ?_) fun columns scope nrow args => Follows.errors True _ _
  refine (lines h scope none).bind fun last => ?_
  cases last with
  | none => exact Follows.errors True _ _
  | some v => exact Follows.refl True _

lemma tuple (h : ∀ e ∈ es, I.Alike e (g e)) : I.Alike (.tuple es) (.tuple (es.map g)) := by
  refine of_named? rfl rfl (fun columns scope => ?_) fun columns scope nrow args => Follows.errors True _ _
  exact (items h).bind fun vs => Follows.refl True _

lemma vector (h : ∀ e ∈ es, I.Alike e (g e)) : I.Alike (.vector es) (.vector (es.map g)) := by
  refine of_named? rfl rfl (fun columns scope => ?_) fun columns scope nrow args => Follows.errors True _ _
  exact (items h).bind fun vs => Follows.refl True _

lemma namedTuple {fs : List (String × Expr)} (h : ∀ f ∈ fs, I.Alike f.2 (g f.2)) :
    I.Alike (.namedTuple fs) (.namedTuple (fs.map fun f => (f.1, g f.2))) := by
  refine of_named? rfl rfl (fun columns scope => ?_) fun columns scope nrow args => Follows.errors True _ _
  exact (fields h).bind fun vs => Follows.refl True _

lemma assign_ident (he : I.Alike e e') (x : String) : I.Alike (.assign (.ident x) e) (.assign (.ident x) e') where
  value _ _ := Follows.errors True _ _
  result _ _ _ _ := Follows.errors True _ _
  line hes scope _ := (he.value _ scope).bind fun v => hes _ (some v)

lemma lambda (he : I.Alike e e') (xs : List String) : I.Alike (.lambda xs e) (.lambda xs e') := by
  refine of_named? rfl rfl (fun columns scope => Follows.errors True _ _) fun columns scope nrow args => ?_
  rw [applyWith, applyWith]
  split
  · exact he.value columns _
  · exact Follows.errors True _ _

end Alike

structure Plain (I : Interpreter) : Prop where
  getindex : ∀ n vs, ∃ err, I.callFunction "getindex" (.int n :: vs) = .error err
  byRow : "-" ≠ I.byRow
  passMissing : "-" ≠ I.passMissing

end Interpreter

def Expr.numberLed : Expr → Bool
  | literal (.int _) => true
  | call e _ | index e _ | field e _ => e.numberLed
  | _ => false

lemma Expr.numberLed_cases {e : Expr} (h : e.numberLed = true) :
    e.isCompound = true ∨ ∃ n, e = literal (.int n) := by
  cases e with
  | literal v =>
    cases v with
    | int n => exact .inr ⟨n, rfl⟩
    | _ => cases h
  | call | index | field => exact .inl rfl
  | _ => cases h

namespace Interpreter

variable {I : Interpreter} {e f : Expr} {es : List Expr}

lemma bind_error {ε α β : Type} {x : Except ε α} (h : ∃ err, x = .error err) (k : α → Except ε β) :
    ∃ err, (x >>= k) = .error err := by
  obtain ⟨err, rfl⟩ := h
  exact ⟨err, rfl⟩

lemma bind_error_right {ε α β : Type} (x : Except ε α) {k : α → Except ε β} (h : ∀ a, ∃ err, k a = .error err) :
    ∃ err, (x >>= k) = .error err := by
  cases x with
  | error err => exact ⟨err, rfl⟩
  | ok a => exact h a

lemma evalItems_error (columns : Column → Option Value) (scope : Scope) (h : ∃ e ∈ es, I.Stuck e) :
    ∃ err, I.evalItems columns scope es = .error err := by
  induction es with
  | nil => simp at h
  | cons e es ih =>
    obtain ⟨e', hm, he⟩ := h
    rcases List.mem_cons.mp hm with rfl | hm
    · exact bind_error (he.value columns scope) _
    · exact bind_error_right _ fun v => bind_error (ih ⟨e', hm, he⟩) _

lemma stuck_apply_pair {op : String} {l r : Expr} (h : I.Stuck l) : I.Stuck (.apply op [l, r]) where
  value columns scope := bind_error (evalItems_error columns scope ⟨l, List.mem_cons_self, h⟩) _
  result _ _ _ _ := ⟨_, rfl⟩

lemma stuck_negated (hI : I.Plain) (h : I.Stuck e) : I.Stuck (.apply "-" [e]) where
  value columns scope := bind_error (evalItems_error columns scope ⟨e, List.mem_cons_self, h⟩) _
  result columns scope nrow args := by
    rw [Expr.apply, applyWith, if_neg hI.byRow, if_neg hI.passMissing]
    exact ⟨_, rfl⟩

lemma stuck_of_numberLed (hI : I.Plain) (h : e.numberLed = true) (hc : e.isCompound = true) : I.Stuck e := by
  induction e with
  | call f es ih _ =>
    have hresult : ∀ columns scope nrow args, ∃ err, I.applyWith columns scope nrow args f = .error err := by
      rcases Expr.numberLed_cases (e := f) h with hf | ⟨n, rfl⟩
      · exact (ih h hf).result
      · exact fun _ _ _ _ => ⟨_, rfl⟩
    refine ⟨fun columns scope => bind_error_right _ fun vs => hresult columns scope none vs, fun _ _ _ _ => ?_⟩
    refine applyWith_call fun x hx => ?_
    rw [hx] at h
    cases h
  | index t es ih _ =>
    refine ⟨fun columns scope => ?_, fun _ _ _ _ => ⟨_, rfl⟩⟩
    rcases Expr.numberLed_cases (e := t) h with ht | ⟨n, rfl⟩
    · exact bind_error ((ih h ht).value columns scope) _
    · exact bind_error_right (I.evalItems columns scope es) fun vs => hI.getindex n vs
  | field t x ih =>
    refine ⟨fun columns scope => ?_, fun _ _ _ _ => ⟨_, rfl⟩⟩
    rcases Expr.numberLed_cases (e := t) h with ht | ⟨n, rfl⟩
    · exact bind_error ((ih h ht).value columns scope) _
    · exact ⟨_, rfl⟩
  | _ => cases hc

end Interpreter

namespace Expr

variable {e : Expr}

lemma numberLed_of_minusLed (h : e.minusLed = true) : e.numberLed = true := by
  induction e with
  | literal v =>
    cases v with
    | int => rfl
    | _ => cases h
  | call f es ih _ | index f es ih _ | field f x ih => exact ih h
  | _ => cases h

lemma numberLed_unsigned (h : e.minusLed = true) :
    e.reread.unsigned.numberLed = true ∧ e.reread.unsigned.isCompound = e.isCompound := by
  have hbehind {t : Expr} {whole : Expr → Expr} (hw : ∀ x, (whole x).isCompound = true) (ht : t.minusLed = true) :
      (behindSign t t.reread whole).unsigned = whole t.reread.unsigned := by
    rw [behindSign_eq hw, if_pos ht]
    rfl
  induction e with
  | literal v =>
    cases v with
    | int => exact ⟨rfl, rfl⟩
    | _ => cases h
  | call f es ih _ =>
    have h : f.minusLed = true := h
    have hf (x : String) (hx : f = ident x) : binding? x = none ∧ isUnary x = false := by
      rw [hx] at h
      cases h
    rw [reread_call hf, hbehind (fun _ => by rfl) h]
    exact ⟨(ih h).1, rfl⟩
  | index t es ih _ =>
    have h : t.minusLed = true := h
    rw [reread, hbehind (fun _ => by rfl) h]
    exact ⟨(ih h).1, rfl⟩
  | field t x ih =>
    have h : t.minusLed = true := h
    rw [reread, hbehind (fun _ => by rfl) h]
    exact ⟨(ih h).1, rfl⟩
  | _ => cases h

end Expr

namespace Interpreter

variable {I : Interpreter} {t : Expr} {whole : Expr → Expr}

lemma alike_behindSign (hI : I.Plain) {e : Expr} (he : e.minusLed = true) (hc : e.isCompound = true)
    (ht : t.minusLed = true) (hw : ∀ x, (whole x).isCompound = true)
    (hn : ∀ x, x.numberLed = true → (whole x).numberLed = true) :
    I.Alike e (Expr.behindSign t t.reread whole) := by
  rw [Expr.behindSign_eq hw, if_pos ht]
  -- the innermost target of both is a number, here with its sign and there without, so neither has a value
  have hread : I.Stuck (whole t.reread.unsigned) :=
    stuck_of_numberLed hI (hn _ (Expr.numberLed_unsigned ht).1) (hw _)
  refine .of_stuck ?_ rfl (stuck_of_numberLed hI (Expr.numberLed_of_minusLed he) hc)
    (stuck_negated hI hread)
  cases e <;> first | rfl | cases hc

end Interpreter

def Expr.UnsignedBase : Expr → Prop
  | call (ident op) [l, _] => op = "^" ∨ op = ".^" → l.isNegative = false
  | _ => True

namespace Interpreter

variable {I : Interpreter}

lemma stuck_lambda {e : Expr} (h : e.spills = true) (xs : List String) : I.Stuck (.lambda xs e) := by
  refine ⟨fun _ _ => ⟨_, rfl⟩, fun columns scope nrow args => ?_⟩
  rw [applyWith]
  split
  · cases e with
    | assign | lambda => exact ⟨_, rfl⟩
    | _ => cases h
  · exact ⟨_, rfl⟩

lemma alike_power (hI : I.Plain) {op : String} {l r : Expr} (hl : l.isNegative = false) (ihl : I.Alike l l.reread)
    (ihr : I.Alike r r.reread) :
    I.Alike (.apply op [l, r]) (Expr.behindSign l l.reread fun l => .apply op [l, r.reread]) := by
  rw [Expr.behindSign_eq fun _ => rfl]
  split
  next hm =>
    obtain ⟨hnum, hcomp⟩ := Expr.numberLed_unsigned hm
    have hc : l.isCompound = true := by
      refine (Expr.numberLed_cases (Expr.numberLed_of_minusLed hm)).resolve_right ?_
      rintro ⟨n, rfl⟩
      exact absurd (hm.symm.trans hl) (by decide)
    have hstuck := stuck_of_numberLed hI (Expr.numberLed_of_minusLed hm) hc
    have hread := stuck_of_numberLed hI hnum (hcomp.trans hc)
    exact .of_stuck rfl rfl (stuck_apply_pair hstuck) (stuck_negated hI (stuck_apply_pair hread))
  next =>
    have hes : ∀ e ∈ [l, r], I.Alike e e.reread := by simpa using ⟨ihl, ihr⟩
    exact .call (.refl (.ident op)) (fun x => Iff.rfl) hes

end Interpreter

open Interpreter in
/-- What is read again means what was written, unless it has a power of a number below zero. -/
theorem Legible.alike_reread {reserved : List String} {I : Interpreter} (hI : I.Plain) {e : Expr}
    (h : Legible reserved e) (hn : e.All Expr.UnsignedBase) : I.Alike e e.reread := by
  induction h with
  | int | str | bool | missing | ident | quote => exact .refl _
  | interp | flagged | pair => exact .of_stuck rfl rfl (stuck_of_isInert rfl) (stuck_of_isInert rfl)
  | @infixed op b l r hb _ _ ihl ihr =>
    obtain ⟨hbase, -, hes⟩ := Expr.all_call.mp hn
    simp only [List.forall_mem_cons] at hes
    rw [Expr.reread_infixed hb]
    split
    next ha => exact alike_power hI (hbase (power_of_rightAssoc hb ha)) (ihl hes.1) (ihr hes.2.1)
    next =>
      have hargs : ∀ e ∈ [l, r], I.Alike e e.reread := by simpa using ⟨ihl hes.1, ihr hes.2.1⟩
      exact .call (.refl (.ident op)) (fun x => Iff.rfl) hargs
  | @unary op e _ _ _ ih =>
    obtain ⟨-, -, hes⟩ := Expr.all_call.mp hn
    rw [Expr.reread_unary]
    have hargs : ∀ e' ∈ [e], I.Alike e' e'.reread := by simpa using ih (hes e List.mem_cons_self)
    exact .call (.refl (.ident op)) (fun x => Iff.rfl) hargs
  | @call f as hf _ _ _ _ ihf ihes ihvs =>
    obtain ⟨-, hnf, hes⟩ := Expr.all_call.mp hn
    rw [Expr.reread_call hf.not_operator]
    by_cases hm : f.minusLed = true
    · exact alike_behindSign hI (by exact hm) rfl hm (fun _ => rfl) fun _ hx => hx
    · rw [Expr.behindSign, if_neg hm]
      obtain ⟨hpos, hks⟩ := Parse.Arguments.forall_toList.mp hes
      refine .call (ihf hnf) (fun x => Expr.reread_eq_ident) (Parse.Arguments.forall_toList.mpr ⟨?_, ?_⟩)
      · exact fun e he => ihes e he (hpos e he)
      · exact fun k hk => .of_stuck rfl rfl (stuck_of_isInert rfl) (stuck_of_isInert rfl)
  | @index t es _ _ iht ihes =>
    obtain ⟨-, hnt, hes⟩ := Expr.all_index.mp hn
    rw [Expr.reread, Expr.rereadItems_eq]
    by_cases hm : t.minusLed = true
    · exact alike_behindSign hI (by exact hm) rfl hm (fun _ => rfl) fun _ hx => hx
    · rw [Expr.behindSign, if_neg hm]
      exact .index (iht hnt) fun e he => ihes e he (hes e he)
  | @field t x _ _ iht =>
    rw [Expr.reread]
    by_cases hm : t.minusLed = true
    · exact alike_behindSign hI (by exact hm) rfl hm (fun _ => rfl) fun _ hx => hx
    · rw [Expr.behindSign, if_neg hm]
      exact .field (iht (Expr.all_field.mp hn).2) x
  | @assign s v _ _ _ ihv =>
    have hnamed := Expr.named?_reread (.assign s v)
    cases hs : named? (.assign s v) with
    | none =>
      rw [hs] at hnamed
      exact .of_stuck hs hnamed (stuck_of_isInert rfl) (stuck_of_isInert rfl)
    | some f =>
      cases Expr.named?_eq_some.mp hs
      exact .assign_ident (ihv (Expr.all_assign.mp hn).2.2) f.1
  | block _ ihes =>
    obtain ⟨-, hes⟩ := Expr.all_block.mp hn
    rw [Expr.reread, Expr.rereadItems_eq]
    exact .block fun e he => ihes e he (hes e he)
  | tuple _ _ ihes =>
    obtain ⟨-, hes⟩ := Expr.all_tuple.mp hn
    rw [Expr.reread, Expr.rereadItems_eq]
    exact .tuple fun e he => ihes e he (hes e he)
  | namedTuple _ _ ih =>
    obtain ⟨-, hfs⟩ := Expr.all_namedTuple.mp hn
    rw [Expr.reread, Expr.rereadFields_eq]
    exact .namedTuple fun f hf => ih f hf (hfs f hf)
  | vector _ ihes =>
    obtain ⟨-, hes⟩ := Expr.all_vector.mp hn
    rw [Expr.reread, Expr.rereadItems_eq]
    exact .vector fun e he => ihes e he (hes e he)
  | @lambda xs e _ _ ih =>
    rw [Expr.reread]
    unfold Expr.spill
    split
    next hr => exact .of_stuck rfl rfl (stuck_lambda (Expr.spills_of_reread hr) xs) (stuck_of_isInert rfl)
    next => exact .lambda (ih (Expr.all_lambda.mp hn).2) xs

lemma Interpreter.plain_ofConfig : (ofConfig {}).Plain where
  getindex n vs := by
    have hget : (ofConfig {}).callFunction "getindex" (.int n :: vs) = Builtins.getindex (.int n :: vs) := rfl
    rw [hget]
    rcases vs with _ | ⟨v, _ | ⟨w, vs⟩⟩
    · exact ⟨_, rfl⟩
    · exact ⟨_, rfl⟩
    · exact ⟨_, rfl⟩
  byRow := by decide
  passMissing := by decide

theorem eval_of_parseExpr_render {s : String} {e e' : Expr} (h : parseExpr s = .ok e) (he : e.Exact)
    (hbase : e.All Expr.UnsignedBase) (hr : parseExpr e.render = .ok e') (scope : Scope) :
    ((Interpreter.ofConfig {}).eval scope e').toOption = ((Interpreter.ofConfig {}).eval scope e).toOption := by
  have hlegible := legible_of_parseExpr h he
  have halike := hlegible.alike_reread Interpreter.plain_ofConfig hbase
  rw [hlegible.eq_reread hr]
  exact ((halike.value _ scope).toOption_eq trivial).symm

theorem eval_of_parseExpr_render_unused_index : ∃ e e' : Expr,
    parseExpr "passmissing((-3)[1])(missing)" = .ok e ∧ e.render = "passmissing(-3[1])(missing)" ∧
      parseExpr e.render = .ok e' ∧ e' ≠ e ∧
      ∀ scope, ((Interpreter.ofConfig {}).eval scope e').toOption = some .missing := by
  let number : Expr := .literal (.int (-3))
  let item : Expr := .index number [.literal (.int 1)]
  let e : Expr := .call (.call (.ident "passmissing") [item]) [.literal .missing]
  have hint (n : Int64) (hn : n ≠ Int64.minValue) : Legible words (.literal (.int n)) := .int hn
  have hlegible : Legible words e := by
    have hitem : Legible words item := .index (hint _ (by decide)) (by simpa using hint 1 (by decide))
    have hwrap : Legible words (.call (.ident "passmissing") (Arguments.toList ⟨[item], []⟩)) :=
      .call (.ident (by decide) (by decide)) (by simpa using hitem) (by simp [item, named?]) nofun nofun
    have hcall : Legible words (.call _ (Arguments.toList ⟨[.literal .missing], []⟩)) :=
      .call hwrap (by simpa using .missing) (by simp [named?]) nofun nofun
    exact hcall
  -- the parentheses around the number stand in the text only
  let target := bracketed .openParen .closeParen ((Value.int (-3)).lexemes false) false
  let inner := target ++ bracketed .openBracket .closeBracket ((Value.int 1).lexemes false) false
  let wrapper := (Token.ident "passmissing").alone false ++ bracketed .openParen .closeParen inner false
  let ts := wrapper ++ bracketed .openParen .closeParen ((Token.ident "missing").alone false) false
  have hscan : scan "passmissing((-3)[1])(missing)".toList = (ts ++ [Token.eof.spaced false], none) := by
    have hthree : Written "-3" (Value.int (-3)).lexemes := Written.int (n := -3) (by decide)
    have hone : Written "1" (Value.int 1).lexemes := Written.int (n := 1) (by decide)
    have hitem := (Written.parens hthree.inner).followed (fun _ => rfl) (Written.squares hone.inner).inner
    have hname : Written "passmissing" _ := .ident (by decide)
    have hmissing : Written "missing" _ := .ident (by decide)
    have hwrap := hname.followed (fun _ => rfl) (Written.parens hitem.inner).inner
    have hcall := hwrap.followed (fun _ => rfl) (Written.parens hmissing.inner).inner
    have hs := hcall.scan_eq false [] rfl
    rw [scan_nil] at hs
    exact hs
  have hread : Reads false (.argument e) ts := by
    have hnumber (n : Int64) (hn : n ≠ Int64.minValue) : Reads true (.argument (.literal (.int n)))
        ((Value.int n).lexemes false) :=
      ((hint n hn).rereads (List.Subset.refl words) (by simp [Expr.All, Expr.nodes, Expr.Followed])).argument
        true false
    have htarget : Reads true (.postfixed atomLevel number) target :=
      reads_parenthesized (hnumber _ (by decide)) _ _
    have hplain {b : Bool} {e : Expr} {l : Lexeme} {us : List Lexeme}
        (h : Reads b (.postfixed atomLevel e) (l :: us)) (hl : ¬ isMarker l.token) :
        Reads b (.argument e) (l :: us) := by
      refine .plain (.single (.unsigned h)) ?_
      rintro _ ⟨⟩
      exact hl
    have hcalled {f e : Expr} {us vs : List Lexeme} (hf : Reads false (.postfixed atomLevel f) us)
        (he : Reads true (.argument e) vs) (hn : argumentOf true false e = .ok (.positional e)) :
        Reads false (.postfixed atomLevel (.call f [e])) (us ++ bracketed .openParen .closeParen vs false) :=
      .called hf (by decide) rfl rfl (.argumentsLast he hn) rfl
    have hindexed : Reads true (.postfixed atomLevel item) inner :=
      .indexed htarget (by decide) rfl rfl (.listedLast (hnumber 1 (by decide))) rfl
    have hitem : Reads true (.argument item) inner := hplain hindexed id
    have hmissing : Reads true (.argument (.literal .missing)) ((Token.ident "missing").alone false) :=
      hplain (.bare (.atom rfl)) id
    have hname : Reads false (.postfixed atomLevel (.ident "passmissing"))
        ((Token.ident "passmissing").alone false) :=
      .bare (.atom rfl)
    exact hplain (hcalled (hcalled hname hitem rfl) hmissing rfl) id
  have hparse := parseExpr_of_reads hscan rfl hread
  have hr := hlegible.parseExpr_written (List.Subset.refl words)
    (by simp [Expr.All, e, item, number, Expr.nodes, Expr.Followed])
  let item' : Expr := .apply "-" [.index (.literal (.int 3)) [.literal (.int 1)]]
  have hreread : e.reread = .call (.call (.ident "passmissing") [item']) [.literal .missing] := rfl
  refine ⟨e, _, hparse, by decide, hr, ?_, fun scope => ?_⟩
  · rw [hreread]
    simp [e, item, item', Expr.apply]
  · have hbase : e.All Expr.UnsignedBase := by simp [Expr.All, e, item, number, Expr.nodes, Expr.UnsignedBase]
    rw [eval_of_parseExpr_render hparse (by unfold Expr.Exact Expr.All; decide) hbase hr]
    rfl

end Tabular
