import Tabular.Eval.Interpreter
import Tabular.Proofs.Bindings

namespace Tabular.Interpreter

/-- Two interpreters, each with a scope, between which the given names make no difference. -/
structure Agree (names : List String) (I J : Interpreter) (s t : Scope) : Prop where
  byRow : I.byRow = J.byRow
  passMissing : I.passMissing = J.passMissing
  getindex : I.functions.get? "getindex" = J.functions.get? "getindex"
  functions : ∀ x ∈ names, I.functions.get? x = J.functions.get? x
  scope : ∀ x ∈ names, s.get? x = t.get? x

namespace Agree

variable {names : List String} {I J : Interpreter} {s t : Scope}

lemma refl (names : List String) (I : Interpreter) (s : Scope) : Agree names I I s s :=
  ⟨rfl, rfl, rfl, fun _ _ => rfl, fun _ _ => rfl⟩

lemma insert (h : Agree names I J s t) (x : String) (v : Value) : Agree names I J (s.insert x v) (t.insert x v) :=
  { h with scope := fun y hy => by rw [Bindings.get?_insert, Bindings.get?_insert, h.scope y hy] }

lemma insertAll (h : Agree names I J s t) (l : List (String × Value)) :
    Agree names I J (s.insertAll l) (t.insertAll l) :=
  { h with scope := fun y hy => by rw [Bindings.get?_insertAll, Bindings.get?_insertAll, h.scope y hy] }

lemma callFunction_eq (h : Agree names I J s t) {x : String} (hx : x ∈ names) (args : List Value) :
    I.callFunction x args = J.callFunction x args := by
  rw [callFunction, callFunction, h.functions x hx]

lemma getindex_eq (h : Agree names I J s t) (args : List Value) :
    I.callFunction "getindex" args = J.callFunction "getindex" args := by
  rw [callFunction, callFunction, h.getindex]

end Agree

section Agreement

variable {names : List String} {I J : Interpreter} {columns : Column → Option Value}

mutual

theorem evalWith_eq_of_agree {s t : Scope} (h : Agree names I J s t) : ∀ e : Expr, e.idents ⊆ names →
    I.evalWith columns s e = J.evalWith columns t e
  | .literal _, _ | .quote _, _ => rfl
  | .ident x, hn => by
    rw [evalWith, evalWith, variableIn, variableIn, h.scope x (hn List.mem_cons_self)]
  | .column _, _ => rfl
  | .call func args, hn => by
    obtain ⟨hf, ha⟩ := List.append_subset.mp hn
    rw [evalWith, evalWith, evalItems_eq_of_agree h args ha]
    exact bind_congr fun vs => applyWith_eq_of_agree h none vs func hf
  | .index target indices, hn => by
    obtain ⟨ht, hi⟩ := List.append_subset.mp hn
    rw [evalWith, evalWith, evalWith_eq_of_agree h target ht, evalItems_eq_of_agree h indices hi]
    exact bind_congr fun v => bind_congr fun vs => h.getindex_eq (v :: vs)
  | .field target name, hn => by rw [evalWith, evalWith, evalWith_eq_of_agree h target hn]
  | .block lines, hn => by rw [evalWith, evalWith, evalLines_eq_of_agree h none lines hn]
  | .tuple items, hn | .vector items, hn => by rw [evalWith, evalWith, evalItems_eq_of_agree h items hn]
  | .namedTuple fields, hn => by rw [evalWith, evalWith, evalFields_eq_of_agree h fields hn]
  | .interp _, _ | .keyword _ _, _ | .assign _ _, _ | .flagged _ _, _ | .lambda _ _, _ | .pair _ _, _ => rfl

theorem evalItems_eq_of_agree {s t : Scope} (h : Agree names I J s t) :
    ∀ es : List Expr, Expr.identsOf es ⊆ names → I.evalItems columns s es = J.evalItems columns t es
  | [], _ => rfl
  | e :: es, hn => by
    obtain ⟨he, hes⟩ := List.append_subset.mp hn
    rw [evalItems, evalItems, evalWith_eq_of_agree h e he, evalItems_eq_of_agree h es hes]

theorem evalFields_eq_of_agree {s t : Scope} (h : Agree names I J s t) : ∀ fs : List (String × Expr),
    Expr.identsOfFields fs ⊆ names → I.evalFields columns s fs = J.evalFields columns t fs
  | [], _ => rfl
  | (_, e) :: fs, hn => by
    obtain ⟨he, hfs⟩ := List.append_subset.mp hn
    rw [evalFields, evalFields, evalWith_eq_of_agree h e he, evalFields_eq_of_agree h fs hfs]

theorem evalLines_eq_of_agree {s t : Scope} (h : Agree names I J s t) (last : Option Value) : ∀ es : List Expr,
    Expr.identsOf es ⊆ names → I.evalLines columns s last es = J.evalLines columns t last es
  | [], _ => rfl
  | e :: es, hn => by
    obtain ⟨he, hes⟩ := List.append_subset.mp hn
    cases e with
    | assign sink value =>
      cases sink with
      | ident x =>
        obtain ⟨-, hv⟩ := List.append_subset.mp he
        rw [evalLines, evalLines, evalWith_eq_of_agree h value hv]
        exact bind_congr fun v => evalLines_eq_of_agree (h.insert x v) (some v) es hes
      | _ => rfl
    | _ =>
      simp only [evalLines]
      rw [evalWith_eq_of_agree h _ he]
      exact bind_congr fun v => evalLines_eq_of_agree h (some v) es hes

theorem applyWith_eq_of_agree {s t : Scope} (h : Agree names I J s t) (nrow : Option Nat) (args : List Value) :
    ∀ e : Expr, e.idents ⊆ names → I.applyWith columns s nrow args e = J.applyWith columns t nrow args e
  | .lambda xs body, hn => by
    obtain ⟨-, hb⟩ := List.append_subset.mp hn
    rw [applyWith, applyWith, evalWith_eq_of_agree (h.insertAll _) body hb]
  | .call func wrapped, hn => match func, wrapped, hn with
    | .ident name, [inner], hn => by
      have hi : inner.idents ⊆ names := fun x hx =>
        hn (List.mem_append_right _ (List.mem_append_left _ hx))
      have ih (nrow : Option Nat) (args : List Value) := applyWith_eq_of_agree h nrow args inner hi
      simp only [applyWith, h.byRow, h.passMissing, ih]
    | .ident _, [], _ | .ident _, _ :: _ :: _, _ | .literal _, _, _ | .quote _, _, _ | .interp _, _, _
    | .column _, _, _ | .call _ _, _, _ | .keyword _ _, _, _ | .index _ _, _, _ | .field _ _, _, _
    | .assign _ _, _, _ | .flagged _ _, _, _ | .block _, _, _ | .tuple _, _, _ | .namedTuple _, _, _
    | .vector _, _, _ | .lambda _ _, _, _ | .pair _ _, _, _ => rfl
  | .ident x, hn => h.callFunction_eq (hn List.mem_cons_self) args
  | .literal _, _ | .quote _, _ | .interp _, _ | .column _, _ | .keyword _ _, _ | .index _ _, _ | .field _ _, _
  | .assign _ _, _ | .flagged _ _, _ | .block _, _ | .tuple _, _ | .namedTuple _, _ | .vector _, _
  | .pair _ _, _ => rfl

end

end Agreement

structure SameMeaning (e : Expr) (I J : Interpreter) (s t : Scope) : Prop where
  eval : I.eval s e = J.eval t e
  call : ∀ args, I.call s args e = J.call t args e
  callRows : ∀ nrow args, I.callRows s nrow args e = J.callRows t nrow args e

lemma Agree.sameMeaning {e : Expr} {I J : Interpreter} {s t : Scope} (h : Agree e.idents I J s t) :
    SameMeaning e I J s t where
  eval := evalWith_eq_of_agree h e (List.Subset.refl _)
  call args := applyWith_eq_of_agree h none args e (List.Subset.refl _)
  callRows nrow args := applyWith_eq_of_agree h (some nrow) args e (List.Subset.refl _)

lemma agree_insert_variable {names : List String} {x : String} (hx : x ∉ names) (I : Interpreter) (s : Scope)
    (v : Value) : Agree names I I (s.insert x v) s :=
  { Agree.refl names I s with scope := fun _ hy => Bindings.get?_insert_of_ne s v fun he => hx (he ▸ hy) }

lemma agree_insert_function {names : List String} {x : String} (hx : x ∉ names) (hi : x ≠ "getindex")
    (I : Interpreter)
    (s : Scope) (f : Function) : Agree names { I with functions := I.functions.insert x f } I s s where
  byRow := rfl
  passMissing := rfl
  getindex := Bindings.get?_insert_of_ne I.functions f hi.symm
  functions _ hy := Bindings.get?_insert_of_ne I.functions f fun he => hx (he ▸ hy)
  scope _ _ := rfl

theorem sameMeaning_of_mentioned (e : Expr) :
    (∀ {I J s t}, Agree e.idents I J s t → SameMeaning e I J s t) ∧
    ∀ {x}, x ∉ e.idents →
      (∀ I s v, SameMeaning e I I (s.insert x v) s) ∧
      (x ≠ "getindex" → ∀ I s f, SameMeaning e { I with functions := I.functions.insert x f } I s s) := by
  refine ⟨fun h => h.sameMeaning, fun hx => ⟨fun I s v => ?_, fun hi I s f => ?_⟩⟩
  · exact (agree_insert_variable hx I s v).sameMeaning
  · exact (agree_insert_function hx hi I s f).sameMeaning

theorem sameMeaning_of_mentioned_under_wrapper :
    let I : Interpreter := .ofConfig {}
    let J : Interpreter := { I with functions := I.functions.insert "sum" fun _ => .ok .missing }
    let s : Scope := Bindings.insert ∅ "v" (.int 1)
    let t : Scope := s.insert "w" (.int 5)
    let e : Expr := .apply I.byRow [.lambda ["a"] (.index (.vector [.apply "+" [.ident "a", .ident "v"]])
      [.literal (.int 1)])]
    Agree e.idents J I t s ∧ "w" ∉ e.idents ∧ "sum" ∉ e.idents ∧
      J.call t [.list [.int 1, .int 2]] e = .ok (.list [.int 2, .int 3]) ∧
      SameMeaning e I I t s ∧ SameMeaning e J I s s := by
  intro I J s t e
  have hw : "w" ∉ e.idents := by decide
  have hsum : "sum" ∉ e.idents := by decide
  have hagree : Agree e.idents J I t s :=
    { agree_insert_function hsum (by decide) I s _ with scope := (agree_insert_variable hw I s (.int 5)).scope }
  obtain ⟨hsame, hmore⟩ := sameMeaning_of_mentioned e
  have hcall : I.call s [.list [.int 1, .int 2]] e = .ok (.list [.int 2, .int 3]) := rfl
  exact ⟨hagree, hw, hsum, ((hsame hagree).call _).trans hcall, (hmore hw).1 I s (.int 5),
    (hmore hsum).2 (by decide) I s _⟩

end Tabular.Interpreter
