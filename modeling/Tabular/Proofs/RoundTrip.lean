import Tabular.Proofs.Readback

namespace Tabular

open Lexer Operator Parse

namespace Expr

def isAssignment : Expr → Bool
  | assign _ _ => true
  | _ => false

/-- Whether the parts of an expression keep to themselves when it is written: a number below zero is neither the
base of a power nor a target, and an assignment is neither interpolated nor the body of a function. -/
def Faithful : Expr → Prop
  | call (ident op) [l, _] => op = "^" ∨ op = ".^" → l.isNegative = false
  | call e _ | index e _ | field e _ => e.isNegative = false
  | interp e => e.isNegative = false ∧ e.isAssignment = false
  | lambda _ e => e.isAssignment = false
  | _ => True

instance : DecidablePred Faithful := fun e => by
  unfold Faithful
  split <;> infer_instance

structure Renderable (e : Expr) : Prop where
  legible : Legible ("end" :: words) e
  faithful : e.All Faithful

lemma faithful_call {f : Expr} {args : List Expr} (h : (call f args).Faithful) : f.isNegative = false := by
  cases f with
  | literal v => exact h
  | _ => rfl

lemma minusLed_eq_false {e : Expr} (h : e.All Faithful) (hn : e.isNegative = false) : e.minusLed = false := by
  induction e with
  | literal v => cases v <;> first | rfl | exact hn
  | call f es ih _ =>
    obtain ⟨he, hf, -⟩ := all_call.mp h
    exact ih hf (faithful_call he)
  | index t es ih _ =>
    obtain ⟨he, ht, -⟩ := all_index.mp h
    exact ih ht he
  | field t x ih =>
    obtain ⟨he, ht⟩ := all_field.mp h
    exact ih ht he
  | _ => rfl

lemma spills_eq_false {e : Expr} (h : e.All Faithful) (hn : e.isAssignment = false) : e.spills = false := by
  induction e with
  | assign => cases hn
  | lambda xs e ih =>
    obtain ⟨hb, he⟩ := all_lambda.mp h
    exact ih he hb
  | _ => rfl

lemma behindSign_of_minusLed {t r : Expr} (h : t.minusLed = false) (whole : Expr → Expr) :
    behindSign t r whole = whole r := by
  rw [behindSign, h]
  rfl

end Expr

lemma map_eq_self {α : Type} {f : α → α} {l : List α} (h : ∀ a ∈ l, f a = a) : l.map f = l := by
  rw [List.map_congr_left h, List.map_id']

theorem Legible.reread_eq_self {reserved : List String} {e : Expr} (h : Legible reserved e)
    (hn : e.All Expr.Faithful) : e.reread = e := by
  induction h with
  | int | str | bool | missing | ident | quote => rfl
  | interp _ ih => rw [Expr.reread, ih (Expr.all_interp.mp hn).2]
  | @infixed op b l r hb _ _ ihl ihr =>
    obtain ⟨hop, -, hes⟩ := Expr.all_call.mp hn
    simp only [List.forall_mem_cons] at hes
    rw [Expr.reread_infixed hb, ihl hes.1, ihr hes.2.1]
    split
    next ha =>
      have hneg : l.isNegative = false := hop (power_of_rightAssoc hb ha)
      exact Expr.behindSign_of_minusLed (Expr.minusLed_eq_false hes.1 hneg) _
    next => rfl
  | unary _ _ _ ih =>
    obtain ⟨-, -, hes⟩ := Expr.all_call.mp hn
    rw [Expr.reread_unary, ih (hes _ List.mem_cons_self)]
  | call hf _ _ _ _ ihf ihes ihvs =>
    obtain ⟨he, hnf, hnes⟩ := Expr.all_call.mp hn
    have hm := Expr.minusLed_eq_false hnf (Expr.faithful_call he)
    rw [Expr.reread_call hf.not_operator, Expr.behindSign_of_minusLed hm, ihf hnf, map_eq_self]
    obtain ⟨hnpos, hnks⟩ := Parse.Arguments.forall_toList.mp hnes
    refine Parse.Arguments.forall_toList.mpr ⟨fun e he => ihes e he (hnpos e he), fun k hk => ?_⟩
    rw [Expr.reread, ihvs k hk (Expr.all_keyword.mp (hnks k hk)).2]
  | index _ _ iht ihes =>
    obtain ⟨he, hnt, hnes⟩ := Expr.all_index.mp hn
    rw [Expr.reread, Expr.behindSign_of_minusLed (Expr.minusLed_eq_false hnt he), iht hnt, Expr.rereadItems_eq,
      map_eq_self fun e he => ihes e he (hnes e he)]
  | field _ _ iht =>
    obtain ⟨he, hnt⟩ := Expr.all_field.mp hn
    rw [Expr.reread, Expr.behindSign_of_minusLed (Expr.minusLed_eq_false hnt he), iht hnt]
  | assign _ _ ihs ihv =>
    obtain ⟨-, hns, hnv⟩ := Expr.all_assign.mp hn
    rw [Expr.reread, ihs hns, ihv hnv]
  | flagged _ _ ih => rw [Expr.reread, ih (Expr.all_flagged.mp hn).2]
  | block _ ihes =>
    obtain ⟨-, hnes⟩ := Expr.all_block.mp hn
    rw [Expr.reread, Expr.rereadItems_eq, map_eq_self fun e he => ihes e he (hnes e he)]
  | tuple _ _ ihes =>
    obtain ⟨-, hnes⟩ := Expr.all_tuple.mp hn
    rw [Expr.reread, Expr.rereadItems_eq, map_eq_self fun e he => ihes e he (hnes e he)]
  | namedTuple _ _ ih =>
    obtain ⟨-, hnfs⟩ := Expr.all_namedTuple.mp hn
    rw [Expr.reread, Expr.rereadFields_eq, map_eq_self fun f hf => ?_]
    rw [ih f hf (hnfs f hf)]
  | vector _ ihes =>
    obtain ⟨-, hnes⟩ := Expr.all_vector.mp hn
    rw [Expr.reread, Expr.rereadItems_eq, map_eq_self fun e he => ihes e he (hnes e he)]
  | @lambda xs e _ _ ih =>
    obtain ⟨hb, hne⟩ := Expr.all_lambda.mp hn
    have hb : e.isAssignment = false := hb
    rw [Expr.reread, ih hne]
    cases e <;> first | rfl | cases hb
  | pair _ _ ihl ihr =>
    obtain ⟨-, hnl, hnr⟩ := Expr.all_pair.mp hn
    rw [Expr.reread, ihl hnl, ihr hnr]

lemma Legible.headNot_end {reserved : List String} (hr : "end" ∈ reserved) {e : Expr} (h : Legible reserved e)
    (space : Bool) : HeadNot (· = .ident "end") (e.lexemesAt 0 space) := by
  by_cases hf : e.isFlagged = false
  · obtain ⟨l, ts, hl, -, he⟩ : PlainHead reserved (e.lexemesAt 0 space) := h.plainHead (.inr hf)
    rw [hl]
    rintro _ ⟨⟩ heq
    exact he heq hr
  · cases h with
    | flagged =>
      rintro _ ⟨⟩
      exact nofun
    | _ => exact absurd rfl hf

lemma Legible.lines {reserved : List String} {e : Expr} (h : Legible reserved e) {es : List Expr}
    (hm : .block es ∈ e.nodes) : ∀ e ∈ es, Legible reserved e := by
  induction h with
  | block hes ih =>
    simp only [Expr.nodes, Expr.nodesOf_eq, List.mem_cons, Expr.block.injEq, List.mem_flatMap] at hm
    rcases hm with rfl | ⟨e, he, hm⟩
    · exact hes
    · exact ih e he hm
  | int | str | bool | missing | ident | quote => simp [Expr.nodes] at hm
  | _ =>
    simp [Expr.nodes, Expr.apply, Parse.Arguments.toList] at hm
    grind

lemma Legible.all_followed {reserved : List String} (hr : "end" ∈ reserved) {e : Expr} (h : Legible reserved e)
    (hn : e.All Expr.Faithful) : e.All Expr.Followed := by
  intro n hm
  have hsub : n.All Expr.Faithful := fun m hm' => hn m (Expr.nodes_subset hm hm')
  cases n with
  | interp t =>
    obtain ⟨⟨hneg, hassign⟩, ht⟩ := Expr.all_interp.mp hsub
    exact ⟨fun _ => Expr.minusLed_eq_false ht hneg, Expr.spills_eq_false ht hassign⟩
  | block es => exact fun e he => (h.lines hm e he).headNot_end hr true
  | _ => trivial

theorem parseExpr_render {e : Expr} (h : e.Renderable) : parseExpr e.render = .ok e := by
  have hread := h.legible.parseExpr_written (List.subset_cons_self _ _)
    (h.legible.all_followed List.mem_cons_self h.faithful)
  rw [h.legible.reread_eq_self h.faithful] at hread
  exact hread

theorem parseExpr_render_power_of_index : ∃ e : Expr, e.Renderable ∧
    e.render = "@c :y! = -x[1] .^ -2 + f(\"a\\$b\", k = (u, v) -> u => $v)" ∧ parseExpr e.render = .ok e := by
  let power : Expr := .apply ".^" [.index (.ident "x") [.literal (.int 1)], .literal (.int (-2))]
  let body : Expr := .pair (.ident "u") (.interp (.ident "v"))
  let e : Expr := .flagged "c" (.assign (.quote "y!") (.apply "+" [.apply "-" [power],
    .call (.ident "f") [.literal (.str "a$b"), .keyword "k" (.lambda ["u", "v"] body)]]))
  have hvar {x : String} (hx : isName x = true ∧ x ∉ "end" :: words) : Legible ("end" :: words) (.ident x) :=
    .ident hx.1 hx.2
  have hpower : Legible ("end" :: words) power := by
    refine .infixed (b := ⟨70, true⟩) rfl (.index (hvar (by decide)) ?_) (.int (by decide))
    simpa using .int (by decide)
  have hbody : Legible ("end" :: words) body := .pair (hvar (by decide)) (.interp (hvar (by decide)))
  have hcall : Legible ("end" :: words) (.call (.ident "f") (Arguments.toList
      ⟨[.literal (.str "a$b")], [("k", .lambda ["u", "v"] body)]⟩)) := by
    refine .call (hvar (by decide)) ?_ (by decide) (by decide) ?_
    · simpa using .str "a$b"
    · simpa using .lambda (by decide) hbody
  have hlegible : Legible ("end" :: words) e := by
    refine .flagged (by decide) (.assign (.quote (by decide)) (.infixed (b := ⟨40, false⟩) rfl ?_ hcall))
    exact .unary (.inl rfl) (fun _ => rfl) hpower
  have hr : e.Renderable := ⟨hlegible, by unfold Expr.All; decide⟩
  exact ⟨e, hr, by decide, parseExpr_render hr⟩

end Tabular
