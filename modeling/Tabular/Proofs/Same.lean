import Mathlib.Tactic.Lemma
import Tabular.Expr.Basic

namespace Tabular

namespace Value

mutual

theorem same_refl : ∀ v : Value, v.same v = true
  | int _ | float _ | str _ | bool _ | symbol _ => by simp [same]
  | missing => rfl
  | list vs => sameItems_refl vs
  | record fs => sameFields_refl fs

theorem sameItems_refl : ∀ vs : List Value, sameItems vs vs = true
  | [] => rfl
  | v :: vs => by simp [sameItems, same_refl v, sameItems_refl vs]

theorem sameFields_refl : ∀ fs : List (String × Value), sameFields fs fs = true
  | [] => rfl
  | (_, v) :: fs => by simp [sameFields, same_refl v, sameFields_refl fs]

end

mutual

theorem same_euclidean : ∀ {u v w : Value}, u.same w = true → v.same w = true → u.same v = true
  | int _, v, w, hu, hv | float _, v, w, hu, hv | str _, v, w, hu, hv | bool _, v, w, hu, hv
  | symbol _, v, w, hu, hv | missing, v, w, hu, hv => by
    cases w <;> simp only [same, Bool.false_eq_true] at hu
    cases v <;> simp_all [same]
  | list us, v, w, hu, hv => by
    cases w <;> simp only [same, Bool.false_eq_true] at hu
    cases v <;> simp only [same, Bool.false_eq_true] at hv
    exact sameItems_euclidean hu hv
  | record us, v, w, hu, hv => by
    cases w <;> simp only [same, Bool.false_eq_true] at hu
    cases v <;> simp only [same, Bool.false_eq_true] at hv
    exact sameFields_euclidean hu hv

theorem sameItems_euclidean : ∀ {us vs ws : List Value}, sameItems us ws = true → sameItems vs ws = true →
    sameItems us vs = true
  | [], [], _, _, _ => rfl
  | _ :: _, _ :: _, _ :: _, hu, hv => by
    simp only [sameItems, Bool.and_eq_true] at hu hv ⊢
    exact ⟨same_euclidean hu.1 hv.1, sameItems_euclidean hu.2 hv.2⟩
  | [], _ :: _, [], _, hv => by simp [sameItems] at hv
  | _ :: _, _, [], hu, _ => by simp [sameItems] at hu
  | [], _ :: _, _ :: _, hu, _ => by simp [sameItems] at hu
  | _ :: _, [], _ :: _, _, hv => by simp [sameItems] at hv

theorem sameFields_euclidean : ∀ {us vs ws : List (String × Value)}, sameFields us ws = true →
    sameFields vs ws = true → sameFields us vs = true
  | [], [], _, _, _ => rfl
  | (_, _) :: _, (_, _) :: _, (_, _) :: _, hu, hv => by
    simp only [sameFields, Bool.and_eq_true, beq_iff_eq] at hu hv ⊢
    exact ⟨⟨hu.1.1.trans hv.1.1.symm, same_euclidean hu.1.2 hv.1.2⟩, sameFields_euclidean hu.2 hv.2⟩
  | [], _ :: _, [], _, hv => by simp [sameFields] at hv
  | _ :: _, _, [], hu, _ => by simp [sameFields] at hu
  | [], _ :: _, _ :: _, hu, _ => by simp [sameFields] at hu
  | _ :: _, [], _ :: _, _, hv => by simp [sameFields] at hv

end

end Value

mutual

theorem Column.same_refl : ∀ c : Column, c.same c = true
  | .symbol _ | .string _ | .position _ => by simp [Column.same]
  | .dynamic e => by simp [Column.same, Expr.same_refl e]

theorem Expr.same_refl : ∀ e : Expr, e.same e = true
  | .literal v => by simp [Expr.same, Value.same_refl v]
  | .ident _ | .quote _ => by simp [Expr.same]
  | .column c => by simp [Expr.same, Column.same_refl c]
  | .interp e | .keyword _ e | .field e _ | .flagged _ e | .lambda _ e => by simp [Expr.same, Expr.same_refl e]
  | .call e es | .index e es => by simp [Expr.same, Expr.same_refl e, Expr.sameItems_refl es]
  | .assign e f | .pair e f => by simp [Expr.same, Expr.same_refl e, Expr.same_refl f]
  | .block es | .tuple es | .vector es => by simp [Expr.same, Expr.sameItems_refl es]
  | .namedTuple fs => by simp [Expr.same, Expr.sameFields_refl fs]

theorem Expr.sameItems_refl : ∀ es : List Expr, Expr.sameItems es es = true
  | [] => rfl
  | e :: es => by simp [Expr.sameItems, Expr.same_refl e, Expr.sameItems_refl es]

theorem Expr.sameFields_refl : ∀ fs : List (String × Expr), Expr.sameFields fs fs = true
  | [] => rfl
  | (_, e) :: fs => by simp [Expr.sameFields, Expr.same_refl e, Expr.sameFields_refl fs]

end

mutual

theorem Column.same_euclidean : ∀ {c d b : Column}, c.same b = true → d.same b = true → c.same d = true
  | .symbol _, d, b, hc, hd | .string _, d, b, hc, hd | .position _, d, b, hc, hd => by
    cases b <;> try cases hc
    cases d <;> try cases hd
    simp_all [Column.same]
  | .dynamic e, d, b, hc, hd => by
    cases b <;> try cases hc
    cases d <;> try cases hd
    simp only [Column.same] at hc hd ⊢
    exact Expr.same_euclidean hc hd

theorem Expr.same_euclidean : ∀ {e f g : Expr}, e.same g = true → f.same g = true → e.same f = true
  -- `e` and `f` both have the constructor of `g`, so only one case of each is left
  | .literal v, f, g, he, hf => by
    cases g <;> try cases he
    cases f <;> try cases hf
    simp only [Expr.same] at he hf ⊢
    exact Value.same_euclidean he hf
  | .ident _, f, g, he, hf | .quote _, f, g, he, hf => by
    cases g <;> try cases he
    cases f <;> try cases hf
    simp_all [Expr.same]
  | .column _, f, g, he, hf => by
    cases g <;> try cases he
    cases f <;> try cases hf
    simp only [Expr.same] at he hf ⊢
    exact Column.same_euclidean he hf
  | .interp _, f, g, he, hf => by
    cases g <;> try cases he
    cases f <;> try cases hf
    simp only [Expr.same] at he hf ⊢
    exact Expr.same_euclidean he hf
  | .call _ _, f, g, he, hf | .index _ _, f, g, he, hf => by
    cases g <;> try cases he
    cases f <;> try cases hf
    simp only [Expr.same, Bool.and_eq_true] at he hf ⊢
    exact ⟨Expr.same_euclidean he.1 hf.1, Expr.sameItems_euclidean he.2 hf.2⟩
  | .keyword _ _, f, g, he, hf | .flagged _ _, f, g, he, hf | .lambda _ _, f, g, he, hf => by
    cases g <;> try cases he
    cases f <;> try cases hf
    simp only [Expr.same, Bool.and_eq_true, beq_iff_eq] at he hf ⊢
    exact ⟨he.1.trans hf.1.symm, Expr.same_euclidean he.2 hf.2⟩
  | .field _ _, f, g, he, hf => by
    cases g <;> try cases he
    cases f <;> try cases hf
    simp only [Expr.same, Bool.and_eq_true, beq_iff_eq] at he hf ⊢
    exact ⟨Expr.same_euclidean he.1 hf.1, he.2.trans hf.2.symm⟩
  | .assign _ _, f, g, he, hf | .pair _ _, f, g, he, hf => by
    cases g <;> try cases he
    cases f <;> try cases hf
    simp only [Expr.same, Bool.and_eq_true] at he hf ⊢
    exact ⟨Expr.same_euclidean he.1 hf.1, Expr.same_euclidean he.2 hf.2⟩
  | .block _, f, g, he, hf | .tuple _, f, g, he, hf | .vector _, f, g, he, hf => by
    cases g <;> try cases he
    cases f <;> try cases hf
    simp only [Expr.same] at he hf ⊢
    exact Expr.sameItems_euclidean he hf
  | .namedTuple _, f, g, he, hf => by
    cases g <;> try cases he
    cases f <;> try cases hf
    simp only [Expr.same] at he hf ⊢
    exact Expr.sameFields_euclidean he hf

theorem Expr.sameItems_euclidean : ∀ {es fs gs : List Expr}, Expr.sameItems es gs = true →
    Expr.sameItems fs gs = true → Expr.sameItems es fs = true
  | [], [], _, _, _ => rfl
  | _ :: _, _ :: _, _ :: _, he, hf => by
    simp only [Expr.sameItems, Bool.and_eq_true] at he hf ⊢
    exact ⟨Expr.same_euclidean he.1 hf.1, Expr.sameItems_euclidean he.2 hf.2⟩
  | [], _ :: _, [], _, hf => by simp [Expr.sameItems] at hf
  | _ :: _, _, [], he, _ => by simp [Expr.sameItems] at he
  | [], _ :: _, _ :: _, he, _ => by simp [Expr.sameItems] at he
  | _ :: _, [], _ :: _, _, hf => by simp [Expr.sameItems] at hf

theorem Expr.sameFields_euclidean : ∀ {es fs gs : List (String × Expr)}, Expr.sameFields es gs = true →
    Expr.sameFields fs gs = true → Expr.sameFields es fs = true
  | [], [], _, _, _ => rfl
  | (_, _) :: _, (_, _) :: _, (_, _) :: _, he, hf => by
    simp only [Expr.sameFields, Bool.and_eq_true, beq_iff_eq] at he hf ⊢
    exact ⟨⟨he.1.1.trans hf.1.1.symm, Expr.same_euclidean he.1.2 hf.1.2⟩, Expr.sameFields_euclidean he.2 hf.2⟩
  | [], _ :: _, [], _, hf => by simp [Expr.sameFields] at hf
  | _ :: _, _, [], he, _ => by simp [Expr.sameFields] at he
  | [], _ :: _, _ :: _, he, _ => by simp [Expr.sameFields] at he
  | _ :: _, [], _ :: _, _, hf => by simp [Expr.sameFields] at hf

end

namespace Column

lemma same_symm {c d : Column} (h : c.same d = true) : d.same c = true := same_euclidean (same_refl d) h

lemma same_trans {c d b : Column} (hc : c.same d = true) (hd : d.same b = true) : c.same b = true :=
  same_euclidean hc (same_symm hd)

lemma eq_of_same {c d : Column} (hc : c.isDynamic = false) (h : c.same d = true) : c = d := by
  cases c <;> cases d <;> simp_all [same, isDynamic]

end Column

end Tabular
