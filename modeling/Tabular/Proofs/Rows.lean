import Tabular.Eval.Interpreter
import Tabular.Proofs.Follows
import Tabular.Triple

namespace Tabular

namespace Rows

lemma sameLength_eq_ok {n : Nat} {vs : List Value} :
    sameLength n vs = .ok () ↔ ∀ xs, .list xs ∈ vs → xs.length = n := by
  induction vs with
  | nil => simp [sameLength]
  | cons v vs ih =>
    cases v with
    | list ys =>
      rw [sameLength]
      by_cases hy : ys.length = n
      · rw [if_pos hy, ih]
        simp [hy]
      · rw [if_neg hy]
        simp [hy]
    | _ => simpa [sameLength] using ih

lemma commonLength_eq_ok {vs : List Value} {o : Option Nat} : commonLength vs = .ok o ↔
    (∀ xs, .list xs ∈ vs → o = some xs.length) ∧ (o = none ∨ ∃ xs, .list xs ∈ vs) := by
  induction vs with
  | nil => simp [commonLength, eq_comm]
  | cons v vs ih =>
    cases v with
    | list ys =>
      simp only [commonLength]
      constructor
      · intro h
        cases hs : sameLength ys.length vs with
        | error e => simp [hs, Except.map] at h
        | ok u =>
          have ho : some ys.length = o := by simpa [hs, Except.map] using h
          refine ⟨fun xs hx => ?_, .inr ⟨ys, List.mem_cons_self⟩⟩
          rcases List.mem_cons.mp hx with hx | hx
          · rw [← ho, Value.list.inj hx]
          · rw [← ho, sameLength_eq_ok.mp hs xs hx]
      · rintro ⟨ho, -⟩
        have hy := ho ys List.mem_cons_self
        have hs : sameLength ys.length vs = .ok () := sameLength_eq_ok.mpr fun xs hx =>
          Option.some.inj ((ho xs (List.mem_cons_of_mem _ hx)).symm.trans hy)
        rw [hs, hy]
        rfl
    | _ => simpa [commonLength] using ih

lemma commonLength_or {columns : List (List Value)} {n : Nat} (h : ∀ xs ∈ columns, xs.length = n) :
    ∃ o, commonLength (columns.map .list) = .ok o ∧ o.or (some n) = some n := by
  cases columns with
  | nil => exact ⟨none, rfl, rfl⟩
  | cons xs columns =>
    refine ⟨some n, commonLength_eq_ok.mpr ⟨fun ys hy => ?_, .inr ⟨xs, by simp⟩⟩, rfl⟩
    obtain ⟨zs, hz, he⟩ := List.mem_map.mp hy
    rw [← Value.list.inj he, h zs hz]

lemma row_map_list (columns : List (List Value)) (i : Nat) :
    row (columns.map .list) i = columns.map fun xs => xs.getD i .missing := by
  simp [row, entry, Function.comp_def]

lemma row_map {κ : Type} (ks : List κ) (L : κ → Value) (i : Nat) :
    row (ks.map L) i = ks.map fun k => entry i (L k) := List.map_map

end Rows

namespace Interpreter

variable {I : Interpreter} {columns : Column → Option Value} {scope : Scope} {nrow : Option Nat}
  {args : List Value}

lemma applyWith_byRow {length : Option Nat} {rows : Nat} (hl : Rows.commonLength args = .ok length)
    (hr : length.or nrow = some rows) (f : Expr) :
    I.applyWith columns scope nrow args (.apply I.byRow [f]) = (do
      return .list (← (List.range rows).mapM fun i => I.applyWith columns scope none (Rows.row args i) f)) := by
  rw [Expr.apply, applyWith, if_pos rfl, hl]
  simp only [bind, Except.bind, hr]

lemma applyWith_passMissing (hw : I.passMissing ≠ I.byRow) (f : Expr) :
    I.applyWith columns scope nrow args (.apply I.passMissing [f]) =
      if args.any Value.isMissing then .ok .missing else I.applyWith columns scope nrow args f := by
  rw [Expr.apply, applyWith, if_neg hw, if_pos rfl]

lemma applyWith_wrapped {κ : Type} {ks ls : List κ} (hk : ∀ k, k ∈ ks ↔ k ∈ ls) {f g : Expr}
    (h : ∀ (L : κ → Value) (nrow : Option Nat), Follows True (I.applyWith columns scope nrow (ks.map L) f)
      (I.applyWith columns scope nrow (ls.map L) g)) (name : String) (L : κ → Value) (nrow : Option Nat) :
    Follows True (I.applyWith columns scope nrow (ks.map L) (.apply name [f]))
      (I.applyWith columns scope nrow (ls.map L) (.apply name [g])) := by
  have hm (v : Value) : v ∈ ks.map L ↔ v ∈ ls.map L := by simp only [List.mem_map, hk]
  have hl : Follows True (Rows.commonLength (ks.map L)) (Rows.commonLength (ls.map L)) := by
    constructor
    · intro o ho
      rw [Rows.commonLength_eq_ok] at ho ⊢
      simpa only [hm] using ho
    · intro _ o ho
      rw [Rows.commonLength_eq_ok] at ho ⊢
      simpa only [hm] using ho
  have hs : (ks.map L).any Value.isMissing = (ls.map L).any Value.isMissing := by
    rw [Bool.eq_iff_iff, List.any_eq_true, List.any_eq_true]
    simp only [hm]
  simp only [Expr.apply, applyWith]
  split
  · refine hl.bind fun o => ?_
    cases o.or nrow with
    | none => exact h L none
    | some rows =>
      refine (Follows.mapM fun i _ => ?_).bind fun vs => Follows.refl True _
      rw [Rows.row_map, Rows.row_map]
      exact h _ none
  · split
    · rw [hs]
      split
      · exact Follows.refl True _
      · exact h L nrow
    · exact Follows.errors True _ _

end Interpreter

end Tabular
