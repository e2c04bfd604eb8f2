import Tabular.Proofs.Recognition

namespace Tabular.Parse

open Cursor

variable {c d e : Cursor} {n : ℕ}

def Cursor.Reaches (c d : Cursor) : Prop := ∃ ts, Skips ts c d

namespace Cursor.Reaches

lemma refl (c : Cursor) : c.Reaches c := ⟨[], rfl⟩

lemma advance (h : c.advance = .ok d) : c.Reaches d := ⟨_, Skips.single h⟩

lemma trans (h : c.Reaches d) (h' : d.Reaches e) : c.Reaches e := by
  obtain ⟨ts, hs⟩ := h
  obtain ⟨us, hs'⟩ := h'
  exact ⟨ts ++ us, hs.append hs'⟩

lemma skip {t : Token} (h : c.skip t = .ok d) : c.Reaches d := by
  obtain h | rfl := skip_eq_ok h
  · exact .advance h
  · exact .refl _

lemma depth (h : c.Reaches d) : d.depth = c.depth := by
  obtain ⟨ts, hs⟩ := h
  exact hs.depth

end Cursor.Reaches

structure Leads (R : Cursor → Cursor → Prop) (n : ℕ) : Prop where
  argument : ∀ {c e d}, argument n c = .ok (e, d) → R c d
  infixExpression : ∀ {min c e d}, infixExpression n min c = .ok (e, d) → R c d
  unaryExpression : ∀ {c e d}, unaryExpression n c = .ok (e, d) → R c d
  postfixExpression : ∀ {c e d}, postfixExpression n c = .ok (e, d) → R c d
  primary : ∀ {c e d}, primary n c = .ok (e, d) → R c d
  blockLines : ∀ {c es d}, blockLines n c = .ok (es, d) → R c d
  tupleItems : ∀ {c es d}, tupleItems n c = .ok (es, d) → R c d
  items : ∀ {closing c es d}, items n closing c = .ok (es, d) → R c d
  arguments : ∀ {closing named inKeywords c as d}, arguments n closing named inKeywords c = .ok (as, d) → R c d

lemma Leads.mono {R S : Cursor → Cursor → Prop} (hRS : ∀ {c d}, R c d → S c d) (h : Leads R n) : Leads S n where
  argument hr := hRS (h.argument hr)
  infixExpression hr := hRS (h.infixExpression hr)
  unaryExpression hr := hRS (h.unaryExpression hr)
  postfixExpression hr := hRS (h.postfixExpression hr)
  primary hr := hRS (h.primary hr)
  blockLines hr := hRS (h.blockLines hr)
  tupleItems hr := hRS (h.tupleItems hr)
  items hr := hRS (h.items hr)
  arguments hr := hRS (h.arguments hr)

lemma reaches_argument {x : Expr} (h : argument n c = .ok (x, d)) : c.Reaches d := by
  obtain ⟨ts, hs, -⟩ := (sound n).argument h
  exact ⟨ts, hs⟩

lemma reaches_arguments {closing : Token} {named inKeywords : Bool} {as : Arguments}
    (h : arguments n closing named inKeywords c = .ok (as, d)) : c.Reaches d := by
  induction n generalizing c inKeywords as with
  | zero => cases h
  | succ n ih =>
    rw [arguments] at h
    split at h
    · cases h
      exact .refl _
    split at h
    · obtain ⟨c₁, hc, h⟩ := bind_eq_ok.mp h
      exact (Reaches.advance hc).trans (ih h)
    obtain ⟨⟨x, c₁⟩, hx, h⟩ := bind_eq_ok.mp h
    obtain ⟨a, -, h⟩ := bind_eq_ok.mp h
    dsimp only at h
    refine (reaches_argument hx).trans ?_
    split at h
    · obtain ⟨c₂, hc, h⟩ := bind_eq_ok.mp h
      obtain ⟨⟨as', d'⟩, has, h⟩ := bind_eq_ok.mp h
      cases h
      exact (Reaches.advance hc).trans (ih has)
    split at h
    · obtain ⟨⟨as', d'⟩, has, h⟩ := bind_eq_ok.mp h
      cases h
      exact ih has
    · cases h
      exact .refl _

theorem leads (n : ℕ) : Leads Reaches n where
  argument := reaches_argument
  infixExpression h := by
    obtain ⟨ts, -, hs, -⟩ := (sound n).infixExpression h
    exact ⟨ts, hs⟩
  unaryExpression h := by
    obtain ⟨ts, -, hs, -⟩ := (sound n).unaryExpression h
    exact ⟨ts, hs⟩
  postfixExpression h := by
    obtain ⟨ts, -, hs, -⟩ := (sound n).postfixExpression h
    exact ⟨ts, hs⟩
  primary h := by
    obtain ⟨ts, -, hs, -⟩ := (sound n).primary h
    exact ⟨ts, hs⟩
  blockLines h := by
    obtain ⟨ts, hs, -⟩ := (sound n).blockLines h
    exact ⟨ts, hs⟩
  tupleItems h := by
    obtain ⟨ts, hs, -⟩ := (sound n).tupleItems h
    exact ⟨ts, hs⟩
  items h := by
    obtain ⟨ts, -, hs, -⟩ := (sound n).items h
    exact ⟨ts, hs⟩
  arguments := reaches_arguments

lemma Cursor.Reaches.depth_pos {c' : Cursor} (he : c.enter = .ok c') (h : c'.Reaches d) : 0 < d.depth := by
  obtain ⟨c₁, -, rfl⟩ := enter_eq_ok he
  rw [h.depth]
  exact Nat.succ_pos c.depth

end Tabular.Parse
