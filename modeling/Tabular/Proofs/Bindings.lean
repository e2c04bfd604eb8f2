import Mathlib.Data.List.Nodup
import Tabular.Bindings

namespace Tabular

variable {α : Type}

lemma lookup_of_mem {l : List (String × α)} (hn : (l.map (·.1)).Nodup) {x : String} {a : α} (h : (x, a) ∈ l) :
    l.lookup x = some a := by
  induction l with
  | nil => exact absurd h List.not_mem_nil
  | cons p l ih =>
    rw [List.map_cons, List.nodup_cons] at hn
    rcases List.mem_cons.mp h with rfl | h
    · exact List.lookup_cons_self
    · have hx : x ≠ p.1 := fun he => hn.1 (he ▸ List.mem_map_of_mem h)
      rw [List.lookup_cons, beq_eq_false_iff_ne.mpr hx]
      exact ih hn.2 h

lemma lookup_reverse_of_mem {l : List (String × α)} (hn : (l.map (·.1)).Nodup) {x : String} {a : α}
    (h : (x, a) ∈ l) : l.reverse.lookup x = some a :=
  lookup_of_mem (by rwa [List.map_reverse, List.nodup_reverse]) (List.mem_reverse.mpr h)

lemma lookup_reverse_eq_none {l : List (String × α)} {x : String} (h : x ∉ l.map (·.1)) :
    l.reverse.lookup x = none := by
  refine List.lookup_eq_none_iff.mpr fun p hp => bne_iff_ne.mpr ?_
  rintro rfl
  exact h (List.mem_map_of_mem (List.mem_reverse.mp hp))

lemma lookup_map {β : Type} (l : List (String × α)) (f : α → β) (x : String) :
    (l.map fun p => (p.1, f p.2)).lookup x = (l.lookup x).map f := by
  induction l with
  | nil => rfl
  | cons p l ih =>
    rw [List.map_cons, List.lookup_cons, List.lookup_cons, ih]
    cases x == p.1 <;> rfl

namespace Bindings

lemma get?_insert (b : Bindings α) (x y : String) (a : α) :
    (b.insert x a).get? y = if y = x then some a else b.get? y := by
  by_cases h : y = x
  · simp [h]
  · rw [get?_insert_of_ne b a h, if_neg h]

lemma get?_insertAll (b : Bindings α) (l : List (String × α)) (x : String) :
    (b.insertAll l).get? x = (l.reverse.lookup x).or (b.get? x) := by
  induction l generalizing b with
  | nil => rfl
  | cons p l ih =>
    have hs : b.insertAll (p :: l) = (b.insert p.1 p.2).insertAll l := rfl
    have hp : [p].lookup x = if x = p.1 then some p.2 else none := by
      obtain ⟨y, a⟩ := p
      by_cases hx : x = y
      · simp [hx]
      · simp [List.lookup_cons, beq_eq_false_iff_ne.mpr hx, hx]
    rw [hs, ih, List.reverse_cons, List.lookup_append, Option.or_assoc, get?_insert, hp]
    by_cases hx : x = p.1 <;> simp [hx]

lemma get?_insertAll_of_mem (b : Bindings α) {l : List (String × α)} (hn : (l.map (·.1)).Nodup)
    {x : String} {a : α} (h : (x, a) ∈ l) : (b.insertAll l).get? x = some a := by
  rw [get?_insertAll, lookup_reverse_of_mem hn h, Option.some_or]

lemma get?_insertAll_of_not_mem (b : Bindings α) {l : List (String × α)} {x : String} (h : x ∉ l.map (·.1)) :
    (b.insertAll l).get? x = b.get? x := by
  rw [get?_insertAll, lookup_reverse_eq_none h, Option.none_or]

end Bindings

end Tabular
