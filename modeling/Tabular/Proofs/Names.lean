import Mathlib.Data.List.Nodup
import Mathlib.Tactic.Lemma
import Tabular.Names

namespace Tabular.Names

lemma candidate_injective (base : String) : Function.Injective (candidate base) := by
  have hlt (k : ℕ) : (candidate base 0).length < (candidate base (k + 1)).length := by
    simp only [candidate, String.length_append]
    have : "_".length = 1 := rfl
    omega
  intro i j h
  cases i with
  | zero =>
    cases j with
    | zero => rfl
    | succ j =>
      have := hlt j
      rw [h] at this
      omega
  | succ i =>
    cases j with
    | zero =>
      have := hlt i
      rw [← h] at this
      omega
    | succ j =>
      have hr : (i + 2).repr = (j + 2).repr := (String.append_right_inj _).mp h
      have hd := congrArg (fun s => Nat.ofDigitChars 10 s.toList 0) hr
      simpa using hd

lemma exists_free (s : Names) (base : String) :
    ∃ k < s.taken.length + 1, candidate base k ∉ s.taken := by
  by_contra hc
  push Not at hc
  have hn : ((List.range (s.taken.length + 1)).map (candidate base)).Nodup :=
    List.nodup_range.map (candidate_injective base)
  have hs : (List.range (s.taken.length + 1)).map (candidate base) ⊆ s.taken := by
    intro x hx
    obtain ⟨k, hk, rfl⟩ := List.mem_map.mp hx
    exact hc k (List.mem_range.mp hk)
  have hl := hn.length_le_of_subset hs
  rw [List.length_map, List.length_range] at hl
  omega

/-- The name that is picked for `base`: itself, or with the least number from two on that sets it apart. -/
def IsFirst (taken : String → Prop) (base name : String) : Prop :=
  (¬ taken base ∧ name = base) ∨
    (taken base ∧ ∃ k, 2 ≤ k ∧ name = base ++ "_" ++ k.repr ∧ ¬ taken name ∧
      ∀ j, 2 ≤ j → j < k → taken (base ++ "_" ++ j.repr))

lemma isFirst_iff {taken : String → Prop} {base name : String} : IsFirst taken base name ↔
    ∃ k, name = candidate base k ∧ ¬ taken name ∧ ∀ j < k, taken (candidate base j) := by
  constructor
  · rintro (⟨hb, rfl⟩ | ⟨hb, k, hk, rfl, hn, hj⟩)
    · exact ⟨0, rfl, hb, fun j hj => absurd hj (Nat.not_lt_zero j)⟩
    · obtain ⟨k, rfl⟩ := Nat.exists_eq_add_of_le' hk
      refine ⟨k + 1, rfl, hn, fun j hlt => ?_⟩
      cases j with
      | zero => exact hb
      | succ j => exact hj (j + 2) (by omega) (by omega)
  · rintro ⟨k, rfl, hn, hj⟩
    cases k with
    | zero => exact .inl ⟨hn, rfl⟩
    | succ k =>
      refine .inr ⟨hj 0 (by omega), k + 2, by omega, rfl, hn, fun j h2 hlt => ?_⟩
      obtain ⟨j, rfl⟩ := Nat.exists_eq_add_of_le' h2
      exact hj (j + 1) (by omega)

lemma isFirst_free (s : Names) (base : String) : IsFirst (· ∈ s.taken) base (s.free base) := by
  obtain ⟨m, hm, hf⟩ := exists_free s base
  have hsome : ((List.range (s.taken.length + 1)).find? fun k => !s.isTaken (candidate base k)).isSome := by
    rw [List.find?_isSome]
    exact ⟨m, List.mem_range.mpr hm, by simpa [isTaken] using hf⟩
  obtain ⟨k, hk⟩ := Option.isSome_iff_exists.mp hsome
  have hfree : s.free base = candidate base k := by
    rw [free, List.find?_map]
    simp only [Function.comp_def, hk, Option.map_some, Option.getD_some]
  obtain ⟨hp, -, hj⟩ := List.find?_range_eq_some.mp hk
  rw [isFirst_iff, hfree]
  exact ⟨k, rfl, by simpa [isTaken] using hp, fun j hlt => by simpa [isTaken] using hj j hlt⟩

lemma free_not_taken (s : Names) (base : String) : s.free base ∉ s.taken := by
  obtain ⟨k, -, hn, -⟩ := isFirst_iff.mp (isFirst_free s base)
  exact hn

lemma IsFirst.avoids_iff {taken late : String → Prop} {base name : String} (h : IsFirst taken base name) :
    ¬ late name ↔ IsFirst (fun x => taken x ∨ late x) base name := by
  simp only [isFirst_iff] at h ⊢
  constructor
  · intro hl
    obtain ⟨k, rfl, hn, hj⟩ := h
    exact ⟨k, rfl, not_or.mpr ⟨hn, hl⟩, fun j hlt => .inl (hj j hlt)⟩
  · rintro ⟨-, -, hn, -⟩
    exact (not_or.mp hn).2

@[simp] lemma taken_fresh (s : Names) (base : String) : (s.fresh base).2.taken = s.taken.insert (s.free base) :=
  rfl

lemma mem_taken_fresh (s : Names) (base x : String) :
    x ∈ (s.fresh base).2.taken ↔ x = s.free base ∨ x ∈ s.taken := by
  simp

lemma mem_taken_avoiding (names : List String) (x : String) : x ∈ (avoiding names).taken ↔ x ∈ names := by
  simp [avoiding]

lemma mem_taken_forIdentifiers (names : List String) (x : String) :
    x ∈ (forIdentifiers names).taken ↔ x ∈ reservedWords ∨ x ∈ names := by
  simp [forIdentifiers, avoiding]

end Tabular.Names
