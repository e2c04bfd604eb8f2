import Tabular.Proofs.Names

namespace Tabular.Names

def seek (s : Names) (base : String) : (tries : ℕ) → (name : String) → (number : ℕ) → Option String
  | 0, _, _ => none
  | n + 1, name, number =>
    if s.isTaken name then seek s base n (base ++ "_" ++ number.repr) (number + 1) else some name

lemma seek_candidate {s : Names} {base : String} {k d : ℕ} (hfree : candidate base (k + d) ∉ s.taken)
    (htaken : ∀ i < d, candidate base (k + i) ∈ s.taken) (tries : ℕ) :
    s.seek base tries (candidate base k) (k + 2) = if d < tries then some (candidate base (k + d)) else none := by
  induction d generalizing k tries with
  | zero =>
    cases tries with
    | zero => rfl
    | succ n =>
      have hk : s.isTaken (candidate base k) = false := by simpa [isTaken] using hfree
      rw [seek, hk, if_pos (Nat.succ_pos n)]
      rfl
  | succ d ih =>
    cases tries with
    | zero => rfl
    | succ n =>
      have hk : s.isTaken (candidate base k) = true := by simpa [isTaken] using htaken 0 (Nat.succ_pos d)
      have hshift (i : ℕ) : k + 1 + i = k + (i + 1) := by omega
      have hnext := ih (k := k + 1) (by rwa [hshift]) (fun i hi => by
        rw [hshift]
        exact htaken (i + 1) (Nat.succ_lt_succ hi)) n
      rw [seek, if_pos hk, show base ++ "_" ++ (k + 2).repr = candidate base (k + 1) from rfl, hnext, hshift]
      simp only [Nat.add_lt_add_iff_right]

lemma exists_seek_eq (s : Names) (base : String) : ∃ d ≤ s.taken.length, s.free base = candidate base d ∧
    ∀ tries, s.seek base tries base 2 = if d < tries then some (s.free base) else none := by
  obtain ⟨d, hd, hfree, htaken⟩ := isFirst_iff.mp (isFirst_free s base)
  rw [hd] at hfree ⊢
  obtain ⟨m, hm, hmfree⟩ := exists_free s base
  have hle : d ≤ m := by
    by_contra hlt
    exact hmfree (htaken m (by omega))
  refine ⟨d, by omega, rfl, fun tries => ?_⟩
  have hseek := seek_candidate (s := s) (k := 0) (d := d) (by rwa [Nat.zero_add]) (fun i hi => by
    rw [Nat.zero_add]
    exact htaken i hi) tries
  simp only [Nat.zero_add] at hseek
  exact hseek

inductive Request where
  | fresh (base : String)
  | reserve (name : String)

def serve (s : Names) : Request → Names
  | .fresh base => (s.fresh base).2
  | .reserve name => s.reserve name

def serveAll (s : Names) (rs : List Request) : Names := rs.foldl serve s

def handedOut (s : Names) : List Request → List String
  | [] => []
  | .fresh base :: rs => (s.fresh base).1 :: (s.fresh base).2.handedOut rs
  | .reserve name :: rs => (s.reserve name).handedOut rs

lemma handedOut_append (s : Names) (rs qs : List Request) :
    s.handedOut (rs ++ qs) = s.handedOut rs ++ (s.serveAll rs).handedOut qs := by
  induction rs generalizing s with
  | nil => rfl
  | cons r rs ih =>
    cases r with
    | fresh base => exact congrArg ((s.fresh base).1 :: ·) (ih (s.fresh base).2)
    | reserve name => exact ih (s.reserve name)

lemma mem_taken_reserve (s : Names) (name x : String) : x ∈ (s.reserve name).taken ↔ x = name ∨ x ∈ s.taken :=
  List.mem_insert_iff

lemma mem_taken_serveAll (s : Names) (rs : List Request) (x : String) :
    x ∈ (s.serveAll rs).taken ↔ x ∈ s.taken ∨ .reserve x ∈ rs ∨ x ∈ s.handedOut rs := by
  induction rs generalizing s with
  | nil => simp [serveAll, handedOut]
  | cons r rs ih =>
    rw [serveAll, List.foldl_cons, ← serveAll, ih]
    cases r with
    | fresh base =>
      simp only [serve, handedOut, mem_taken_fresh, List.mem_cons, reduceCtorEq, false_or]
      tauto
    | reserve name =>
      simp only [serve, handedOut, mem_taken_reserve, List.mem_cons, Request.reserve.injEq]
      tauto

lemma nodup_eraseDups : ∀ names : List String, names.eraseDups.Nodup
  | [] => List.nodup_nil
  | x :: names => by
    rw [List.eraseDups_cons, List.nodup_cons]
    exact ⟨by simp, nodup_eraseDups _⟩
termination_by names => names.length
decreasing_by exact Nat.lt_succ_of_le (List.length_filter_le _ names)

lemma nodup_taken_serve {s : Names} (h : s.taken.Nodup) (r : Request) : (s.serve r).taken.Nodup := by
  cases r with
  | fresh base => exact h.insert
  | reserve name => exact h.insert

lemma nodup_taken_serveAll {s : Names} (h : s.taken.Nodup) (rs : List Request) : (s.serveAll rs).taken.Nodup := by
  induction rs generalizing s with
  | nil => exact h
  | cons r rs ih => exact ih (nodup_taken_serve h r)

lemma taken_subset_serve (s : Names) (r : Request) : s.taken ⊆ (s.serve r).taken := by
  cases r with
  | fresh base => exact fun x hx => List.mem_insert_of_mem hx
  | reserve name => exact fun x hx => List.mem_insert_of_mem hx

lemma handedOut_new (s : Names) (rs : List Request) :
    (∀ x ∈ s.handedOut rs, x ∉ s.taken) ∧ (s.handedOut rs).Nodup := by
  induction rs generalizing s with
  | nil => exact ⟨List.forall_mem_nil _, List.nodup_nil⟩
  | cons r rs ih =>
    obtain ⟨hnew, hnodup⟩ := ih (s.serve r)
    have hold : ∀ x ∈ (s.serve r).handedOut rs, x ∉ s.taken :=
      fun x hx hs => hnew x hx (taken_subset_serve s r hs)
    cases r with
    | fresh base =>
      refine ⟨List.forall_mem_cons.mpr ⟨free_not_taken s base, hold⟩, List.nodup_cons.mpr ⟨fun hx => ?_, hnodup⟩⟩
      exact hnew _ hx ((mem_taken_fresh s base _).mpr (.inl rfl))
    | reserve name => exact ⟨hold, hnodup⟩

/-- After any requests, the next name is the first candidate that is not taken, it is found after at most one
candidate more than there are taken names, it alone becomes taken, and no name is handed out again or after it
was reserved. -/
theorem fresh_of_serveAll (reserved : List String) (rs : List Request) (base : String) :
    let s := (avoiding reserved).serveAll rs
    let name := (s.fresh base).1
    let earlier := (avoiding reserved).handedOut rs
    s.taken.Nodup ∧ (∀ x, x ∈ s.taken ↔ x ∈ reserved ∨ .reserve x ∈ rs ∨ x ∈ earlier) ∧
      (∃ d ≤ s.taken.length, ∀ tries, s.seek base tries base 2 = if d < tries then some name else none) ∧
      IsFirst (· ∈ s.taken) base name ∧ (∀ x, x ∈ (s.fresh base).2.taken ↔ x = name ∨ x ∈ s.taken) ∧
      (avoiding reserved).handedOut (rs ++ [.fresh base]) = earlier ++ [name] ∧ (earlier ++ [name]).Nodup ∧
      name ∉ reserved ∧ .reserve name ∉ rs := by
  intro s name earlier
  have htaken (x : String) : x ∈ s.taken ↔ x ∈ reserved ∨ .reserve x ∈ rs ∨ x ∈ earlier := by
    rw [mem_taken_serveAll, mem_taken_avoiding]
  obtain ⟨d, hd, -, hseek⟩ := exists_seek_eq s base
  have happend : (avoiding reserved).handedOut (rs ++ [.fresh base]) = earlier ++ [name] := handedOut_append _ _ _
  have hnodup : (earlier ++ [name]).Nodup := happend ▸ (handedOut_new (avoiding reserved) _).2
  have hnew : name ∉ s.taken := free_not_taken s base
  rw [htaken, not_or, not_or] at hnew
  exact ⟨nodup_taken_serveAll (nodup_eraseDups reserved) rs, htaken, ⟨d, hd, hseek⟩, isFirst_free s base,
    mem_taken_fresh s base, happend, hnodup, hnew.1, hnew.2.1⟩

example : (avoiding ["x_2"]).handedOut [.fresh "x", .fresh "x", .reserve "x_4", .fresh "x_3", .fresh "x"] =
    ["x", "x_3", "x_3_2", "x_5"] := by decide +kernel

end Tabular.Names
