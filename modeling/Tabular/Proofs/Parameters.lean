import Tabular.Proofs.Bindings
import Tabular.Proofs.Columns
import Tabular.Proofs.Names
import Tabular.Proofs.Same

namespace Tabular

def Column.lookup {α : Type} (cs : List Column) (xs : List α) (c : Column) : Option α :=
  ((cs.zip xs).find? (·.1.same c)).map (·.2)

namespace Column

variable {α β : Type}

@[simp] lemma lookup_nil (xs : List α) (c : Column) : lookup [] xs c = none := rfl

@[simp] lemma lookup_cons (d : Column) (cs : List Column) (x : α) (xs : List α) (c : Column) :
    lookup (d :: cs) (x :: xs) c = if d.same c then some x else lookup cs xs c := by
  by_cases h : d.same c <;> simp [lookup, h]

lemma lookup_congr {c d : Column} (h : c.same d = true) (cs : List Column) (xs : List α) :
    lookup cs xs c = lookup cs xs d := by
  have he (b : Column) : b.same c = b.same d :=
    Bool.eq_iff_iff.mpr ⟨fun hb => same_trans hb h, fun hb => same_euclidean hb h⟩
  simp [lookup, he]

lemma lookup_map_self {cs : List Column} {f : Column → α} {c : Column} {a : α} (h : ∃ d ∈ cs, d.same c = true)
    (hf : ∀ d ∈ cs, d.same c = true → f d = a) : lookup cs (cs.map f) c = some a := by
  induction cs with
  | nil => simp at h
  | cons d cs ih =>
    rw [List.map_cons, lookup_cons]
    by_cases hd : d.same c = true
    · rw [if_pos hd, hf d List.mem_cons_self hd]
    · rw [if_neg hd]
      refine ih ?_ fun b hb => hf b (List.mem_cons_of_mem d hb)
      obtain ⟨b, hb, hbc⟩ := h
      rcases List.mem_cons.mp hb with rfl | hb
      · exact absurd hbc hd
      · exact ⟨b, hb, hbc⟩

lemma map_lookup {cs : List Column} {xs : List α} (h : cs.Pairwise fun c d => c.same d = false)
    (hl : xs.length = cs.length) : cs.map (lookup cs xs) = xs.map some := by
  induction cs generalizing xs with
  | nil => simp [List.length_eq_zero_iff.mp hl]
  | cons c cs ih =>
    obtain ⟨x, xs, rfl⟩ := List.exists_cons_of_length_eq_add_one hl
    rw [List.pairwise_cons] at h
    have hc : cs.map (lookup (c :: cs) (x :: xs)) = cs.map (lookup cs xs) :=
      List.map_congr_left fun d hd => by simp [h.1 d hd]
    rw [List.map_cons, hc, ih h.2 (by simpa using hl)]
    simp [same_refl]

end Column

namespace Parameters

structure Valid (reserved : List String) (p : Parameters) : Prop where
  taken : ∀ x, x ∈ p.names.taken ↔ (x ∈ Names.reservedWords ∨ x ∈ reserved) ∨ x ∈ p.params
  free : ∀ x ∈ p.params, x ∉ Names.reservedWords ∧ x ∉ reserved
  nodup : p.params.Nodup
  distinct : p.sources.Pairwise fun c d => c.same d = false

lemma valid_avoiding (reserved : List String) : Valid reserved (avoiding reserved) where
  taken x := by simp [avoiding, params, Names.mem_taken_forIdentifiers]
  free x hx := by simp [avoiding, params] at hx
  nodup := by simp [avoiding, params]
  distinct := by simp [avoiding, sources]

lemma cover_of_some {p : Parameters} {c : Column} {x : String} (h : p.find? c = some x) : p.cover c = p := by
  simp [cover, h]

lemma cover_of_none {p : Parameters} {c : Column} (h : p.find? c = none) :
    p.cover c = ⟨p.entries ++ [(c, p.names.free c.stem)], (p.names.fresh c.stem).2⟩ := by
  simp [cover, h, Names.fresh]

lemma find?_eq_none_iff {p : Parameters} {c : Column} : p.find? c = none ↔ ∀ d ∈ p.sources, d.same c = false := by
  simp [find?, sources]

lemma mem_params_of_find? {p : Parameters} {c : Column} {x : String} (h : p.find? c = some x) : x ∈ p.params := by
  obtain ⟨entry, he, rfl⟩ := Option.map_eq_some_iff.mp h
  exact List.mem_map_of_mem (List.mem_of_find?_eq_some he)

lemma Valid.cover {reserved : List String} {p : Parameters} (h : Valid reserved p) (c : Column) :
    Valid reserved (p.cover c) := by
  cases hc : p.find? c with
  | some x => exact (cover_of_some hc).symm ▸ h
  | none =>
    have hfree := Names.free_not_taken p.names c.stem
    rw [h.taken, not_or, not_or] at hfree
    rw [cover_of_none hc]
    refine ⟨fun x => ?_, fun x hx => ?_, ?_, ?_⟩
    · simp only [Names.mem_taken_fresh, h.taken, params, List.map_append, List.map_singleton, List.mem_append,
        List.mem_singleton]
      tauto
    · simp only [params, List.map_append, List.map_singleton, List.mem_append, List.mem_singleton] at hx
      rcases hx with hx | rfl
      · exact h.free x hx
      · exact hfree.1
    · simpa [params, List.nodup_append] using ⟨h.nodup, fun d x hx hn => hfree.2 (hn ▸ List.mem_map_of_mem hx)⟩
    · have hd := find?_eq_none_iff.mp hc
      simpa [sources, List.pairwise_append] using ⟨h.distinct, fun d x hx => hd d (List.mem_map_of_mem hx)⟩

lemma Valid.coverAll {reserved : List String} {p : Parameters} (h : Valid reserved p) (cs : List Column) :
    Valid reserved (p.coverAll cs) := by
  induction cs generalizing p with
  | nil => exact h
  | cons c cs ih => exact ih (h.cover c)

lemma find?_cover {p : Parameters} {c : Column} {x : String} (h : p.find? c = some x) (d : Column) :
    (p.cover d).find? c = some x := by
  cases hd : p.find? d with
  | some y => rwa [cover_of_some hd]
  | none =>
    obtain ⟨entry, he, rfl⟩ := Option.map_eq_some_iff.mp h
    rw [cover_of_none hd]
    simp [find?, List.find?_append, he]

lemma find?_cover_self (p : Parameters) (c : Column) : ∃ x, (p.cover c).find? c = some x := by
  cases hc : p.find? c with
  | some x => exact ⟨x, by rw [cover_of_some hc, hc]⟩
  | none =>
    have he : p.entries.find? (·.1.same c) = none := by simpa [find?] using hc
    exact ⟨p.names.free c.stem, by simp [cover_of_none hc, find?, List.find?_append, he, Column.same_refl]⟩

lemma find?_coverAll_of_some {p : Parameters} {c : Column} {x : String} (h : p.find? c = some x)
    (cs : List Column) : (p.coverAll cs).find? c = some x := by
  induction cs generalizing p with
  | nil => exact h
  | cons d cs ih => exact ih (find?_cover h d)

lemma find?_coverAll (p : Parameters) {c : Column} {cs : List Column} (h : c ∈ cs) :
    ∃ x, (p.coverAll cs).find? c = some x := by
  induction cs generalizing p with
  | nil => exact absurd h List.not_mem_nil
  | cons d cs ih =>
    rcases List.mem_cons.mp h with rfl | h
    · obtain ⟨x, hx⟩ := find?_cover_self p c
      exact ⟨x, find?_coverAll_of_some hx cs⟩
    · exact ih (p.cover d) h

lemma mem_sources_coverAll {p : Parameters} {c : Column} {cs : List Column} (h : c ∈ (p.coverAll cs).sources) :
    c ∈ p.sources ∨ c ∈ cs := by
  induction cs generalizing p with
  | nil => exact .inl h
  | cons d cs ih =>
    rcases ih h with h | h
    · cases hd : p.find? d with
      | some y =>
        rw [cover_of_some hd] at h
        exact .inl h
      | none =>
        rw [cover_of_none hd] at h
        simp only [sources, List.map_append, List.map_singleton, List.mem_append, List.mem_singleton] at h
        rcases h with h | rfl
        · exact .inl h
        · exact .inr List.mem_cons_self
    · exact .inr (List.mem_cons_of_mem d h)

lemma lookup_of_find? {α : Type} {p : Parameters} {c : Column} {x : String} (h : p.find? c = some x) {vs : List α}
    (hl : vs.length = p.entries.length) :
    ∃ v, Column.lookup p.sources vs c = some v ∧ (x, v) ∈ p.params.zip vs := by
  obtain ⟨entries, names⟩ := p
  simp only [find?, sources, params] at h hl ⊢
  induction entries generalizing vs with
  | nil => simp at h
  | cons entry entries ih =>
    obtain ⟨v, vs, rfl⟩ := List.exists_cons_of_length_eq_add_one hl
    by_cases he : entry.1.same c
    · have hx : entry.2 = x := by simpa [he] using h
      exact ⟨v, by simp [he], by simp [hx]⟩
    · obtain ⟨w, hw, hm⟩ := ih (by simpa [he] using h) (by simpa using hl)
      exact ⟨w, by simpa [he] using hw, by simp [hm]⟩

end Parameters

namespace Expr

def parameters (e : Expr) : Parameters := (Parameters.avoiding e.idents).coverAll e.mentions

lemma abstracted_eq (e : Expr) :
    e.abstracted =
      (e.parameters.sources, ⟨e.parameters.params, e.mapColumns fun c => ident (e.parameters.nameOf c)⟩) :=
  rfl

lemma parameters_valid (e : Expr) : e.parameters.Valid e.idents := (Parameters.valid_avoiding e.idents).coverAll _

lemma find?_parameters {e : Expr} {c : Column} (h : c ∈ e.mentions) :
    e.parameters.find? c = some (e.parameters.nameOf c) := by
  obtain ⟨x, hx⟩ := Parameters.find?_coverAll (Parameters.avoiding e.idents) h
  rw [parameters, Parameters.nameOf, hx, Option.getD_some]

lemma nameOf_mem_params {e : Expr} {c : Column} (h : c ∈ e.mentions) :
    e.parameters.nameOf c ∈ e.parameters.params :=
  Parameters.mem_params_of_find? (find?_parameters h)

lemma mem_mentions_of_source {e : Expr} {c : Column} (h : c ∈ e.parameters.sources) : c ∈ e.mentions :=
  (Parameters.mem_sources_coverAll h).resolve_left List.not_mem_nil

lemma exists_source {e : Expr} {c : Column} (h : c ∈ e.mentions) :
    ∃ d ∈ e.parameters.sources, d.same c = true := by
  by_contra hn
  push Not at hn
  have hc := Parameters.find?_eq_none_iff.mpr fun d hd => Bool.eq_false_iff.mpr (hn d hd)
  rw [find?_parameters h] at hc
  cases hc

lemma instantiate_abstracted (e : Expr) {cs : List Column} (hl : cs.length = e.abstracted.1.length) :
    e.abstracted.2.instantiate cs = e.recolumn fun c => (Column.lookup e.abstracted.1 cs c).getD c := by
  rw [abstracted_eq] at hl ⊢
  have hp : cs.length = e.parameters.entries.length := by simpa [Parameters.sources] using hl
  have hz : (e.parameters.params.zip cs).map (·.1) = e.parameters.params :=
    List.map_fst_zip (by simp [Parameters.params, hp])
  have hn : ((e.parameters.params.zip cs).map (·.1)).Nodup := by
    rw [hz]
    exact e.parameters_valid.nodup
  refine putColumns_mapColumns _ (fun x hx => ?_) fun c hc => ?_
  · -- an identifier of the expression is no parameter
    apply lookup_reverse_eq_none
    rw [hz]
    exact fun hx' => (e.parameters_valid.free x hx').2 hx
  · obtain ⟨d, hd, hm⟩ := Parameters.lookup_of_find? (find?_parameters hc) hp
    simp only [hd, Option.getD_some]
    exact lookup_reverse_of_mem hn hm

end Expr

end Tabular
