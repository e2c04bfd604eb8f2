import Mathlib.Data.List.Basic
import Tabular.Proofs.Nodes

namespace Tabular.Expr

@[simp] lemma mapColumnsItems_eq (f : Column → Expr) (es : List Expr) :
    mapColumnsItems f es = es.map (mapColumns f) := by
  induction es with
  | nil => rfl
  | cons e es ih => exact congrArg (List.cons _) ih

@[simp] lemma mapColumnsFields_eq (f : Column → Expr) (fs : List (String × Expr)) :
    mapColumnsFields f fs = fs.map fun field => (field.1, field.2.mapColumns f) := by
  induction fs with
  | nil => rfl
  | cons field fs ih => exact congrArg (List.cons _) ih

@[simp] lemma putColumnsItems_eq (bind : String → Option Column) (es : List Expr) :
    putColumnsItems bind es = es.map (putColumns bind) := by
  induction es with
  | nil => rfl
  | cons e es ih => exact congrArg (List.cons _) ih

@[simp] lemma putColumnsFields_eq (bind : String → Option Column) (fs : List (String × Expr)) :
    putColumnsFields bind fs = fs.map fun field => (field.1, field.2.putColumns bind) := by
  induction fs with
  | nil => rfl
  | cons field fs ih => exact congrArg (List.cons _) ih

lemma mapColumns_congr {f g : Column → Expr} {e : Expr} (h : ∀ c ∈ e.mentions, f c = g c) :
    e.mapColumns f = e.mapColumns g := by
  induction e <;> simp [mentions, mapColumns] at h ⊢ <;> grind

lemma mapColumns_column (e : Expr) : e.mapColumns column = e := by
  induction e with
  | literal | ident | quote | column => rfl
  | interp _ ih | keyword _ _ ih | field _ _ ih | flagged _ _ ih | lambda _ _ ih => simp only [mapColumns, ih]
  | assign _ _ hl hr | pair _ _ hl hr => simp only [mapColumns, hl, hr]
  | call _ _ hf hes | index _ _ hf hes => simp [mapColumns, hf, List.map_congr_left hes]
  | block _ hes | tuple _ hes | vector _ hes => simp [mapColumns, List.map_congr_left hes]
  | namedTuple fs hfs =>
    have hm : fs.map (fun field => (field.1, field.2.mapColumns column)) = fs.map id :=
      List.map_congr_left fun field hf => Prod.ext rfl (hfs field hf)
    simp [mapColumns, hm]

variable (σ : Column → Column)

def recolumn (e : Expr) : Expr := e.mapColumns fun c => column (σ c)

lemma mentions_recolumn (e : Expr) : (e.recolumn σ).mentions = e.mentions.map σ := by
  unfold recolumn
  induction e with
  | literal | ident | quote | column => rfl
  | interp _ ih | keyword _ _ ih | field _ _ ih | flagged _ _ ih | lambda _ _ ih =>
      simp only [mapColumns, mentions, ih]
  | assign _ _ hl hr | pair _ _ hl hr => simp only [mapColumns, mentions, hl, hr, List.map_append]
  | call _ _ hf hes | index _ _ hf hes =>
    simp [mapColumns, mentions, hf, List.flatMap_map, List.map_flatMap, List.flatMap_congr hes]
  | block _ hes | tuple _ hes | vector _ hes =>
    simp [mapColumns, mentions, List.flatMap_map, List.map_flatMap, List.flatMap_congr hes]
  | namedTuple _ hfs => simp [mapColumns, mentions, List.flatMap_map, List.map_flatMap, List.flatMap_congr hfs]

lemma recolumn_eq_iff {τ : Column → Column} {e : Expr} :
    e.recolumn σ = e.recolumn τ ↔ ∀ c ∈ e.mentions, σ c = τ c := by
  constructor
  · intro h
    have hm := congrArg mentions h
    rw [mentions_recolumn, mentions_recolumn] at hm
    exact List.map_inj_left.mp hm
  · intro h
    exact mapColumns_congr fun c hc => congrArg column (h c hc)

lemma nodes_mapColumns {f : Column → Expr} (hf : ∀ c, (f c).nodes = [f c]) (e : Expr) :
    (e.mapColumns f).nodes = e.nodes.map (mapColumns f) := by
  induction e with
  | literal | ident | quote => rfl
  | column c => exact hf c
  | interp _ ih | keyword _ _ ih | field _ _ ih | flagged _ _ ih | lambda _ _ ih => simp [mapColumns, nodes, ih]
  | assign _ _ hl hr | pair _ _ hl hr => simp [mapColumns, nodes, hl, hr]
  | call _ _ hg hes | index _ _ hg hes =>
    simp [mapColumns, nodes, hg, List.flatMap_map, List.map_flatMap, List.flatMap_congr hes]
  | block _ hes | tuple _ hes | vector _ hes =>
    simp [mapColumns, nodes, List.flatMap_map, List.map_flatMap, List.flatMap_congr hes]
  | namedTuple _ hfs => simp [mapColumns, nodes, List.flatMap_map, List.map_flatMap, List.flatMap_congr hfs]

lemma shadowed_eq {bind : String → Option Column} {xs : List String} (h : ∀ x ∈ xs, bind x = none) :
    (fun x => if xs.contains x then none else bind x) = bind := by
  funext x
  by_cases hx : x ∈ xs
  · simp [hx, h x hx]
  · simp [hx]

lemma putColumns_mapColumns {bind : String → Option Column} {name : Column → String} {e : Expr}
    (hi : ∀ x ∈ e.idents, bind x = none) (hm : ∀ c ∈ e.mentions, bind (name c) = some (σ c)) :
    (e.mapColumns fun c => ident (name c)).putColumns bind = e.recolumn σ := by
  unfold recolumn
  induction e with
  | literal | quote => rfl
  | ident x => simp [mapColumns, putColumns, hi x (by simp [idents])]
  | column c => simp [mapColumns, putColumns, hm c (by simp [mentions])]
  | interp _ ih | keyword _ _ ih | field _ _ ih | flagged _ _ ih => simp only [mapColumns, putColumns, ih hi hm]
  | lambda xs e ih =>
    simp only [idents, List.mem_append] at hi
    simp only [mapColumns, putColumns, shadowed_eq fun x hx => hi x (.inl hx), ih (fun x hx => hi x (.inr hx)) hm]
  | assign l r hl hr | pair l r hl hr =>
    simp only [idents, mentions, List.mem_append] at hi hm
    simp only [mapColumns, putColumns, hl (fun x hx => hi x (.inl hx)) fun c hc => hm c (.inl hc),
      hr (fun x hx => hi x (.inr hx)) fun c hc => hm c (.inr hc)]
  | call g es hg hes | index g es hg hes =>
    simp only [idents, mentions, identsOf_eq, mentionsOf_eq, List.mem_append, List.mem_flatMap] at hi hm
    simp only [mapColumns, putColumns, mapColumnsItems_eq, putColumnsItems_eq, List.map_map,
      hg (fun x hx => hi x (.inl hx)) fun c hc => hm c (.inl hc)]
    congr 1
    exact List.map_congr_left fun e he =>
      hes e he (fun x hx => hi x (.inr ⟨e, he, hx⟩)) fun c hc => hm c (.inr ⟨e, he, hc⟩)
  | block es hes | tuple es hes | vector es hes =>
    simp only [idents, mentions, identsOf_eq, mentionsOf_eq, List.mem_flatMap] at hi hm
    simp only [mapColumns, putColumns, mapColumnsItems_eq, putColumnsItems_eq, List.map_map]
    congr 1
    exact List.map_congr_left fun e he => hes e he (fun x hx => hi x ⟨e, he, hx⟩) fun c hc => hm c ⟨e, he, hc⟩
  | namedTuple fs hfs =>
    simp only [idents, mentions, identsOfFields_eq, mentionsOfFields_eq, List.mem_flatMap] at hi hm
    simp only [mapColumns, putColumns, mapColumnsFields_eq, putColumnsFields_eq, List.map_map]
    congr 1
    exact List.map_congr_left fun f hf =>
      Prod.ext rfl (hfs f hf (fun x hx => hi x ⟨f, hf, hx⟩) fun c hc => hm c ⟨f, hf, hc⟩)

end Tabular.Expr
