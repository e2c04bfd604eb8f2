import Mathlib.Tactic.Lemma
import Tabular.Closure

namespace Tabular.Expr

@[induction_eliminator]
theorem induction {P : Expr → Prop} (literal : ∀ v, P (literal v)) (ident : ∀ x, P (ident x))
    (quote : ∀ x, P (quote x)) (interp : ∀ e, P e → P (interp e)) (column : ∀ c, P (column c))
    (call : ∀ f es, P f → (∀ e ∈ es, P e) → P (call f es)) (keyword : ∀ x e, P e → P (keyword x e))
    (index : ∀ t es, P t → (∀ e ∈ es, P e) → P (index t es)) (field : ∀ e x, P e → P (field e x))
    (assign : ∀ s e, P s → P e → P (assign s e)) (flagged : ∀ x e, P e → P (flagged x e))
    (block : ∀ es, (∀ e ∈ es, P e) → P (block es)) (tuple : ∀ es, (∀ e ∈ es, P e) → P (tuple es))
    (namedTuple : ∀ fs, (∀ f ∈ fs, P f.2) → P (namedTuple fs)) (vector : ∀ es, (∀ e ∈ es, P e) → P (vector es))
    (lambda : ∀ xs e, P e → P (lambda xs e)) (pair : ∀ l r, P l → P r → P (pair l r)) (e : Expr) : P e := by
  refine @Expr.rec (fun _ => True) P (fun es => ∀ e ∈ es, P e) (fun fs => ∀ f ∈ fs, P f.2) (fun f => P f.2)
    (fun _ => trivial) (fun _ => trivial) (fun _ => trivial) (fun _ _ => trivial) literal ident quote interp
    (fun c _ => column c) call keyword index field assign flagged block tuple namedTuple vector lambda pair
    ?_ ?_ ?_ ?_ ?_ e
  · exact fun _ h => absurd h List.not_mem_nil
  · intro e es he hes
    exact List.forall_mem_cons.mpr ⟨he, hes⟩
  · exact fun _ h => absurd h List.not_mem_nil
  · intro f fs hf hfs
    exact List.forall_mem_cons.mpr ⟨hf, hfs⟩
  · exact fun _ _ he => he

mutual

def nodes : Expr → List Expr
  | literal v => [literal v]
  | ident x => [ident x]
  | quote x => [quote x]
  | interp e => interp e :: nodes e
  | column c => [column c]
  | call f es => call f es :: (nodes f ++ nodesOf es)
  | keyword x e => keyword x e :: nodes e
  | index t es => index t es :: (nodes t ++ nodesOf es)
  | field e x => field e x :: nodes e
  | assign s e => assign s e :: (nodes s ++ nodes e)
  | flagged x e => flagged x e :: nodes e
  | block es => block es :: nodesOf es
  | tuple es => tuple es :: nodesOf es
  | namedTuple fs => namedTuple fs :: nodesOfFields fs
  | vector es => vector es :: nodesOf es
  | lambda xs e => lambda xs e :: nodes e
  | pair l r => pair l r :: (nodes l ++ nodes r)

def nodesOf : List Expr → List Expr
  | [] => []
  | e :: es => nodes e ++ nodesOf es

def nodesOfFields : List (String × Expr) → List Expr
  | [] => []
  | (_, e) :: fs => nodes e ++ nodesOfFields fs

end

@[simp] lemma nodesOf_eq (es : List Expr) : nodesOf es = es.flatMap nodes := by
  induction es with
  | nil => rfl
  | cons e es ih => exact congrArg (e.nodes ++ ·) ih

@[simp] lemma nodesOfFields_eq (fs : List (String × Expr)) : nodesOfFields fs = fs.flatMap (·.2.nodes) := by
  induction fs with
  | nil => rfl
  | cons f fs ih => exact congrArg (f.2.nodes ++ ·) ih

@[simp] lemma identsOf_eq (es : List Expr) : identsOf es = es.flatMap idents := by
  induction es with
  | nil => rfl
  | cons e es ih => exact congrArg (e.idents ++ ·) ih

@[simp] lemma identsOfFields_eq (fs : List (String × Expr)) : identsOfFields fs = fs.flatMap (·.2.idents) := by
  induction fs with
  | nil => rfl
  | cons f fs ih => exact congrArg (f.2.idents ++ ·) ih

@[simp] lemma mentionsOf_eq (es : List Expr) : mentionsOf es = es.flatMap mentions := by
  induction es with
  | nil => rfl
  | cons e es ih => exact congrArg (e.mentions ++ ·) ih

@[simp] lemma mentionsOfFields_eq (fs : List (String × Expr)) :
    mentionsOfFields fs = fs.flatMap (·.2.mentions) := by
  induction fs with
  | nil => rfl
  | cons f fs ih => exact congrArg (f.2.mentions ++ ·) ih

@[simp] lemma self_mem_nodes (e : Expr) : e ∈ e.nodes := by cases e <;> exact List.mem_cons_self

lemma nodes_subset {n e : Expr} (h : n ∈ e.nodes) : n.nodes ⊆ e.nodes := by
  induction e <;> simp only [nodes, nodesOf_eq, nodesOfFields_eq, List.mem_cons, List.mem_append, List.mem_flatMap,
    List.not_mem_nil, or_false] at h <;> grind [nodes, nodesOf_eq, nodesOfFields_eq]

lemma mem_idents_of_ident {x : String} {e : Expr} (h : ident x ∈ e.nodes) : x ∈ e.idents := by
  induction e <;> simp [nodes, idents] at h ⊢ <;> grind

lemma mem_idents_of_lambda {xs : List String} {b e : Expr} (h : lambda xs b ∈ e.nodes) :
    ∀ x ∈ xs, x ∈ e.idents := by
  induction e <;> simp [nodes, idents] at h ⊢ <;> grind

lemma mem_mentions_iff {c : Column} {e : Expr} : c ∈ e.mentions ↔ column c ∈ e.nodes := by
  induction e <;> simp [nodes, mentions] <;> grind

def All (P : Expr → Prop) (e : Expr) : Prop := ∀ n ∈ e.nodes, P n

section All

variable {P : Expr → Prop} {e f : Expr} {es : List Expr} {fs : List (String × Expr)} {x : String}
  {xs : List String}

lemma All.self (h : e.All P) : P e := h e (self_mem_nodes e)

lemma forall_nodesOf : (∀ n ∈ nodesOf es, P n) ↔ ∀ e ∈ es, e.All P := by
  rw [nodesOf_eq, List.forall_mem_flatMap]
  rfl

lemma forall_nodesOfFields : (∀ n ∈ nodesOfFields fs, P n) ↔ ∀ f ∈ fs, f.2.All P := by
  rw [nodesOfFields_eq, List.forall_mem_flatMap]
  rfl

lemma all_cons {n : Expr} {ns : List Expr} {Q : Prop} (h : e.nodes = n :: ns) (hq : (∀ n ∈ ns, P n) ↔ Q) :
    e.All P ↔ P n ∧ Q := by
  rw [All, h, List.forall_mem_cons, hq]

lemma all_interp : (interp e).All P ↔ P (interp e) ∧ e.All P := all_cons rfl Iff.rfl

lemma all_keyword : (keyword x e).All P ↔ P (keyword x e) ∧ e.All P := all_cons rfl Iff.rfl

lemma all_field : (field e x).All P ↔ P (field e x) ∧ e.All P := all_cons rfl Iff.rfl

lemma all_flagged : (flagged x e).All P ↔ P (flagged x e) ∧ e.All P := all_cons rfl Iff.rfl

lemma all_lambda : (lambda xs e).All P ↔ P (lambda xs e) ∧ e.All P := all_cons rfl Iff.rfl

lemma all_block : (block es).All P ↔ P (block es) ∧ ∀ e ∈ es, e.All P := all_cons rfl forall_nodesOf

lemma all_tuple : (tuple es).All P ↔ P (tuple es) ∧ ∀ e ∈ es, e.All P := all_cons rfl forall_nodesOf

lemma all_vector : (vector es).All P ↔ P (vector es) ∧ ∀ e ∈ es, e.All P := all_cons rfl forall_nodesOf

lemma all_namedTuple : (namedTuple fs).All P ↔ P (namedTuple fs) ∧ ∀ f ∈ fs, f.2.All P :=
  all_cons rfl forall_nodesOfFields

lemma all_assign : (assign e f).All P ↔ P (assign e f) ∧ e.All P ∧ f.All P := all_cons rfl List.forall_mem_append

lemma all_pair : (pair e f).All P ↔ P (pair e f) ∧ e.All P ∧ f.All P := all_cons rfl List.forall_mem_append

lemma all_call : (call f es).All P ↔ P (call f es) ∧ f.All P ∧ ∀ e ∈ es, e.All P :=
  all_cons rfl (List.forall_mem_append.trans (and_congr_right' forall_nodesOf))

lemma all_index : (index f es).All P ↔ P (index f es) ∧ f.All P ∧ ∀ e ∈ es, e.All P :=
  all_cons rfl (List.forall_mem_append.trans (and_congr_right' forall_nodesOf))

end All

end Tabular.Expr
