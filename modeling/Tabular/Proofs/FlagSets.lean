import Tabular.Proofs.CollectionLines

/-!
Flags as sets of characters. Taking flags off succeeds exactly if their characters are known and ask for one mode
only, and what the flags say depends on nothing but the characters that occur.
-/

namespace Tabular

namespace Expr

def outerFlags : Expr → List String
  | flagged text inner => text :: inner.outerFlags
  | _ => []

def outerChars (e : Expr) : List Char := e.outerFlags.flatMap String.toList

def target? : Expr → Option Expr
  | assign sink _ => some sink
  | _ => none

def assigned : Expr → Expr
  | assign _ value => value
  | e => e

def flagTexts (e : Expr) : List String := e.outerFlags ++ e.unflagged.assigned.outerFlags

def flagChars (e : Expr) : List Char := e.flagTexts.flatMap String.toList

lemma flagChars_eq (e : Expr) : e.flagChars = e.outerChars ++ e.unflagged.assigned.outerChars :=
  List.flatMap_append

lemma outerFlags_unflagged (e : Expr) : e.unflagged.outerFlags = [] := by
  induction e with
  | flagged text inner ih => exact ih
  | _ => rfl

lemma unflagged_eq_self {e : Expr} (h : e.outerFlags = []) : e.unflagged = e := by
  cases e with
  | flagged => cases h
  | _ => rfl

lemma flatMap_toList_eq_nil {texts : List String} (h : ∀ text ∈ texts, text ≠ "") :
    texts.flatMap String.toList = [] ↔ texts = [] := by
  constructor
  · intro hc
    refine List.eq_nil_iff_forall_not_mem.mpr fun text ht => h text ht ?_
    exact String.toList_eq_nil_iff.mp (List.flatMap_eq_nil_iff.mp hc text ht)
  · rintro rfl
    rfl

lemma outerChars_eq_nil {e : Expr} (h : ∀ text ∈ e.outerFlags, text ≠ "") :
    e.outerChars = [] ↔ e.outerFlags = [] :=
  flatMap_toList_eq_nil h

end Expr

namespace Flags

/-- What flag characters say together; of the modes, only one is asked for where they are consistent. -/
def ofChars (cs : List Char) : Flags where
  mode := if 'r' ∈ cs then some .rowWise else if 'c' ∈ cs then some .columnWise else none
  passMissing := 'm' ∈ cs
  table := 't' ∈ cs
  spelled := String.ofList cs

def Consistent (cs : List Char) : Prop := (∀ c ∈ cs, c ∈ ['r', 'c', 'm', 't']) ∧ ¬ ('r' ∈ cs ∧ 'c' ∈ cs)

variable {cs ds : List Char}

lemma Consistent.mono (h : Consistent cs) (hs : ds ⊆ cs) : Consistent ds :=
  ⟨fun c hc => h.1 c (hs hc), fun hd => h.2 ⟨hs hd.1, hs hd.2⟩⟩

lemma consistent_nil : Consistent [] := by simp [Consistent]

lemma isEmpty_ofChars : (ofChars cs).isEmpty = true ↔ cs = [] := by simp [ofChars, isEmpty]

lemma consistent_snoc (h : Consistent cs) (c : Char) : Consistent (cs ++ [c]) ↔
    c ∈ ['r', 'c', 'm', 't'] ∧ (c = 'r' → 'c' ∉ cs) ∧ (c = 'c' → 'r' ∉ cs) := by
  obtain ⟨hk, hb⟩ := h
  rw [Consistent, List.forall_mem_append, List.forall_mem_singleton, List.mem_append, List.mem_append,
    List.mem_singleton, List.mem_singleton]
  constructor
  · rintro ⟨⟨-, hc⟩, hn⟩
    exact ⟨hc, fun he hm => hn ⟨.inr he.symm, .inl hm⟩, fun he hm => hn ⟨.inl hm, .inr he.symm⟩⟩
  · rintro ⟨hc, hr, hcol⟩
    refine ⟨⟨hk, hc⟩, ?_⟩
    rintro ⟨h₁ | rfl, h₂ | h₂⟩
    · exact hb ⟨h₁, h₂⟩
    · exact hcol h₂.symm h₁
    · exact hr rfl h₂
    · exact absurd h₂ (by decide)

def letter : Mode → Char
  | .rowWise => 'r'
  | .columnWise => 'c'

lemma mode_ofChars_free (h : Consistent cs) (m : Mode) :
    ((ofChars cs).mode = none ∨ (ofChars cs).mode = some m) ↔ Consistent (cs ++ [letter m]) := by
  have hb := h.2
  rw [consistent_snoc h]
  by_cases hr : 'r' ∈ cs <;> by_cases hc : 'c' ∈ cs <;> cases m <;> simp_all [ofChars, letter]

lemma gives_choose (h : Consistent cs) (spelled : String) (m : Mode) :
    Gives (outcome (({ ofChars cs with spelled } : Flags).choose m)) (Consistent (cs ++ [letter m]))
      { ofChars (cs ++ [letter m]) with spelled } := by
  have hm := mode_ofChars_free h m
  rw [choose]
  split
  next hf =>
    have hc := (consistent_snoc h _).mp (hm.mp hf)
    have he : ({ ofChars cs with spelled, mode := some m } : Flags) =
        { ofChars (cs ++ [letter m]) with spelled } := by
      cases m <;> simp_all [ofChars, letter]
    exact he ▸ (Gives.ok Fault _).congr (iff_of_true trivial (hm.mp hf))
  next hf => exact (Gives.error _ _).congr (iff_of_false not_false fun hc => hf (hm.mpr hc))

lemma gives_set (h : Consistent cs) (text spelled : String) (c : Char) :
    Gives (outcome (({ ofChars cs with spelled } : Flags).set text c)) (Consistent (cs ++ [c]))
      { ofChars (cs ++ [c]) with spelled } := by
  fun_cases set text _ c with
  | case1 => exact gives_choose h spelled .rowWise
  | case2 => exact gives_choose h spelled .columnWise
  | case3 =>
    have he : ({ ofChars cs with spelled, passMissing := true } : Flags) =
        { ofChars (cs ++ ['m']) with spelled } := by
      simp [ofChars]
    exact he ▸ (Gives.ok Fault _).congr (iff_of_true trivial ((consistent_snoc h 'm').mpr (by simp)))
  | case4 =>
    have he : ({ ofChars cs with spelled, table := true } : Flags) = { ofChars (cs ++ ['t']) with spelled } := by
      simp [ofChars]
    exact he ▸ (Gives.ok Fault _).congr (iff_of_true trivial ((consistent_snoc h 't').mpr (by simp)))
  | case5 hr hc hm ht =>
    refine (Gives.error _ _).congr (iff_of_false not_false fun hk => ?_)
    have hc := ((consistent_snoc h c).mp hk).1
    simp_all

lemma gives_setAll (h : Consistent cs) (text spelled : String) (ds : List Char) :
    Gives (outcome (({ ofChars cs with spelled } : Flags).setAll text ds)) (Consistent (cs ++ ds))
      { ofChars (cs ++ ds) with spelled } := by
  induction ds generalizing cs with
  | nil =>
    rw [List.append_nil]
    exact (Gives.ok Fault _).congr (iff_of_true trivial h)
  | cons d ds ih =>
    rw [outcome_setAll, List.append_cons]
    refine ((gives_set h text spelled d).bind ih).congr (and_iff_right_of_imp fun hk => ?_)
    exact hk.mono (List.subset_append_left _ _)

lemma gives_add (h : Consistent cs) (text : String) :
    Gives (outcome ((ofChars cs).add text)) (text ≠ "" ∧ Consistent (cs ++ text.toList))
      (ofChars (cs ++ text.toList)) := by
  rw [add]
  split
  next he => exact (Gives.error _ _).congr (by simp_all)
  next he =>
    have hs : (ofChars cs).spelled ++ text = (ofChars (cs ++ text.toList)).spelled := by simp [ofChars]
    rw [hs]
    exact (gives_setAll h text _ text.toList).congr (by simp_all)

lemma gives_stripped_bare (h : Consistent cs) {e : Expr} (he : e.outerFlags = []) : Gives ((ofChars cs).stripped e)
    ((∀ text ∈ e.outerFlags, text ≠ "") ∧ Consistent (cs ++ e.outerChars))
    (ofChars (cs ++ e.outerChars), e.unflagged) := by
  have hs : (ofChars cs).stripped e = .ok (ofChars cs, e) := by
    cases e with
    | flagged => cases he
    | _ => rfl
  rw [hs, Expr.outerChars, he, List.flatMap_nil, List.append_nil, Expr.unflagged_eq_self he]
  exact (Gives.ok Fault _).congr (iff_of_true trivial ⟨fun _ ht => absurd ht List.not_mem_nil, h⟩)

lemma gives_stripped (h : Consistent cs) (e : Expr) : Gives ((ofChars cs).stripped e)
    ((∀ text ∈ e.outerFlags, text ≠ "") ∧ Consistent (cs ++ e.outerChars))
    (ofChars (cs ++ e.outerChars), e.unflagged) := by
  induction e generalizing cs with
  | flagged text e ih =>
    have hc : cs ++ (Expr.flagged text e).outerChars = cs ++ text.toList ++ e.outerChars :=
      (List.append_assoc _ _ _).symm
    rw [stripped_flagged, hc]
    refine ((gives_add h text).bind fun hk => ih hk.2).congr ?_
    rw [Expr.outerFlags, List.forall_mem_cons]
    constructor
    · rintro ⟨⟨ht, -⟩, hts, hk⟩
      exact ⟨⟨ht, hts⟩, hk⟩
    · rintro ⟨⟨ht, hts⟩, hk⟩
      exact ⟨⟨ht, hk.mono (List.subset_append_left _ _)⟩, hts, hk⟩
  | _ => exact gives_stripped_bare h rfl

lemma gives_joined (h : Consistent cs) (ds : List Char) :
    Gives ((ofChars cs).joined (String.ofList ds)) (Consistent (cs ++ ds)) (ofChars (cs ++ ds)) := by
  rw [joined_eq]
  split
  next he =>
    have hd : ds = [] := by simpa using he
    rw [hd, List.append_nil]
    exact (Gives.ok Fault _).congr (iff_of_true trivial h)
  next he =>
    have ha := gives_add h (String.ofList ds)
    rw [String.toList_ofList] at ha
    exact ha.congr (and_iff_right fun hd => he (by simp [hd]))

end Flags

namespace Argument

def bare (e : Expr) : Option Expr × Expr := (e.unflagged.target?, e.unflagged.assigned.unflagged)

def flagsOf (e : Expr) : Except Fault Flags := do
  let (flags, inner) ← Flags.stripped {} e
  return (← flags.stripped inner.assigned).1

def hasForm : Option Expr × Expr → Bool
  | (some (.flagged _ _), _) | (none, .keyword _ _) | (none, .pair _ _) => false
  | _ => true

def FlagsFit (e : Expr) : Prop := (∀ text ∈ e.flagTexts, text ≠ "") ∧ Flags.Consistent e.flagChars

lemma gives_stripped_whole (e : Expr) : Gives (Flags.stripped {} e)
    ((∀ text ∈ e.outerFlags, text ≠ "") ∧ Flags.Consistent e.outerChars) (.ofChars e.outerChars, e.unflagged) :=
  Flags.gives_stripped Flags.consistent_nil e

lemma gives_stripped_value {e : Expr} (h : Flags.Consistent e.outerChars) :
    Gives ((Flags.ofChars e.outerChars).stripped e.unflagged.assigned)
      ((∀ text ∈ e.unflagged.assigned.outerFlags, text ≠ "") ∧ Flags.Consistent e.flagChars)
      (.ofChars e.flagChars, (bare e).2) := by
  rw [Expr.flagChars_eq]
  exact Flags.gives_stripped h e.unflagged.assigned

lemma flagsFit_iff (e : Expr) : FlagsFit e ↔
    ((∀ text ∈ e.outerFlags, text ≠ "") ∧ Flags.Consistent e.outerChars) ∧
      (∀ text ∈ e.unflagged.assigned.outerFlags, text ≠ "") ∧ Flags.Consistent e.flagChars := by
  rw [FlagsFit, Expr.flagTexts, List.forall_mem_append]
  constructor
  · rintro ⟨⟨ht, hv⟩, hk⟩
    exact ⟨⟨ht, hk.mono (e.flagChars_eq ▸ List.subset_append_left _ _)⟩, hv, hk⟩
  · rintro ⟨⟨ht, -⟩, hv, hk⟩
    exact ⟨⟨ht, hv⟩, hk⟩

lemma gives_flagsOf (e : Expr) : Gives (flagsOf e) (FlagsFit e) (.ofChars e.flagChars) :=
  ((gives_stripped_whole e).bind fun h => (gives_stripped_value h.2).map Prod.fst).congr (flagsFit_iff e).symm

lemma gives_sides (e : Expr) : Gives (sides e.unflagged) (e.unflagged.target? = none → hasForm (bare e) = true)
    (e.unflagged.target?, e.unflagged.assigned) := by
  have hf := e.outerFlags_unflagged
  rw [bare]
  cases h : e.unflagged with
  | keyword | pair =>
      exact (Gives.error _ _).congr (by simp [Expr.target?, Expr.assigned, Expr.unflagged, hasForm])
  | flagged =>
    rw [h] at hf
    cases hf
  | _ => exact (Gives.ok Fault _).congr (by simp [Expr.target?, Expr.assigned, Expr.unflagged, hasForm])

lemma gives_sink (a : Argument) : Gives (match a.sink with
    | some (.flagged text inner) =>
      Except.error (Fault.malformed (Expr.flagged text inner).render "flags cannot wrap an output column")
    | _ => return a) (a.sink ≠ none → hasForm (a.sink, a.value) = true) a := by
  obtain ⟨flags, sink, value⟩ := a
  cases sink with
  | none => exact (Gives.ok Fault _).congr (by simp)
  | some sink =>
    cases sink with
    | flagged => exact (Gives.error _ _).congr (by simp [hasForm])
    | _ => exact (Gives.ok Fault _).congr (by simp [hasForm])

lemma gives_ofExpr (e : Expr) : Gives (ofExpr e) (FlagsFit e ∧ hasForm (bare e) = true)
    ⟨.ofChars e.flagChars, (bare e).1, (bare e).2⟩ := by
  have hform := (Classical.imp_and_neg_imp_iff (q := hasForm (bare e) = true) (e.unflagged.target? = none)).symm
  rw [flagsFit_iff, hform]
  refine Gives.congr (P := _ ∧ _ ∧ _ ∧ _)
    (Gives.bind (gives_stripped_whole e) fun h => Gives.bind (gives_sides e) fun _ =>
      Gives.bind (gives_stripped_value h.2) fun _ => gives_sink ⟨.ofChars e.flagChars, (bare e).1, (bare e).2⟩) ?_
  tauto

end Argument

end Tabular
