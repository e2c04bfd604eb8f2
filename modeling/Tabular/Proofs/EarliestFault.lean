import Mathlib.Order.Bounds.Basic
import Tabular.Proofs.CollectionBody
import Tabular.Proofs.LineByLine
import Tabular.Proofs.References

/-!
The argument that an expansion fails at. All lines are read before the fields of any table collection are
merged into one transformation, so a collection of fields with different modes is noticed only where every
line can be read.
-/

namespace Tabular

section failures

variable {ε α β : Type} {P : ε → Prop}

def FailsOnly (P : ε → Prop) (x : Except ε α) : Prop := ∀ e, x = .error e → P e

namespace FailsOnly

lemma ok (a : α) : FailsOnly P (.ok a : Except ε α) := fun _ h => nomatch h

lemma error {e : ε} (h : P e) : FailsOnly P (.error e : Except ε α) := by
  rintro _ ⟨⟩
  exact h

lemma bind {x : Except ε α} {f : α → Except ε β} (hx : FailsOnly P x) (hf : ∀ a, x = .ok a → FailsOnly P (f a)) :
    FailsOnly P (x >>= f) := by
  intro e h
  rcases bind_eq_error.mp h with h | ⟨a, ha, h⟩
  · exact hx e h
  · exact hf a ha e h

lemma map {x : Except ε α} (hx : FailsOnly P x) (k : α → β) : FailsOnly P (do return k (← x)) :=
  hx.bind fun a _ => ok (k a)

lemma map₂ {γ : Type} {x : Except ε α} {y : Except ε β} (hx : FailsOnly P x) (hy : FailsOnly P y) (k : α → β → γ) :
    FailsOnly P (do return k (← x) (← y)) :=
  hx.bind fun a _ => hy.map (k a)

lemma mapM {f : α → Except ε β} {l : List α} (h : ∀ a ∈ l, FailsOnly P (f a)) : FailsOnly P (l.mapM f) := by
  intro e he
  obtain ⟨a, ha, hfa⟩ := exists_of_mapM_eq_error he
  exact h a ha e hfa

end FailsOnly

lemma mapM_bind_of_forall₂ {γ : Type} {f : α → Except ε β} {g : β → Except ε γ} {as : List α} {bs : List β}
    (h : List.Forall₂ (fun a b => f a = .ok b) as bs) : (as.mapM fun a => f a >>= g) = bs.mapM g := by
  induction h with
  | nil => rfl
  | cons ha _ ih =>
    rw [List.mapM_cons, List.mapM_cons, ih, ha]
    rfl

lemma errorOf?_mapM_eq_findSome? (f : α → Except ε β) (l : List α) :
    errorOf? (l.mapM f) = l.findSome? fun a => errorOf? (f a) := by
  have h : errorOf? (l.mapM f) = (l.flatMap fun a => [a]).findSome? fun a => errorOf? (f a) :=
    errorOf?_mapM fun a _ => by rw [List.findSome?_singleton]
  rwa [List.flatMap_singleton'] at h

lemma findSome?_flatMap (l : List α) (parts : α → List β) {γ : Type} (g : β → Option γ) :
    (l.flatMap parts).findSome? g = l.findSome? fun a => (parts a).findSome? g := by
  induction l with
  | nil => rfl
  | cons a l ih =>
    rw [List.flatMap_cons, List.findSome?_append, ih, List.findSome?_cons]
    cases (parts a).findSome? g <;> rfl

lemma isLeast_of_findSome? {l : List α} {k : Nat} {g : α × Nat → Option β} {b : β}
    (h : (l.zipIdx k).findSome? g = some b) :
    ∃ a n, (a, n) ∈ l.zipIdx k ∧ g (a, n) = some b ∧
    IsLeast {m | ∃ a', (a', m) ∈ l.zipIdx k ∧ g (a', m) ≠ none} n := by
  obtain ⟨before, ⟨a, n⟩, after, hl, hb, hbefore⟩ := List.findSome?_eq_some_iff.mp h
  have hmem : (a, n) ∈ l.zipIdx k := by
    rw [hl]
    exact List.mem_append_right before List.mem_cons_self
  refine ⟨a, n, hmem, hb, ⟨a, hmem, by simp [hb]⟩, ?_⟩
  rintro m ⟨a', ha', hg⟩
  rw [hl, List.mem_append] at ha'
  rcases ha' with ha' | ha'
  · exact absurd (hbefore _ ha') hg
  · obtain ⟨w, z, -, -, hz⟩ := List.zipIdx_eq_append_iff.mp hl
    rw [hz] at ha'
    have hn : n = k + w.length := by
      cases z with
      | nil => cases hz
      | cons => exact congrArg (·.2) (List.cons.inj hz).1
    rw [hn]
    exact (List.mem_zipIdx ha').1

end failures

def Fault.IsMixed : Fault → Prop
  | mixedModes _ _ => True
  | _ => False

abbrev Unmixed {α : Type} (x : Except Fault α) : Prop := FailsOnly (fun fault => ¬ fault.IsMixed) x

namespace Flags

lemma unmixed_choose (f : Flags) (m : Mode) : Unmixed (outcome (f.choose m)) := by
  rw [choose]
  split
  · exact .ok _
  · exact .error id

lemma unmixed_set (text : String) (f : Flags) (c : Char) : Unmixed (outcome (f.set text c)) := by
  fun_cases set text f c with
  | case1 | case2 => exact unmixed_choose f _
  | case3 | case4 => exact .ok _
  | case5 => exact .error id

lemma unmixed_setAll (text : String) (f : Flags) (cs : List Char) : Unmixed (outcome (f.setAll text cs)) := by
  induction cs generalizing f with
  | nil => exact .ok f
  | cons c cs ih =>
    rw [outcome_setAll]
    exact (unmixed_set text f c).bind fun g _ => ih g

lemma unmixed_add (f : Flags) (text : String) : Unmixed (outcome (f.add text)) := by
  rw [add]
  split
  · exact .error id
  · exact unmixed_setAll text _ text.toList

lemma unmixed_stripped (f : Flags) (e : Expr) : Unmixed (f.stripped e) := by
  induction e generalizing f with
  | flagged text e ih =>
    rw [stripped_flagged]
    exact (unmixed_add f text).bind fun g _ => ih g
  | _ => exact .ok _

lemma unmixed_joined (f : Flags) (text : String) : Unmixed (f.joined text) := by
  rw [joined_eq]
  split
  · exact .ok f
  · exact unmixed_add f text

end Flags

lemma Column.unmixed_interpolated (target : Expr) : Unmixed (interpolated target) := by
  cases target with
  | literal v =>
    cases v with
    | str | symbol => exact .ok _
    | int n =>
      rw [interpolated]
      split
      · exact .ok _
      · exact .error id
    | _ => exact .error id
  | _ => exact .ok _

lemma Expr.unmixed_resolve (e : Expr) : Unmixed e.resolve := by
  induction e with
  | literal | ident | quote | column => exact .ok _
  | interp target => exact (Column.unmixed_interpolated target).map _
  | flagged => exact .error id
  | keyword _ _ ih | field _ _ ih | lambda _ _ ih => exact ih.map _
  | call _ _ hf hes | index _ _ hf hes => exact hf.map₂ (resolveItems_eq _ ▸ .mapM hes) _
  | block _ hes | tuple _ hes | vector _ hes => exact .map (resolveItems_eq _ ▸ .mapM hes) _
  | namedTuple _ hfs => exact .map (resolveFields_eq _ ▸ .mapM fun field hm => (hfs field hm).map _) _
  | pair _ _ hl hr => exact hl.map₂ hr _
  | assign _ _ hs he =>
    rw [resolve]
    split
    · exact .error id
    · exact hs.map₂ he _

namespace Sink

lemma unmixed_ofColumn (c : Column) : Unmixed (ofColumn c) := by
  cases c with
  | position => exact .error id
  | _ => exact .ok _

lemma unmixed_resolve (config : Config) (e : Expr) : Unmixed (resolve config e) := by
  cases e with
  | quote => exact .ok _
  | interp target => exact (Column.unmixed_interpolated target).bind fun c _ => unmixed_ofColumn c
  | column c => exact unmixed_ofColumn c
  | ident name =>
    rw [resolve]
    split
    · exact .ok _
    · exact .error id
  | _ => exact .error id

end Sink

namespace TableGroup

lemma unmixed_fieldLine (group flags : Flags) (item sink value : Expr) :
    Unmixed (fieldLine group item flags sink value) := by
  refine (flags.unmixed_stripped value).bind fun ⟨flags, value⟩ _ => ?_
  dsimp only
  split
  · exact .error id
  · exact (group.unmixed_joined _).map _

lemma unmixed_statementLine (item : Expr) (flags : Flags) (e : Expr) : Unmixed (statementLine item flags e) := by
  rw [statementLine]
  split
  · exact .ok _
  · exact .error id

lemma unmixed_blockLine (group : Flags) (item : Expr) : Unmixed (blockLine group item) := by
  refine (Flags.unmixed_stripped {} item).bind fun ⟨flags, inner⟩ _ => ?_
  dsimp only
  split
  · split
    · exact unmixed_fieldLine group flags item _ _
    · exact unmixed_statementLine item flags _
  · exact unmixed_statementLine item flags inner

lemma unmixed_tupleLine (group : Flags) (item : Expr) : Unmixed (tupleLine group item) := by
  refine (Flags.unmixed_stripped {} item).bind fun ⟨flags, inner⟩ _ => ?_
  dsimp only
  split
  · exact unmixed_fieldLine group flags item _ _
  · exact .error id

lemma unmixed_lines (group : Flags) (sink : Option Expr) (value : Expr) : Unmixed (lines group sink value) := by
  cases sink with
  | some sink => exact .ok _
  | none =>
    cases value with
    | block items => exact .mapM fun item _ => unmixed_blockLine group item
    | tuple items => exact .mapM fun item _ => unmixed_tupleLine group item
    | _ => exact (unmixed_tupleLine group _).map _

lemma unmixed_entries (default : Mode) (seen : List String) (ls : List Line) :
    Unmixed (entries default seen ls) := by
  induction ls generalizing seen with
  | nil => exact .ok _
  | cons l ls ih =>
    cases l with
    | statement e => exact (ih seen).map _
    | field flags sink value =>
      cases sink with
      | quote name =>
        rw [entries]
        split
        · exact .error id
        · exact (ih _).map _
      | _ => exact .error id

lemma Entry.unmixed_resolve (entry : Entry) : Unmixed entry.resolve := by
  cases entry with
  | field f value => exact value.unmixed_resolve.map _
  | statement e => exact e.unmixed_resolve.map _

lemma unmixed_bodyOf (locals : Names) (es : List Entry) : Unmixed (bodyOf locals es) := by
  rw [bodyOf_eq]
  exact (FailsOnly.mapM fun entry _ => entry.unmixed_resolve).map _

variable (arg : Nat) (default : Mode) (flags : Flags) (sink : Option Expr) (value : Expr)

lemma unmixed_collect : Unmixed (collect arg default flags sink value) := by
  refine (unmixed_lines flags sink value).bind fun ls _ => (unmixed_entries default [] ls).bind fun es _ => ?_
  dsimp only
  split
  · exact .error id
  · exact (unmixed_bodyOf _ es).map _

end TableGroup

namespace Argument

variable (construct : Construct) (config : Config) (arg : Nat)

lemma unmixed_sides (e : Expr) : Unmixed (sides e) := by
  cases e with
  | keyword | pair => exact .error id
  | _ => exact .ok _

lemma unmixed_ofExpr (e : Expr) : Unmixed (ofExpr e) := by
  refine (Flags.unmixed_stripped {} e).bind fun ⟨flags, inner⟩ _ =>
    (unmixed_sides inner).bind fun ⟨sink, value⟩ _ => ?_
  refine (flags.unmixed_stripped value).bind fun ⟨flags, value⟩ _ => ?_
  dsimp only
  split
  · exact .error id
  · exact .ok _

lemma unmixed_explicitSink (sink : Option Expr) : Unmixed (explicitSink construct config sink) := by
  cases sink with
  | none => exact .ok _
  | some e =>
    rw [explicitSink]
    split
    · exact (Sink.unmixed_resolve config e).map _
    · exact .error id

lemma unmixed_expansion (e : Expr) : Unmixed (expansion construct config arg e) := by
  refine (unmixed_ofExpr e).bind fun a _ => ?_
  split
  · split
    · exact (TableGroup.unmixed_collect arg _ a.flags a.sink a.value).map _
    · exact .error id
  · exact ((unmixed_explicitSink construct config a.sink).map₂ a.value.unmixed_resolve _).map _

end Argument

namespace TableGroup

lemma fields_ne_nil_of_collect {arg : Nat} {default : Mode} {flags : Flags} {sink : Option Expr} {value : Expr}
    {g : TableGroup} (h : collect arg default flags sink value = .ok g) : g.fields ≠ [] := by
  obtain ⟨ls, -, h⟩ := bind_eq_ok.mp h
  obtain ⟨es, -, h⟩ := bind_eq_ok.mp h
  dsimp only at h
  split at h
  next => cases h
  next hn =>
    obtain ⟨body, -, h⟩ := bind_eq_ok.mp h
    rw [← pure_eq_ok.mp h]
    exact fun he => hn (List.isEmpty_iff.mpr he)

lemma mixed_uniform (first : TableField) (fs : List TableField) : FailsOnly Fault.IsMixed (uniform first fs) := by
  induction fs with
  | nil => exact .ok ()
  | cons f fs ih =>
    rw [uniform]
    split
    · exact ih
    · exact .error trivial

lemma mixed_toTriple {g : TableGroup} (hg : g.fields ≠ []) :
    FailsOnly (fun err => err.fault.IsMixed) g.toTriple := by
  rw [toTriple]
  split
  next h => exact absurd h hg
  next first rest _ =>
    split
    next h => exact .error (mixed_uniform first rest _ h)
    next => exact .ok _

end TableGroup

lemma mixed_toTriple_of_expandArgument {construct : Construct} {config : Config} {arg : Nat} {e : Expr}
    {x : Expansion} (h : expandArgument construct config arg e = .ok x) :
    FailsOnly (fun err => err.fault.IsMixed) x.toTriple := by
  cases x with
  | triple t => exact .ok t
  | group g =>
    obtain ⟨a, -, -, -, hg⟩ := expandArgument_eq_group.mp h
    exact TableGroup.mixed_toTriple (TableGroup.fields_ne_nil_of_collect hg)

namespace Call

variable (config : Config) (inv : Invocation)

def readingError? (arg : Expr × Nat) : Option ArgumentError :=
  (linesOf config.flattenBlocks arg.2 arg.1).findSome? fun line =>
    errorOf? (expandArgument inv.construct config line.1 line.2)

def lineError? (arg : Expr × Nat) : Option ArgumentError :=
  (linesOf config.flattenBlocks arg.2 arg.1).findSome? fun line => errorOf? (lineTriple inv.construct config line)

lemma errorOf?_expand : errorOf? (expand config inv) =
    ((inv.args.zipIdx 1).findSome? (readingError? config inv)).or
      ((inv.args.zipIdx 1).findSome? (lineError? config inv)) := by
  have hread := errorOf?_mapM_eq_findSome? (fun line => expandArgument inv.construct config line.1 line.2)
    (lines config inv)
  have hline := errorOf?_mapM_eq_findSome? (lineTriple inv.construct config) (lines config inv)
  rw [lines_eq_flatMap, findSome?_flatMap, ← lines_eq_flatMap] at hread hline
  rw [show List.findSome? (readingError? config inv) _ = _ from hread.symm,
    show List.findSome? (lineError? config inv) _ = _ from hline.symm, expand]
  cases hxs : (lines config inv).mapM fun line => expandArgument inv.construct config line.1 line.2 with
  | error err => rfl
  | ok xs =>
    -- where all lines are read, merging what they were read as is all that is left of the lines
    have hmerge : (lines config inv).mapM (lineTriple inv.construct config) = xs.mapM Expansion.toTriple :=
      mapM_bind_of_forall₂ (mapM_eq_ok.mp hxs)
    rw [hmerge]
    exact errorOf?_map _ _

variable {config inv} {e : Expr} {n : Nat} {err : ArgumentError}

lemma errorOf?_relocated (n : Nat) (x : Except ArgumentError Triple) :
    errorOf? (relocated n x) = (errorOf? x).map fun err => { err with arg := n } := by
  cases x <;> rfl

lemma errorOf?_expandArgument (construct : Construct) (config : Config) (n : Nat) (e : Expr) :
    errorOf? (expandArgument construct config n e) =
      (errorOf? (expandArgument construct config 1 e)).map fun err => { err with arg := n } := by
  rw [expandArgument, Argument.expansion_withArg, expandArgument]
  cases Argument.expansion construct config 1 e <;> rfl

lemma readingError?_eq (e : Expr) (n : Nat) : readingError? config inv (e, n) =
    (readingError? config inv (e, 1)).map fun err => { err with arg := n } := by
  simp only [readingError?, linesOf_eq, List.findSome?_map, List.map_findSome?]
  congr 1
  funext line
  exact errorOf?_expandArgument inv.construct config n line

lemma lineError?_eq (e : Expr) (n : Nat) : lineError? config inv (e, n) =
    (lineError? config inv (e, 1)).map fun err => { err with arg := n } := by
  simp only [lineError?, linesOf_eq, List.findSome?_map, List.map_findSome?]
  congr 1
  funext line
  exact (congrArg errorOf? (lineTriple_relocated inv.construct config n line)).trans (errorOf?_relocated n _)

lemma unmixed_of_readingError? (h : readingError? config inv (e, n) = some err) : ¬ err.fault.IsMixed := by
  obtain ⟨line, -, he⟩ := List.exists_of_findSome?_eq_some h
  rw [errorOf?_eq_some, expandArgument] at he
  cases hx : Argument.expansion inv.construct config line.1 line.2 with
  | ok x =>
    rw [hx] at he
    cases he
  | error fault =>
    rw [hx] at he
    cases he
    exact Argument.unmixed_expansion inv.construct config line.1 line.2 fault hx

lemma mixed_of_lineError? (hr : readingError? config inv (e, n) = none)
    (h : lineError? config inv (e, n) = some err) : err.fault.IsMixed := by
  obtain ⟨line, hl, he⟩ := List.exists_of_findSome?_eq_some h
  rcases Tabular.bind_eq_error.mp (errorOf?_eq_some.mp he) with hx | ⟨x, hx, ht⟩
  · have hn := List.findSome?_eq_none_iff.mp hr line hl
    rw [hx] at hn
    cases hn
  · exact mixed_toTriple_of_expandArgument hx err ht

lemma expand_single_eq_error_iff : expand config { inv with args := [e] } = .error err ↔
    (readingError? config inv (e, 1)).or (lineError? config inv (e, 1)) = some err := by
  rw [← errorOf?_eq_some, errorOf?_expand]
  change ([(e, 1)].findSome? _).or ([(e, 1)].findSome? _) = _ ↔ _
  rw [List.findSome?_singleton, List.findSome?_singleton]
  rfl

variable (config inv) in
/-- The positions, counted from one, of the arguments that on their own make the expansion fail with
certain faults. -/
def failingAlone (P : Fault → Prop) : Set Nat :=
  {n | ∃ e err, (e, n) ∈ inv.args.zipIdx 1 ∧ expand config { inv with args := [e] } = .error err ∧ P err.fault}

lemma failingAlone_unmixed : failingAlone config inv (fun fault => ¬ fault.IsMixed) =
    {n | ∃ e, (e, n) ∈ inv.args.zipIdx 1 ∧ readingError? config inv (e, n) ≠ none} := by
  ext n
  refine exists_congr fun e => ?_
  simp only [expand_single_eq_error_iff, exists_and_left, readingError?_eq e n, ne_eq, Option.map_eq_none_iff]
  refine and_congr_right fun _ => ?_
  cases hr : readingError? config inv (e, 1) with
  | some err => exact iff_of_true ⟨err, rfl, unmixed_of_readingError? hr⟩ (Option.some_ne_none err)
  | none =>
    refine iff_of_false ?_ (not_not_intro rfl)
    rintro ⟨err, hl, hu⟩
    exact hu (mixed_of_lineError? hr hl)

lemma failingAlone_of_readable (hr : ∀ arg ∈ inv.args.zipIdx 1, readingError? config inv arg = none) :
    failingAlone config inv (fun _ => True) =
      {n | ∃ e, (e, n) ∈ inv.args.zipIdx 1 ∧ lineError? config inv (e, n) ≠ none} := by
  ext n
  refine exists_congr fun e => ?_
  simp only [expand_single_eq_error_iff, exists_and_left, lineError?_eq e n, ne_eq, Option.map_eq_none_iff,
    and_true]
  refine and_congr_right fun hm => ?_
  have hr := hr (e, n) hm
  rw [readingError?_eq, Option.map_eq_none_iff] at hr
  rw [hr, Option.none_or, ← ne_eq, Option.ne_none_iff_exists']

/-- An expansion fails at the first argument that cannot be read. If all can be read, it fails at the first one
whose collection has fields of different modes. -/
theorem isLeast_arg_of_expand (h : expand config inv = .error err) :
    ((failingAlone config inv fun fault => ¬ fault.IsMixed).Nonempty →
      IsLeast (failingAlone config inv fun fault => ¬ fault.IsMixed) err.arg) ∧
    (failingAlone config inv (fun fault => ¬ fault.IsMixed) = ∅ →
      IsLeast (failingAlone config inv fun _ => True) err.arg) ∧
    ∃ e, (e, err.arg) ∈ inv.args.zipIdx 1 ∧
      expand config { inv with args := [e] } = .error { err with arg := 1 } := by
  rw [← errorOf?_eq_some, errorOf?_expand] at h
  cases hr : (inv.args.zipIdx 1).findSome? (readingError? config inv) with
  | some first =>
    rw [hr] at h
    cases h
    obtain ⟨e, n, hm, he, hleast⟩ := isLeast_of_findSome? hr
    rw [← failingAlone_unmixed] at hleast
    rw [readingError?_eq] at he
    obtain ⟨alone, halone, rfl⟩ := Option.map_eq_some_iff.mp he
    refine ⟨fun _ => hleast, fun hempty => absurd hleast.1 (hempty ▸ Set.notMem_empty n), e, hm, ?_⟩
    rw [expand_single_eq_error_iff, readingError?_eq, halone]
    rfl
  | none =>
    rw [hr] at h
    have hreadable := List.findSome?_eq_none_iff.mp hr
    obtain ⟨e, n, hm, he, hleast⟩ := isLeast_of_findSome? h
    rw [← failingAlone_of_readable hreadable] at hleast
    have hre := hreadable (e, n) hm
    rw [readingError?_eq, Option.map_eq_none_iff] at hre
    rw [lineError?_eq] at he
    obtain ⟨alone, halone, rfl⟩ := Option.map_eq_some_iff.mp he
    refine ⟨fun hearly => ?_, fun _ => hleast, e, hm, ?_⟩
    · rw [failingAlone_unmixed] at hearly
      obtain ⟨m, e', hm', he'⟩ := hearly
      exact absurd (hreadable (e', m) hm') he'
    · rw [expand_single_eq_error_iff, hre, lineError?_eq, halone]
      rfl

theorem isLeast_arg_of_expand_past_mixed_modes :
    let inv : Invocation := ⟨.transform, .ident "df", [.flagged "t" (.tuple [.assign (.quote "a") (.quote "x"),
      .flagged "c" (.assign (.quote "b") (.quote "y"))]), .flagged "rc" (.assign (.quote "c") (.quote "z"))], []⟩
    expand {} inv = .error ⟨2, .conflictingModes "rc"⟩ ∧
      IsLeast (failingAlone {} inv fun fault => ¬ fault.IsMixed) 2 := by
  intro inv
  have h : expand {} inv = .error ⟨2, .conflictingModes "rc"⟩ := rfl
  obtain ⟨hearly, -, e, hm, he⟩ := isLeast_arg_of_expand h
  exact ⟨h, hearly ⟨2, e, _, hm, he, id⟩⟩

theorem not_isLeast_failingAlone :
    let inv : Invocation := ⟨.transform, .ident "df", [.flagged "t" (.tuple [.assign (.quote "a") (.quote "x"),
      .flagged "c" (.assign (.quote "b") (.quote "y"))]), .flagged "rc" (.assign (.quote "c") (.quote "z"))], []⟩
    expand {} inv = .error ⟨2, .conflictingModes "rc"⟩ ∧ ¬ IsLeast (failingAlone {} inv fun _ => True) 2 := by
  intro inv
  have h : 1 ∈ failingAlone {} inv fun _ => True :=
    ⟨_, ⟨1, .mixedModes "b" "a"⟩, List.mem_cons_self, rfl, trivial⟩
  exact ⟨rfl, fun hleast => absurd (hleast.2 h) (by decide)⟩

end Call

end Tabular
