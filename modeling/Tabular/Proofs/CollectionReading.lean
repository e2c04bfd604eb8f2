import Tabular.Proofs.FlagSets

/-!
How the lines of a table collection are read. Reading succeeds exactly if every line is a field or a plain line of
a block, the flags of every field go with those of the collection, and no name is declared twice.
-/

namespace Tabular

structure DeclaredField where
  name : String
  flags : List Char
  value : Expr

def DeclaredField.toField (default : Mode) (f : DeclaredField) : TableField :=
  ⟨f.name, (Flags.ofChars f.flags).modeOr default, (Flags.ofChars f.flags).passMissing⟩

namespace Collection

def isField (line : Expr) : Bool :=
  match line.unflagged with
  | .assign (.quote _) _ => true
  | _ => false

def field? (cs : List Char) (line : Expr) : Option DeclaredField :=
  match line.unflagged with
  | .assign (.quote name) value => some ⟨name, cs ++ line.flagChars, value.unflagged⟩
  | _ => none

def lines : Option Expr × Expr → List Expr
  | (none, .tuple items) | (none, .block items) => items
  | _ => []

def fields (cs : List Char) : Option Expr × Expr → List DeclaredField
  | (some (.quote name), value) => [⟨name, cs, value⟩]
  | (none, .tuple items) | (none, .block items) => items.filterMap (field? cs)
  | _ => []

def assignsColumn (line : Expr) : Bool := line.unflagged.target?.any Expr.isMention

lemma isField_iff {line : Expr} :
    isField line = true ↔ ∃ name value, line.unflagged = .assign (.quote name) value := by
  rw [isField]
  split
  next name value h => exact iff_of_true rfl ⟨name, value, h⟩
  next hn => exact iff_of_false Bool.false_ne_true fun ⟨name, value, h⟩ => hn name value h

lemma assignsColumn_of_isField {line : Expr} (h : isField line = true) : assignsColumn line = true := by
  obtain ⟨name, value, he⟩ := isField_iff.mp h
  rw [assignsColumn, he]
  rfl

/-- A sink of its own is a plain name, all entries of a tuple are fields, and a line of a block is a field if it
assigns to a column and has no flags if it does not. -/
def Shaped : Option Expr × Expr → Prop
  | (some sink, _) => ∃ name, sink = .quote name
  | (none, .tuple items) => ∀ line ∈ items, isField line = true
  | (none, .block items) => ∀ line ∈ items,
      (assignsColumn line = true → isField line = true) ∧ (assignsColumn line = false → line.outerFlags = [])
  | _ => False

end Collection

namespace TableGroup

def LineFits (cs : List Char) (line : Expr) : Prop :=
  (∀ text ∈ line.flagTexts, text ≠ "") ∧ Flags.Consistent (cs ++ line.flagChars) ∧ 't' ∉ line.flagChars

variable {cs ds : List Char} {line sink value : Expr} {items : List Expr}

lemma gives_fieldLine (hc : Flags.Consistent cs) (hd : Flags.Consistent ds) (item sink value : Expr) :
    Gives (fieldLine (.ofChars cs) item (.ofChars ds) sink value)
      (((∀ text ∈ value.outerFlags, text ≠ "") ∧ Flags.Consistent (ds ++ value.outerChars)) ∧
        ¬ (Flags.ofChars (ds ++ value.outerChars)).table = true ∧
        Flags.Consistent (cs ++ (ds ++ value.outerChars)))
      (.field (.ofChars (cs ++ (ds ++ value.outerChars))) sink value.unflagged) :=
  Gives.bind (Flags.gives_stripped hd value) fun _ => Gives.guarded _ fun _ =>
    (Flags.gives_joined hc _).map (Line.field · sink value.unflagged)

lemma lineFits_iff (cs : List Char) (h : line.unflagged = .assign sink value) : LineFits cs line ↔
    ((∀ text ∈ line.outerFlags, text ≠ "") ∧ Flags.Consistent line.outerChars) ∧
      (((∀ text ∈ value.outerFlags, text ≠ "") ∧ Flags.Consistent (line.outerChars ++ value.outerChars)) ∧
        ¬ (Flags.ofChars (line.outerChars ++ value.outerChars)).table = true ∧
          Flags.Consistent (cs ++ (line.outerChars ++ value.outerChars))) := by
  rw [LineFits, Expr.flagTexts, Expr.flagChars_eq, h, Expr.assigned, List.forall_mem_append]
  simp only [Flags.ofChars, decide_eq_true_eq]
  constructor
  · rintro ⟨⟨ht, hv⟩, hk, hn⟩
    have hk' := hk.mono (List.subset_append_right _ _)
    exact ⟨⟨ht, hk'.mono (List.subset_append_left _ _)⟩, ⟨hv, hk'⟩, hn, hk⟩
  · rintro ⟨⟨ht, -⟩, ⟨hv, -⟩, hn, hk⟩
    exact ⟨⟨ht, hv⟩, hk, hn⟩

def lineOf (isSink : Expr → Bool) (cs : List Char) (line : Expr) : Line :=
  match line.unflagged with
  | .assign sink value =>
    if isSink sink then .field (.ofChars (cs ++ line.flagChars)) sink value.unflagged
    else .statement (.assign sink value)
  | e => .statement e

lemma lineOf_of_assign {isSink : Expr → Bool} (h : line.unflagged = .assign sink value) (hs : isSink sink = true) :
    lineOf isSink cs line = .field (.ofChars (cs ++ line.flagChars)) sink value.unflagged := by
  rw [lineOf, h]
  exact if_pos hs

lemma lineOf_of_target? {isSink : Expr → Bool} (h : line.unflagged.target?.any isSink = false) :
    lineOf isSink cs line = .statement line.unflagged := by
  rw [lineOf]
  split
  next sink value he =>
    rw [he] at h ⊢
    exact if_neg (Bool.eq_false_iff.mp h)
  next => rfl

lemma flagChars_of_assign (h : line.unflagged = .assign sink value) :
    line.flagChars = line.outerChars ++ value.outerChars := by rw [Expr.flagChars_eq, h, Expr.assigned]

lemma gives_tupleLine (hc : Flags.Consistent cs) (line : Expr) : Gives (tupleLine (.ofChars cs) line)
    (line.unflagged.target?.isSome = true ∧ LineFits cs line) (lineOf (fun _ => true) cs line) := by
  rw [tupleLine]
  cases h : line.unflagged with
  | assign sink value =>
    rw [lineOf_of_assign h rfl, flagChars_of_assign h]
    refine Gives.congr (P := _ ∧ _) (Gives.bind (Argument.gives_stripped_whole line) fun hk => ?_)
      ((lineFits_iff cs h).symm.trans (and_iff_right rfl).symm)
    rw [h]
    exact gives_fieldLine hc hk.2 line sink value
  | _ =>
    refine Gives.congr (P := _ ∧ False) (Gives.bind (Argument.gives_stripped_whole line) fun _ => ?_) ?_
    · rw [h]
      exact Gives.error _ _
    · simp [Expr.target?]

lemma gives_statementLine (hc : ∀ text ∈ line.outerFlags, text ≠ "") (item e : Expr) :
    Gives (statementLine item (.ofChars line.outerChars) e) (line.outerFlags = []) (.statement e) := by
  rw [statementLine]
  split
  next he =>
    rw [Flags.isEmpty_ofChars, Expr.outerChars_eq_nil hc] at he
    exact (Gives.ok Fault _).congr (iff_of_true trivial he)
  next he =>
    rw [Flags.isEmpty_ofChars, Expr.outerChars_eq_nil hc] at he
    exact (Gives.error _ _).congr (iff_of_false not_false he)

lemma outerFlags_iff :
    ((∀ text ∈ line.outerFlags, text ≠ "") ∧ Flags.Consistent line.outerChars) ∧ line.outerFlags = [] ↔
    line.outerFlags = [] := by
  refine and_iff_right_of_imp fun h => ?_
  rw [Expr.outerChars, h]
  exact ⟨fun _ ht => absurd ht List.not_mem_nil, Flags.consistent_nil⟩

lemma gives_blockLine (hc : Flags.Consistent cs) (line : Expr) : Gives (blockLine (.ofChars cs) line)
    ((Collection.assignsColumn line = true → LineFits cs line) ∧
      (Collection.assignsColumn line = false → line.outerFlags = [])) (lineOf Expr.isMention cs line) := by
  rw [blockLine]
  cases h : line.unflagged with
  | assign sink value =>
    have ha : Collection.assignsColumn line = sink.isMention := by
      rw [Collection.assignsColumn, h]
      rfl
    rw [ha]
    cases hm : sink.isMention with
    | true =>
      rw [lineOf_of_assign h hm, flagChars_of_assign h]
      refine Gives.congr (P := _ ∧ _) (Gives.bind (Argument.gives_stripped_whole line) fun hk => ?_)
        ((lineFits_iff cs h).symm.trans (by simp))
      rw [h]
      dsimp only
      rw [if_pos hm]
      exact gives_fieldLine hc hk.2 line sink value
    | false =>
      rw [lineOf_of_target? (ha.trans hm), h]
      refine Gives.congr (P := _ ∧ _) (Gives.bind (Argument.gives_stripped_whole line) fun hk => ?_)
        (outerFlags_iff.trans (by simp))
      rw [h]
      dsimp only
      rw [if_neg (Bool.eq_false_iff.mp hm)]
      exact gives_statementLine hk.1 line _
  | _ =>
    have ha : Collection.assignsColumn line = false := by
      rw [Collection.assignsColumn, h]
      rfl
    rw [lineOf_of_target? ha, ha, h]
    refine Gives.congr (P := _ ∧ _) (Gives.bind (Argument.gives_stripped_whole line) fun hk => ?_)
      (outerFlags_iff.trans (by simp))
    rw [h]
    exact gives_statementLine hk.1 line _

def Line.name? : Line → Option String
  | .field _ (.quote name) _ => some name
  | _ => none

def Line.isNamed : Line → Bool
  | .field _ (.quote _) _ | .statement _ => true
  | _ => false

def Line.entry (default : Mode) : Line → Entry
  | .field flags (.quote name) value => .field ⟨name, flags.modeOr default, flags.passMissing⟩ value
  | line => .statement line.expr

lemma gives_entries (default : Mode) (seen : List String) (ls : List Line) :
    Gives (entries default seen ls)
      ((∀ l ∈ ls, l.isNamed = true) ∧ (ls.filterMap Line.name?).Nodup ∧
        ∀ name ∈ ls.filterMap Line.name?, name ∉ seen)
      (ls.map (Line.entry default)) := by
  induction ls generalizing seen with
  | nil => exact (Gives.ok Fault _).congr (by simp)
  | cons l ls ih =>
    rw [List.forall_mem_cons]
    cases l with
    | statement e =>
      rw [List.filterMap_cons_none rfl]
      exact ((ih seen).map (Entry.statement e :: ·)).congr (and_congr_left' (and_iff_right rfl).symm)
    | field flags sink value =>
      cases sink with
      | quote name =>
        have hn : Line.name? (.field flags (.quote name) value) = some name := rfl
        rw [List.filterMap_cons_some hn, List.nodup_cons, List.forall_mem_cons]
        refine Gives.congr (P := _ ∧ _) (Gives.guarded _ fun _ => (ih (name :: seen)).map (List.cons _)) ?_
        simp only [List.contains_iff_mem, List.mem_cons, not_or]
        constructor
        · rintro ⟨hn, hls, hd, hs⟩
          exact ⟨⟨rfl, hls⟩, ⟨fun hm => (hs name hm).1 rfl, hd⟩, hn, fun x hx => (hs x hx).2⟩
        · rintro ⟨⟨-, hls⟩, ⟨hm, hd⟩, hn, hs⟩
          exact ⟨hn, hls, hd, fun x hx => ⟨fun he => hm (he ▸ hx), hs x hx⟩⟩
      | _ => exact (Gives.error _ _).congr (iff_of_false not_false fun h => nomatch h.1.1)

def entryOf (default : Mode) (cs : List Char) (line : Expr) : Entry :=
  match Collection.field? cs line with
  | some f => .field (f.toField default) f.value
  | none => .statement line.unflagged

section lineOf

variable {isSink : Expr → Bool}

lemma name?_lineOf (hq : ∀ name, isSink (.quote name) = true) (cs : List Char) (line : Expr) :
    (lineOf isSink cs line).name? = (Collection.field? cs line).map DeclaredField.name := by
  rw [lineOf, Collection.field?]
  cases line.unflagged with
  | assign sink value =>
    cases sink with
    | quote name => simp only [hq, if_true, Line.name?, Option.map_some]
    | _ =>
      dsimp only
      split <;> rfl
  | _ => rfl

lemma isNamed_lineOf (cs : List Char) (line : Expr) : (lineOf isSink cs line).isNamed = true ↔
    (line.unflagged.target?.any isSink = true → Collection.isField line = true) := by
  rw [lineOf, Collection.isField]
  cases line.unflagged with
  | assign sink value => cases h : isSink sink <;> cases sink <;> simp [Expr.target?, Line.isNamed, h]
  | _ => simp [Expr.target?, Line.isNamed]

lemma entry_lineOf (hq : ∀ name, isSink (.quote name) = true) (default : Mode) (cs : List Char) (line : Expr)
    (hn : (lineOf isSink cs line).isNamed = true) :
    (lineOf isSink cs line).entry default = entryOf default cs line := by
  rw [lineOf] at hn ⊢
  rw [entryOf, Collection.field?]
  cases h : line.unflagged with
  | assign sink value =>
    rw [h] at hn
    cases sink with
    | quote name => simp only [hq, if_true, Line.entry, DeclaredField.toField]
    | _ =>
      dsimp only at hn ⊢
      split at hn
      · cases hn
      next hs =>
        rw [if_neg hs]
        rfl
  | _ => rfl

lemma gives_readItems (hq : ∀ name, isSink (.quote name) = true) (default : Mode) {read : Expr → Except Fault Line}
    {R : Expr → Prop} (hr : ∀ line, Gives (read line) (R line) (lineOf isSink cs line)) (items : List Expr) :
    Gives (do entries default [] (← items.mapM read))
      ((∀ line ∈ items, R line ∧ (line.unflagged.target?.any isSink = true → Collection.isField line = true)) ∧
        ((items.filterMap (Collection.field? cs)).map DeclaredField.name).Nodup)
      (items.map (entryOf default cs)) := by
  have hnames : (items.map (lineOf isSink cs)).filterMap Line.name? =
      (items.filterMap (Collection.field? cs)).map DeclaredField.name := by
    rw [List.filterMap_map, List.map_filterMap]
    exact List.filterMap_congr fun line _ => name?_lineOf hq cs line
  have hread := (Gives.mapM fun line (_ : line ∈ items) => hr line).bind fun _ => gives_entries default [] _
  refine (hread.congr ?_).of_eq fun h => ?_
  · rw [hnames, List.forall_mem_map, forall₂_and]
    simp only [isNamed_lineOf, List.not_mem_nil, not_false_eq_true, implies_true, and_true, and_assoc]
  · rw [List.map_map]
    refine List.map_congr_left fun line hl => ?_
    exact entry_lineOf hq default cs line ((isNamed_lineOf cs line).mpr (h.1 line hl).2)

end lineOf

def entriesOf (default : Mode) (cs : List Char) : Option Expr × Expr → List Entry
  | (some (.quote name), value) => [.field (DeclaredField.toField default ⟨name, cs, value⟩) value]
  | (none, .tuple items) | (none, .block items) => items.map (entryOf default cs)
  | _ => []

lemma readTuple_iff : (∀ line ∈ items, (line.unflagged.target?.isSome = true ∧ LineFits cs line) ∧
      (line.unflagged.target?.any (fun _ => true) = true → Collection.isField line = true)) ↔
    (∀ line ∈ items, Collection.isField line = true) ∧
      ∀ line ∈ items, Collection.isField line = true → LineFits cs line := by
  have hsome (line : Expr) (hf : Collection.isField line = true) : line.unflagged.target?.isSome = true := by
    obtain ⟨name, value, he⟩ := Collection.isField_iff.mp hf
    rw [he]
    rfl
  constructor
  · intro h
    refine ⟨fun line hl => (h line hl).2 ?_, fun line hl _ => (h line hl).1.2⟩
    exact Option.any_true.trans (h line hl).1.1
  · rintro ⟨hf, hfit⟩ line hl
    exact ⟨⟨hsome line (hf line hl), hfit line hl (hf line hl)⟩, fun _ => hf line hl⟩

lemma readBlock_iff : (∀ line ∈ items, ((Collection.assignsColumn line = true → LineFits cs line) ∧
      (Collection.assignsColumn line = false → line.outerFlags = [])) ∧
      (Collection.assignsColumn line = true → Collection.isField line = true)) ↔
    (∀ line ∈ items, (Collection.assignsColumn line = true → Collection.isField line = true) ∧
      (Collection.assignsColumn line = false → line.outerFlags = [])) ∧
      ∀ line ∈ items, Collection.isField line = true → LineFits cs line := by
  constructor
  · intro h
    refine ⟨fun line hl => ⟨(h line hl).2, (h line hl).1.2⟩, fun line hl hf => ?_⟩
    exact (h line hl).1.1 (Collection.assignsColumn_of_isField hf)
  · rintro ⟨hs, hfit⟩ line hl
    exact ⟨⟨fun ha => hfit line hl ((hs line hl).1 ha), (hs line hl).2⟩, (hs line hl).1⟩

lemma gives_readOther (hc : Flags.Consistent cs) (default : Mode) (h : value.unflagged.target? = none)
    (es : List Entry) :
    Gives (do entries default [] (← (do return [← tupleLine (.ofChars cs) value]))) False es := by
  have hline := (gives_tupleLine hc value).map ([·])
  refine (hline.bind (Q := False) fun ht => ?_).congr (iff_of_false And.right not_false)
  rw [h] at ht
  cases ht.1

lemma gives_read (hc : Flags.Consistent cs) (default : Mode) (p : Option Expr × Expr)
    (hp : p.1 = none → p.2.unflagged.target? = none) :
    Gives (do entries default [] (← lines (.ofChars cs) p.1 p.2))
      (Collection.Shaped p ∧ (∀ line ∈ Collection.lines p, Collection.isField line = true → LineFits cs line) ∧
        ((Collection.fields cs p).map DeclaredField.name).Nodup) (entriesOf default cs p) := by
  obtain ⟨sink, value⟩ := p
  cases sink with
  | some sink =>
    have hread := gives_entries default [] [Line.field (.ofChars cs) sink value]
    cases sink with
    | quote name =>
      have hn : [Line.field (.ofChars cs) (.quote name) value].filterMap Line.name? = [name] := rfl
      rw [hn] at hread
      exact hread.congr (by simp [Line.isNamed, Collection.Shaped, Collection.lines, Collection.fields])
    | _ => exact (Gives.error _ _).congr (by simp [Collection.Shaped])
  | none =>
    cases value with
    | tuple items =>
      refine (gives_readItems (fun _ => rfl) default (gives_tupleLine hc) items).congr ?_
      rw [readTuple_iff, and_assoc]
      rfl
    | block items =>
      refine (gives_readItems (fun _ => rfl) default (gives_blockLine hc) items).congr ?_
      exact (and_congr_left' readBlock_iff).trans and_assoc
    | _ => exact (gives_readOther hc default (hp rfl) _).congr (iff_of_false not_false And.left)

end TableGroup

end Tabular
