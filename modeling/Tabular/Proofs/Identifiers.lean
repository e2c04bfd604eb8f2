import Tabular.Proofs.CollectionShape
import Tabular.Proofs.LineByLine
import Tabular.Proofs.Nodewise

/-!
Names that are made up for parameters and for the fields of table collections, and whether they can be read as
identifiers. A parameter cannot where the name of its column starts with a numeral that is no decimal digit; a
variable for a field cannot where a number is put behind an exclamation mark.
-/

namespace Tabular

open Lexer

namespace Lexer

def ReadsAsName (x : String) : Prop :=
  (scan x.toList).1.map Lexeme.token = [.ident x, .eof] ∧ (scan x.toList).2 = none

lemma readsAsName_iff {x : String} : ReadsAsName x ↔ isName x = true := by
  constructor
  · rintro ⟨htokens, -⟩
    obtain ⟨l, hl, hx⟩ := List.mem_map.mp (htokens ▸ List.mem_cons_self : Token.ident x ∈ _)
    simpa [hx, Token.Proper] using proper_of_mem_scan hl
  · intro hx
    have hs := @scan_ident x [] false rfl hx
    rw [List.append_nil, scan_nil] at hs
    rw [ReadsAsName, show x.toList = lead false ++ x.toList from rfl, hs]
    exact ⟨rfl, rfl⟩

lemma isNameTail_append {cs ds : List Char} (hd : ds ≠ []) :
    isNameTail (cs ++ ds) = (cs.all isNameChar && isNameTail ds) := by
  induction cs with
  | nil => rfl
  | cons c cs ih =>
    rw [List.cons_append, isNameTail, ih, List.all_cons, Bool.and_assoc]
    rintro - hnil
    exact hd (List.append_eq_nil_iff.mp hnil).2

lemma isName_eq (s : String) : isName s = (goesOn isNameStart s.toList && isNameTail s.toList) := by
  rw [isName, Bool.eq_iff_iff, Bool.and_eq_true, Bool.and_eq_true]
  refine and_congr_right fun hs => ?_
  cases hl : s.toList with
  | nil => rfl
  | cons c cs =>
    rw [hl] at hs
    have hc : isNameChar c = true := isNameChar_of_isNameStart hs
    cases cs with
    | nil =>
      have htail : isNameTail [c] = true := (isNameTail_append_mark (List.forall_mem_singleton.mpr hc)).1
      rw [htail, List.tail_cons, isNameTail]
    | cons d cs => simp [isNameTail, hc]

lemma isNameChar_of_mem_repr {n : Nat} {c : Char} (h : c ∈ n.repr.toList) : isNameChar c = true := by
  rw [Nat.toList_repr] at h
  exact isNameChar_of_isDigit (Nat.isDigit_of_mem_toDigits (by decide) (by decide) h)

end Lexer

def endsInMark (x : String) : Prop := x.toList.getLast? = some '!'

lemma isNameChars_iff_of_isName {x : String} (h : isName x = true) :
    (∀ c ∈ x.toList, isNameChar c = true) ↔ ¬ endsInMark x := by
  rw [isName_eq, Bool.and_eq_true] at h
  rw [endsInMark]
  rcases List.eq_nil_or_concat' x.toList with hnil | ⟨cs, d, hx⟩
  · rw [hnil]
    simp
  · rw [hx, isNameTail_append (List.cons_ne_nil d []), Bool.and_eq_true, List.all_eq_true] at h
    rw [hx, List.getLast?_concat, List.forall_mem_append, List.forall_mem_singleton, and_iff_right h.2.1,
      Option.some_inj]
    constructor
    · rintro hd rfl
      exact absurd hd (by decide)
    · intro hd
      simpa [isNameTail, hd] using h.2.2

namespace Names

variable {base : String}

lemma readsAsName_candidate_succ (hb : base ≠ "") (k : Nat) : ReadsAsName (candidate base (k + 1)) ↔
    goesOn isNameStart base.toList = true ∧ ∀ c ∈ base.toList, isNameChar c = true := by
  have hsuffix : isNameTail ("_".toList ++ (k + 2).repr.toList) = true := by
    refine (isNameTail_append_mark (List.forall_mem_append.mpr ⟨?_, fun c => isNameChar_of_mem_repr⟩)).1
    simp [isNameChar]
  have hstart : goesOn isNameStart (base.toList ++ ("_".toList ++ (k + 2).repr.toList)) =
      goesOn isNameStart base.toList := by
    cases hl : base.toList with
    | nil => exact absurd (String.toList_eq_nil_iff.mp hl) hb
    | cons => rfl
  rw [readsAsName_iff, isName_eq, candidate, String.toList_append, String.toList_append, List.append_assoc, hstart,
    isNameTail_append (by simp), hsuffix, Bool.and_true, Bool.and_eq_true, List.all_eq_true]

lemma readsAsName_of_isName (hb : isName base = true) (k : Nat) :
    ReadsAsName (candidate base k) ↔ candidate base k = base ∨ ¬ endsInMark base := by
  have hne : base ≠ "" := by
    rintro rfl
    exact absurd hb (by decide)
  cases k with
  | zero => exact iff_of_true (readsAsName_iff.mpr hb) (.inl rfl)
  | succ k =>
    have hk : candidate base (k + 1) ≠ base := (candidate_injective base).ne (Nat.succ_ne_zero k)
    rw [readsAsName_candidate_succ hne, ← isNameChars_iff_of_isName hb, or_iff_right hk]
    rw [isName_eq, Bool.and_eq_true] at hb
    exact and_iff_right hb.1

lemma readsAsName_of_isNameChars (hne : base ≠ "") (hb : ∀ c ∈ base.toList, isNameChar c = true) (k : Nat) :
    ReadsAsName (candidate base k) ↔ goesOn isNameStart base.toList = true := by
  cases k with
  | zero =>
    rw [candidate, readsAsName_iff, isName_eq, (isNameTail_append_mark hb).1, Bool.and_true]
  | succ k => rw [readsAsName_candidate_succ hne, and_iff_left hb]

lemma exists_candidate_free (s : Names) (base : String) : ∃ k, s.free base = candidate base k := by
  obtain ⟨k, hk, -⟩ := isFirst_iff.mp (s.isFirst_free base)
  exact ⟨k, hk⟩

end Names

def Text.LedByNumeral (s : String) : Prop :=
  ∃ c ∈ s.toList.head?, isNumeral c = true ∧ isLetter c = false ∧ c.isDigit = false

def Column.LedByNumeral : Column → Prop
  | .symbol name | .string name => Text.LedByNumeral name
  | _ => False

namespace Text

lemma isNameChars_stem (s : String) : stem s ≠ "" ∧ ∀ c ∈ (stem s).toList, isNameChar c = true := by
  have hall : ∀ c ∈ s.toList.map (fun c => if isStemChar c then c else '_'), isNameChar c = true := by
    refine List.forall_mem_map.mpr fun c _ => ?_
    split
    next hc => exact hc
    next => decide
  rw [stem]
  split
  next => exact ⟨by decide, List.forall_mem_singleton.mpr (by decide)⟩
  next c cs hs =>
    rw [hs] at hall
    refine ⟨?_, ?_⟩
    · rw [ne_eq, ← String.toList_eq_nil_iff, String.toList_ofList]
      split <;> exact List.cons_ne_nil _ _
    · rw [String.toList_ofList]
      split
      · exact List.forall_mem_cons.mpr ⟨by decide, hall⟩
      · exact hall

lemma isNameStart_stem (s : String) : goesOn isNameStart (stem s).toList = true ↔ ¬ LedByNumeral s := by
  have hletter : isNameStart 'c' = true := by decide
  have hmark : isNameStart '_' = true := by decide
  rw [stem, LedByNumeral]
  cases s.toList with
  | nil => exact iff_of_true (by decide) (by simp)
  | cons c cs =>
    simp only [List.map_cons, String.toList_ofList, List.head?_cons, Option.mem_some_iff, exists_eq_left']
    by_cases hstem : isStemChar c = true
    · rw [if_pos hstem]
      by_cases hdigit : c.isDigit = true
      · rw [if_pos hdigit]
        exact iff_of_true hletter (by simp [hdigit])
      · rw [if_neg hdigit]
        rw [isStemChar, isAlphanumeric, Bool.or_eq_true, Bool.or_eq_true, beq_iff_eq] at hstem
        rcases hstem with (hl | hn) | rfl
        · exact iff_of_true (by simp [goesOn, isNameStart, hl]) (by simp [hl])
        · have hne : c ≠ '_' := by
            rintro rfl
            exact absurd hn (by decide)
          simp [goesOn, isNameStart, hn, hne, hdigit]
        · exact iff_of_true hmark (by decide)
    · rw [if_neg hstem, if_neg (by decide)]
      simp only [isStemChar, isAlphanumeric, Bool.or_eq_true, not_or, Bool.not_eq_true] at hstem
      exact iff_of_true hmark (by simp [hstem.1.2])

end Text

namespace Column

lemma isNameChars_stem (c : Column) : c.stem ≠ "" ∧ ∀ d ∈ c.stem.toList, isNameChar d = true := by
  cases c with
  | symbol name | string name => exact Text.isNameChars_stem name
  | position n =>
    refine ⟨fun h => ?_, ?_⟩
    · exact absurd (String.append_eq_empty_iff.mp h).1 (by decide)
    · rw [stem, String.toList_append]
      exact List.forall_mem_append.mpr ⟨List.all_eq_true.mp rfl, fun d => isNameChar_of_mem_repr⟩
  | dynamic target =>
    refine ⟨by simp [stem], ?_⟩
    simp [stem, isNameChar, Text.isAlphanumeric, Text.isLetter]

lemma isNameStart_stem (c : Column) : goesOn isNameStart c.stem.toList = true ↔ ¬ c.LedByNumeral := by
  cases c with
  | symbol name | string name => exact Text.isNameStart_stem name
  | position n => exact iff_of_true (by rw [stem, String.toList_append]; rfl) not_false
  | dynamic target => exact iff_of_true (show goesOn isNameStart "col".toList = true by decide) not_false

lemma readsAsName_candidate_stem (c : Column) (k : Nat) :
    ReadsAsName (Names.candidate c.stem k) ↔ ¬ c.LedByNumeral := by
  obtain ⟨hne, hall⟩ := c.isNameChars_stem
  rw [Names.readsAsName_of_isNameChars hne hall, isNameStart_stem]

end Column

namespace Parameters

lemma exists_candidate_coverAll {p : Parameters}
    (hp : ∀ entry ∈ p.entries, ∃ k, entry.2 = Names.candidate entry.1.stem k)
    (cs : List Column) : ∀ entry ∈ (p.coverAll cs).entries, ∃ k, entry.2 = Names.candidate entry.1.stem k := by
  induction cs generalizing p with
  | nil => exact hp
  | cons c cs ih =>
    refine ih (p := p.cover c) ?_
    cases hc : p.find? c with
    | some x => rwa [cover_of_some hc]
    | none =>
      rw [cover_of_none hc]
      exact List.forall_mem_append.mpr ⟨hp, List.forall_mem_singleton.mpr (p.names.exists_candidate_free c.stem)⟩

end Parameters

lemma Expr.readsAsName_params (e : Expr) : List.Forall₂
    (fun c x => x ∉ Names.reservedWords ∧ (ReadsAsName x ↔ ¬ c.LedByNumeral)) e.abstracted.1
      e.abstracted.2.params := by
  have hcandidate := Parameters.exists_candidate_coverAll (p := .avoiding e.idents) nofun e.mentions
  rw [abstracted_eq, Parameters.sources, Parameters.params, List.forall₂_map_left_iff, List.forall₂_map_right_iff]
  refine List.forall₂_same.mpr fun entry he => ?_
  obtain ⟨k, hk⟩ := hcandidate entry he
  refine ⟨(e.parameters_valid.free _ (List.mem_map_of_mem he)).1, ?_⟩
  rw [hk]
  exact entry.1.readsAsName_candidate_stem k

namespace TableGroup

lemma exists_variables (locals : Names) (es : List Entry) : List.Forall₂
    (fun f field => ∃ x v k, field = (f.name, .ident x) ∧
      .assign (.ident x) v ∈ assignments (locals.freshAll (fieldNames es)) es ∧ x = Names.candidate f.name k ∧
        x ∉ locals.taken) (es.filterMap Entry.field?) (readings (locals.freshAll (fieldNames es)) es) := by
  induction es generalizing locals with
  | nil => exact .nil
  | cons entry es ih =>
    cases entry with
    | statement e =>
      refine (ih locals).imp ?_
      rintro f field ⟨x, v, k, hf, hm, hx, hn⟩
      exact ⟨x, v, k, hf, List.mem_cons_of_mem e hm, hx, hn⟩
    | field f value =>
      obtain ⟨k, hk⟩ := locals.exists_candidate_free f.name
      refine .cons ⟨_, value, k, rfl, List.mem_cons_self, hk, locals.free_not_taken f.name⟩ ((ih _).imp ?_)
      rintro f' field ⟨x, v, k, hf, hm, hx, hn⟩
      refine ⟨x, v, k, hf, List.mem_cons_of_mem _ hm, hx, fun ht => hn ?_⟩
      exact (Names.mem_taken_fresh locals f.name x).mpr (.inr ht)

def VariablesReadable (g : TableGroup) (lines : List Expr) (fields : List (String × Expr)) : Prop := List.Forall₂
  (fun f field => ∃ x v, field = (f.name, .ident x) ∧ .assign (.ident x) v ∈ lines ∧ x ∉ Names.reservedWords ∧
    (ReadsAsName x ↔ x = f.name ∨ ¬ endsInMark f.name)) g.fields fields

lemma variablesReadable_of_collect {arg : Nat} {default : Mode} {flags : Flags} {sink : Option Expr} {value : Expr}
    {g : TableGroup} (h : collect arg default flags sink value = .ok g)
    (hg : ∀ f ∈ g.fields, isName f.name = true) : (∃ fields, g.body = .namedTuple fields) ∨
      ∃ lines fields, g.body = .block (lines ++ [.namedTuple fields]) ∧ g.VariablesReadable lines fields := by
  obtain ⟨ls, es, -, -, hf, hb⟩ := collect_eq_ok h
  obtain ⟨rs, hrs, hb⟩ := bodyOf_eq_ok hb
  rw [bodyIn] at hb
  split at hb
  · exact .inl ⟨_, hb⟩
  · refine .inr ⟨_, _, hb, ?_⟩
    have hvars := exists_variables (Names.forIdentifiers value.idents) rs
    rw [fields_of_resolve hrs, ← hf] at hvars
    refine forall₂_of_mem hvars fun f hm field _ hvar => ?_
    obtain ⟨x, v, k, hfield, hv, hx, hn⟩ := hvar
    refine ⟨x, v, hfield, hv, ?_, ?_⟩
    · exact fun hr => hn ((Names.mem_taken_forIdentifiers _ x).mpr (.inl hr))
    · rw [hx]
      exact Names.readsAsName_of_isName (hg f hm) k

end TableGroup

namespace Expr

lemma unflagged_mem_nodes (e : Expr) : e.unflagged ∈ e.nodes := by
  induction e with
  | flagged text inner ih => exact List.mem_cons_of_mem _ ih
  | _ => exact self_mem_nodes _

lemma mem_nodes_of_mem_collectionLines {e line : Expr} (h : line ∈ collectionLines e) : line ∈ e.nodes := by
  refine nodes_subset e.unflagged_mem_nodes ?_
  rw [collectionLines] at h
  cases hu : e.unflagged with
  | block lines | tuple lines =>
    rw [hu] at h
    refine List.mem_cons_of_mem _ ?_
    rw [nodesOf_eq]
    exact List.mem_flatMap.mpr ⟨line, h, line.self_mem_nodes⟩
  | _ =>
    rw [hu] at h
    rw [List.mem_singleton.mp h]
    exact self_mem_nodes _

abbrev QuotesNames (e : Expr) : Prop := e.All fun n => ∀ x, n = .quote x → isName x = true

end Expr

lemma Parse.Makes.quotesNames : Makes fun n => ∀ x, n = .quote x → isName x = true where
  literal := nofun
  quote hx _ he := Expr.quote.inj he ▸ hx
  negated := nofun
  inner := by
    rintro e he x rfl
    cases he

lemma quotesNames_of_parseInvocation {s : String} {inv : Invocation} (h : parseInvocation s = .ok inv) :
    ∀ e ∈ inv.args, e.QuotesNames :=
  (all_of_parseInvocation .quotesNames h).2.1

lemma isName_of_expandArgument {construct : Construct} {config : Config} {arg : Nat} {e : Expr} {g : TableGroup}
    (h : expandArgument construct config arg e = .ok (.group g)) (he : e.QuotesNames) :
    ∀ f ∈ g.fields, isName f.name = true := by
  obtain ⟨a, ha, -, -, hc⟩ := expandArgument_eq_group.mp h
  obtain ⟨ls, es, hl, hes, hf, -⟩ := TableGroup.collect_eq_ok hc
  intro f hm
  rw [hf] at hm
  obtain ⟨entry, hentry, hfield⟩ := List.mem_filterMap.mp hm
  obtain ⟨line, hline, hr, -⟩ := exists_of_mem_right (TableGroup.reads_collectionLines ha hl hes) hentry
  cases entry with
  | statement s => cases hfield
  | field f' value =>
    cases hfield
    obtain ⟨v, hu, -⟩ := hr
    have hq : .quote f.name ∈ line.unflagged.nodes := by simp [hu, Expr.nodes]
    refine he _ ?_ f.name rfl
    exact Expr.nodes_subset (Expr.mem_nodes_of_mem_collectionLines hline)
      (Expr.nodes_subset line.unflagged_mem_nodes hq)

lemma Call.quotesNames_of_mem_lines {config : Config} {inv : Invocation} (h : ∀ e ∈ inv.args, e.QuotesNames)
    {line : Nat × Expr} (hl : line ∈ lines config inv) : line.2.QuotesNames := by
  rw [lines_eq_flatMap] at hl
  obtain ⟨⟨e, n⟩, hm, hl⟩ := List.mem_flatMap.mp hl
  have he := h e (List.fst_mem_of_mem_zipIdx hm)
  rw [linesOf_eq] at hl
  obtain ⟨e', hl', rfl⟩ := List.mem_map.mp hl
  cases hf : config.flattenBlocks with
  | false =>
    rw [hf] at hl'
    exact List.mem_singleton.mp hl' ▸ he
  | true =>
    rw [hf] at hl'
    cases e with
    | block lines => exact (Expr.all_block.mp he).2 e' hl'
    | _ => exact List.mem_singleton.mp hl' ▸ he

/-- No name that is made up is a reserved word. Parameters can be read as identifiers unless the names of their
columns start with a numeral that is no decimal digit, and the variables of the fields of a table collection unless
a number is put behind an exclamation mark. -/
theorem readsAsName_of_expand {s : String} {inv : Invocation} {config : Config} {c : Call}
    (hs : parseInvocation s = .ok inv) (hc : Call.expand config inv = .ok c) :
    (∀ t ∈ c.triples, List.Forall₂ (fun c x => x ∉ Names.reservedWords ∧ (ReadsAsName x ↔ ¬ c.LedByNumeral))
      t.sources t.function.params) ∧
    ∀ line ∈ Call.lines config inv, ∀ g, expandArgument inv.construct config line.1 line.2 = .ok (.group g) →
      (∃ fields, g.body = .namedTuple fields) ∨
        ∃ lines fields, g.body = .block (lines ++ [.namedTuple fields]) ∧ g.VariablesReadable lines fields := by
  refine ⟨fun t ht => ?_, fun line hl g hg => ?_⟩
  · obtain ⟨r, -, hr⟩ := Call.exists_abstracted hc ht
    have hp := r.readsAsName_params
    rwa [← hr] at hp
  · have hq := Call.quotesNames_of_mem_lines (quotesNames_of_parseInvocation hs) hl
    obtain ⟨a, -, -, -, hcollect⟩ := expandArgument_eq_group.mp hg
    exact TableGroup.variablesReadable_of_collect hcollect (isName_of_expandArgument hg hq)

theorem readsAsName_of_expand_superscript :
    let s := "@combine df $\"²x\" + 1 @t begin :a! = :x; a! end"
    let g : TableGroup :=
      ⟨2, [⟨"a!", .columnWise, false⟩],
        .block [.assign (.ident "a!_2") (.column (.symbol "x")), .ident "a!", .namedTuple [("a!", .ident "a!_2")]]⟩
    ∃ inv c, parseInvocation s = .ok inv ∧ Call.expand {} inv = .ok c ∧
      c.triples.map (fun t => (t.sources, t.function.params)) =
        [([.string "²x"], ["²x"]), ([.symbol "x"], ["x"])] ∧ ¬ ReadsAsName "²x" ∧ ReadsAsName "x" ∧
      expandArgument .combine {} 2 (inv.args.getD 1 default) = .ok (.group g) ∧ ¬ ReadsAsName "a!_2" := by
  intro s g
  have hscan : scan s.toList = ([(Token.marker "combine").spaced false, (Token.ident "df").spaced true,
      Token.dollar.spaced true, (Token.str "²x").spaced false, (Token.op "+").spaced true,
      (Token.int 1).spaced true, (Token.marker "t").spaced true, (Token.ident "begin").spaced true,
      (Token.quote "a!").spaced true, (Token.op "=").spaced true, (Token.quote "x").spaced true,
      Token.semicolon.spaced false, (Token.ident "a!").spaced true, (Token.ident "end").spaced true,
      Token.eof.spaced false], none) := by
    decide +kernel
  have hs : parseInvocation s = .ok ⟨.combine, .ident "df", [.apply "+" [.interp (.literal (.str "²x")),
      .literal (.int 1)], .flagged "t" (.block [.assign (.quote "a!") (.quote "x"), .ident "a!"])], []⟩ := by
    rw [parseInvocation, Parse.readInvocation, Parse.Cursor.start, hscan]
    rfl
  have hc : Call.expand {} ⟨.combine, .ident "df", [.apply "+" [.interp (.literal (.str "²x")),
      .literal (.int 1)], .flagged "t" (.block [.assign (.quote "a!") (.quote "x"), .ident "a!"])], []⟩ =
        .ok ⟨.combine, .ident "df", [⟨1, [.string "²x"], ⟨["²x"], .apply "+" [.ident "²x", .literal (.int 1)]⟩,
          some (.generated "²x_plus"), .columnWise, false, false⟩, ⟨2, [.symbol "x"], ⟨["x"], .block [
            .assign (.ident "a!_2") (.ident "x"), .ident "a!", .namedTuple [("a!", .ident "a!_2")]]⟩,
            some .asTable,
          .columnWise, false, false⟩], [], {}⟩ := by
    set_option maxRecDepth 4096 in rfl
  have hg : expandArgument .combine {} 2
      (.flagged "t" (.block [.assign (.quote "a!") (.quote "x"), .ident "a!"])) = .ok (.group g) := rfl
  obtain ⟨hparams, hfields⟩ := readsAsName_of_expand hs hc
  obtain ⟨h₁, h₂⟩ := List.forall_mem_cons.mp hparams
  have hnumeral : Column.LedByNumeral (.string "²x") := ⟨'²', rfl, by decide +kernel⟩
  have hsup : ¬ ReadsAsName "²x" := fun h => (List.forall₂_cons.mp h₁).1.2.mp h hnumeral
  have hplain : ¬ Column.LedByNumeral (.symbol "x") := by
    rintro ⟨d, hd, hn, -⟩
    cases hd
    exact absurd hn (by decide)
  have hx : ReadsAsName "x" := (List.forall₂_cons.mp (h₂ _ List.mem_cons_self)).1.2.mpr hplain
  refine ⟨_, _, hs, hc, rfl, hsup, hx, hg, fun hmark => ?_⟩
  rcases hfields _ (List.mem_cons_of_mem _ List.mem_cons_self) g hg with ⟨fields, hb⟩ | ⟨lines, fields, hb, hv⟩
  · cases hb
  · obtain ⟨-, hlast⟩ := List.append_inj' (Expr.block.inj hb : [_, _] ++ [_] = lines ++ [_]) rfl
    cases hlast
    obtain ⟨x, v, hx, -, -, hread⟩ := (List.forall₂_cons.mp hv).1
    cases hx
    rcases hread.mp hmark with h | h
    · exact absurd h (by decide)
    · exact h rfl

end Tabular
