import Tabular.Proofs.Arguments

namespace Tabular

def Expr.unflagged : Expr → Expr
  | .flagged _ inner => inner.unflagged
  | e => e

lemma Expr.unflagged_unflagged (e : Expr) : e.unflagged.unflagged = e.unflagged := by
  induction e with
  | flagged text inner ih => exact ih
  | _ => rfl

lemma Expr.idents_unflagged (e : Expr) : e.unflagged.idents = e.idents := by
  induction e with
  | flagged text inner ih => exact ih
  | _ => rfl

def collectionLines (e : Expr) : List Expr :=
  match e.unflagged with
  | .block lines => lines
  | .tuple items => items
  | line => [line]

namespace Flags

def outcome : Flags × Option Fault → Except Fault Flags
  | (f, none) => .ok f
  | (_, some fault) => .error fault

lemma outcome_setAll (f : Flags) (text : String) (c : Char) (cs : List Char) :
    outcome (f.setAll text (c :: cs)) = outcome (f.set text c) >>= fun g => outcome (g.setAll text cs) := by
  rw [setAll]
  rcases f.set text c with ⟨g, _ | fault⟩ <;> rfl

lemma stripped_flagged (f : Flags) (text : String) (e : Expr) :
    f.stripped (.flagged text e) = outcome (f.add text) >>= fun g => g.stripped e := by
  rw [stripped, strip]
  rcases f.add text with ⟨g, _ | fault⟩ <;> rfl

lemma joined_eq (f : Flags) (text : String) :
    f.joined text = if text.isEmpty then .ok f else outcome (f.add text) := by
  rw [joined]
  split
  · rfl
  · rcases f.add text with ⟨g, _ | fault⟩ <;> rfl

lemma eq_unflagged {f g : Flags} {e inner : Expr} (h : f.stripped e = .ok (g, inner)) : inner = e.unflagged := by
  induction e generalizing f with
  | flagged text e ih =>
    rw [stripped_flagged] at h
    obtain ⟨f', -, h⟩ := bind_eq_ok.mp h
    exact ih h
  | _ =>
    cases h
    rfl

end Flags

namespace TableGroup

def Line.expr : Line → Expr
  | .field _ _ value => value
  | .statement e => e

def Entry.expr : Entry → Expr
  | .field _ value => value
  | .statement e => e

def Line.Reads (e : Expr) : Line → Prop
  | .field _ sink value => ∃ v, e.unflagged = .assign sink v ∧ value = v.unflagged
  | .statement s => s = e.unflagged ∧ ∀ sink v, s = .assign sink v → sink.isMention = false

def Entry.Reads (e : Expr) : Entry → Prop
  | .field f value => ∃ v, e.unflagged = .assign (.quote f.name) v ∧ value = v.unflagged
  | .statement s => s = e.unflagged ∧ ∀ sink v, s = .assign sink v → sink.isMention = false

def Line.ReadsIn (names : List String) (e : Expr) (line : Line) : Prop :=
  line.Reads e ∧ ∀ x ∈ line.expr.idents, x ∈ names

def Entry.ReadsIn (names : List String) (e : Expr) (entry : Entry) : Prop :=
  entry.Reads e ∧ ∀ x ∈ entry.expr.idents, x ∈ names

variable {group flags : Flags} {e item sink value : Expr} {line : Line}

lemma fieldLine_reads (h : fieldLine group item flags sink value = .ok line)
    (he : e.unflagged = .assign sink value) : line.Reads e := by
  obtain ⟨⟨flags', v⟩, hs, h⟩ := bind_eq_ok.mp h
  dsimp only at h
  split at h
  · cases h
  · obtain ⟨joined, -, h⟩ := bind_eq_ok.mp h
    rw [← pure_eq_ok.mp h]
    exact ⟨value, he, Flags.eq_unflagged hs⟩

lemma statementLine_reads (h : statementLine item flags value = .ok line) (he : value = e.unflagged)
    (hm : ∀ sink v, value = .assign sink v → sink.isMention = false) : line.Reads e := by
  rw [statementLine] at h
  split at h
  · cases h
    exact ⟨he, hm⟩
  · cases h

lemma blockLine_reads (h : blockLine group e = .ok line) : line.Reads e := by
  obtain ⟨⟨flags, inner⟩, hs, h⟩ := bind_eq_ok.mp h
  have hi := Flags.eq_unflagged hs
  cases inner with
  | assign sink value =>
    simp only at h
    split at h
    · exact fieldLine_reads h hi.symm
    next hm =>
      refine statementLine_reads h hi fun s v he => ?_
      cases he
      exact Bool.eq_false_iff.mpr hm
  | _ => exact statementLine_reads h hi fun _ _ he => (nomatch he)

lemma tupleLine_reads (h : tupleLine group e = .ok line) : line.Reads e := by
  obtain ⟨⟨flags, inner⟩, hs, h⟩ := bind_eq_ok.mp h
  cases inner with
  | assign sink value => exact fieldLine_reads h (Flags.eq_unflagged hs).symm
  | _ => cases h

lemma Line.Reads.idents (h : line.Reads e) : ∀ x ∈ line.expr.idents, x ∈ e.idents := by
  intro x hx
  rw [← e.idents_unflagged]
  cases line with
  | field flags sink value =>
    obtain ⟨v, he, rfl⟩ := h
    rw [he, Expr.idents, List.mem_append]
    exact .inr (v.idents_unflagged ▸ hx)
  | statement s =>
    obtain ⟨rfl, -⟩ := h
    exact hx

lemma lines_reads {read : Expr → Except Fault Line} {items : List Expr} {ls : List Line} {names : List String}
    (h : items.mapM read = .ok ls) (hr : ∀ e line, read e = .ok line → line.Reads e)
    (hi : ∀ e ∈ items, ∀ x ∈ e.idents, x ∈ names) :
    List.Forall₂ (Line.ReadsIn names) items ls := by
  refine forall₂_of_mem (mapM_eq_ok.mp h) fun e he line _ hl => ⟨hr e line hl, fun x hx => hi e he x ?_⟩
  exact (hr e line hl).idents x hx

lemma entries_reads {default : Mode} {seen names : List String} {es : List Expr} {ls : List Line}
    {entries' : List Entry}
    (h : entries default seen ls = .ok entries') (hr : List.Forall₂ (Line.ReadsIn names) es ls) :
    List.Forall₂ (Entry.ReadsIn names) es entries' := by
  induction hr generalizing seen entries' with
  | nil =>
    cases h
    exact .nil
  | @cons e line es ls he hr ih =>
    cases line with
    | statement s =>
      obtain ⟨rest, hs, h⟩ := bind_eq_ok.mp h
      exact pure_eq_ok.mp h ▸ .cons he (ih hs)
    | field flags sink value =>
      cases sink with
      | quote name =>
        rw [entries] at h
        split at h
        · cases h
        · obtain ⟨rest, hs, h⟩ := bind_eq_ok.mp h
          exact pure_eq_ok.mp h ▸ .cons he (ih hs)
      | _ => cases h

end TableGroup

lemma Argument.ofExpr_eq_ok {e : Expr} {a : Argument} (h : Argument.ofExpr e = .ok a) :
    (∃ sink v, e.unflagged = .assign sink v ∧ a.sink = some sink ∧ a.value = v.unflagged) ∨
      a.sink = none ∧ a.value = e.unflagged := by
  obtain ⟨⟨flags, inner⟩, hs, h⟩ := bind_eq_ok.mp h
  obtain ⟨⟨sink, value⟩, hsides, h⟩ := bind_eq_ok.mp h
  obtain ⟨⟨flags', value'⟩, hv, h⟩ := bind_eq_ok.mp h
  have ha : a.sink = sink ∧ a.value = value' := by
    dsimp only at h
    split at h
    · cases h
    · rw [← pure_eq_ok.mp h]
      exact ⟨rfl, rfl⟩
  have hi := Flags.eq_unflagged hs
  rw [ha.1, ha.2, Flags.eq_unflagged hv]
  cases inner with
  | assign s v =>
    cases hsides
    exact .inl ⟨_, _, hi.symm, rfl, rfl⟩
  | keyword | pair => cases hsides
  | _ =>
    cases hsides
    exact .inr ⟨rfl, by rw [hi, e.unflagged_unflagged]⟩

lemma TableGroup.collect_eq_ok {arg : Nat} {default : Mode} {flags : Flags} {sink : Option Expr} {value : Expr}
    {g : TableGroup} (h : collect arg default flags sink value = .ok g) :
    ∃ ls es, lines flags sink value = .ok ls ∧
      entries default [] ls = .ok es ∧ g.fields = es.filterMap Entry.field? ∧
      bodyOf (Names.forIdentifiers value.idents) es = .ok g.body := by
  obtain ⟨ls, hls, h⟩ := bind_eq_ok.mp h
  obtain ⟨es, hes, h⟩ := bind_eq_ok.mp h
  dsimp only at h
  split at h
  · cases h
  · obtain ⟨body, hb, h⟩ := bind_eq_ok.mp h
    rw [← pure_eq_ok.mp h]
    exact ⟨ls, es, hls, hes, rfl, hb⟩

lemma TableGroup.reads_collectionLines {e : Expr} {a : Argument} {group : Flags} {default : Mode} {ls : List Line}
    {es : List Entry} (ha : Argument.ofExpr e = .ok a) (hl : lines group a.sink a.value = .ok ls)
    (he : entries default [] ls = .ok es) :
    List.Forall₂ (Entry.ReadsIn a.value.idents) (collectionLines e) es := by
  apply entries_reads he
  rcases Argument.ofExpr_eq_ok ha with ⟨sink, v, hu, hs, hv⟩ | ⟨hs, hv⟩
  · rw [hs] at hl
    cases hl
    rw [collectionLines, hu]
    exact .cons ⟨⟨v, rfl, hv⟩, fun x hx => hx⟩ .nil
  · rw [hs, hv] at hl
    rw [collectionLines, hv]
    cases hu : e.unflagged with
    | block items =>
      rw [hu] at hl
      refine lines_reads hl (fun e line => blockLine_reads) fun e he x hx => ?_
      rw [Expr.idents, Expr.identsOf_eq]
      exact List.mem_flatMap.mpr ⟨e, he, hx⟩
    | tuple items =>
      rw [hu] at hl
      refine lines_reads hl (fun e line => tupleLine_reads) fun e he x hx => ?_
      rw [Expr.idents, Expr.identsOf_eq]
      exact List.mem_flatMap.mpr ⟨e, he, hx⟩
    | _ =>
      rw [hu] at hl
      obtain ⟨line, ht, hl⟩ := bind_eq_ok.mp hl
      have hr := tupleLine_reads ht
      exact pure_eq_ok.mp hl ▸ .cons ⟨hr, hr.idents⟩ .nil

end Tabular
