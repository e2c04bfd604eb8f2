import Tabular.Proofs.SinkNames

/-!
Invocations are expanded line by line: what a line becomes does not depend on the lines beside it, except for the
number behind a name that is made up for its sink.
-/

namespace Tabular

def Expr.topLines : Expr → List Expr
  | block lines => lines
  | e => [e]

def Invocation.topLines (inv : Invocation) : List (Nat × Expr) :=
  (inv.args.zipIdx 1).flatMap fun arg => arg.1.topLines.map fun line => (arg.2, line)

namespace Call

lemma linesOf_eq (flatten : Bool) (arg : Nat) (e : Expr) :
    linesOf flatten arg e = (if flatten then e.topLines else [e]).map fun line => (arg, line) := by
  cases flatten with
  | false => rfl
  | true => cases e <;> rfl

lemma lines_eq_flatMap (config : Config) (inv : Invocation) : lines config inv =
    (inv.args.zipIdx 1).flatMap fun arg => linesOf config.flattenBlocks arg.2 arg.1 := by
  have hl (es : List Expr) (n : Nat) : linesFrom config.flattenBlocks n es =
      (es.zipIdx n).flatMap fun arg => linesOf config.flattenBlocks arg.2 arg.1 := by
    induction es generalizing n with
    | nil => rfl
    | cons e es ih => rw [linesFrom_cons, ih, List.zipIdx_cons, List.flatMap_cons]
  exact hl inv.args 1

lemma lines_eq_topLines {config : Config} (hf : config.flattenBlocks = true) (inv : Invocation) :
    lines config inv = inv.topLines := by
  simp only [lines_eq_flatMap, linesOf_eq, hf, if_true, Invocation.topLines]

end Call

def Expansion.withArg (arg : Nat) : Expansion → Expansion
  | triple t => triple { t with arg }
  | group g => group { g with arg }

def relocated (arg : Nat) : Except ArgumentError Triple → Except ArgumentError Triple
  | .ok t => .ok { t with arg }
  | .error err => .error { err with arg }

lemma Expansion.toTriple_withArg (arg : Nat) (x : Expansion) :
    (x.withArg arg).toTriple = relocated arg x.toTriple := by
  cases x with
  | triple t => rfl
  | group g =>
    simp only [withArg, toTriple, TableGroup.toTriple]
    cases g.fields with
    | nil => rfl
    | cons first rest =>
      dsimp only
      cases TableGroup.uniform first rest <;> rfl

variable (construct : Construct) (config : Config) (arg : Nat)

lemma Argument.toTriple_withArg (a : Argument) : a.toTriple construct config arg =
    (a.toTriple construct config 1).map fun t => { t with arg } := by
  simp only [toTriple]
  cases explicitSink construct config a.sink with
  | error fault => rfl
  | ok sink => cases a.value.resolve <;> rfl

lemma TableGroup.collect_withArg (mode : Mode) (flags : Flags) (sink : Option Expr) (value : Expr) :
    collect arg mode flags sink value = (collect 1 mode flags sink value).map fun g => { g with arg } := by
  simp only [collect]
  cases lines flags sink value with
  | error fault => rfl
  | ok ls =>
    dsimp only [bind, Except.bind]
    cases entries mode [] ls with
    | error fault => rfl
    | ok es =>
      dsimp only
      split
      · rfl
      · cases bodyOf (Names.forIdentifiers value.idents) es <;> rfl

lemma Argument.expansion_withArg (e : Expr) :
    expansion construct config arg e = (expansion construct config 1 e).map (Expansion.withArg arg) := by
  simp only [expansion]
  cases ofExpr e with
  | error fault => rfl
  | ok a =>
    dsimp only [bind, Except.bind]
    split
    · split
      · rw [TableGroup.collect_withArg]
        cases TableGroup.collect 1 construct.defaultMode a.flags a.sink a.value <;> rfl
      · rfl
    · rw [toTriple_withArg]
      cases a.toTriple construct config 1 <;> rfl

namespace Call

lemma lineTriple_relocated (e : Expr) :
    lineTriple construct config (arg, e) = relocated arg (lineTriple construct config (1, e)) := by
  simp only [lineTriple, expandArgument, Argument.expansion_withArg construct config arg]
  cases Argument.expansion construct config 1 e with
  | error fault => rfl
  | ok x => exact x.toTriple_withArg arg

lemma lineTriple_flattenBlocks (flatten : Bool) (line : Nat × Expr) :
    lineTriple construct { config with flattenBlocks := flatten } line = lineTriple construct config line := rfl

variable {construct config} {inv : Invocation} {line : Nat × Expr} {t : Triple} {err : ArgumentError}

lemma lineTriple_eq_ok (h : lineTriple construct config line = .ok t) :
    ∃ u, lineTriple construct config (1, line.2) = .ok u ∧ t = { u with arg := line.1 } := by
  rw [lineTriple_relocated] at h
  cases hu : lineTriple construct config (1, line.2) with
  | error err =>
    rw [hu] at h
    cases h
  | ok u =>
    rw [hu] at h
    cases h
    exact ⟨u, rfl, rfl⟩

lemma lineTriple_of_alone {e : Expr} (h : lineTriple construct config (1, e) = .ok t) (arg : Nat) :
    lineTriple construct config (arg, e) = .ok { t with arg } := by
  rw [lineTriple_relocated, h]
  rfl

lemma lineTriple_eq_error (h : lineTriple construct config line = .error err) :
    lineTriple construct config (1, line.2) = .error { err with arg := 1 } ∧ err.arg = line.1 := by
  -- the first argument is where its errors are said to be
  have h1 : lineTriple construct config (1, line.2) = relocated 1 (lineTriple construct config (1, line.2)) :=
    lineTriple_relocated construct config 1 line.2
  rw [lineTriple_relocated] at h
  cases hu : lineTriple construct config (1, line.2) with
  | ok u =>
    rw [hu] at h
    cases h
  | error err' =>
    rw [hu] at h h1
    cases h
    exact ⟨h1, rfl⟩

lemma exists_of_expand_eq_error (h : expand config inv = .error err) :
    ∃ line ∈ lines config inv, lineTriple inv.construct config line = .error err := by
  rcases bind_eq_error.mp h with hxs | ⟨xs, hxs, h⟩
  · obtain ⟨line, hl, hx⟩ := exists_of_mapM_eq_error hxs
    exact ⟨line, hl, bind_eq_error.mpr (.inl hx)⟩
  · rcases bind_eq_error.mp h with hts | ⟨ts, -, h⟩
    · obtain ⟨x, hx, ht⟩ := exists_of_mapM_eq_error hts
      obtain ⟨line, hl, hline⟩ := exists_of_mem_right (mapM_eq_ok.mp hxs) hx
      exact ⟨line, hl, bind_eq_error.mpr (.inr ⟨x, hline, ht⟩)⟩
    · cases h

def expandAlone (config : Config) (inv : Invocation) (e : Expr) : Except ArgumentError Call :=
  expand { config with flattenBlocks := false } { inv with args := [e] }

lemma nameSinks_single (t : Triple) : nameSinks (Names.avoiding (explicitNames [t])) [t] = [t] := by
  rcases generated_or_not t with ⟨base, hb⟩ | hn
  · have hx : explicitNames [t] = [] := by simp [explicitNames, hb]
    have hfree : (Names.avoiding []).free base = base := by
      rcases (Names.avoiding []).isFirst_free base with ⟨-, h⟩ | ⟨h, -⟩
      · exact h
      · exact absurd h List.not_mem_nil
    rw [hx, nameSinks_of_some hb, hfree, ← hb]
    rfl
  · rw [nameSinks_of_none hn]
    rfl

lemma expandAlone_eq_ok {e : Expr} {d : Call} : expandAlone config inv e = .ok d ↔
    ∃ t, lineTriple inv.construct config (1, e) = .ok t ∧
      ⟨inv.construct, inv.table, [t], inv.kwargs, { config with flattenBlocks := false }⟩ = d := by
  have hl : lines { config with flattenBlocks := false } { inv with args := [e] } = [(1, e)] := rfl
  simp only [expandAlone, expand_eq_ok_iff, hl, lineTriple_flattenBlocks, List.forall₂_cons_left_iff,
    List.forall₂_nil_left_iff]
  constructor
  · rintro ⟨_, ⟨t, _, ht, rfl, rfl⟩, hd⟩
    exact ⟨t, ht, by rwa [nameSinks_single] at hd⟩
  · rintro ⟨t, ht, hd⟩
    exact ⟨[t], ⟨t, [], ht, rfl, rfl⟩, by rwa [nameSinks_single]⟩

lemma expandAlone_eq_error {e : Expr} (h : lineTriple inv.construct config (1, e) = .error err) :
    expandAlone config inv e = .error err := by
  cases hd : expandAlone config inv e with
  | ok d =>
    obtain ⟨t, ht, -⟩ := expandAlone_eq_ok.mp hd
    cases h.symm.trans ht
  | error err' =>
    obtain ⟨line, hl, he⟩ := exists_of_expand_eq_error hd
    rw [List.mem_singleton.mp hl] at he
    rw [Except.error.inj (he.symm.trans h)]

def Numbered (s s' : Option Sink) : Prop :=
  s' = s ∨ ∃ base k, 2 ≤ k ∧ s = some (.generated base) ∧ s' = some (.generated (base ++ "_" ++ k.repr))

lemma numbered_nameSinks (names : Names) (ts : List Triple) :
    List.Forall₂ (fun t t' => t' = { t with sink := t'.sink } ∧ Numbered t.sink t'.sink) ts
      (nameSinks names ts) := by
  induction ts generalizing names with
  | nil => exact .nil
  | cons t ts ih =>
    rcases generated_or_not t with ⟨base, hb⟩ | hn
    · rw [nameSinks_of_some hb]
      refine .cons ⟨rfl, ?_⟩ (ih _)
      rcases names.isFirst_free base with ⟨-, h⟩ | ⟨-, k, hk, h, -⟩
      · exact .inl (by rw [h, hb])
      · exact .inr ⟨base, k, hk, hb, by rw [h]⟩
    · rw [nameSinks_of_none hn]
      exact .cons ⟨rfl, .inl rfl⟩ (ih _)

end Call

theorem expand_line_by_line (config : Config) (hf : config.flattenBlocks = true) (inv : Invocation) :
    ((∃ c, Call.expand config inv = .ok c) ↔
      ∀ line ∈ inv.topLines, ∃ d, Call.expandAlone config inv line.2 = .ok d) ∧
    (∀ c, Call.expand config inv = .ok c →
      c.construct = inv.construct ∧ c.table = inv.table ∧ c.kwargs = inv.kwargs ∧
      List.Forall₂ (fun line t => ∃ d u, Call.expandAlone config inv line.2 = .ok d ∧ d.triples = [u] ∧
        t = { u with arg := line.1, sink := t.sink } ∧ Call.Numbered u.sink t.sink) inv.topLines c.triples) ∧
    (∀ err, Call.expand config inv = .error err → ∃ line ∈ inv.topLines, err.arg = line.1 ∧
      Call.expandAlone config inv line.2 = .error { err with arg := 1 }) := by
  rw [← Call.lines_eq_topLines hf]
  refine ⟨⟨?_, fun h => ?_⟩, ?_, fun err h => ?_⟩
  · rintro ⟨c, h⟩ line hl
    obtain ⟨ts, hts, -⟩ := Call.expand_eq_ok_iff.mp h
    obtain ⟨t, -, ht⟩ := exists_of_mem_right hts.flip hl
    obtain ⟨u, hu, -⟩ := Call.lineTriple_eq_ok ht
    exact ⟨_, Call.expandAlone_eq_ok.mpr ⟨u, hu, rfl⟩⟩
  · cases hc : Call.expand config inv with
    | ok c => exact ⟨c, rfl⟩
    | error err =>
      obtain ⟨line, hl, he⟩ := Call.exists_of_expand_eq_error hc
      obtain ⟨d, hd⟩ := h line hl
      rw [Call.expandAlone_eq_error (Call.lineTriple_eq_error he).1] at hd
      cases hd
  · intro c h
    obtain ⟨ts, hts, rfl⟩ := Call.expand_eq_ok_iff.mp h
    refine ⟨rfl, rfl, rfl, (forall₂_comp hts (Call.numbered_nameSinks _ ts)).imp ?_⟩
    rintro line t' ⟨t, ht, hnamed, hsink⟩
    obtain ⟨u, hu, rfl⟩ := Call.lineTriple_eq_ok ht
    exact ⟨_, u, Call.expandAlone_eq_ok.mpr ⟨u, hu, rfl⟩, rfl, hnamed, hsink⟩
  · obtain ⟨line, hl, he⟩ := Call.exists_of_expand_eq_error h
    obtain ⟨halone, harg⟩ := Call.lineTriple_eq_error he
    exact ⟨line, hl, harg, Call.expandAlone_eq_error halone⟩

theorem expand_line_by_line_of_block :
    let inv : Invocation := ⟨.transform, .ident "df", [.apply "+" [.quote "x", .literal (.int 1)],
      .block [.assign (.quote "a") (.quote "y"), .apply "+" [.quote "x", .literal (.int 2)]]],
      [("copy", .literal (.bool true))]⟩
    ({} : Config).flattenBlocks = true ∧ ∃ c t d u, Call.expand {} inv = .ok c ∧ c.triples[2]? = some t ∧
      Call.expandAlone {} inv (.apply "+" [.quote "x", .literal (.int 2)]) = .ok d ∧ d.triples = [u] ∧
      t = { u with arg := 2, sink := some (.generated "x_plus_2") } ∧
      Call.Numbered u.sink (some (.generated "x_plus_2")) := by
  intro inv
  have h : Call.expand {} inv = .ok ⟨.transform, .ident "df",
      [⟨1, [.symbol "x"], ⟨["x"], .apply "+" [.ident "x", .literal (.int 1)]⟩,
          some (.generated "x_plus"), .rowWise, false, false⟩,
        ⟨2, [.symbol "y"], ⟨["y"], .ident "y"⟩, some (.column (.symbol "a")), .rowWise, false, true⟩,
        ⟨2, [.symbol "x"], ⟨["x"], .apply "+" [.ident "x", .literal (.int 2)]⟩,
          some (.generated "x_plus_2"), .rowWise, false, false⟩], [("copy", .literal (.bool true))], {}⟩ := rfl
  obtain ⟨-, hok, -⟩ := expand_line_by_line {} rfl inv
  obtain ⟨-, -, -, hlines⟩ := hok _ h
  obtain ⟨d, u, hd, hu, ht, hs⟩ := hlines.get (i := 2) (by decide) (by decide)
  exact ⟨rfl, _, _, d, u, h, rfl, hd, hu, ht, hs⟩

end Tabular
