import Tabular.Proofs.Rounds
import Tabular.Proofs.Scanning

namespace Tabular

open Parse Cursor

namespace Lexer

lemma length_lt_of_token {g : Gap} {c : Char} {cs rest rest' : List Char} {t : Token}
    (hg : gap ⟨false, false⟩ false cs = (g, c :: rest)) (ht : token c rest = .ok (t, rest')) :
    rest'.length < cs.length := by
  have hgap := gap_length ⟨false, false⟩ false cs
  have htoken := token_length ht
  rw [hg, List.length_cons] at hgap
  omega

lemma exists_of_scan_cons {cs : List Char} {l : Lexeme} {ls : List Lexeme} {fault : Option ParseError}
    (h : scan cs = (l :: ls, fault)) (hl : l.token ≠ .eof) :
    ∃ c rest rest', gap ⟨false, false⟩ false cs = (l.gap, c :: rest) ∧ token c rest = .ok (l.token, rest') ∧
      rest'.length < cs.length ∧ scan rest' = (ls, fault) := by
  revert h
  fun_cases scan cs with
  | case1 g hg =>
    intro h
    cases h
    exact absurd rfl hl
  | case2 => nofun
  | case3 g c rest hg t rest' ht lexemes fault' hscan =>
    intro h
    cases h
    exact ⟨c, rest, rest', hg, ht, length_lt_of_token hg ht, hscan⟩

lemma length_scan_le (cs : List Char) : (scan cs).1.length ≤ cs.length + 1 := by
  fun_induction scan cs with
  | case1 => simp
  | case2 => simp
  | case3 cs g c rest hg t rest' ht lexemes fault hscan ih =>
    have hlt := length_lt_of_token hg ht
    rw [hscan] at ih
    simp only [List.length_cons] at ih ⊢
    omega

end Lexer

lemma Parse.Cursor.remaining_start {s : String} {depth : Nat} {c : Cursor} (h : Cursor.start s depth = .ok c) :
    c.remaining ≤ s.length + 1 := by
  have hlen := Lexer.length_scan_le s.toList
  rw [(start_eq_ok h).1, String.length_toList, List.length_cons] at hlen
  rw [remaining]
  split <;> omega

namespace Parse

lemma Cursor.remaining_advance_le {c d : Cursor} (h : c.advance = .ok d) : d.remaining ≤ c.remaining :=
  Nat.le_trans (remaining_advance h) (Nat.le_add_right _ _)

lemma Cursor.Sane.skip {c d : Cursor} {t : Token} (hc : c.Sane) (h : c.skip t = .ok d) :
    d.Sane ∧ d.remaining ≤ c.remaining := by
  obtain h | rfl := skip_eq_ok h
  · exact ⟨hc.advance h, remaining_advance_le h⟩
  · exact ⟨hc, Nat.le_refl _⟩

lemma suffices_argumentsToEnd {n : Nat} {c : Cursor} (hc : c.Sane) (h : 8 * c.remaining + 6 ≤ n) :
    Suffices (argumentsToEnd n c) := by
  induction n generalizing c with
  | zero => omega
  | succ n ih =>
    rw [argumentsToEnd]
    split
    · exact .ok _
    · refine ((ample n).argument hc (by omega)).bind ?_
      rintro ⟨e, c₁⟩ h₁
      obtain ⟨hc₁, hr₁⟩ := argument_consumes hc h₁
      exact (ih hc₁ (by omega)).bind fun _ _ => .pure _

lemma suffices_start (s : String) (depth : Nat) : Suffices (Cursor.start s depth) := by
  have hf := fault_scan s.toList
  rw [Cursor.start]
  split
  · exact .ok _
  next fault hs =>
    rw [hs] at hf
    cases fault with
    | none => simp [Suffices]
    | some e => simpa [Suffices] using hf

lemma suffices_finish (c : Cursor) : Suffices c.finish := by
  rw [Cursor.finish]
  split
  · exact .ok _
  · exact .unexpected c _

lemma suffices_ofName (name : String) : Suffices (Construct.ofName name) := by
  unfold Construct.ofName
  dsimp only
  split <;> simp [Suffices]

def Enough (b : Cursor → Nat) (s : String) : Prop := ∀ c, c.remaining ≤ s.length + 1 → 8 * c.remaining + 8 ≤ b c

lemma enough_budget (s : String) : Enough Cursor.budget s := fun c _ => budget_ample c

lemma enough_of_le {s : String} {n : Nat} (hn : 8 * (s.length + 2) ≤ n) : Enough (fun _ => n) s := by
  intro c hc
  dsimp only
  omega

section Texts

variable {b : Cursor → Nat} {s : String} (hb : Enough b s)
include hb

lemma suffices_readExpr : Suffices (readExpr b s) := by
  refine (suffices_start s 0).bind fun c hc => ?_
  have hn := hb c (remaining_start hc)
  refine ((ample _).argument (sane_of_start hc) (by omega)).bind fun p _ => ?_
  exact (suffices_finish p.2).bind fun _ _ => .ok _

lemma suffices_readArgs : Suffices (readArgs b s) := by
  refine (suffices_start s 1).bind fun c hc => ?_
  have hn := hb c (remaining_start hc)
  refine ((ample _).arguments (sane_of_start hc) (by omega) _ _ _).bind fun p _ => ?_
  exact (suffices_finish p.2).bind fun _ _ => .ok _

section Invocations

variable {c : Cursor} (hc : c.Sane) (hs : c.remaining ≤ s.length + 1) (construct : Construct)
include hc hs

lemma suffices_readBracketed (ht : c.token = .openParen) : Suffices (readBracketed b construct c) := by
  refine (Suffices.enter hc).bind fun c₁ h₁ => ?_
  obtain ⟨hc₁, hr₁⟩ := hc.enter h₁ (by simp [ht])
  have hn₁ := hb c₁ (by omega)
  refine ((ample _).infixExpression hc₁ (by omega) 0).bind ?_
  rintro ⟨table, c₂⟩ h₂
  obtain ⟨hc₂, hr₂⟩ := infixExpression_consumes hc₁ h₂
  refine (Suffices.skip hc₂ _).bind fun c₃ h₃ => ?_
  obtain ⟨hc₃, hr₃⟩ := hc₂.skip h₃
  have hn₃ := hb c₃ (by omega)
  refine ((ample _).arguments hc₃ (by omega) _ _ _).bind ?_
  rintro ⟨as, c₄⟩ h₄
  obtain ⟨hc₄, -⟩ := arguments_consumes hc₃ (by simp) h₄
  exact (Suffices.leave hc₄ _).bind fun _ _ => .ok _

lemma suffices_readSpaced : Suffices (readSpaced b construct c) := by
  have hn := hb c hs
  refine ((ample _).infixExpression hc (by omega) 0).bind ?_
  rintro ⟨table, c₁⟩ h₁
  obtain ⟨hc₁, hr₁⟩ := infixExpression_consumes hc h₁
  have hn₁ := hb c₁ (by omega)
  exact (suffices_argumentsToEnd hc₁ (by omega)).bind fun _ _ => .ok _

end Invocations

lemma suffices_readInvocation : Suffices (readInvocation b s) := by
  refine (suffices_start s 0).bind fun head hhead => ?_
  have hsane := sane_of_start hhead
  refine (Suffices.advance hsane).bind fun c hc => ?_
  have hr := Nat.le_trans (remaining_advance_le hc) (remaining_start hhead)
  have hfinish (inv : Invocation) (c : Cursor) : Suffices (do c.finish; return inv) :=
    (suffices_finish c).bind fun _ _ => .ok _
  cases head.token with
  | marker name =>
    refine (suffices_ofName name).bind fun construct _ => ?_
    dsimp only
    split
    next ho =>
      exact (suffices_readBracketed hb (hsane.advance hc) hr construct ho.1).bind fun p _ => hfinish p.1 p.2
    next => exact (suffices_readSpaced hb (hsane.advance hc) hr construct).bind fun p _ => hfinish p.1 p.2
  | _ => simp [Suffices]

end Texts

def exprWithin (n : Nat) (s : String) : Except ParseError Expr := readExpr (fun _ => n) s

def argsWithin (n : Nat) (s : String) : Except ParseError Arguments := readArgs (fun _ => n) s

def invocationWithin (n : Nat) (s : String) : Except ParseError Invocation := readInvocation (fun _ => n) s

/-- Every text is read to an end: each lexeme takes up some of the text, no call that succeeds and no round
of a loop that goes on leaves the reader where it was, and from a linear bound on every number of steps
gives the same. -/
theorem reading_terminates :
    (∀ s, Suffices (parseExpr s) ∧ Suffices (parseArgs s) ∧ Suffices (parseInvocation s)) ∧
      (∀ cs l ls fault, Lexer.scan cs = (l :: ls, fault) → l.token ≠ .eof → ∃ c rest rest',
        Lexer.gap ⟨false, false⟩ false cs = (l.gap, c :: rest) ∧ Lexer.token c rest = .ok (l.token, rest') ∧
          rest'.length < cs.length ∧ Lexer.scan rest' = (ls, fault)) ∧
      (∀ n, Consumes n) ∧ AllLoops ∧
      ∀ s n, 8 * (s.length + 2) ≤ n →
        exprWithin n s = parseExpr s ∧ argsWithin n s = parseArgs s ∧
        invocationWithin n s = parseInvocation s := by
  refine ⟨fun s => ?_, fun cs l ls fault => Lexer.exists_of_scan_cons, consumes, allLoops, fun s n hn => ?_⟩
  all_goals have hb := enough_budget s
  · exact ⟨suffices_readExpr hb, suffices_readArgs hb, suffices_readInvocation hb⟩
  · have hle := enough_of_le hn
    exact ⟨Grows.eq_of_suffices (f := (readExpr · s)) (fun h => Grows.lockstep.readExpr (fun c => steady (h c)) s)
        (suffices_readExpr hle) (suffices_readExpr hb),
      Grows.eq_of_suffices (f := (readArgs · s)) (fun h => Grows.lockstep.readArgs (fun c => steady (h c)) s)
        (suffices_readArgs hle) (suffices_readArgs hb),
      Grows.eq_of_suffices (f := (readInvocation · s))
        (fun h => Grows.lockstep.readInvocation (fun c => steady (h c)) s) (suffices_readInvocation hle)
        (suffices_readInvocation hb)⟩

theorem reading_terminates_stray_parenthesis : ∃ c caret plus : Cursor,
    Cursor.start "x ^ 2 + )" 0 = .ok c ∧
      (primary 1 c = .ok (.ident "x", caret) ∧ c.Passes caret) ∧
      (infixRound 8 0 (.ident "x", caret) = .ok (.again (.apply "^" [.ident "x", .literal (.int 2)], plus) id) ∧
        caret.Passes plus) ∧
      (8 * ("x ^ 2 + )".length + 2) ≤ 88 ∧ exprWithin 88 "x ^ 2 + )" = parseExpr "x ^ 2 + )") ∧
      parseExpr "x ^ 2 + )" = .error (.expected "expression" "RParen") := by
  let plus : Cursor := ⟨⟨.op "+", ⟨true, false⟩⟩, [⟨.closeParen, ⟨true, false⟩⟩, ⟨.eof, ⟨false, false⟩⟩], none, 0⟩
  let caret : Cursor := ⟨⟨.op "^", ⟨true, false⟩⟩, ⟨.int 2, ⟨true, false⟩⟩ :: plus.current :: plus.rest, none, 0⟩
  let c : Cursor := ⟨⟨.ident "x", ⟨false, false⟩⟩, caret.current :: caret.rest, none, 0⟩
  have hscan : Lexer.scan "x ^ 2 + )".toList = (c.current :: c.rest, none) := by
    simp only [String.reduceToList]
    repeat' first | exact Lexer.scan_end rfl | apply Lexer.scan_cons rfl rfl
  have hstart : Cursor.start "x ^ 2 + )" 0 = .ok c := by rw [Cursor.start, hscan]
  have hparse : parseExpr "x ^ 2 + )" = .error (.expected "expression" "RParen") := by
    rw [parseExpr, readExpr, hstart]
    rfl
  have hx : primary 1 c = .ok (.ident "x", caret) := rfl
  have hpower : infixRound 8 0 (.ident "x", caret) =
      .ok (.again (.apply "^" [.ident "x", .literal (.int 2)], plus) id) := rfl
  obtain ⟨-, -, hconsumes, hloops, hlinear⟩ := reading_terminates
  exact ⟨c, caret, plus, hstart, ⟨hx, (hconsumes 1).primary hx⟩, ⟨hpower, (hloops.infixTail 0).passes hpower⟩,
    ⟨by decide, (hlinear _ 88 (by decide)).1⟩, hparse⟩

end Parse

end Tabular
