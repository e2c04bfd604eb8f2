import Tabular.Proofs.LineBreaks

namespace Tabular

open Lexer Operator Parse Cursor

section Gaps

def regap (g : Gap) : List Lexeme → List Lexeme
  | [] => []
  | l :: ts => ⟨l.token, g⟩ :: ts

variable {g : Gap} {ts : List Lexeme}

lemma regap_append {q : Lexeme → Prop} (h : ∃ l us, ts = l :: us ∧ q l) (vs : List Lexeme) :
    regap g (ts ++ vs) = regap g ts ++ vs := by
  obtain ⟨l, us, rfl, -⟩ := h
  rfl

lemma Parse.HeadNot.regap {p : Token → Prop} (h : HeadNot p ts) : HeadNot p (regap g ts) := by
  cases ts with
  | nil => exact h
  | cons l ts => simpa [HeadNot, Tabular.regap] using h

lemma Parse.Reads.regap {b : Bool} {p : Phrase} (h : Reads b p ts) : Reads b p (regap g ts) := by
  induction h with
  | flagged hl hr => exact .flagged hl hr
  | plain _ hn ih => exact .plain ih hn.regap
  | assigned hr hn hpos hl hv ih =>
    rw [regap_append hr.heads]
    exact .assigned ih hn.regap hpos hl hv
  | single _ ih => exact .single ih
  | infixed hl hop hmin hlt hr he ih =>
    rw [regap_append hl.heads]
    exact .infixed ih hop hmin hlt hr he
  | signed hl hu hr => exact .signed hl hu hr
  | unsigned _ ih => exact .unsigned ih
  | bare _ ih => exact .bare ih
  | called hf hpos hl hsp has hr ih =>
    rw [regap_append hf.heads]
    exact .called ih hpos hl hsp has hr
  | indexed hf hpos hl hsp has hr ih =>
    rw [regap_append hf.heads]
    exact .indexed ih hpos hl hsp has hr
  | field hf hpos hl hsp hm ih =>
    rw [regap_append hf.heads]
    exact .field ih hpos hl hsp hm
  | atom h => exact .atom h
  | block hl hr => exact .block hl hr
  | hole hl hr hn => exact .hole hl hr hn
  | wideHole hl hm hr hr' => exact .wideHole hl hm hr hr'
  | marked hl hr => exact .marked hl hr
  | unit hl hm hr => exact .unit hl hm hr
  | tuple hl hi hr => exact .tuple hl hi hr
  | vector hl hi hr => exact .vector hl hi hr
  | noLines hl => exact .noLines hl
  | skip hl hr => exact .skip hl hr
  | line hr hn hstop hends hrs ih =>
    rw [regap_append hr.heads]
    exact .line ih hn.regap hstop hends hrs
  | listedNil => exact .listedNil
  | listedLast _ ih => exact .listedLast ih
  | listedCons hr hl hrs ih =>
    rw [regap_append hr.heads]
    exact .listedCons ih hl hrs
  | argumentsNil => exact .argumentsNil
  | argumentsKeywords hl hr => exact .argumentsKeywords hl hr
  | argumentsLast _ ha ih => exact .argumentsLast ih ha
  | argumentsCons hr ha hl hrs ih =>
    rw [regap_append hr.heads]
    exact .argumentsCons ih ha hl hrs
  | argumentsThenKeywords hr ha hl hrs ih =>
    rw [regap_append hr.heads]
    exact .argumentsThenKeywords ih ha hl hrs

end Gaps

section Enclosing

lemma Lexer.scan_enclosed {cs : List Char} {ts : List Lexeme} {g : Gap} (h : scan cs = (ts ++ [⟨.eof, g⟩], none)) :
    ∃ g' r, r.token = .closeParen ∧
      scan (' ' :: (cs ++ ['\n', ')'])) = (regap g' ts ++ [r, Token.eof.spaced false], none) := by
  have hclose : scan ['\n', ')'] = ([⟨.closeParen, ⟨true, true⟩⟩, Token.eof.spaced false], none) :=
    scan_cons rfl rfl scan_nil
  have hall := scan_break [')'] h
  rw [hclose] at hall
  -- the blank shows before the parenthesis if no lexeme stands in front of that
  cases ts with
  | nil => exact ⟨⟨true, true⟩, _, rfl, scan_blank hall⟩
  | cons l ts => exact ⟨_, _, rfl, scan_blank hall⟩

lemma Lexer.scan_head {name : String} (h : isFlagText name = true) (cs : List Char) :
    scan (("@" ++ name ++ "(df,").toList ++ cs) =
      prepend [(Token.marker name).spaced false, Token.openParen.spaced false, (Token.ident "df").spaced false,
        Token.comma.spaced false] (scan cs) := by
  have htext : ("@" ++ name ++ "(df,").toList ++ cs =
      ("@" ++ name).toList ++ '(' :: ("df".toList ++ ',' :: cs) := by
    simp
  have hmarker : scan (("@" ++ name).toList ++ '(' :: ("df".toList ++ ',' :: cs)) = prepend _ (scan _) :=
    scan_marker false rfl h
  have hopen : scan ('(' :: ("df".toList ++ ',' :: cs)) = prepend _ (scan _) := scan_single rfl false _
  have htable : scan ("df".toList ++ ',' :: cs) = prepend _ (scan _) := scan_ident (s := "df") false rfl rfl
  have hcomma : scan (',' :: cs) = prepend _ (scan _) := scan_single rfl false cs
  rw [htext, hmarker, hopen, htable, hcomma]
  simp only [prepend_prepend]
  rfl

end Enclosing

theorem reads_of_parseArgs {s : String} {as : Arguments} (h : parseArgs s = .ok as) :
    ∃ ts g, scan s.toList = (ts ++ [⟨.eof, g⟩], none) ∧ Reads true (.arguments false false as) ts := by
  obtain ⟨c, hc, h⟩ := bind_eq_ok.mp h
  obtain ⟨⟨as', d⟩, ha, h⟩ := bind_eq_ok.mp h
  obtain ⟨u, hfin, h⟩ := bind_eq_ok.mp h
  cases h
  obtain ⟨ts, hs, hr, -⟩ := (sound c.budget).arguments ha (by simp)
  obtain ⟨⟨g, hscan⟩, -⟩ := hs.scan_eq hc hr.ne_eof hfin
  rw [Cursor.inside, (Cursor.start_eq_ok hc).2] at hr
  exact ⟨ts, g, hscan, hr⟩

lemma readBracketed_of_reads (construct : Construct) {c d : Cursor} {table : Expr} {as : Arguments} {limit : Nat}
    {l m r : Lexeme} {ts us : List Lexeme} (hc : c.Sane) (hs : Skips (l :: ((ts ++ m :: us) ++ [r])) c d)
    (htable : Reads true (.joined 0 limit table) ts) (hm : m.token = .comma)
    (has : Reads true (.arguments false false as) us) (hr : r.token = .closeParen) :
    readBracketed Cursor.budget construct c = .ok (⟨construct, table, as.positional, as.keywords⟩, d) := by
  obtain ⟨c₁, c₂, henter, hin, hs, hclose, hleave⟩ := hs.brackets hr
  obtain ⟨c₃, hs₁, rfl, c₄, hadv, hs₂⟩ := hs.split
  have hcomma : c₃.token = .comma := hm
  have hsane : c₁.Sane := by
    obtain ⟨c', hc', rfl⟩ := enter_eq_ok henter
    exact (hc.advance hc').withDepth _
  have hsane₃ : c₃.Sane := (htable.consumes_or hs₁ hsane).1
  have hin₄ : c₄.inside = true := (Skips.single hadv).inside.trans (hs₁.inside.trans hin)
  have hstop : Stops true (Nat.min 0 limit) c₃.current := stops_of_closes (by rw [hm]; rfl) _
  obtain ⟨n, hn⟩ := yields_infixExpression (accepted htable) hin hs₁ hstop
  obtain ⟨k, hk⟩ := accepted has hin₄ hs₂ hclose
  have htab := infixExpression_budget hsane hn
  have harg := arguments_budget (hsane₃.advance hadv) hk
  have hskip : c₃.skip .comma = .ok c₄ := (if_pos hcomma).trans hadv
  simp only [readBracketed, liftM_eq, henter, ok_bind, htab, hskip, harg, Reading.leave_eq, hleave, ok_pure]

lemma Construct.ofName_operation (construct : Construct) : ofName construct.operation = .ok construct := by
  cases construct <;> rfl

lemma Construct.isFlagText_operation (construct : Construct) : isFlagText construct.operation = true := by
  cases construct <;> rfl

theorem parseInvocation_of_parseArgs {s : String} {as : Arguments} (h : parseArgs s = .ok as)
    (construct : Construct) : parseInvocation ("@" ++ construct.operation ++ "(df, " ++ s ++ "\n)") =
      .ok ⟨construct, .ident "df", as.positional, as.keywords⟩ := by
  obtain ⟨ts, g, hscan, has⟩ := reads_of_parseArgs h
  obtain ⟨g', r, hr, hbody⟩ := scan_enclosed hscan
  have hall : scan ("@" ++ construct.operation ++ "(df, " ++ s ++ "\n)").toList =
      ((Token.marker construct.operation).spaced false :: Token.openParen.spaced false ::
        (([(Token.ident "df").spaced false] ++ Token.comma.spaced false :: regap g' ts) ++ [r]) ++
          [Token.eof.spaced false], none) := by
    have htext : ("@" ++ construct.operation ++ "(df, " ++ s ++ "\n)").toList =
        ("@" ++ construct.operation ++ "(df,").toList ++ ' ' :: (s.toList ++ ['\n', ')']) := by simp
    rw [htext, scan_head construct.isFlagText_operation, hbody]
    simp [prepend]
  obtain ⟨head, hstart, hhead, c, hadv, hs⟩ := exists_start hall 0
  have htable : Reads true (.joined 0 atomLevel (.ident "df")) [(Token.ident "df").spaced false] :=
    .single (.unsigned (.bare (.atom rfl)))
  have hinv := readBracketed_of_reads construct ((sane_of_start hstart).advance hadv) hs htable rfl has.regap hr
  have hmarker : head.token = .marker construct.operation := congrArg Lexeme.token hhead
  have hopen : c.token = .openParen ∧ ¬ c.current.gap.space := by
    rw [Cursor.token, show c.current = _ from hs.1]
    exact ⟨rfl, Bool.false_ne_true⟩
  have hfin : Cursor.finish ⟨Token.eof.spaced false, [], none, 0⟩ = .ok () := rfl
  simp only [parseInvocation, readInvocation, liftM_eq, hstart, ok_bind, hadv, hmarker, construct.ofName_operation,
    if_pos hopen, hinv, hfin, ok_pure]

theorem parseInvocation_of_parseArgs_block : ∃ as : Arguments,
    parseArgs "begin\n x = 1 # one\n\n x + :y; end,; rev, # last" = .ok as ∧
      as.positional = [.block [.assign (.ident "x") (.literal (.int 1)), .apply "+" [.ident "x", .quote "y"]]] ∧
      as.keywords = [("rev", .ident "rev")] ∧
      parseInvocation "@subset!(df, begin\n x = 1 # one\n\n x + :y; end,; rev, # last\n)" =
        .ok ⟨.subsetInPlace, .ident "df", as.positional, as.keywords⟩ := by
  have hscan : scan "begin\n x = 1 # one\n\n x + :y; end,; rev, # last".toList =
      ([⟨.ident "begin", ⟨false, false⟩⟩, ⟨.ident "x", ⟨true, true⟩⟩, ⟨.op "=", ⟨true, false⟩⟩,
        ⟨.int 1, ⟨true, false⟩⟩, ⟨.ident "x", ⟨true, true⟩⟩, ⟨.op "+", ⟨true, false⟩⟩,
        ⟨.quote "y", ⟨true, false⟩⟩, ⟨.semicolon, ⟨false, false⟩⟩, ⟨.ident "end", ⟨true, false⟩⟩,
        ⟨.comma, ⟨false, false⟩⟩, ⟨.semicolon, ⟨false, false⟩⟩, ⟨.ident "rev", ⟨true, false⟩⟩,
        ⟨.comma, ⟨false, false⟩⟩, ⟨.eof, ⟨true, true⟩⟩], none) := by
    simp only [String.reduceToList]
    repeat' first | exact scan_end rfl | apply scan_cons rfl rfl
  let block : Expr := .block [.assign (.ident "x") (.literal (.int 1)), .apply "+" [.ident "x", .quote "y"]]
  have hargs : parseArgs "begin\n x = 1 # one\n\n x + :y; end,; rev, # last" =
      .ok ⟨[block], [("rev", .ident "rev")]⟩ := by
    rw [parseArgs, readArgs, Cursor.start, hscan]
    rfl
  exact ⟨_, hargs, rfl, rfl, parseInvocation_of_parseArgs hargs .subsetInPlace⟩

end Tabular
