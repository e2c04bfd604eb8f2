import Mathlib.Data.List.TakeWhile
import Tabular.Proofs.Readback

namespace Tabular

open Lexer Operator Parse

def Token.Proper : Token → Prop
  | .ident x | .quote x => isName x = true
  | .marker x => isFlagText x = true
  | .int n => n ≠ Int64.minValue
  | .eof => False
  | .float _ | .str _ | .dollar | .openParen | .closeParen | .openBracket | .closeBracket | .comma
  | .semicolon | .dot | .op _ => True

lemma Token.Proper.ne_eof {t : Token} (h : t.Proper) : t ≠ .eof := by
  rintro rfl
  exact h

lemma map_eq_ok {ε α β : Type} {x : Except ε α} {f : α → β} {b : β} :
    x.map f = .ok b ↔ ∃ a, x = .ok a ∧ f a = b := by
  cases x <;> simp [Except.map]

section Scanner

lemma isNameTail_append_mark {cs : List Char} (h : ∀ c ∈ cs, isNameChar c = true) :
    isNameTail cs = true ∧ isNameTail (cs ++ ['!']) = true := by
  induction cs with
  | nil => exact ⟨rfl, rfl⟩
  | cons c cs ih =>
    have hc := h c List.mem_cons_self
    have hcs := ih fun d hd => h d (List.mem_cons_of_mem c hd)
    have hmark : c ≠ '!' := by
      rintro rfl
      exact absurd hc (by decide)
    constructor
    · unfold isNameTail
      split <;> simp_all
    · unfold isNameTail
      split <;> simp_all

lemma isNameTail_name (cs : List Char) : isNameTail (name cs).1 = true := by
  have hall : ∀ c ∈ cs.takeWhile isNameChar, isNameChar c = true := fun c hc => List.mem_takeWhile_imp hc
  obtain ⟨hplain, hmark⟩ := isNameTail_append_mark hall
  unfold name withMark
  split
  · exact hplain
  · exact hmark
  · exact hplain

lemma isName_name {cs : List Char} (h : goesOn isNameStart cs = true) :
    isName (String.ofList (name cs).1) = true := by
  cases cs with
  | nil => cases h
  | cons c cs =>
    have hc : isNameStart c = true := h
    rw [name_cons (isNameChar_of_isNameStart hc), isName, String.toList_ofList]
    simp [goesOn, hc, isNameTail_name]

lemma proper_of_numberToken {whole : List Char} {frac : Option (List Char)} {pow : Option (List Char × List Char)}
    {t : Token} (h : numberToken whole frac pow = .ok t) : t.Proper := by
  unfold numberToken at h
  dsimp only at h
  split at h
  · split at h
    next hlt =>
      cases h
      intro hmin
      have hn := congrArg Int64.toInt hmin
      rw [Int64.toInt_ofNat_of_lt hlt, Int64.toInt_minValue] at hn
      omega
    next => cases h
  all_goals
    cases h
  all_goals trivial

lemma proper_of_single? {c : Char} {t : Token} (h : single? c = some t) : t.Proper := by
  unfold single? at h
  split at h <;> cases h <;> trivial

section

variable {cs rest : List Char} {t : Token}

lemma proper_of_afterDot (h : afterDot cs = .ok (t, rest)) : t.Proper := by
  rw [afterDot] at h
  split at h
  · obtain ⟨⟨op, rest'⟩, -, h⟩ := bind_eq_ok.mp h
    dsimp only at h
    split at h <;> cases h
    trivial
  · cases h
    trivial

lemma proper_of_afterColon (h : afterColon cs = .ok (t, rest)) : t.Proper := by
  rw [afterColon] at h
  split at h
  next hs =>
    cases h
    exact isName_name hs
  next => cases h

lemma proper_of_afterAt (h : afterAt cs = .ok (t, rest)) : t.Proper := by
  rw [afterAt] at h
  split at h
  next => cases h
  next hne =>
    cases h
    have hnil : String.ofList (name cs).1 ≠ "" := by simpa using hne
    simp [Token.Proper, isFlagText, hnil, isNameTail_name]

lemma proper_of_afterQuote (h : afterQuote cs = .ok (t, rest)) : t.Proper := by
  rw [afterQuote] at h
  split at h <;> cases h
  trivial

lemma proper_of_token {c : Char} (h : token c cs = .ok (t, rest)) : t.Proper := by
  rw [token] at h
  split at h
  next hs =>
    cases h
    exact proper_of_single? hs
  split at h
  · exact proper_of_afterDot h
  split at h
  · exact proper_of_afterColon h
  split at h
  · exact proper_of_afterAt h
  split at h
  · exact proper_of_afterQuote h
  split at h
  · obtain ⟨t', ht, he⟩ := map_eq_ok.mp h
    cases he
    exact proper_of_numberToken ht
  split at h
  next hs =>
    have hname : isName (String.ofList (name (c :: cs)).1) = true := isName_name hs
    cases h
    exact hname
  split at h
  · obtain ⟨⟨op, rest'⟩, -, he⟩ := map_eq_ok.mp h
    cases he
    trivial
  · cases h

end

lemma exists_scan (cs : List Char) : ∃ ts, (∀ l ∈ ts, l.token.Proper) ∧
    ((∃ g, scan cs = (ts ++ [⟨.eof, g⟩], none)) ∨ ∃ fault, scan cs = (ts, some fault)) := by
  fun_induction scan cs with
  | case1 cs g hg => exact ⟨[], List.forall_mem_nil _, .inl ⟨g, rfl⟩⟩
  | case2 cs g c rest hg fault ht => exact ⟨[], List.forall_mem_nil _, .inr ⟨fault, rfl⟩⟩
  | case3 cs g c rest hg t rest' ht lexemes fault hscan ih =>
    obtain ⟨ts, hts, hs⟩ := ih
    refine ⟨⟨t, g⟩ :: ts, List.forall_mem_cons.mpr ⟨proper_of_token ht, hts⟩, ?_⟩
    rcases hs with ⟨g', hs⟩ | ⟨fault', hs⟩
    · cases hscan.symm.trans hs
      exact .inl ⟨g', rfl⟩
    · cases hscan.symm.trans hs
      exact .inr ⟨fault', rfl⟩

lemma proper_of_mem_scan {cs : List Char} {l : Lexeme} (hl : l ∈ (scan cs).1) (ht : l.token ≠ .eof) :
    l.token.Proper := by
  obtain ⟨ts, hts, ⟨g, hs⟩ | ⟨fault, hs⟩⟩ := exists_scan cs <;> rw [hs] at hl
  · rcases List.mem_append.mp hl with hl | hl
    · exact hts l hl
    · exact absurd (congrArg Lexeme.token (List.mem_singleton.mp hl)) ht
  · exact hts l hl

end Scanner

lemma Parse.Cursor.Skips.eq_of_eof {ts us vs : List Lexeme} {c d : Cursor} (h : Cursor.Skips ts c d)
    (hts : ∀ l ∈ ts, l.token ≠ .eof) (hd : d.token = .eof) (hc : c.current :: c.rest = us ++ vs)
    (hus : ∀ l ∈ us, l.token.Proper) (hvs : (∃ g, vs = [⟨.eof, g⟩]) ∨ vs = [] ∧ c.fault ≠ none) :
    ts = us ∧ vs ≠ [] := by
  induction ts generalizing c us with
  | nil =>
    cases h
    cases us with
    | nil =>
      rw [List.nil_append] at hc
      exact ⟨rfl, by simp [← hc]⟩
    | cons u us =>
      -- no proper lexeme can be left where the reader is at the end
      have hu : d.current = u := (List.cons.inj hc).1
      exact absurd hd (hu ▸ hus u List.mem_cons_self).ne_eof
  | cons l ts ih =>
    obtain ⟨rfl, c', hadv, h⟩ := h
    obtain ⟨hl, hts⟩ := List.forall_mem_cons.mp hts
    cases us with
    | nil =>
      rcases hvs with ⟨g, rfl⟩ | ⟨rfl, -⟩
      · exact absurd (by rw [(List.cons.inj hc).1]) hl
      · cases hc
    | cons u us =>
      obtain ⟨rfl, hrest⟩ := List.cons.inj hc
      obtain ⟨l, ls, hr, rfl⟩ | ⟨hr, hf, rfl⟩ := Cursor.advance_eq_ok.mp hadv
      · obtain ⟨rfl, hne⟩ := ih h hts (hr.symm.trans hrest) (List.forall_mem_cons.mp hus).2 hvs
        exact ⟨rfl, hne⟩
      · rw [hr] at hrest
        obtain ⟨rfl, rfl⟩ := List.append_eq_nil_iff.mp hrest.symm
        rcases hvs with ⟨g, hg⟩ | ⟨-, hfault⟩
        · cases hg
        · exact absurd hf hfault

lemma Parse.Cursor.Skips.scan_eq {s : String} {depth : Nat} {c d : Cursor} {ts : List Lexeme}
    (h : Cursor.Skips ts c d)
    (hc : Cursor.start s depth = .ok c) (hts : ∀ l ∈ ts, l.token ≠ .eof) (hd : d.finish = .ok ()) :
    (∃ g, scan s.toList = (ts ++ [⟨.eof, g⟩], none)) ∧ ∀ l ∈ ts, l.token.Proper := by
  have heof : d.token = .eof := by
    unfold Cursor.finish at hd
    split at hd
    next heof => exact heof
    next => cases hd
  obtain ⟨us, hus, hscan⟩ := exists_scan s.toList
  have hstart := (Cursor.start_eq_ok hc).1
  rcases hscan with ⟨g, hscan⟩ | ⟨fault, hscan⟩
  · have heq := congrArg Prod.fst (hstart.symm.trans hscan)
    obtain ⟨rfl, -⟩ := h.eq_of_eof hts heof heq hus (.inl ⟨g, rfl⟩)
    exact ⟨⟨g, hscan⟩, hus⟩
  · obtain ⟨hls, hfault⟩ := Prod.mk.inj (hstart.symm.trans hscan)
    obtain ⟨-, hne⟩ := h.eq_of_eof hts heof (hls.trans (List.append_nil us).symm) hus
      (.inr ⟨rfl, by simp [hfault]⟩)
    exact absurd rfl hne

theorem reads_of_parseExpr {s : String} {e : Expr} (h : parseExpr s = .ok e) :
    ∃ ts g, scan s.toList = (ts ++ [⟨.eof, g⟩], none) ∧ Reads false (.argument e) ts ∧
    ∀ l ∈ ts, l.token.Proper := by
  obtain ⟨c, hc, h⟩ := bind_eq_ok.mp h
  obtain ⟨⟨e', d⟩, ha, h⟩ := bind_eq_ok.mp h
  obtain ⟨u, hfin, h⟩ := bind_eq_ok.mp h
  cases h
  obtain ⟨ts, hs, hr, -⟩ := (sound c.budget).argument ha
  obtain ⟨⟨g, hscan⟩, hproper⟩ := hs.scan_eq hc hr.ne_eof hfin
  rw [Cursor.inside, (Cursor.start_eq_ok hc).2] at hr
  exact ⟨ts, g, hscan, hr, hproper⟩

def Expr.isFloat : Expr → Bool
  | .literal (.float _) => true
  | _ => false

abbrev Expr.Exact (e : Expr) : Prop := e.All (·.isFloat = false)

def Expr.Writable (e : Expr) : Prop := e.Exact → Legible words e

namespace Expr.Writable

variable {e f : Expr} {es : List Expr}

lemma exact_leaf (h : e.nodes = [e]) (he : e.isFloat = false) : e.Exact := by
  simpa [Exact, All, h] using he

lemma exact_named {x : String} : (Expr.assign (.ident x) e).Exact ↔ e.Exact := by
  rw [Exact, all_assign]
  simp [isFloat, All, nodes]

lemma of_named {x : String} (h : (Expr.assign (.ident x) e).Writable) (he : e.Exact) :
    isName x = true ∧ x ∉ words ∧ Legible words e := by
  cases h (exact_named.mpr he) with
  | assign hx hv =>
    cases hx with
    | ident hx hw => exact ⟨hx, hw, hv⟩

lemma word {x : String} (hx : isName x = true) (hb : x ≠ "begin") : (wordExpr x).Writable := by
  intro _
  unfold wordExpr
  split
  · exact .bool true
  · exact .bool false
  · exact .missing
  next h₁ h₂ h₃ =>
    refine .ident hx fun hm => ?_
    simp only [words, List.mem_cons, List.not_mem_nil, or_false] at hm
    rcases hm with hm | hm | hm | hm
    · exact h₁ hm
    · exact h₂ hm
    · exact h₃ hm
    · exact hb hm

lemma atom {t : Token} (ht : t.Proper) (h : atom? t = some e) : e.Writable := by
  unfold atom? at h
  split at h
  next n =>
    cases h
    exact fun _ => .int ht
  next =>
    cases h
    intro he
    cases he.self
  next s =>
    cases h
    exact fun _ => .str s
  next =>
    cases h
    exact fun _ => .quote ht
  next => cases h
  next x hb =>
    cases h
    exact word ht fun hx => hb (by rw [hx])
  all_goals cases h

lemma unary {op : String} (hu : isUnary op = true) (h : e.Writable) : (unaryExpr op e).Writable := by
  intro he
  by_cases hplus : op = "+"
  · subst hplus
    exact h he
  · have hop : op = "-" ∨ op = "!" := by simpa [isUnary, hplus] using hu
    by_cases hnum : op = "-" → e.isNumber = false
    · rw [unaryExpr_eq hop hnum] at he ⊢
      exact .unary hop hnum (h ((all_call.mp he).2.2 e List.mem_cons_self))
    · obtain ⟨rfl, hnumber⟩ : op = "-" ∧ e.isNumber = true := by simpa using hnum
      cases e with
      | literal v =>
        cases v with
        | int n =>
          have hn : Legible words (.literal (.int n)) := h (exact_leaf rfl rfl)
          cases hn with
          | int hn =>
            exact .int (neg_ne_minValue hn)
        | float => cases he.self
        | _ => cases hnumber
      | _ => cases hnumber

lemma eq_map_of_mapM_identName? {xs : List String} (h : es.mapM identName? = some xs) : es = xs.map .ident := by
  induction es generalizing xs with
  | nil =>
    cases h
    rfl
  | cons e es ih =>
    rw [List.mapM_cons] at h
    obtain ⟨x, hx, h⟩ := Option.bind_eq_some_iff.mp h
    obtain ⟨ys, hys, h⟩ := Option.bind_eq_some_iff.mp h
    cases h
    cases e <;> cases hx
    rw [ih hys, List.map_cons]

lemma params {xs : List String} (h : e.Writable) (he : lambdaParams e = .ok xs) :
    ∀ x ∈ xs, isName x = true ∧ x ∉ words := by
  have hname {x : String} (h : Legible words (.ident x)) : isName x = true ∧ x ∉ words := by
    cases h with
    | ident hx hw => exact ⟨hx, hw⟩
  unfold lambdaParams at he
  cases e with
  | ident x =>
    cases he
    simpa using hname (h (exact_leaf rfl rfl))
  | tuple es =>
    dsimp only at he
    split at he
    next xs' hxs =>
      cases he
      rw [eq_map_of_mapM_identName? hxs] at h
      have hexact : (Expr.tuple (xs.map .ident)).Exact :=
        all_tuple.mpr ⟨rfl, List.forall_mem_map.mpr fun x _ => exact_leaf rfl rfl⟩
      cases h hexact with
      | tuple hes => exact fun x hx => hname (hes _ (List.mem_map_of_mem hx))
    next => cases he
  | _ => cases he

lemma infixed {op : String} {b : Binding} {l r : Expr} (hb : infixBinding? op = some b) (hl : l.Writable)
    (hr : r.Writable) (h : infixExpr op l r = .ok e) : e.Writable := by
  intro he
  by_cases hpair : op = "=>"
  · subst hpair
    cases h
    obtain ⟨-, hel, her⟩ := all_pair.mp he
    exact .pair (hl hel) (hr her)
  by_cases harrow : op = "->"
  · subst harrow
    obtain ⟨xs, hxs, rfl⟩ := map_eq_ok.mp h
    exact .lambda (params hl hxs) (hr (all_lambda.mp he).2)
  · rw [infixExpr, if_neg hpair, if_neg harrow] at h
    cases h
    have hop : binding? op = some b := by simpa [infixBinding?, hpair, harrow] using hb
    obtain ⟨-, -, hes⟩ := all_call.mp he
    simp only [List.forall_mem_cons] at hes
    exact .infixed hop (hl hes.1) (hr hes.2.1)

lemma exists_named (es : List Expr) :
    (∃ e ∈ es, named? e = none) ∨ ∃ fs : List (String × Expr), es = fs.map fun f => .assign (.ident f.1) f.2 := by
  induction es with
  | nil => exact .inr ⟨[], rfl⟩
  | cons e es ih =>
    cases he : named? e with
    | none => exact .inl ⟨e, List.mem_cons_self, he⟩
    | some f =>
      rcases ih with ⟨e', hm, he'⟩ | ⟨fs, rfl⟩
      · exact .inl ⟨e', List.mem_cons_of_mem e hm, he'⟩
      · exact .inr ⟨f :: fs, by rw [named?_eq_some.mp he, List.map_cons]⟩

lemma tuple (h : ∀ e ∈ es, e.Writable) : (tupleExpr es).Writable := by
  intro he
  have htuple (hes : (Expr.tuple es).Exact) : ∀ e ∈ es, Legible words e :=
    fun e hm => h e hm ((all_tuple.mp hes).2 e hm)
  rcases exists_named es with hn | ⟨fs, rfl⟩
  · have ht : tupleExpr es = .tuple es := by
      unfold tupleExpr
      rw [Rereads.mapM_named?_of_exists hn]
      split
      next hnone => cases hnone
      next => rfl
    rw [ht] at he ⊢
    exact .tuple (htuple he) (.inr hn)
  · cases fs with
    | nil => exact .tuple (htuple he) (.inl rfl)
    | cons f fs =>
      have ht : tupleExpr ((f :: fs).map fun f => .assign (.ident f.1) f.2) = .namedTuple (f :: fs) := by
        unfold tupleExpr
        rw [Rereads.mapM_named?_map]
        rfl
      rw [ht] at he ⊢
      have hfs (g : String × Expr) (hg : g ∈ f :: fs) : isName g.1 = true ∧ g.1 ∉ words ∧ Legible words g.2 :=
        of_named (h _ (List.mem_map_of_mem hg)) ((all_namedTuple.mp he).2 g hg)
      exact .namedTuple (fun g hg => ⟨(hfs g hg).1, (hfs g hg).2.1⟩) fun g hg => (hfs g hg).2.2

end Expr.Writable

def Parse.Phrase.Writable : Phrase → Prop
  | argument e | joined _ _ e | operand _ e | postfixed _ e | primary _ e => e.Writable
  | lines es | listed es _ => ∀ e ∈ es, e.Writable
  | arguments named _ as => (∀ e ∈ as.positional, e.Writable ∧ (named = true → named? e = none)) ∧
      ∀ k ∈ as.keywords, k.2.Exact → isName k.1 = true ∧ k.1 ∉ words ∧ Legible words k.2

lemma writable_arguments_cons {named inKeywords : Bool} {e : Expr} {a : CallArgument} {as : Arguments}
    (he : e.Writable) (ha : argumentOf named inKeywords e = .ok a)
    (has : (Phrase.arguments named inKeywords as).Writable) :
    (Phrase.arguments named inKeywords (.cons a as)).Writable := by
  have hkeyword {x : String} {v : Expr} (hn : named? e = some (x, v)) :
      (Phrase.arguments named inKeywords (.cons (.keyword x v) as)).Writable := by
    rw [Expr.named?_eq_some.mp hn] at he
    exact ⟨has.1, List.forall_mem_cons.mpr ⟨he.of_named, has.2⟩⟩
  unfold argumentOf at ha
  split at ha
  next hn =>
    cases ha
    exact hkeyword hn
  next x hn =>
    cases ha
    refine ⟨has.1, List.forall_mem_cons.mpr ⟨fun hexact => ?_, has.2⟩⟩
    have hx : Legible words (.ident x) := he hexact
    cases hx with
    | ident hx hw => exact ⟨hx, hw, .ident hx hw⟩
  next => cases ha
  next hn =>
    cases ha
    cases named with
    | true => exact hkeyword hn
    | false => exact ⟨List.forall_mem_cons.mpr ⟨⟨he, nofun⟩, has.1⟩, has.2⟩
  next hn =>
    cases ha
    exact ⟨List.forall_mem_cons.mpr ⟨⟨he, fun _ => hn⟩, has.1⟩, has.2⟩

lemma writable_call {f : Expr} {as : Arguments} {b : Bool} (hf : f.Writable)
    (has : (Phrase.arguments true b as).Writable) : (Expr.call f as.toList).Writable := by
  intro he
  obtain ⟨-, hef, hes⟩ := Expr.all_call.mp he
  obtain ⟨hpos, hks⟩ := Arguments.forall_toList.mp hes
  have hkey (k : String × Expr) (hk : k ∈ as.keywords) := has.2 k hk (Expr.all_keyword.mp (hks k hk)).2
  refine .call (hf hef) (fun e he => (has.1 e he).1 (hpos e he)) (fun e he => (has.1 e he).2 rfl) ?_ ?_
  · exact fun k hk => ⟨(hkey k hk).1, (hkey k hk).2.1⟩
  · exact fun k hk => (hkey k hk).2.2

lemma Parse.Reads.writable {b : Bool} {p : Phrase} {ts : List Lexeme} (h : Reads b p ts)
    (ht : ∀ l ∈ ts, l.token.Proper) : p.Writable := by
  induction h with
  | flagged hl _ ih | marked hl _ ih =>
    obtain ⟨hp, ht⟩ := List.forall_mem_cons.mp ht
    rw [hl] at hp
    exact fun he => .flagged hp (ih ht (Expr.all_flagged.mp he).2)
  | plain _ _ ih | single _ ih | unsigned _ ih | bare _ ih => exact ih ht
  | assigned _ _ _ _ _ ihl ihv =>
    obtain ⟨ht, -, hu⟩ := by simpa only [List.forall_mem_append, List.forall_mem_cons] using ht
    intro he
    obtain ⟨-, hel, hev⟩ := Expr.all_assign.mp he
    exact .assign (ihl ht hel) (ihv hu hev)
  | infixed _ hop _ _ _ he ihl ihr =>
    obtain ⟨ht, -, hu⟩ := by simpa only [List.forall_mem_append, List.forall_mem_cons] using ht
    unfold infixAt? at hop
    split at hop
    · cases hop
    split at hop
    · obtain ⟨binding, hb, hop⟩ := Option.map_eq_some_iff.mp hop
      cases hop
      exact .infixed hb (ihl ht) (ihr hu) he
    · cases hop
  | signed _ hu _ ih => exact .unary hu (ih (List.forall_mem_cons.mp ht).2)
  | called _ _ _ _ _ _ ih iha =>
    simp only [List.forall_mem_append, List.forall_mem_cons] at ht
    exact writable_call (ih ht.1) (iha ht.2.2.1)
  | indexed _ _ _ _ _ _ ih ihs =>
    simp only [List.forall_mem_append, List.forall_mem_cons] at ht
    intro he
    obtain ⟨-, het, hes⟩ := Expr.all_index.mp he
    exact .index (ih ht.1 het) fun e hm => ihs ht.2.2.1 e hm (hes e hm)
  | field _ _ _ _ hm ih =>
    simp only [List.forall_mem_append, List.forall_mem_cons, hm] at ht
    exact fun he => .field (ih ht.1 (Expr.all_field.mp he).2) ht.2.2.1
  | atom h => exact .atom (ht _ List.mem_cons_self) h
  | block _ _ ih =>
    intro he
    exact .block fun e hm => ih (List.forall_mem_cons.mp ht).2 e hm ((Expr.all_block.mp he).2 e hm)
  | hole _ _ _ ih => exact fun he => .interp (ih (List.forall_mem_cons.mp ht).2 (Expr.all_interp.mp he).2)
  | wideHole _ _ _ _ ih =>
    simp only [List.forall_mem_append, List.forall_mem_cons] at ht
    exact fun he => .interp (ih ht.2.2.1 (Expr.all_interp.mp he).2)
  | unit => exact fun _ => .namedTuple nofun nofun
  | tuple _ _ _ ih =>
    simp only [List.forall_mem_append, List.forall_mem_cons] at ht
    have hes := ih ht.2.1
    unfold parenthesizedExpr
    split
    · exact hes _ List.mem_cons_self
    · exact .tuple hes
  | vector _ _ _ ih =>
    simp only [List.forall_mem_append, List.forall_mem_cons] at ht
    exact fun he => .vector fun e hm => ih ht.2.1 e hm ((Expr.all_vector.mp he).2 e hm)
  | noLines | listedNil => exact nofun
  | skip _ _ ih => exact ih (List.forall_mem_cons.mp ht).2
  | line _ _ _ _ _ ih ihs =>
    obtain ⟨ht, hu⟩ := List.forall_mem_append.mp ht
    exact List.forall_mem_cons.mpr ⟨ih ht, ihs hu⟩
  | listedLast _ ih => exact List.forall_mem_cons.mpr ⟨ih ht, nofun⟩
  | listedCons _ _ _ ih ihs =>
    simp only [List.forall_mem_append, List.forall_mem_cons] at ht
    exact List.forall_mem_cons.mpr ⟨ih ht.1, ihs ht.2.2⟩
  | argumentsNil => exact ⟨nofun, nofun⟩
  | argumentsKeywords _ _ ih => exact ih (List.forall_mem_cons.mp ht).2
  | argumentsLast _ ha ih => exact writable_arguments_cons (ih ht) ha ⟨nofun, nofun⟩
  | argumentsCons _ ha _ _ ih ihs =>
    simp only [List.forall_mem_append, List.forall_mem_cons] at ht
    exact writable_arguments_cons (ih ht.1) ha (ihs ht.2.2)
  | argumentsThenKeywords _ ha _ _ ih ihs =>
    obtain ⟨ht, hu⟩ := List.forall_mem_append.mp ht
    exact writable_arguments_cons (ih ht) ha (ihs hu)

theorem legible_of_parseExpr {s : String} {e : Expr} (h : parseExpr s = .ok e) (he : e.Exact) :
    Legible words e := by
  obtain ⟨ts, -, -, hr, ht⟩ := reads_of_parseExpr h
  exact hr.writable ht he

end Tabular
