import Tabular.Proofs.Legibility

namespace Tabular.Lexer

section Break

variable {us : List Char} {p : Char → Bool}

lemma takeWhile_break (h : p '\n' = false) (cs : List Char) : (cs ++ '\n' :: us).takeWhile p = cs.takeWhile p := by
  induction cs with
  | nil => simp [h]
  | cons c cs ih => simp [List.takeWhile_cons, ih]

lemma dropWhile_break (h : p '\n' = false) (cs : List Char) :
    (cs ++ '\n' :: us).dropWhile p = cs.dropWhile p ++ '\n' :: us := by
  induction cs with
  | nil => simp [h]
  | cons c cs ih =>
    simp only [List.cons_append, List.dropWhile_cons, ih]
    split <;> rfl

lemma withMark_break (ds cs : List Char) :
    withMark ds (cs ++ '\n' :: us) = ((withMark ds cs).1, (withMark ds cs).2 ++ '\n' :: us) := by
  rcases cs with _ | ⟨c, _ | ⟨d, cs⟩⟩
  · rfl
  · by_cases hc : c = '!' <;> simp [withMark, hc]
  · by_cases hc : c = '!' <;> by_cases hd : d = '=' <;> simp [withMark, hc, hd]

lemma name_break (cs : List Char) : name (cs ++ '\n' :: us) = ((name cs).1, (name cs).2 ++ '\n' :: us) := by
  rw [name, takeWhile_break rfl, dropWhile_break rfl, withMark_break]
  rfl

lemma fraction_break (cs : List Char) :
    fraction (cs ++ '\n' :: us) = ((fraction cs).1, (fraction cs).2 ++ '\n' :: us) := by
  rcases cs with _ | ⟨c, _ | ⟨d, cs⟩⟩
  · rfl
  · by_cases hc : c = '.'
    · subst hc
      rfl
    · simp [fraction, hc]
  · have htake : (d :: (cs ++ '\n' :: us)).takeWhile Char.isDigit = _ := takeWhile_break rfl (d :: cs)
    have hdrop : (d :: (cs ++ '\n' :: us)).dropWhile Char.isDigit = _ := dropWhile_break rfl (d :: cs)
    by_cases hc : c = '.'
    · subst hc
      rw [List.cons_append, List.cons_append, fraction, fraction, htake, hdrop]
      split <;> rfl
    · simp [fraction, hc]

lemma sign_break (cs : List Char) : sign (cs ++ '\n' :: us) = ((sign cs).1, (sign cs).2 ++ '\n' :: us) := by
  cases cs with
  | nil => rfl
  | cons c cs => by_cases hp : c = '+' <;> by_cases hm : c = '-' <;> simp [sign, hp, hm]

lemma power_break (cs : List Char) : power (cs ++ '\n' :: us) = ((power cs).1, (power cs).2 ++ '\n' :: us) := by
  rcases cs with _ | ⟨e, _ | ⟨d, cs⟩⟩
  · cases us <;> rfl
  · have hd : '\n'.isDigit = false := rfl
    simp [power, hd]
  · have hs : sign (d :: (cs ++ '\n' :: us)) = _ := sign_break (d :: cs)
    rw [List.cons_append, List.cons_append, power, power, hs]
    simp only [takeWhile_break (p := Char.isDigit) rfl, dropWhile_break (p := Char.isDigit) rfl]
    split <;> rfl

lemma number_break (cs : List Char) :
    number (cs ++ '\n' :: us) = ((number cs).1, (number cs).2 ++ '\n' :: us) := by
  rw [number, takeWhile_break rfl, dropWhile_break rfl, fraction_break]
  simp only [power_break]
  rfl

lemma stringBody_append {cs s rest : List Char} (h : stringBody cs = some (s, rest)) :
    stringBody (cs ++ us) = some (s, rest ++ us) := by
  fun_induction stringBody cs generalizing s with
  | case1 => cases h
  | case2 cs =>
    cases h
    rfl
  | case3 => cases h
  | case4 c cs ih =>
    obtain ⟨⟨t, r⟩, hr, he⟩ := Option.map_eq_some_iff.mp h
    cases he
    rw [List.cons_append, List.cons_append, stringBody, ih hr]
    rfl
  | case5 c cs hquote hlast hmark ih =>
    obtain ⟨⟨t, r⟩, hr, he⟩ := Option.map_eq_some_iff.mp h
    cases he
    have hc : c ≠ '\\' := by
      intro hc
      cases cs with
      | nil => exact hlast hc rfl
      | cons d cs => exact hmark d cs hc rfl
    rw [List.cons_append, stringBody, ih hr]
    · rfl
    · exact hquote
    · exact fun he => absurd he hc
    · exact fun _ _ he => absurd he hc

lemma break_ne_cons {cs : List Char} {d : Char} (hd : d ≠ '\n') (h : ∀ ds, cs = d :: ds → False) :
    ∀ ds, cs ++ '\n' :: us = d :: ds → False := by
  intro ds he
  cases cs with
  | nil => exact hd (List.cons.inj he).1.symm
  | cons c cs => exact h cs (congrArg (· :: cs) (List.cons.inj he).1)

lemma operator_break {cs rest : List Char} {op : String} (h : operator cs = .ok (op, rest)) :
    operator (cs ++ '\n' :: us) = .ok (op, rest ++ '\n' :: us) := by
  revert h
  fun_cases operator cs
  all_goals
    intro h
    cases h
  all_goals first
    | rfl
    | rw [List.cons_append, operator] <;> exact break_ne_cons (by decide) (by assumption)

lemma goesOn_break (h : p '\n' = false) (cs : List Char) : goesOn p (cs ++ '\n' :: us) = goesOn p cs := by
  cases cs with
  | nil => exact h
  | cons c cs => rfl

section Tokens

variable {c : Char} {cs rest : List Char} {t : Token}

lemma afterDot_break (h : afterDot cs = .ok (t, rest)) :
    afterDot (cs ++ '\n' :: us) = .ok (t, rest ++ '\n' :: us) := by
  rw [afterDot] at h ⊢
  rw [goesOn_break rfl]
  split_ifs at h ⊢
  · obtain ⟨⟨op, rest'⟩, ho, h⟩ := bind_eq_ok.mp h
    refine bind_eq_ok.mpr ⟨_, operator_break ho, ?_⟩
    dsimp only at h ⊢
    split_ifs at h ⊢
    cases h
    rfl
  · cases h
    rfl

lemma afterColon_break (h : afterColon cs = .ok (t, rest)) :
    afterColon (cs ++ '\n' :: us) = .ok (t, rest ++ '\n' :: us) := by
  rw [afterColon] at h ⊢
  rw [goesOn_break rfl, name_break]
  split_ifs at h ⊢
  cases h
  rfl

lemma afterAt_break (h : afterAt cs = .ok (t, rest)) :
    afterAt (cs ++ '\n' :: us) = .ok (t, rest ++ '\n' :: us) := by
  rw [afterAt] at h ⊢
  rw [name_break]
  split_ifs at h ⊢
  cases h
  rfl

lemma afterQuote_append (h : afterQuote cs = .ok (t, rest)) : afterQuote (cs ++ us) = .ok (t, rest ++ us) := by
  unfold afterQuote at h
  split at h
  · cases h
  next hs =>
    cases h
    rw [afterQuote, stringBody_append hs]

lemma token_break (h : token c cs = .ok (t, rest)) : token c (cs ++ '\n' :: us) = .ok (t, rest ++ '\n' :: us) := by
  have hnumber : number (c :: (cs ++ '\n' :: us)) = _ := number_break (c :: cs)
  have hname : name (c :: (cs ++ '\n' :: us)) = _ := name_break (c :: cs)
  unfold token at h ⊢
  cases hs : single? c with
  | some t' =>
    rw [hs] at h
    cases h
    rfl
  | none =>
    simp only [hs, hnumber, hname] at h ⊢
    split_ifs at h ⊢
    · exact afterDot_break h
    · exact afterColon_break h
    · exact afterAt_break h
    · exact afterQuote_append h
    · obtain ⟨t', ht, he⟩ := map_eq_ok.mp h
      cases he
      exact map_eq_ok.mpr ⟨_, ht, rfl⟩
    · cases h
      rfl
    · obtain ⟨⟨op, rest'⟩, ho, he⟩ := map_eq_ok.mp h
      cases he
      exact map_eq_ok.mpr ⟨_, operator_break ho, rfl⟩

end Tokens

section Gaps

variable {g g' : Gap} {comment : Bool} {c : Char} {cs rest : List Char}

lemma gap_append (h : gap g comment cs = (g', c :: rest)) :
    gap g comment (cs ++ us) = (g', c :: (rest ++ us)) := by
  fun_induction gap g comment cs with
  | case1 => cases h
  | case2 g d ds ih => exact ih h
  | case3 g d ds hb ih =>
    rw [List.cons_append, gap, if_pos hb]
    exact ih h
  | case4 g d ds hb hc ih =>
    rw [List.cons_append, gap, if_neg hb, if_pos hc]
    exact ih h
  | case5 g d ds hb hc =>
    cases h
    rw [List.cons_append, gap, if_neg hb, if_neg hc]

lemma gap_break (h : gap g comment cs = (g', [])) (hg : comment = true → g = ⟨true, true⟩) :
    gap g comment (cs ++ '\n' :: us) = gap ⟨true, true⟩ false us := by
  fun_induction gap g comment cs with
  | case1 g comment =>
    cases comment with
    | false =>
      have hb : Text.isBlank '\n' = true := rfl
      rw [List.nil_append, gap, if_pos hb, beq_self_eq_true, Bool.or_true]
    | true =>
      rw [hg rfl]
      rfl
  | case2 g d ds ih => exact ih h fun _ => hg rfl
  | case3 g d ds hb ih =>
    rw [List.cons_append, gap, if_pos hb]
    exact ih h fun hf => absurd hf Bool.false_ne_true
  | case4 g d ds hb hc ih =>
    rw [List.cons_append, gap, if_neg hb, if_pos hc]
    exact ih h fun _ => rfl
  | case5 => cases h

lemma gap_spaced (newline space : Bool) (comment : Bool) (cs : List Char) :
    gap ⟨true, newline⟩ comment cs =
      (⟨true, (gap ⟨space, newline⟩ comment cs).1.newline⟩, (gap ⟨space, newline⟩ comment cs).2) := by
  induction cs generalizing newline space comment with
  | nil => rfl
  | cons c cs ih =>
    cases comment with
    | true => exact ih newline space _
    | false =>
      rw [gap, gap]
      split
      · exact ih _ true false
      split
      · exact ih true true true
      · rfl

end Gaps

end Break

theorem scan_break {cs : List Char} {ts : List Lexeme} {g : Gap} (us : List Char)
    (h : scan cs = (ts ++ [⟨.eof, g⟩], none)) : scan (cs ++ '\n' :: us) = prepend ts (scan ('\n' :: us)) := by
  fun_induction scan cs generalizing ts with
  | case1 cs g' hg =>
    have hts : ts = [] := by
      have hl := congrArg (List.length ·.1) h
      simpa using hl
    have hgap : gap ⟨false, false⟩ false (cs ++ '\n' :: us) = gap ⟨false, false⟩ false ('\n' :: us) :=
      gap_break hg fun hf => absurd hf Bool.false_ne_true
    rw [hts, prepend_nil, scan, scan, hgap]
  | case2 => cases ts <;> cases h
  | case3 cs g' c rest hg t rest' ht lexemes fault hscan ih =>
    cases ts with
    | nil =>
      cases h
      exact absurd rfl (proper_of_token ht).ne_eof
    | cons l ts =>
      cases h
      rw [scan_of_gap (gap_append hg) (token_break ht), ih hscan, prepend_prepend]
      rfl

lemma scan_blank {cs : List Char} {l : Lexeme} {ts : List Lexeme} {fault : Option ParseError}
    (h : scan cs = (l :: ts, fault)) : scan (' ' :: cs) = (⟨l.token, ⟨true, l.gap.newline⟩⟩ :: ts, fault) := by
  have hgap : gap ⟨false, false⟩ false (' ' :: cs) =
      (⟨true, (gap ⟨false, false⟩ false cs).1.newline⟩, (gap ⟨false, false⟩ false cs).2) :=
    gap_spaced false false false cs
  revert h
  fun_cases scan cs with
  | case1 g hg =>
    intro h
    cases h
    rw [hg] at hgap
    exact scan_end hgap
  | case2 => nofun
  | case3 g c rest hg t rest' ht lexemes fault hscan =>
    intro h
    cases h
    rw [hg] at hgap
    exact scan_cons hgap ht hscan

end Tabular.Lexer
