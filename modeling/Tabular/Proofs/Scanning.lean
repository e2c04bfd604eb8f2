import Mathlib.Algebra.Order.Ring.Int
import Mathlib.Tactic.FinCases
import Tabular.Text.Quoted
import Tabular.Token.Lexer

namespace Tabular

def Token.spaced (space : Bool) (t : Token) : Lexeme := ⟨t, ⟨space, false⟩⟩

namespace Lexer

def isNameTail : List Char → Bool
  | [] => true
  | ['!'] => true
  | c :: cs => isNameChar c && isNameTail cs

def isName (s : String) : Bool := goesOn isNameStart s.toList && isNameTail s.toList.tail

def isFlagText (s : String) : Bool := s != "" && isNameTail s.toList

def lead (space : Bool) : List Char := if space then [' '] else []

def ends : List Char → Bool
  | [] => true
  | '.' :: cs => goesOn isNameStart cs
  | c :: _ => " ()[],;".toList.contains c

abbrev Scanned := List Lexeme × Option ParseError

def prepend (ts : List Lexeme) (r : Scanned) : Scanned := (ts ++ r.1, r.2)

@[simp] lemma prepend_nil (r : Scanned) : prepend [] r = r := rfl

lemma prepend_prepend (ts us : List Lexeme) (r : Scanned) : prepend ts (prepend us r) = prepend (ts ++ us) r := by
  simp [prepend]

section Characters

open Text

lemma inRanges_eq_false {rs ss : List (Nat × Nat)} (h : rs.all fun r => ss.all fun s => r.2 < s.1 || s.2 < r.1)
    {c : Char} (hc : inRanges rs c = true) : inRanges ss c = false := by
  obtain ⟨r, hr, hin⟩ := List.any_eq_true.mp hc
  refine List.any_eq_false.mpr fun s hs => ?_
  have hd := List.all_eq_true.mp (List.all_eq_true.mp h r hr) s hs
  simp only [Bool.and_eq_true, decide_eq_true_eq, Bool.or_eq_true] at hin hd ⊢
  omega

def digitRanges : List (Nat × Nat) := [(0x30, 0x39)]

def nameStartRanges : List (Nat × Nat) := (0x41, 0x5A) :: (0x5F, 0x5F) :: (0x61, 0x7A) :: letterRanges

lemma inRanges_of_isDigit {c : Char} (h : c.isDigit = true) : inRanges digitRanges c = true := by
  simp only [Char.isDigit, Bool.and_eq_true, decide_eq_true_eq] at h
  simp only [inRanges, digitRanges, List.any_cons, List.any_nil, Bool.or_false, Bool.and_eq_true,
    decide_eq_true_eq]
  exact h

lemma inRanges_of_isNameStart {c : Char} (h : isNameStart c = true) : inRanges nameStartRanges c = true := by
  simp only [isNameStart, isLetter, Bool.or_eq_true, beq_iff_eq] at h
  simp only [inRanges, nameStartRanges, List.any_cons, Bool.or_eq_true, Bool.and_eq_true, decide_eq_true_eq]
  rcases h with h | rfl
  · split at h
    next =>
      rcases Bool.or_eq_true_iff.mp h with h | h
      · exact .inl (of_decide_eq_true h)
      · exact .inr (.inr (.inl ((Bool.and_eq_true_iff.mp h).imp of_decide_eq_true of_decide_eq_true)))
    next => exact .inr (.inr (.inr h))
  · exact .inr (.inl ⟨Nat.le_refl _, Nat.le_refl _⟩)

lemma isBlank_eq_false_of_isNameStart {c : Char} (h : isNameStart c = true) : isBlank c = false :=
  inRanges_eq_false (by decide +kernel) (inRanges_of_isNameStart h)

lemma isBlank_eq_false_of_isDigit {c : Char} (h : c.isDigit = true) : isBlank c = false :=
  inRanges_eq_false (by decide) (inRanges_of_isDigit h)

lemma isDigit_eq_false_of_isNameStart {c : Char} (h : isNameStart c = true) : c.isDigit = false := by
  rw [Bool.eq_false_iff]
  intro hd
  have hn : inRanges nameStartRanges c = false := inRanges_eq_false (by decide +kernel) (inRanges_of_isDigit hd)
  rw [inRanges_of_isNameStart h] at hn
  cases hn

lemma isNameChar_of_isDigit {c : Char} (h : c.isDigit = true) : isNameChar c = true := by
  have hlt : c.val < 128 := by
    simp only [Char.isDigit, Bool.and_eq_true, decide_eq_true_eq] at h
    exact UInt32.lt_of_le_of_lt h.2 (by decide)
  simp [isNameChar, isAlphanumeric, isNumeral, hlt, h]

lemma single?_eq_none_of_isNameChar {c : Char} (h : isNameChar c = true) : single? c = none := by
  unfold single?
  split <;> first | rfl | exact absurd h (by decide)

lemma ne_sign_of_isNameChar {c : Char} (h : isNameChar c = true) :
    c ≠ '.' ∧ c ≠ ':' ∧ c ≠ '@' ∧ c ≠ '"' ∧ c ≠ '#' := by
  refine ⟨?_, ?_, ?_, ?_, ?_⟩
  all_goals
    rintro rfl
    exact absurd h (by decide)

end Characters

lemma scan_of_gap {g : Gap} {c : Char} {cs rest rest' : List Char} {t : Token}
    (hg : gap ⟨false, false⟩ false cs = (g, c :: rest)) (ht : token c rest = .ok (t, rest')) :
    scan cs = prepend [⟨t, g⟩] (scan rest') := by
  rw [scan]
  split
  next h =>
    rw [hg] at h
    cases h
  next h =>
    cases hg.symm.trans h
    split
    next he =>
      rw [ht] at he
      cases he
    next he =>
      cases ht.symm.trans he
      rfl

lemma scan_cons {g : Gap} {c : Char} {cs rest rest' : List Char} {t : Token} {ts : List Lexeme}
    {fault : Option ParseError} (hg : gap ⟨false, false⟩ false cs = (g, c :: rest))
    (ht : token c rest = .ok (t, rest')) (h : scan rest' = (ts, fault)) : scan cs = (⟨t, g⟩ :: ts, fault) := by
  rw [scan_of_gap hg ht, h]
  rfl

lemma scan_end {g : Gap} {cs : List Char} (hg : gap ⟨false, false⟩ false cs = (g, [])) :
    scan cs = ([⟨.eof, g⟩], none) := by
  rw [scan]
  split
  next h =>
    rw [hg] at h
    cases h
    rfl
  next h =>
    rw [hg] at h
    cases h

lemma scan_nil : scan [] = ([Token.eof.spaced false], none) := scan_end rfl

def opens (c : Char) : Bool := !Text.isBlank c && c != '#'

lemma gap_lead {c : Char} (hc : opens c = true) (space : Bool) (cs : List Char) :
    gap ⟨false, false⟩ false (lead space ++ c :: cs) = (⟨space, false⟩, c :: cs) := by
  simp only [opens, Bool.and_eq_true, Bool.not_eq_true', bne_iff_ne, ne_eq] at hc
  cases space with
  | false => simp [lead, gap, hc]
  | true =>
    have hb : Text.isBlank ' ' = true := rfl
    simp [lead, gap, hb, hc]

lemma scan_lead {c : Char} (hc : opens c = true) (space : Bool) {cs rest : List Char} {t : Token}
    (ht : token c cs = .ok (t, rest)) : scan (lead space ++ c :: cs) = prepend [t.spaced space] (scan rest) :=
  scan_of_gap (gap_lead hc space cs) ht

lemma mem_of_ends {c : Char} {cs : List Char} (h : ends (c :: cs) = true) : c ∈ ". ()[],;".toList := by
  unfold ends at h
  split at h
  next he => cases he
  next he =>
    cases he
    exact List.mem_cons_self
  next he =>
    cases he
    exact List.mem_cons_of_mem '.' (List.contains_iff_mem.mp h)

section Names

lemma isNameChar_eq_false_of_ends {c : Char} {cs : List Char} (h : ends (c :: cs) = true) :
    isNameChar c = false ∧ c ≠ '!' ∧ c ≠ '=' := by
  have hc := mem_of_ends h
  fin_cases hc <;> decide

lemma withMark_cons (c : Char) (ds cs : List Char) :
    withMark (c :: ds) cs = (c :: (withMark ds cs).1, (withMark ds cs).2) := by
  fun_cases withMark ds cs <;> simp_all [withMark]

lemma name_cons {c : Char} (h : isNameChar c = true) (cs : List Char) :
    name (c :: cs) = (c :: (name cs).1, (name cs).2) := by
  rw [name, List.takeWhile_cons_of_pos h, List.dropWhile_cons_of_pos h, withMark_cons]
  rfl

lemma name_append {cs rest : List Char} (hcs : isNameTail cs = true) (hr : ends rest = true) :
    name (cs ++ rest) = (cs, rest) := by
  have hrest : name rest = ([], rest) := by
    cases rest with
    | nil => rfl
    | cons c rest =>
      obtain ⟨hn, hmark, -⟩ := isNameChar_eq_false_of_ends hr
      simp [name, hn, withMark, hmark]
  have hmark : name ('!' :: rest) = (['!'], rest) := by
    have hn : isNameChar '!' = false := rfl
    cases rest with
    | nil => rfl
    | cons c rest =>
      obtain ⟨-, -, heq⟩ := isNameChar_eq_false_of_ends hr
      simp [name, hn, withMark, heq]
  fun_induction isNameTail cs with
  | case1 => exact hrest
  | case2 => exact hmark
  | case3 c cs _ ih =>
    rw [Bool.and_eq_true] at hcs
    rw [List.cons_append, name_cons hcs.1, ih hcs.2]

lemma exists_of_isName {s : String} (h : isName s = true) :
    ∃ c cs, s.toList = c :: cs ∧ isNameStart c = true ∧ isNameTail (c :: cs) = true := by
  rw [isName, Bool.and_eq_true] at h
  cases hs : s.toList with
  | nil => simp [hs, goesOn] at h
  | cons c cs =>
    rw [hs] at h
    refine ⟨c, cs, rfl, h.1, ?_⟩
    have hc := isNameChar_of_isNameStart h.1
    unfold isNameTail
    split <;> simp_all

lemma opens_of_isNameStart {c : Char} (h : isNameStart c = true) : opens c = true := by
  simp [opens, isBlank_eq_false_of_isNameStart h, ne_sign_of_isNameChar (isNameChar_of_isNameStart h)]

lemma token_of_isNameStart {c : Char} (h : isNameStart c = true) (cs : List Char) :
    token c cs = .ok (.ident (String.ofList (name (c :: cs)).1), (name (c :: cs)).2) := by
  have hc := isNameChar_of_isNameStart h
  simp [token, single?_eq_none_of_isNameChar hc, ne_sign_of_isNameChar hc, isDigit_eq_false_of_isNameStart h, h]

variable {s : String} {rest : List Char} (space : Bool) (hr : ends rest = true)
include hr

lemma scan_ident (h : isName s = true) :
    scan (lead space ++ s.toList ++ rest) = prepend [(Token.ident s).spaced space] (scan rest) := by
  obtain ⟨c, cs, hs, hc, htail⟩ := exists_of_isName h
  have ht : token c (cs ++ rest) = .ok (.ident s, rest) := by
    rw [token_of_isNameStart hc, ← List.cons_append, name_append htail hr, ← hs, String.ofList_toList]
  rw [hs, List.append_assoc, List.cons_append]
  exact scan_lead (opens_of_isNameStart hc) space ht

lemma scan_quote (h : isName s = true) :
    scan (lead space ++ (":" ++ s).toList ++ rest) = prepend [(Token.quote s).spaced space] (scan rest) := by
  obtain ⟨c, cs, hs, hc, htail⟩ := exists_of_isName h
  have ht : token ':' (s.toList ++ rest) = .ok (.quote s, rest) := by
    have hgo : goesOn isNameStart (s.toList ++ rest) = true := by
      rw [hs]
      exact hc
    have hn : name (s.toList ++ rest) = (s.toList, rest) := by
      rw [hs]
      exact name_append htail hr
    show afterColon _ = _
    rw [afterColon, if_pos hgo, hn, String.ofList_toList]
  rw [String.toList_append, List.append_assoc]
  exact scan_lead (by decide) space ht

lemma scan_marker (h : isFlagText s = true) :
    scan (lead space ++ ("@" ++ s).toList ++ rest) = prepend [(Token.marker s).spaced space] (scan rest) := by
  rw [isFlagText, Bool.and_eq_true, bne_iff_ne] at h
  have hn : name (s.toList ++ rest) = (s.toList, rest) := name_append h.2 hr
  have ht : token '@' (s.toList ++ rest) = .ok (.marker s, rest) := by
    show afterAt _ = _
    have hne : s.toList ≠ [] := fun he => h.1 (String.toList_eq_nil_iff.mp he)
    rw [afterAt, hn, if_neg (by simpa using hne), String.ofList_toList]
  rw [String.toList_append, List.append_assoc]
  exact scan_lead (by decide) space ht

end Names

section Numbers

lemma isDigit_eq_false_of_ends {c : Char} {cs : List Char} (h : ends (c :: cs) = true) :
    c.isDigit = false ∧ c ≠ 'e' ∧ c ≠ 'E' := by
  have hc := mem_of_ends h
  fin_cases hc <;> decide

lemma fraction_of_ends {rest : List Char} (h : ends rest = true) : fraction rest = (none, rest) := by
  fun_cases fraction rest with
  | case1 d cs hd =>
    rw [isDigit_eq_false_of_isNameStart h] at hd
    cases hd
  | case2 => rfl
  | case3 => rfl

lemma power_of_ends {rest : List Char} (h : ends rest = true) : power rest = (none, rest) := by
  fun_cases power rest with
  | case1 e d cs he =>
    obtain ⟨-, h₁, h₂⟩ := isDigit_eq_false_of_ends h
    simp [h₁, h₂] at he
  | case2 => rfl
  | case3 => rfl

lemma number_append {digits rest : List Char} (hd : ∀ c ∈ digits, c.isDigit = true) (hr : ends rest = true) :
    number (digits ++ rest) = (numberToken digits none none, rest) := by
  have htake : rest.takeWhile Char.isDigit = [] := by
    cases rest with
    | nil => rfl
    | cons c rest => simp [(isDigit_eq_false_of_ends hr).1]
  have hdrop : rest.dropWhile Char.isDigit = rest := by
    cases rest with
    | nil => rfl
    | cons c rest => simp [(isDigit_eq_false_of_ends hr).1]
  rw [number, List.takeWhile_append_of_pos hd, List.dropWhile_append_of_pos hd, htake, hdrop, fraction_of_ends hr]
  simp only [power_of_ends hr, List.append_nil]

lemma natural_toDigits (n : Nat) : Decimal.natural (Nat.toDigits 10 n) = n :=
  Nat.ofDigitChars_toDigits (by decide) (by decide)

lemma opens_of_isDigit {c : Char} (h : c.isDigit = true) : opens c = true := by
  simp [opens, isBlank_eq_false_of_isDigit h, ne_sign_of_isNameChar (isNameChar_of_isDigit h)]

lemma token_of_isDigit {c : Char} (h : c.isDigit = true) (cs : List Char) :
    token c cs = (number (c :: cs)).1.map fun t => (t, (number (c :: cs)).2) := by
  have hc := isNameChar_of_isDigit h
  simp [token, single?_eq_none_of_isNameChar hc, ne_sign_of_isNameChar hc, h]

lemma scan_natural {n : Nat} (hn : n < 2 ^ 63) (space : Bool) {rest : List Char} (hr : ends rest = true) :
    scan (lead space ++ n.repr.toList ++ rest) =
      prepend [(Token.int (Int64.ofNat n)).spaced space] (scan rest) := by
  have hdigits : ∀ c ∈ Nat.toDigits 10 n, c.isDigit = true :=
    fun c hc => Nat.isDigit_of_mem_toDigits (by decide) (by decide) hc
  have hnum := number_append hdigits hr
  have htoken : numberToken (Nat.toDigits 10 n) none none = .ok (.int (Int64.ofNat n)) := by
    rw [numberToken]
    simp only [Option.getD_none, List.append_nil, natural_toDigits]
    exact if_pos hn
  rw [Nat.repr, String.toList_ofList]
  cases hds : Nat.toDigits 10 n with
  | nil => exact absurd hds Nat.toDigits_ne_nil
  | cons c cs =>
    rw [hds] at hdigits hnum htoken
    have hc := hdigits c List.mem_cons_self
    have ht : token c (cs ++ rest) = .ok (.int (Int64.ofNat n), rest) := by
      rw [token_of_isDigit hc, ← List.cons_append, hnum, htoken]
      rfl
    rw [List.append_assoc, List.cons_append]
    exact scan_lead (opens_of_isDigit hc) space ht

end Numbers

lemma stringBody_quoted (cs rest : List Char) :
    stringBody (cs.flatMap Text.quotedChar ++ '"' :: rest) = some (cs, rest) := by
  induction cs with
  | nil => rfl
  | cons c cs ih =>
    rw [List.flatMap_cons, List.append_assoc]
    generalize cs.flatMap Text.quotedChar ++ '"' :: rest = body at ih
    unfold Text.quotedChar
    split
    case h_5 h₁ h₂ _ _ =>
      rw [List.singleton_append, stringBody, ih]
      · rfl
      · exact h₁
      · exact fun he => absurd he h₂
      · exact fun _ _ he => absurd he h₂
    all_goals simp [stringBody, ih]

lemma scan_quoted (s : String) (space : Bool) (rest : List Char) :
    scan (lead space ++ (Text.quoted s).toList ++ rest) = prepend [(Token.str s).spaced space] (scan rest) := by
  have ht : token '"' (s.toList.flatMap Text.quotedChar ++ '"' :: rest) = .ok (.str s, rest) := by
    show afterQuote _ = _
    simp only [afterQuote, stringBody_quoted, String.ofList_toList]
  rw [Text.quoted, String.toList_ofList, List.append_assoc]
  simpa using scan_lead (by decide) space ht

lemma scan_single {c : Char} {t : Token} (hc : single? c = some t) (space : Bool) (rest : List Char) :
    scan (lead space ++ c :: rest) = prepend [t.spaced space] (scan rest) := by
  have hopens : opens c = true := by
    unfold single? at hc
    split at hc <;> first | rfl | cases hc
  refine scan_lead hopens space ?_
  rw [token, hc]

lemma isOperatorChar_eq_false_of_isNameStart {c : Char} (h : isNameStart c = true) : isOperatorChar c = false := by
  rw [Bool.eq_false_iff, isOperatorChar, ne_eq, List.contains_iff_mem]
  intro hm
  fin_cases hm <;> exact absurd h (by decide)

lemma scan_dot {rest : List Char} (h : goesOn isNameStart rest = true) :
    scan ('.' :: rest) = prepend [Token.dot.spaced false] (scan rest) := by
  have ht : token '.' rest = .ok (.dot, rest) := by
    show afterDot _ = _
    have hgo : goesOn isOperatorChar rest = false := by
      cases rest with
      | nil => cases h
      | cons c rest => exact isOperatorChar_eq_false_of_isNameStart h
    rw [afterDot, hgo]
    rfl
  exact scan_lead (by decide) false ht

def infixSymbols : List String :=
  ["=", "=>", "->", "||", "&&", "==", "!=", "<", ">", "<=", ">=", "+", "-", "*", "/", "%", "^",
    ".||", ".&&", ".==", ".!=", ".<", ".>", ".<=", ".>=", ".+", ".-", ".*", "./", ".%", ".^"]

lemma scan_infix {op : String} (h : op ∈ infixSymbols) (rest : List Char) :
    scan (' ' :: (op.toList ++ ' ' :: rest)) = prepend [(Token.op op).spaced true] (scan (' ' :: rest)) := by
  unfold infixSymbols at h
  fin_cases h
  all_goals exact scan_lead (by decide) true rfl

lemma scan_sign {op : String} (h : op = "-" ∨ op = "!") (space : Bool) {c : Char} (hc : c ≠ '=' ∧ c ≠ '>')
    (rest : List Char) :
    scan (lead space ++ (op.toList ++ c :: rest)) = prepend [(Token.op op).spaced space] (scan (c :: rest)) := by
  rcases h with rfl | rfl
  · have ht : token '-' (c :: rest) = .ok (.op "-", c :: rest) := by
      show (operator _).map _ = _
      simp [operator, hc, Except.map]
    exact scan_lead (by decide) space ht
  · have ht : token '!' (c :: rest) = .ok (.op "!", c :: rest) := by
      show (operator _).map _ = _
      simp [operator, hc, Except.map]
    exact scan_lead (by decide) space ht

end Lexer

end Tabular
