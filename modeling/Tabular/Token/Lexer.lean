import Tabular.Decimal.Layout
import Tabular.Error
import Tabular.Text.Character
import Tabular.Token

/-!
Reading characters as lexemes. Each reader returns the characters that it leaves, and these are never more than it
was given.
-/

namespace Tabular.Lexer

def isNameStart (c : Char) : Bool := Text.isLetter c || c == '_'

def isNameChar (c : Char) : Bool := Text.isAlphanumeric c || c == '_'

def isOperatorChar (c : Char) : Bool := "+-*/^%=<>!&|".toList.contains c

/-- The gap at the start of a text; `comment` tells whether the text starts inside a comment. -/
def gap (g : Gap) : (comment : Bool) → List Char → Gap × List Char
  | _, [] => (g, [])
  | true, c :: cs => gap g (c != '\n') cs
  | false, c :: cs =>
    if Text.isBlank c then gap ⟨true, g.newline || c == '\n'⟩ false cs
    else if c == '#' then gap ⟨true, true⟩ true cs
    else (g, c :: cs)

theorem gap_length (g : Gap) (comment : Bool) (cs : List Char) : (gap g comment cs).2.length ≤ cs.length := by
  fun_induction gap g comment cs with
  | case1 | case5 => exact Nat.le_refl _
  | case2 _ _ _ ih | case3 _ _ _ _ ih | case4 _ _ _ _ _ ih => exact Nat.le_succ_of_le ih

def withMark (name : List Char) : List Char → List Char × List Char
  | '!' :: '=' :: cs => (name, '!' :: '=' :: cs)
  | '!' :: cs => (name ++ ['!'], cs)
  | cs => (name, cs)

theorem withMark_length (name cs : List Char) : (withMark name cs).2.length ≤ cs.length := by
  fun_cases withMark name cs <;> simp

def name (cs : List Char) : List Char × List Char :=
  withMark (cs.takeWhile isNameChar) (cs.dropWhile isNameChar)

theorem name_length (cs : List Char) : (name cs).2.length ≤ cs.length :=
  Nat.le_trans (withMark_length _ _) (List.dropWhile_sublist _).length_le

theorem name_length_cons {c : Char} (h : isNameChar c) (cs : List Char) :
    (name (c :: cs)).2.length ≤ cs.length := by
  rw [name, List.dropWhile_cons_of_pos h]
  exact Nat.le_trans (withMark_length _ _) (List.dropWhile_sublist _).length_le

theorem isNameChar_of_isNameStart {c : Char} (h : isNameStart c) : isNameChar c := by
  simp only [isNameStart, isNameChar, Text.isAlphanumeric, Bool.or_eq_true] at h ⊢
  exact h.imp_left .inl

def stringBody : List Char → Option (List Char × List Char)
  | [] => none
  | '"' :: cs => some ([], cs)
  | ['\\'] => none
  | '\\' :: c :: cs =>
    (stringBody cs).map fun (s, rest) => ((if c = 'n' then '\n' else if c = 't' then '\t' else c) :: s, rest)
  | c :: cs => (stringBody cs).map fun (s, rest) => (c :: s, rest)

theorem stringBody_length {cs s rest : List Char} (h : stringBody cs = some (s, rest)) :
    rest.length ≤ cs.length := by
  fun_induction stringBody cs generalizing s with
  | case1 | case3 => cases h
  | case2 =>
    cases h
    exact Nat.le_succ _
  | case4 c cs ih =>
    obtain ⟨⟨t, r⟩, hr, he⟩ := Option.map_eq_some_iff.mp h
    cases he
    exact Nat.le_succ_of_le (Nat.le_succ_of_le (ih hr))
  | case5 c cs _ _ _ ih =>
    obtain ⟨⟨t, r⟩, hr, he⟩ := Option.map_eq_some_iff.mp h
    cases he
    exact Nat.le_succ_of_le (ih hr)

def fraction : List Char → Option (List Char) × List Char
  | '.' :: d :: cs =>
    if d.isDigit then (some ((d :: cs).takeWhile Char.isDigit), (d :: cs).dropWhile Char.isDigit)
    else (none, '.' :: d :: cs)
  | cs => (none, cs)

theorem fraction_length (cs : List Char) : (fraction cs).2.length ≤ cs.length := by
  fun_cases fraction cs with
  | case1 d cs => exact Nat.le_succ_of_le (List.dropWhile_sublist Char.isDigit).length_le
  | case2 | case3 => exact Nat.le_refl _

def sign : List Char → List Char × List Char
  | '+' :: cs => (['+'], cs)
  | '-' :: cs => (['-'], cs)
  | cs => ([], cs)

theorem sign_length (cs : List Char) : (sign cs).2.length ≤ cs.length := by
  fun_cases sign cs <;> simp

def power : List Char → Option (List Char × List Char) × List Char
  | e :: d :: cs =>
    if (e == 'e' || e == 'E') && (d.isDigit || d == '+' || d == '-') then
      let (s, rest) := sign (d :: cs)
      (some (s, rest.takeWhile Char.isDigit), rest.dropWhile Char.isDigit)
    else (none, e :: d :: cs)
  | cs => (none, cs)

theorem power_length (cs : List Char) : (power cs).2.length ≤ cs.length := by
  fun_cases power cs with
  | case1 e d cs _ s rest hs =>
    have hrest : rest.length ≤ (d :: cs).length := by
      have := sign_length (d :: cs)
      rwa [hs] at this
    exact Nat.le_succ_of_le (Nat.le_trans (List.dropWhile_sublist _).length_le hrest)
  | case2 | case3 => exact Nat.le_refl _

def numberToken (whole : List Char) (frac : Option (List Char)) (pow : Option (List Char × List Char)) :
    Except ParseError Token :=
  let point := (frac.map ('.' :: ·)).getD []
  let letter := (pow.map fun (s, ds) => 'e' :: s ++ ds).getD []
  let invalid := ParseError.invalidNumber (String.ofList (whole ++ point ++ letter))
  let digits := frac.getD []
  let mantissa := Decimal.natural (whole ++ digits)
  match frac, pow with
  | none, none => if mantissa < Nat.pow 2 63 then .ok (.int (Int64.ofNat mantissa)) else .error invalid
  | _, none => .ok (.float (Decimal.nearest mantissa (-digits.length)))
  | _, some (_, []) => .error invalid
  | _, some (s, ds) =>
    let e : Int := if s = ['-'] then -Decimal.natural ds else Decimal.natural ds
    .ok (.float (Decimal.nearest mantissa (e - digits.length)))

def number (cs : List Char) : Except ParseError Token × List Char :=
  let whole := cs.takeWhile Char.isDigit
  let (frac, rest) := fraction (cs.dropWhile Char.isDigit)
  let (pow, rest) := power rest
  (numberToken whole frac pow, rest)

theorem number_length_cons {c : Char} (h : c.isDigit) (cs : List Char) :
    (number (c :: cs)).2.length ≤ cs.length := by
  rw [number, List.dropWhile_cons_of_pos h]
  exact Nat.le_trans (power_length _) (Nat.le_trans (fraction_length _) (List.dropWhile_sublist _).length_le)

def operator : List Char → Except ParseError (String × List Char)
  | [] => .error .unexpectedEnd
  | '=' :: '=' :: cs => .ok ("==", cs)
  | '=' :: '>' :: cs => .ok ("=>", cs)
  | '=' :: cs => .ok ("=", cs)
  | '!' :: '=' :: cs => .ok ("!=", cs)
  | '!' :: cs => .ok ("!", cs)
  | '<' :: '=' :: cs => .ok ("<=", cs)
  | '<' :: cs => .ok ("<", cs)
  | '>' :: '=' :: cs => .ok (">=", cs)
  | '>' :: cs => .ok (">", cs)
  | '&' :: '&' :: cs => .ok ("&&", cs)
  | '|' :: '|' :: cs => .ok ("||", cs)
  | '-' :: '>' :: cs => .ok ("->", cs)
  | '-' :: cs => .ok ("-", cs)
  | '+' :: cs => .ok ("+", cs)
  | '*' :: cs => .ok ("*", cs)
  | '/' :: cs => .ok ("/", cs)
  | '^' :: cs => .ok ("^", cs)
  | '%' :: cs => .ok ("%", cs)
  | c :: _ => .error (.unexpectedChar c)

theorem operator_length {cs rest : List Char} {op : String} (h : operator cs = .ok (op, rest)) :
    rest.length < cs.length := by
  revert h
  fun_cases operator cs <;> rintro ⟨⟩ <;> simp only [List.length_cons] <;> omega

def single? : Char → Option Token
  | '(' => some .openParen
  | ')' => some .closeParen
  | '[' => some .openBracket
  | ']' => some .closeBracket
  | ',' => some .comma
  | ';' => some .semicolon
  | '$' => some .dollar
  | _ => none

def goesOn (p : Char → Bool) : List Char → Bool
  | [] => false
  | c :: _ => p c

def afterDot (cs : List Char) : Except ParseError (Token × List Char) :=
  if goesOn isOperatorChar cs then do
    let (op, rest) ← operator cs
    if op == "=" || op == "=>" || op == "->" then .error (.unexpectedChar '.') else .ok (.op ("." ++ op), rest)
  else .ok (.dot, cs)

def afterColon (cs : List Char) : Except ParseError (Token × List Char) :=
  if goesOn isNameStart cs then .ok (.quote (String.ofList (name cs).1), (name cs).2)
  else .error (.unexpectedChar ':')

def afterAt (cs : List Char) : Except ParseError (Token × List Char) :=
  if (name cs).1.isEmpty then .error (.unexpectedChar '@')
  else .ok (.marker (String.ofList (name cs).1), (name cs).2)

def afterQuote (cs : List Char) : Except ParseError (Token × List Char) :=
  match stringBody cs with
  | none => .error .unterminatedString
  | some (s, rest) => .ok (.str (String.ofList s), rest)

section

variable {c : Char} {cs rest : List Char} {t : Token}

theorem afterDot_length (h : afterDot cs = .ok (t, rest)) : rest.length ≤ cs.length := by
  rw [afterDot] at h
  split at h
  next =>
    cases ho : operator cs with
    | error e =>
      rw [ho] at h
      cases h
    | ok p =>
      rw [ho] at h
      dsimp only [bind, Except.bind] at h
      split at h <;> cases h
      exact Nat.le_of_lt (operator_length ho)
  next =>
    cases h
    exact Nat.le_refl _

theorem afterColon_length (h : afterColon cs = .ok (t, rest)) : rest.length ≤ cs.length := by
  rw [afterColon] at h
  split at h <;> cases h
  exact name_length cs

theorem afterAt_length (h : afterAt cs = .ok (t, rest)) : rest.length ≤ cs.length := by
  rw [afterAt] at h
  split at h <;> cases h
  exact name_length cs

theorem afterQuote_length (h : afterQuote cs = .ok (t, rest)) : rest.length ≤ cs.length := by
  rw [afterQuote] at h
  split at h
  next => cases h
  next hs =>
    cases h
    exact stringBody_length hs

def token (c : Char) (cs : List Char) : Except ParseError (Token × List Char) :=
  match single? c with
  | some t => .ok (t, cs)
  | none =>
    if c = '.' then afterDot cs
    else if c = ':' then afterColon cs
    else if c = '@' then afterAt cs
    else if c = '"' then afterQuote cs
    else if c.isDigit then (number (c :: cs)).1.map fun t => (t, (number (c :: cs)).2)
    else if isNameStart c then .ok (.ident (String.ofList (name (c :: cs)).1), (name (c :: cs)).2)
    else if isOperatorChar c then (operator (c :: cs)).map fun (op, rest) => (.op op, rest)
    else .error (.unexpectedChar c)

theorem token_length (h : token c cs = .ok (t, rest)) : rest.length ≤ cs.length := by
  rw [token] at h
  split at h
  next =>
    cases h
    exact Nat.le_refl _
  split at h
  · exact afterDot_length h
  split at h
  · exact afterColon_length h
  split at h
  · exact afterAt_length h
  split at h
  · exact afterQuote_length h
  split at h
  next hd =>
    cases hn : (number (c :: cs)).1 with
    | error e =>
      rw [hn] at h
      cases h
    | ok t' =>
      rw [hn] at h
      cases h
      exact number_length_cons hd cs
  split at h
  next hn =>
    cases h
    exact name_length_cons (isNameChar_of_isNameStart hn) cs
  split at h
  next =>
    cases ho : operator (c :: cs) with
    | error e =>
      rw [ho] at h
      cases h
    | ok p =>
      rw [ho] at h
      cases h
      exact Nat.le_of_lt_succ (operator_length ho)
  next => cases h

end

/-- The lexemes of a text, up to its end or to the first fault, and that fault. Without a fault the last lexeme is
the end of the input. -/
def scan (cs : List Char) : List Lexeme × Option ParseError :=
  match _hg : gap ⟨false, false⟩ false cs with
  | (g, []) => ([⟨.eof, g⟩], none)
  | (g, c :: rest) =>
    match _ht : token c rest with
    | .error e => ([], some e)
    | .ok (t, rest') =>
      let (lexemes, fault) := scan rest'
      (⟨t, g⟩ :: lexemes, fault)
termination_by cs.length
decreasing_by
  have h1 := gap_length ⟨false, false⟩ false cs
  have h2 := token_length _ht
  rw [_hg] at h1
  exact Nat.lt_of_lt_of_le (Nat.lt_succ_of_le h2) h1

end Tabular.Lexer
