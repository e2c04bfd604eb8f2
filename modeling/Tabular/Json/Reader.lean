import Tabular.Json.Number

namespace Tabular.Json.Reader

def isSpace (c : Char) : Bool := c == ' ' || c == '\n' || c == '\t' || c == '\r'

def skip (cs : List Char) : List Char := cs.dropWhile isSpace

def hexDigit? (c : Char) : Option Nat :=
  if c.isDigit then some (c.toNat - '0'.toNat)
  else if 'a' ≤ c && c ≤ 'f' then some (c.toNat - 'a'.toNat + 10)
  else if 'A' ≤ c && c ≤ 'F' then some (c.toNat - 'A'.toNat + 10)
  else none

def hexNumber? (digits : List Char) : Option Nat :=
  digits.foldlM (fun n c => (hexDigit? c).map (16 * n + ·)) 0

def escape? : Char → Option Char
  | '"' => some '"'
  | '\\' => some '\\'
  | '/' => some '/'
  | 'b' => some '\x08'
  | 'f' => some '\x0c'
  | 'n' => some '\n'
  | 'r' => some '\r'
  | 't' => some '\t'
  | _ => none

/-- The code units of a string literal behind its opening quote; a unit beyond 16 bits stands for a whole
character. -/
def units : List Char → Option (List Nat × List Char)
  | [] => none
  | '"' :: cs => some ([], cs)
  | '\\' :: 'u' :: a :: b :: c :: d :: cs => do
    let n ← hexNumber? [a, b, c, d]
    let (us, rest) ← units cs
    return (n :: us, rest)
  | '\\' :: e :: cs => do
    let c ← escape? e
    let (us, rest) ← units cs
    return (c.toNat :: us, rest)
  | c :: cs => do
    if c.toNat < 0x20 || c == '\\' then failure
    let (us, rest) ← units cs
    return (c.toNat :: us, rest)

def isHigh (n : Nat) : Bool := 0xD800 ≤ n && n ≤ 0xDBFF

def isLow (n : Nat) : Bool := 0xDC00 ≤ n && n ≤ 0xDFFF

def joined : List Nat → Option (List Char)
  | [] => some []
  | [n] => if isHigh n || isLow n then none else some [Char.ofNat n]
  | n :: m :: ns =>
    if isHigh n then
      if isLow m then (joined ns).map (Char.ofNat (0x10000 + (n - 0xD800) * 0x400 + (m - 0xDC00)) :: ·) else none
    else if isLow n then none
    else (joined (m :: ns)).map (Char.ofNat n :: ·)

def digits (cs : List Char) : List Char × List Char := (cs.takeWhile Char.isDigit, cs.dropWhile Char.isDigit)

def fraction? : List Char → Option (List Char × List Char)
  | '.' :: cs => match digits cs with
    | ([], _) => none
    | found => some found
  | cs => some ([], cs)

def power? : List Char → Option (Option Int × List Char)
  | c :: cs =>
    if c == 'e' || c == 'E' then
      let (negative, cs) := match cs with
        | '-' :: cs => (true, cs)
        | '+' :: cs => (false, cs)
        | cs => (false, cs)
      match digits cs with
      | ([], _) => none
      | (ds, rest) =>
        let n : Int := Decimal.natural ds
        some (some (if negative then -n else n), rest)
    else some (none, c :: cs)
  | [] => some (none, [])

def whole? (cs : List Char) : Option (List Char × List Char) :=
  match digits cs with
  | ([], _) => none
  | ('0' :: _ :: _, _) => none
  | found => some found

def number? (cs : List Char) : Option (Json × List Char) := do
  let (negative, cs) := match cs with
    | '-' :: cs => (true, cs)
    | cs => (false, cs)
  let (whole, cs) ← whole? cs
  let (fraction, cs) ← fraction? cs
  let (power, cs) ← power? cs
  return (.number (Number.ofDigits negative whole fraction power), cs)

def string? (cs : List Char) : Option (Json × List Char) := do
  let (us, rest) ← units cs
  match joined us with
  | some s => return (.string (String.ofList s), rest)
  | none => return (.garbled, rest)

mutual

def value : Nat → List Char → Option (Json × List Char)
  | 0, _ => none
  | n + 1, cs =>
    match skip cs with
    | 'n' :: 'u' :: 'l' :: 'l' :: cs => some (.null, cs)
    | 't' :: 'r' :: 'u' :: 'e' :: cs => some (.bool true, cs)
    | 'f' :: 'a' :: 'l' :: 's' :: 'e' :: cs => some (.bool false, cs)
    | '"' :: cs => string? cs
    | '[' :: cs =>
      match skip cs with
      | ']' :: cs => some (.array [], cs)
      | cs => do
        let (items, cs) ← items n cs
        return (.array items, cs)
    | '\x7b' :: cs =>
      match skip cs with
      | '\x7d' :: cs => some (.object [], cs)
      | cs => do
        let (members, cs) ← members n cs
        return (.object members, cs)
    | cs => number? cs

def items : Nat → List Char → Option (List Json × List Char)
  | 0, _ => none
  | n + 1, cs => do
    let (j, cs) ← value n cs
    match skip cs with
    | ',' :: cs =>
      let (js, cs) ← items n cs
      return (j :: js, cs)
    | ']' :: cs => return ([j], cs)
    | _ => none

def members : Nat → List Char → Option (List (String × Json) × List Char)
  | 0, _ => none
  | n + 1, cs =>
    match skip cs with
    | '"' :: cs => do
      let (key, cs) ← string? cs
      let key ← key.string?
      match skip cs with
      | ':' :: cs =>
        let (j, cs) ← value n cs
        match skip cs with
        | ',' :: cs =>
          let (ms, cs) ← members n cs
          return ((key, j) :: ms, cs)
        | '\x7d' :: cs => return ([(key, j)], cs)
        | _ => none
      | _ => none
    | _ => none

end

end Tabular.Json.Reader

def Tabular.Json.parse? (s : String) : Option Tabular.Json := do
  let (j, rest) ← Tabular.Json.Reader.value (s.length + 1) s.toList
  if (Tabular.Json.Reader.skip rest).isEmpty then some j else none
