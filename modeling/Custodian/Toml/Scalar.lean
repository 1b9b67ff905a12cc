import Custodian.Toml.Value

/-!
# Scalars of a TOML document

Readers of strings, numbers, dates and keys. Each gives what it read and the characters after it, or nothing if none of
its kind stands there.
-/

namespace Custodian.Toml

set_option autoImplicit false

/-- What a reader yields. -/
abbrev Parsed (α : Type) := Option (α × List Char)

/-- Spaces and tabs. -/
def isBlankChar (c : Char) : Bool := c = ' ' || c = '\t'

/-- Skips spaces and tabs. -/
def skipBlank (cs : List Char) : List Char := cs.dropWhile isBlankChar

/-- Characters that may stand in a comment or between single quotes: all but controls, the tab excepted. -/
def isPlain (c : Char) : Bool := c = '\t' || (32 ≤ c.toNat && c.toNat ≠ 127)

/-- Skips one line break. -/
def lineBreak? : List Char → Option (List Char)
  | '\n' :: r => some r
  | '\r' :: '\n' :: r => some r
  | _ => none

/-! ## Strings -/

/-- The value of hexadecimal digits. -/
def hexValue? (ds : List Char) : Option Nat :=
  ds.foldlM (fun n c =>
    if c.isDigit then some (16 * n + (c.toNat - 48))
    else if 'a' ≤ c ∧ c ≤ 'f' then some (16 * n + (c.toNat - 87))
    else if 'A' ≤ c ∧ c ≤ 'F' then some (16 * n + (c.toNat - 55))
    else none) 0

/-- The character with a code point in hexadecimal digits. -/
def codePoint? (ds : List Char) : Option Char :=
  (hexValue? ds).bind fun n => if n.isValidChar then some (Char.ofNat n) else none

/-- What a letter after a backslash stands for. -/
def escape? (c : Char) : Option Char :=
  if c = 'b' then some '\x08'
  else if c = 't' then some '\t'
  else if c = 'n' then some '\n'
  else if c = 'f' then some '\x0c'
  else if c = 'r' then some '\r'
  else if c = '"' then some '"'
  else if c = '\\' then some '\\'
  else none

/-- Puts a character in front of what was read. -/
def consChar (c : Char) (p : Parsed (List Char)) : Parsed (List Char) := p.map fun r => (c :: r.1, r.2)

/-- The rest of a string after a double quote. -/
def basicBody : List Char → Parsed (List Char)
  | [] => none
  | '"' :: r => some ([], r)
  | '\\' :: 'u' :: a :: b :: c :: d :: r =>
    (codePoint? [a, b, c, d]).bind fun x => consChar x (basicBody r)
  | '\\' :: 'U' :: a :: b :: c :: d :: e :: f :: g :: h :: r =>
    (codePoint? [a, b, c, d, e, f, g, h]).bind fun x => consChar x (basicBody r)
  | '\\' :: c :: r => (escape? c).bind fun x => consChar x (basicBody r)
  | c :: r => if isPlain c ∧ c ≠ '\\' then consChar c (basicBody r) else none

/-- Whether only blanks stand before the next line break. -/
def endsLine (cs : List Char) : Bool := (lineBreak? (skipBlank cs)).isSome

/-- The rest of a string after three double quotes. A backslash at the end of a line takes the line break and the blanks
and line breaks after it away: `trimming` tells that this goes on. Up to two quotes may stand before the last three. -/
def multiBasicBody (trimming : Bool) : List Char → Parsed (List Char)
  | [] => none
  | '"' :: '"' :: '"' :: '"' :: '"' :: r => some (['"', '"'], r)
  | '"' :: '"' :: '"' :: '"' :: r => some (['"'], r)
  | '"' :: '"' :: '"' :: r => some ([], r)
  | '\r' :: '\n' :: r => if trimming then multiBasicBody true r else consChar '\n' (multiBasicBody false r)
  | '\n' :: r => if trimming then multiBasicBody true r else consChar '\n' (multiBasicBody false r)
  | '\\' :: 'u' :: a :: b :: c :: d :: r =>
    (codePoint? [a, b, c, d]).bind fun x => consChar x (multiBasicBody false r)
  | '\\' :: 'U' :: a :: b :: c :: d :: e :: f :: g :: h :: r =>
    (codePoint? [a, b, c, d, e, f, g, h]).bind fun x => consChar x (multiBasicBody false r)
  | '\\' :: c :: r =>
    if endsLine (c :: r) then multiBasicBody true (c :: r)
    else (escape? c).bind fun x => consChar x (multiBasicBody false r)
  | c :: r =>
    if trimming ∧ isBlankChar c then multiBasicBody true r
    else if isPlain c ∧ c ≠ '\\' then consChar c (multiBasicBody false r)
    else none

/-- The rest of a string after a single quote. -/
def literalBody : List Char → Parsed (List Char)
  | [] => none
  | '\'' :: r => some ([], r)
  | c :: r => if isPlain c then consChar c (literalBody r) else none

/-- The rest of a string after three single quotes. -/
def multiLiteralBody : List Char → Parsed (List Char)
  | [] => none
  | '\'' :: '\'' :: '\'' :: '\'' :: '\'' :: r => some (['\'', '\''], r)
  | '\'' :: '\'' :: '\'' :: '\'' :: r => some (['\''], r)
  | '\'' :: '\'' :: '\'' :: r => some ([], r)
  | '\r' :: '\n' :: r => consChar '\n' (multiLiteralBody r)
  | '\n' :: r => consChar '\n' (multiLiteralBody r)
  | c :: r => if isPlain c then consChar c (multiLiteralBody r) else none

/-- Skips the line break right after three quotes. -/
def skipFirstBreak (cs : List Char) : List Char := (lineBreak? cs).getD cs

/-- A string of any of the four kinds. -/
def string? : List Char → Parsed String
  | '"' :: '"' :: '"' :: r => (multiBasicBody false (skipFirstBreak r)).map fun p => (String.ofList p.1, p.2)
  | '"' :: r => (basicBody r).map fun p => (String.ofList p.1, p.2)
  | '\'' :: '\'' :: '\'' :: r => (multiLiteralBody (skipFirstBreak r)).map fun p => (String.ofList p.1, p.2)
  | '\'' :: r => (literalBody r).map fun p => (String.ofList p.1, p.2)
  | _ => none

/-! ## Keys -/

/-- Characters of a key that needs no quotes. -/
def isBareKeyChar (c : Char) : Bool := c.isAlphanum || c = '_' || c = '-'

/-- One key. -/
def simpleKey? : List Char → Parsed String
  | '"' :: r => (basicBody r).map fun p => (String.ofList p.1, p.2)
  | '\'' :: r => (literalBody r).map fun p => (String.ofList p.1, p.2)
  | cs =>
    let key := cs.takeWhile isBareKeyChar
    if key.isEmpty then none else some (String.ofList key, cs.dropWhile isBareKeyChar)

/-- Keys with dots between them; `fuel` bounds their number. Blanks may stand around the dots. -/
def keys? : Nat → List Char → Parsed (List String)
  | 0, _ => none
  | fuel + 1, cs =>
    match simpleKey? (skipBlank cs) with
    | none => none
    | some (k, r) =>
      match skipBlank r with
      | '.' :: r => (keys? fuel r).map fun p => (k :: p.1, p.2)
      | r => some ([k], r)

/-- One more than the largest number of keys with dots between them, and than the deepest nesting of values. -/
def nestingLimit : Nat := 80

/-! ## Numbers -/

/-- Digits after a first one, with single underscores between digits, without the underscores. -/
def moreDigits (isDigit : Char → Bool) : List Char → List Char × List Char
  | '_' :: c :: r =>
    if isDigit c then
      let p := moreDigits isDigit r
      (c :: p.1, p.2)
    else ([], '_' :: c :: r)
  | c :: r =>
    if isDigit c then
      let p := moreDigits isDigit r
      (c :: p.1, p.2)
    else ([], c :: r)
  | [] => ([], [])

/-- One or more digits. -/
def digits? (isDigit : Char → Bool) : List Char → Parsed (List Char)
  | c :: r =>
    if isDigit c then
      let p := moreDigits isDigit r
      some (c :: p.1, p.2)
    else none
  | [] => none

/-- A decimal integer without superfluous zeros: whether it is negative, and its digits. -/
def decimal? (cs : List Char) : Parsed (Bool × List Char) :=
  let negative := cs.head? = some '-'
  let r := match cs with
    | '+' :: r => r
    | '-' :: r => r
    | r => r
  match r with
  | '0' :: r => some ((negative, ['0']), r)
  | r => (digits? Char.isDigit r).map fun p => ((negative, p.1), p.2)

/-- The value of digits in a base up to sixteen. -/
def digitsIn (base : Nat) (ds : List Char) : Nat :=
  ds.foldl (fun n c => base * n + (hexValue? [c]).getD 0) 0

/-- The digits without zeros in front. -/
def significant (ds : List Char) : List Char := ds.dropWhile (· = '0')

/-- An integer of 64 bits. With more significant digits than bits it would be too large in any base. -/
def bounded (negative : Bool) (base : Nat) (p : List Char × List Char) : Parsed Value :=
  if 64 < (significant p.1).length then none
  else
    let n : Int := digitsIn base p.1
    let n := if negative then -n else n
    if -9223372036854775808 ≤ n ∧ n ≤ 9223372036854775807 then some (.integer n, p.2) else none

/-- An integer; in another base than ten it has no sign. -/
def integer? : List Char → Parsed Value
  | '0' :: 'x' :: r => (digits? (fun c => (hexValue? [c]).isSome) r).bind (bounded false 16)
  | '0' :: 'o' :: r => (digits? (fun c => '0' ≤ c && c ≤ '7') r).bind (bounded false 8)
  | '0' :: 'b' :: r => (digits? (fun c => c = '0' || c = '1') r).bind (bounded false 2)
  | cs => (decimal? cs).bind fun p => bounded p.1.1 10 (p.1.2, p.2)

/-- The fraction of a number: a point and digits. -/
def fraction? : List Char → Parsed (List Char)
  | '.' :: r => digits? Char.isDigit r
  | _ => none

/-- The value of the digits of an exponent, which grows no further once it is far too large for a double. -/
def exponentValue (ds : List Char) : Nat :=
  ds.foldl (fun n c => if n < 65536 then 10 * n + (c.toNat - 48) else n) 0

/-- The exponent of a number. -/
def exponent? : List Char → Parsed Int
  | c :: r =>
    if c = 'e' ∨ c = 'E' then
      let negative := r.head? = some '-'
      let r := match r with
        | '+' :: r => r
        | '-' :: r => r
        | r => r
      (digits? Char.isDigit r).map fun p =>
        let n : Int := exponentValue p.1
        (if negative then -n else n, p.2)
    else none
  | [] => none

/-- Half a unit above the largest double; it has 309 digits. -/
def overflowBound : Nat := 18014398509481983 <<< 970

/-- Whether a positive number is too large for a double. -/
def overflows (digits : List Char) (exponent : Int) : Bool :=
  let ds := significant digits
  let size : Int := ds.length + exponent
  if ds.isEmpty ∨ size < 309 then false
  else if 309 < size then true
  else overflowBound ≤ digitsIn 10 ((ds ++ List.replicate 309 '0').take 309)

/-- A number with a fraction or an exponent. One that is too large is refused, unless it is negative. -/
def decimalFloat? (cs : List Char) : Parsed Value :=
  match decimal? cs with
  | none => none
  | some ((negative, whole), r) =>
    let finite (digits : List Char) (e : Int) (rest : List Char) : Parsed Value :=
      if !negative && overflows digits e then none else some (.float, rest)
    match fraction? r with
    | some (frac, r) =>
      let digits := whole ++ frac
      match exponent? r with
      | some (e, r) => finite digits (e - frac.length) r
      | none => finite digits (-frac.length) r
    | none =>
      match exponent? r with
      | some (e, r) => finite whole e r
      | none => none

/-- Infinity or no number at all. -/
def specialFloat? (cs : List Char) : Parsed Value :=
  match (match cs with
    | '+' :: r => r
    | '-' :: r => r
    | r => r) with
  | 'i' :: 'n' :: 'f' :: r => some (.float, r)
  | 'n' :: 'a' :: 'n' :: r => some (.float, r)
  | _ => none

/-! ## Dates and times -/

/-- A number of exactly `n` digits. -/
def fixedDigits? (n : Nat) (cs : List Char) : Parsed Nat :=
  let ds := cs.take n
  if ds.length = n ∧ ds.all Char.isDigit then some (digitsIn 10 ds, cs.drop n) else none

/-- A number of two digits between bounds. -/
def twoDigits? (low high : Nat) (cs : List Char) : Parsed Nat :=
  (fixedDigits? 2 cs).filter fun p => low ≤ p.1 ∧ p.1 ≤ high

/-- One given character. -/
def char? (c : Char) : List Char → Parsed Unit
  | d :: r => if d = c then some ((), r) else none
  | [] => none

/-- The number of days of a month. -/
def daysIn (year month : Nat) : Nat :=
  if month = 2 then if year % 4 = 0 ∧ (year % 100 ≠ 0 ∨ year % 400 = 0) then 29 else 28
  else if month = 4 ∨ month = 6 ∨ month = 9 ∨ month = 11 then 30
  else 31

/-- A date. -/
def date? (cs : List Char) : Option (Unit × List Char) := do
  let (year, r) ← fixedDigits? 4 cs
  let (_, r) ← char? '-' r
  let (month, r) ← twoDigits? 1 12 r
  let (_, r) ← char? '-' r
  let (_, r) ← twoDigits? 1 (daysIn year month) r
  some ((), r)

/-- A time of day, with or without parts of a second; the last minute may have one second more. -/
def time? (cs : List Char) : Option (Unit × List Char) := do
  let (_, r) ← twoDigits? 0 23 cs
  let (_, r) ← char? ':' r
  let (_, r) ← twoDigits? 0 59 r
  let (_, r) ← char? ':' r
  let (_, r) ← twoDigits? 0 60 r
  match r with
  | '.' :: c :: more => if c.isDigit then some ((), more.dropWhile Char.isDigit) else some ((), r)
  | _ => some ((), r)

/-- The distance of a time zone. -/
def offset? : List Char → Option (Unit × List Char)
  | [] => none
  | c :: r =>
    if c = 'Z' ∨ c = 'z' then some ((), r)
    else if c = '+' ∨ c = '-' then do
      let (_, r) ← twoDigits? 0 23 r
      let (_, r) ← char? ':' r
      let (_, r) ← twoDigits? 0 59 r
      some ((), r)
    else none

/-- A date, a time, or both with or without a time zone. -/
def datetime? (cs : List Char) : Parsed Value :=
  match date? cs with
  | some (_, r) =>
    match r with
    | [] => some (.datetime, r)
    | c :: t =>
      if c = 'T' ∨ c = 't' ∨ c = ' ' then
        match time? t with
        | some (_, t) => some (.datetime, ((offset? t).map (·.2)).getD t)
        | none => some (.datetime, r)
      else some (.datetime, r)
  | none => (time? cs).map fun p => (.datetime, p.2)

/-- A value that is neither an array nor a table. -/
def scalar? (cs : List Char) : Parsed Value :=
  match cs with
  | [] => none
  | c :: _ =>
    if c = '"' ∨ c = '\'' then (string? cs).map fun p => (.text p.1, p.2)
    else if c = '+' ∨ c = '-' ∨ c.isDigit then
      (datetime? cs).orElse fun _ =>
        (decimalFloat? cs).orElse fun _ => (specialFloat? cs).orElse fun _ => integer? cs
    else
      match cs with
      | 't' :: 'r' :: 'u' :: 'e' :: r => some (.boolean true, r)
      | 'f' :: 'a' :: 'l' :: 's' :: 'e' :: r => some (.boolean false, r)
      | _ => specialFloat? cs

end Custodian.Toml
