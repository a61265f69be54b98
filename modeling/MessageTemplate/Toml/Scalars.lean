import MessageTemplate.Decimal.Nearest
import MessageTemplate.Toml.Strings
import MessageTemplate.Toml.Value

/-!
Numbers, truth values, dates and times.
-/

namespace MessageTemplate.Toml

/-! ## Digits -/

/-- Reads one digit of a base up to sixteen. -/
def digitOf (base : Nat) : Reader Nat
  | [] => none
  | c :: rest =>
    match hexDigit? c with
    | some d => if d < base then some (d, rest) else none
    | none => none

/-- Reads a digit, or a digit behind an underscore. -/
def laterDigit (base : Nat) : Reader Nat
  | '_' :: rest => digitOf base rest
  | cs => digitOf base cs

/-- Reads digits. Single underscores may stand between them. -/
def digitsOf (base : Nat) : Reader (List Nat) := fun cs => do
  let (d, rest) ← digitOf base cs
  let (more, behind) := many (laterDigit base) rest
  some (d :: more, behind)

/-- The number that digits stand for. -/
def numberOf (base : Nat) (digits : List Nat) : Nat :=
  digits.foldl (fun n d => base * n + d) 0

/-- Reads a sign if there is one, and gives whether it was a minus. -/
def sign : List Char → Bool × List Char
  | '-' :: rest => (true, rest)
  | '+' :: rest => (false, rest)
  | cs => (false, cs)

/-! ## Numbers -/

/-- A whole number of 64 bits. -/
def integer? (n : Int) : Option Value :=
  if -0x8000000000000000 ≤ n ∧ n < 0x8000000000000000 then some (.integer n) else none

/-- Reads a whole number in a base other than ten. -/
def basedInteger (base : Nat) : Reader Value := fun cs => do
  let (digits, rest) ← digitsOf base cs
  let value ← integer? (numberOf base digits)
  some (value, rest)

/-- Reads the digits before a point or an exponent: a zero alone, or digits that start otherwise. -/
def wholeDigits : Reader (List Nat)
  | '0' :: rest => some ([0], rest)
  | cs => digitsOf 10 cs

/-- Reads the digits behind a point. -/
def fraction : Reader (List Nat)
  | '.' :: rest => digitsOf 10 rest
  | cs => some ([], cs)

/-- Reads an exponent. -/
def exponent : Reader Int
  | c :: rest =>
    if c = 'e' || c = 'E' then do
      let (negative, unsigned) := sign rest
      let (digits, behind) ← digitsOf 10 unsigned
      let n : Int := numberOf 10 digits
      some (if negative then -n else n, behind)
    else some (0, c :: rest)
  | [] => some (0, [])

/-- Reads a number in base ten. It is a whole number unless a point or an exponent follows. A number
that is too great is an error. -/
def decimalNumber (negative : Bool) : Reader Value := fun cs => do
  let (whole, behind) ← wholeDigits cs
  let (places, rest) ← fraction behind
  let (power, final) ← exponent rest
  if final.length = behind.length then
    let n : Int := numberOf 10 whole
    let value ← integer? (if negative then -n else n)
    some (value, final)
  else
    let decimal : Decimal := ⟨numberOf 10 (whole ++ places), power - places.length⟩
    let value := decimal.toFloat negative
    if value == 1.0 / 0.0 then none else some (.float value, final)

/-- Reads a number of any form. -/
def number : Reader Value
  | '0' :: 'x' :: rest => basedInteger 16 rest
  | '0' :: 'o' :: rest => basedInteger 8 rest
  | '0' :: 'b' :: rest => basedInteger 2 rest
  | cs =>
    let (negative, rest) := sign cs
    match rest with
    | 'i' :: 'n' :: 'f' :: behind =>
      some (.float (if negative then -1.0 / 0.0 else 1.0 / 0.0), behind)
    | 'n' :: 'a' :: 'n' :: behind => some (.float (0.0 / 0.0), behind)
    | _ => decimalNumber negative rest

/-! ## Dates and times -/

/-- Reads a number of exactly so many digits that lies in a range. -/
def fixedDigits (count low high : Nat) : Reader Nat := fun cs => do
  let written := cs.take count
  if written.length < count then none
  let digits ← written.mapM fun c => if c.isDigit then hexDigit? c else none
  let n := numberOf 10 digits
  if low ≤ n && n ≤ high then some (n, cs.drop count) else none

/-- The number of days of a month. -/
def daysOf (year month : Nat) : Nat :=
  if month = 2 then
    if year % 4 = 0 && (year % 100 ≠ 0 || year % 400 = 0) then 29 else 28
  else if month = 4 || month = 6 || month = 9 || month = 11 then 30
  else 31

/-- Reads a date. -/
def date : Reader Unit := fun cs => do
  let (year, cs) ← fixedDigits 4 0 9999 cs
  let (_, cs) ← literal "-" cs
  let (month, cs) ← fixedDigits 2 1 12 cs
  let (_, cs) ← literal "-" cs
  let (_, cs) ← fixedDigits 2 1 (daysOf year month) cs
  some ((), cs)

/-- Reads a time of day; a minute can have a leap second. -/
def time : Reader Unit := fun cs => do
  let (_, cs) ← fixedDigits 2 0 23 cs
  let (_, cs) ← literal ":" cs
  let (_, cs) ← fixedDigits 2 0 59 cs
  let (_, cs) ← literal ":" cs
  let (_, cs) ← fixedDigits 2 0 60 cs
  match cs with
  | '.' :: c :: rest => if c.isDigit then some ((), rest.dropWhile Char.isDigit) else none
  | _ => some ((), cs)

/-- Reads an offset from universal time, if there is one. -/
def zone : List Char → List Char
  | c :: rest =>
    if c = 'Z' || c = 'z' then rest
    else if c = '+' || c = '-' then
      let offset := do
        let (_, cs) ← fixedDigits 2 0 23 rest
        let (_, cs) ← literal ":" cs
        let (_, cs) ← fixedDigits 2 0 59 cs
        some cs
      offset.getD (c :: rest)
    else c :: rest
  | [] => []

/-- Passes over a date, a time, or both. -/
def dateOrTime : Reader Unit := fun cs =>
  match date cs with
  | some (_, c :: rest) =>
    if c = 'T' || c = 't' || c = ' ' then
      match time rest with
      | some (_, behind) => some ((), zone behind)
      | none => some ((), c :: rest)
    else some ((), c :: rest)
  | some (_, []) => some ((), [])
  | none => time cs

/-- Reads a date, a time, or both. -/
def moment : Reader Value := fun cs => do
  let (_, rest) ← dateOrTime cs
  some (.moment (String.ofList (cs.take (cs.length - rest.length))), rest)

/-! ## All of them -/

/-- Reads a value that holds no other values. -/
def scalar : Reader Value := fun cs =>
  match cs with
  | 't' :: 'r' :: 'u' :: 'e' :: rest => some (.boolean true, rest)
  | 'f' :: 'a' :: 'l' :: 's' :: 'e' :: rest => some (.boolean false, rest)
  | '"' :: _ => (anyString cs).map fun (s, rest) => (.string s, rest)
  | '\'' :: _ => (anyString cs).map fun (s, rest) => (.string s, rest)
  | _ => moment cs <|> number cs

end MessageTemplate.Toml
