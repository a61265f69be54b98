import MessageTemplate.Toml.Reader

/-!
The four kinds of strings: in double quotes with escapes, in single quotes without, and both of them
in three quotes over several lines.
-/

namespace MessageTemplate.Toml

/-- The value of a hexadecimal digit. -/
def hexDigit? (c : Char) : Option Nat :=
  if c.isDigit then some (c.toNat - '0'.toNat)
  else if 'a' ≤ c && c ≤ 'f' then some (c.toNat - 'a'.toNat + 10)
  else if 'A' ≤ c && c ≤ 'F' then some (c.toNat - 'A'.toNat + 10)
  else none

/-- Reads a character by its code point, written in so many hexadecimal digits. -/
def codePoint (digits : Nat) : Reader Char := fun cs =>
  let written := cs.take digits
  if written.length < digits then none
  else do
    let values ← written.mapM hexDigit?
    let n := values.foldl (fun n digit => 16 * n + digit) 0
    if n.isValidChar then some (Char.ofNat n, cs.drop digits) else none

/-- Reads an escape. -/
def escape : Reader Char
  | '\\' :: c :: rest =>
    match c with
    | 'b' => some ('\x08', rest)
    | 't' => some ('\t', rest)
    | 'n' => some ('\n', rest)
    | 'f' => some ('\x0c', rest)
    | 'r' => some ('\r', rest)
    | '"' => some ('"', rest)
    | '\\' => some ('\\', rest)
    | 'u' => codePoint 4 rest
    | 'U' => codePoint 8 rest
    | _ => none
  | _ => none

/-- Reads a character of a string between the given quotes, escapes aside. -/
def plainChar (quote : Char) : Reader Char
  | [] => none
  | c :: rest => if isPlain c && c ≠ quote then some (c, rest) else none

/-- Reads a character of a string in double quotes. -/
def basicChar : Reader Char
  | '\\' :: rest => escape ('\\' :: rest)
  | cs => plainChar '"' cs

/-- Reads a string of one line in double quotes. -/
def basicString : Reader String
  | '"' :: rest =>
    match many basicChar rest with
    | (cs, '"' :: behind) => some (String.ofList cs, behind)
    | _ => none
  | _ => none

/-- Reads a string of one line in single quotes. -/
def literalString : Reader String
  | '\'' :: rest =>
    match many (plainChar '\'') rest with
    | (cs, '\'' :: behind) => some (String.ofList cs, behind)
    | _ => none
  | _ => none

/-- Reads one or two quotes that do not belong to three. -/
def looseQuotes (quote : Char) : Reader (List Char)
  | a :: b :: c :: rest =>
    if a ≠ quote then none
    else if b ≠ quote then some ([a], b :: c :: rest)
    else if c ≠ quote then some ([a, b], c :: rest)
    else none
  | [a, b] => if a = quote && b ≠ quote then some ([a], [b]) else none
  | _ => none

/-- Reads the three quotes that end a string. Up to two more before them belong to the string. -/
def closingQuotes (quote : Char) : Reader (List Char) := fun cs =>
  let quotes := (cs.takeWhile (· = quote)).length
  if quotes < 3 then none
  else
    let more := min (quotes - 3) 2
    some (List.replicate more quote, cs.drop (more + 3))

/-- Reads a backslash at the end of a line, with the blanks and line ends up to the next text. -/
def joinedLines : Reader (List Char)
  | '\\' :: rest => do
    let (_, behind) ← lineEnd (skipBlanks rest)
    let blankOrEnd : Reader Unit
      | [] => none
      | c :: rest => if isBlank c then some ((), rest) else lineEnd (c :: rest)
    some ([], (many blankOrEnd behind).2)
  | _ => none

/-- Reads a line end inside a string, which is a line feed however it is written. -/
def innerLineEnd : Reader (List Char) := fun cs => do
  let (_, rest) ← lineEnd cs
  some (['\n'], rest)

/-- Reads a piece of a string over several lines. -/
def multilinePiece (quote : Char) (escapes : Bool) : Reader (List Char) := fun cs =>
  match cs with
  | [] => none
  | c :: _ =>
    if c = quote then looseQuotes quote cs
    else if c = '\\' && escapes then
      joinedLines cs <|> (escape cs).map fun (c, rest) => ([c], rest)
    else innerLineEnd cs <|> (plainChar quote cs).map fun (c, rest) => ([c], rest)

/-- Reads a string over several lines, in three quotes. A line end right behind the opening quotes is
not part of it. -/
def multilineString (quote : Char) (escapes : Bool) : Reader String := fun cs => do
  let (_, opened) ← literal (String.ofList [quote, quote, quote]) cs
  let body := match lineEnd opened with
    | some (_, rest) => rest
    | none => opened
  let (pieces, behind) := many (multilinePiece quote escapes) body
  let (more, rest) ← closingQuotes quote behind
  some (String.ofList (pieces.flatten ++ more), rest)

/-- Reads a string of any kind. -/
def anyString : Reader String := fun cs =>
  multilineString '"' true cs <|> multilineString '\'' false cs
    <|> basicString cs <|> literalString cs

end MessageTemplate.Toml
