/-!
Reading a text from its front. A reader gives what it has read and the characters behind it, or
nothing when the text does not begin with what it reads.
-/

namespace MessageTemplate.Toml

/-- Reads a value from the front of a text. -/
abbrev Reader (α : Type) := List Char → Option (α × List Char)

variable {α : Type}

/-- Reads items up to the first place where none can be read, at most `limit` of them. -/
def manyUpTo (item : Reader α) : (limit : Nat) → List Char → List α × List Char
  | 0, cs => ([], cs)
  | limit + 1, cs =>
    match item cs with
    | none => ([], cs)
    | some (a, rest) =>
      let (more, behind) := manyUpTo item limit rest
      (a :: more, behind)

/-- Reads items up to the first place where none can be read. Every item takes a character, so there
are no more items than characters. -/
def many (item : Reader α) (cs : List Char) : List α × List Char :=
  manyUpTo item cs.length cs

/-- Reads the given characters. -/
def literal (expected : String) : Reader Unit := fun cs =>
  if expected.toList.isPrefixOf cs then some ((), cs.drop expected.length) else none

/-- Spaces and tabs. -/
def isBlank (c : Char) : Bool :=
  c = ' ' || c = '\t'

/-- Skips spaces and tabs. -/
def skipBlanks (cs : List Char) : List Char :=
  cs.dropWhile isBlank

/-- Reads the end of a line: a line feed, or a carriage return and a line feed. -/
def lineEnd : Reader Unit
  | '\n' :: rest => some ((), rest)
  | '\r' :: '\n' :: rest => some ((), rest)
  | _ => none

/-- The characters that comments and strings can hold: all but the controls, a tab excepted. -/
def isPlain (c : Char) : Bool :=
  c = '\t' || (' ' ≤ c && c ≠ '\x7f')

/-- Skips a comment, up to the end of its line. -/
def skipComment : List Char → List Char
  | '#' :: rest => rest.dropWhile isPlain
  | cs => cs

/-- Reads what may follow a statement on its line: blanks, a comment, and the end of the line or of
the text. -/
def restOfLine : Reader Unit := fun cs =>
  match skipComment (skipBlanks cs) with
  | [] => some ((), [])
  | rest => lineEnd rest

/-- Reads one of the things that can stand between the items of an array. -/
def gap : Reader Unit
  | [] => none
  | c :: rest =>
    if isBlank c then some ((), rest)
    else if c = '#' then lineEnd (rest.dropWhile isPlain)
    else lineEnd (c :: rest)

/-- Skips blanks, comments and line ends. -/
def skipGaps (cs : List Char) : List Char :=
  (many gap cs).2

end MessageTemplate.Toml
