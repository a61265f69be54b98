/-!
A text as a report shows it: cut into lines after every line end that Unicode knows, with positions
counted in characters.
-/

namespace MessageTemplate.Report

/-- A line with its end, and the number of characters before it. -/
structure SourceLine where
  offset : Nat
  chars : List Char

/-- The number of characters, the line's end included. -/
def SourceLine.length (line : SourceLine) : Nat :=
  line.chars.length

/-- The position behind the line. -/
def SourceLine.stop (line : SourceLine) : Nat :=
  line.offset + line.length

/-- The characters that end a line. -/
def isLineEnd (c : Char) : Bool :=
  c = '\n' || c = '\x0b' || c = '\x0c' || c = '\r' || c = '\u0085' || c = '\u2028' || c = '\u2029'

/-- Cuts characters into lines. `current` holds the line so far, backwards. A carriage return and a
line feed are one line end. -/
def cutLines (current : List Char) : List Char → List (List Char)
  | [] => if current.isEmpty then [] else [current.reverse]
  | '\r' :: '\n' :: rest => ('\n' :: '\r' :: current).reverse :: cutLines [] rest
  | c :: rest =>
    if isLineEnd c then (c :: current).reverse :: cutLines [] rest
    else cutLines (c :: current) rest

/-- Gives each line its offset. -/
def placeLines (offset : Nat) : List (List Char) → List SourceLine
  | [] => []
  | chars :: rest => ⟨offset, chars⟩ :: placeLines (offset + chars.length) rest

/-- The lines of a text. -/
def sourceLines (source : String) : List SourceLine :=
  placeLines 0 (cutLines [] source.toList)

/-- The number of the line that holds a position, counted from zero. The position behind the text
belongs to the last line; further ones belong to none. -/
def lineAt? (lines : List SourceLine) (position : Nat) : Option Nat :=
  match lines.getLast? with
  | none => none
  | some last =>
    if last.stop < position then none
    else some ((lines.takeWhile (·.offset ≤ position)).length - 1)

end MessageTemplate.Report
