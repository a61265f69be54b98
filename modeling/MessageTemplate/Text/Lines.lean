/-!
The lines of a text for processing it line by line: a line feed ends a line, and so does a carriage
return with a line feed. A carriage return elsewhere is an ordinary character.
-/

namespace MessageTemplate.Text

/-- A line without its end, and the byte at which it starts. -/
structure Line where
  offset : Nat
  text : String
  deriving DecidableEq, Repr

/-- A line's characters without the carriage return of its end. -/
def dropLineEnd (cs : List Char) : List Char :=
  if cs.getLast? = some '\r' then cs.dropLast else cs

/-- The lines of the characters from byte `offset` on. `current` holds the characters of the line
so far, backwards. -/
def linesFrom (offset : Nat) (current : List Char) : List Char → List Line
  | [] => if current.isEmpty then [] else [⟨offset, String.ofList current.reverse⟩]
  | c :: rest =>
    if c = '\n' then
      let line := current.reverse
      let next := offset + (String.ofList line).utf8ByteSize + 1
      ⟨offset, String.ofList (dropLineEnd line)⟩ :: linesFrom next [] rest
    else linesFrom offset (c :: current) rest

/-- The lines of a text. A last line without an end counts, an empty one does not. -/
def lines (s : String) : List Line :=
  linesFrom 0 [] s.toList

end MessageTemplate.Text
