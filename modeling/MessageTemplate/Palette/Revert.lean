import MessageTemplate.Palette

/-!
Turning format codes back into tokens: every code that the palette has a name for becomes that name
in braces, so that expanding the text gives the code again.
-/

namespace MessageTemplate.Palette

/-- Replaces named codes from left to right. A section sign that starts no named code is kept, and
the character behind it may start one. -/
def revertChars (palette : Palette) : List Char → List Char
  | [] => []
  | [c] => [c]
  | c :: d :: rest =>
    if c = sectionSign then
      match palette.nameOf? (String.ofList [c, d]) with
      | some name => '{' :: name.toList ++ '}' :: revertChars palette rest
      | none => c :: revertChars palette (d :: rest)
    else c :: revertChars palette (d :: rest)

/-- The text with its named codes written as tokens. -/
def revert (palette : Palette) (s : String) : String :=
  String.ofList (palette.revertChars s.toList)

end MessageTemplate.Palette
