import MessageTemplate.Text.Property.GraphemeExtend
import MessageTemplate.Text.Property.Unprintable

/-!
Quoted text, for showing a value inside a message: double quotes around it, and an escape for every
character that would end it, break the line or not be seen.
-/

namespace MessageTemplate.Text

/-- The fillers of the Korean script, which are letters without a shape. -/
def isFiller (c : Char) : Bool :=
  c = '\u115F' || c = '\u1160' || c = '\u3164' || c = '\uFFA0'

/-- The halfwidth sound marks, which belong to the letter before them but take a place of their own. -/
def isHalfwidthMark (c : Char) : Bool :=
  c = '\uFF9E' || c = '\uFF9F'

/-- The characters that show nothing, or only together with the one before. -/
def isHidden (c : Char) : Bool :=
  unprintableTable.contains c || isFiller c
    || (graphemeExtendTable.contains c && !isHalfwidthMark c)

/-- One character of a quoted text. -/
def quotedChar (c : Char) : List Char :=
  match c with
  | '"' => ['\\', '"']
  | '\\' => ['\\', '\\']
  | '\n' => ['\\', 'n']
  | '\r' => ['\\', 'r']
  | '\t' => ['\\', 't']
  | '\x00' => ['\\', '0']
  | c =>
    if isHidden c then
      ['\\', 'u', '{'] ++ Nat.toDigits 16 c.toNat ++ ['}']
    else [c]

/-- The text in double quotes. -/
def quoted (s : String) : String :=
  String.ofList ('"' :: s.toList.flatMap quotedChar ++ ['"'])

end MessageTemplate.Text
