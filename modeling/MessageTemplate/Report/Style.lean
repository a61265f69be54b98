/-!
Colors of a report, as terminal escape sequences.
-/

namespace MessageTemplate.Report

/-- What a piece of a report is, which decides its color. -/
inductive Style where
  | label
  | margin
  | faintMargin
  | unmarked
  | note

/-- The parameters of the escape sequence that switches to the color. -/
def Style.code : Style → String
  | .label => "33"
  | .margin => "38;5;246"
  | .faintMargin => "38;5;240"
  | .unmarked => "38;5;249"
  | .note => "38;5;115"

/-- A text in a color. -/
def paint (style : Style) (s : String) : String :=
  "\x1b[" ++ style.code ++ "m" ++ s ++ "\x1b[0m"

/-- A text in a color, with the escape sequences around every single character. -/
def paintEach (style : Style) (s : String) : String :=
  String.join (s.toList.map fun c => paint style (String.singleton c))

/-- The same text several times. -/
def repeated (n : Nat) (s : String) : String :=
  String.join (List.replicate n s)

/-- So many spaces. -/
def spaces (n : Nat) : String :=
  String.ofList (List.replicate n ' ')

end MessageTemplate.Report
