import MessageTemplate.Text.Quoted

/-!
Values of several fields as one line of text, for showing what an object holds.
-/

namespace MessageTemplate.Text

/-- The fields of a record in braces behind its name. -/
def record (name : String) (fields : List (String × String)) : String :=
  name ++ " \x7b " ++ ", ".intercalate (fields.map fun (field, value) => field ++ ": " ++ value)
    ++ " \x7d"

/-- A record that has more fields than the ones shown. -/
def openRecord (name : String) (fields : List (String × String)) : String :=
  name ++ " \x7b " ++ ", ".intercalate (fields.map fun (field, value) => field ++ ": " ++ value)
    ++ ", .. \x7d"

/-- Texts in quotes, between brackets. -/
def quotedList (items : List String) : String :=
  "[" ++ ", ".intercalate (items.map quoted) ++ "]"

end MessageTemplate.Text
