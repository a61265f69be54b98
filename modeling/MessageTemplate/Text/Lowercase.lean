import MessageTemplate.Text.Lowercase.Table
import MessageTemplate.Text.Property.Cased

/-!
Lower-casing by the full mappings. Names are compared by their lower-case form, so two of them
collide exactly when this function sends both to the same text.

Two rules reach beyond a table of single characters: U+0130 becomes an `i` and a combining dot, and
a capital sigma that ends a word becomes the final form of the letter.
-/

namespace MessageTemplate.Text

/-- The lower-case form of a character where its neighbours do not matter. -/
def lowerChar (c : Char) : List Char :=
  if c.toNat < 0x80 then [c.toLower]
  else if c = 'İ' then ['i', Char.ofNat 0x307]
  else match caseRuns.find? (·.contains c.toNat) with
    | some run => [Char.ofNat (Int.toNat (c.toNat + run.shift))]
    | none => [c]

/-- Whether the first character that is not passed over has a case. -/
def meetsCased (cs : List Char) : Bool :=
  match cs.dropWhile caseIgnorableTable.contains with
  | c :: _ => casedTable.contains c
  | [] => false

/-- Whether a letter ends a word: a letter stands before it and none after it. The text before is
given backwards, nearest character first. -/
def endsWord (before after : List Char) : Bool :=
  meetsCased before && !meetsCased after

/-- Lower-cases the characters that follow `before`, which is given backwards. -/
def lowerAfter (before : List Char) : List Char → List Char
  | [] => []
  | c :: rest =>
    (if c = 'Σ' then [if endsWord before rest then 'ς' else 'σ'] else lowerChar c)
      ++ lowerAfter (c :: before) rest

/-- The lower-case form of a text. -/
def lowercase (s : String) : String :=
  String.ofList (lowerAfter [] s.toList)

end MessageTemplate.Text
