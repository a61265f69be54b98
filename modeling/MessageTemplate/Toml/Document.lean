import MessageTemplate.Toml.Assembly
import MessageTemplate.Toml.Scalars

/-!
Reading TOML documents. A document is read into its statements first; their tables are put together
afterwards.
-/

namespace MessageTemplate.Toml

/-! ## Keys -/

/-- How many parts a key can have at most, and how deep values can stand in one another, is one less
than this. -/
def depthLimit : Nat := 80

/-- The characters of keys without quotes. -/
def isBareKeyChar (c : Char) : Bool :=
  c.isAlphanum || c = '-' || c = '_'

/-- Reads a key without dots. -/
def simpleKey : Reader String := fun cs =>
  match cs with
  | '"' :: _ => basicString cs
  | '\'' :: _ => literalString cs
  | _ =>
    let name := cs.takeWhile isBareKeyChar
    if name.isEmpty then none else some (String.ofList name, cs.dropWhile isBareKeyChar)

/-- Reads a part of a key behind a dot. -/
def laterKey : Reader String := fun cs => do
  let (_, rest) ← literal "." cs
  let (key, rest) ← simpleKey (skipBlanks rest)
  some (key, skipBlanks rest)

/-- Reads a key, whose parts are separated by dots, with the blanks around it. -/
def dottedKey : Reader (List String) := fun cs => do
  let (first, rest) ← simpleKey (skipBlanks cs)
  let (more, behind) := many laterKey (skipBlanks rest)
  if more.length + 1 < depthLimit then some (first :: more, behind) else none

/-! ## Values -/

/-- Reads a pair, with blanks around its value. -/
def pairWith (value : Reader Value) : Reader Pair := fun cs => do
  let (path, rest) ← dottedKey cs
  let (_, rest) ← literal "=" rest
  let (v, rest) ← value (skipBlanks rest)
  some (⟨path, v⟩, rest)

/-- Reads an item behind a comma. -/
def laterItem {α : Type} (skip : List Char → List Char) (item : Reader α) : Reader α := fun cs => do
  let (_, rest) ← literal "," cs
  let (a, behind) ← item (skip rest)
  some (a, skip behind)

/-- Reads items between commas, none at all included. -/
def items {α : Type} (skip : List Char → List Char) (item : Reader α) (cs : List Char) :
    List α × List Char :=
  match item (skip cs) with
  | none => ([], skip cs)
  | some (a, rest) =>
    let (more, behind) := many (laterItem skip item) (skip rest)
    (a :: more, behind)

/-- Reads an array. A comma may stand behind the last item. -/
def arrayOf (value : Reader Value) : Reader Value := fun cs => do
  let (_, rest) ← literal "[" cs
  let (values, rest) := items skipGaps value rest
  let rest := match rest with
    | ',' :: behind => if values.isEmpty then rest else skipGaps behind
    | _ => rest
  let (_, rest) ← literal "]" rest
  some (.array values, rest)

/-- Reads a table in braces. -/
def tableOf (value : Reader Value) : Reader Value := fun cs => do
  let (_, rest) ← literal "\x7b" cs
  let (pairs, rest) := items skipBlanks (pairWith value) rest
  let (_, rest) ← literal "\x7d" rest
  let entries ← addPairs [] pairs
  some (.table .braces entries, rest)

/-- Reads a value that holds others at most `depth` deep. -/
def valueWithin : (depth : Nat) → Reader Value
  | 0 => scalar
  | depth + 1 => fun cs =>
    match cs with
    | '[' :: _ => arrayOf (valueWithin depth) cs
    | '{' :: _ => tableOf (valueWithin depth) cs
    | _ => scalar cs

/-- Reads a value. -/
def value : Reader Value :=
  valueWithin (depthLimit - 1)

/-! ## Statements -/

/-- A line of a document that says something. -/
inductive Statement where
  | header (header : Header)
  | pair (pair : Pair)

/-- Reads a header. -/
def headerLine : Reader Header
  | '[' :: '[' :: rest => do
    let (path, rest) ← dottedKey rest
    let (_, rest) ← literal "]]" rest
    some (.item path, rest)
  | '[' :: rest => do
    let (path, rest) ← dottedKey rest
    let (_, rest) ← literal "]" rest
    some (.table path, rest)
  | _ => none

/-- Reads a line. Blank lines and comments say nothing. -/
def line : Reader (Option Statement) := fun cs =>
  match skipBlanks cs with
  | [] => if cs.isEmpty then none else some (none, [])
  | '#' :: rest => do
    let (_, behind) ← restOfLine ('#' :: rest)
    some (none, behind)
  | '[' :: rest => do
    let (header, behind) ← headerLine ('[' :: rest)
    let (_, behind) ← restOfLine behind
    some (some (.header header), behind)
  | rest =>
    match lineEnd rest with
    | some (_, behind) => some (none, behind)
    | none => do
      let (pair, behind) ← pairWith value rest
      let (_, behind) ← restOfLine behind
      some (some (.pair pair), behind)

/-- The pairs before the first header, and the sections. -/
def sections : List Statement → List Pair × List Section
  | [] => ([], [])
  | .pair pair :: rest =>
    let (front, parts) := sections rest
    (pair :: front, parts)
  | .header header :: rest =>
    let (front, parts) := sections rest
    ([], ⟨header, front⟩ :: parts)

/-- The entries of the document that a text is, if it is one. A byte order mark at the front is
skipped. -/
def parse? (source : String) : Option Entries :=
  let cs := match source.toList with
    | '\uFEFF' :: rest => rest
    | cs => cs
  match many line cs with
  | (lines, []) =>
    let (front, parts) := sections (lines.filterMap id)
    assemble front parts
  | _ => none

end MessageTemplate.Toml
