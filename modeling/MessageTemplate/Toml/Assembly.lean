import MessageTemplate.Toml.Value

/-!
Putting a document's tables together from its statements. A table can be reached through several
statements, so each step checks whether the table that it meets may still be added to.
-/

namespace MessageTemplate.Toml

/-- Adds a value under a dotted key. The tables on the way are made by this or other dotted keys. A
table that a header only implies may be passed through, and so may the last of a list of tables, but
nothing is put into them. `own` says whether the value may be put into the table at hand. -/
def addUnder (own : Bool) (entries : Entries) : (path : List String) → (value : Value) → Option Entries
  | [], _ => none
  | [key], value =>
    if own && (entries.lookup key).isNone then some (entries ++ [(key, value)]) else none
  | key :: path, value =>
    match entries.lookup key with
    | none => do
      let inner ← addUnder true [] path value
      some (entries ++ [(key, .table .dotted inner)])
    | some (.table .dotted inner) => do
      let inner ← addUnder true inner path value
      some (entries.set key (.table .dotted inner))
    | some (.table .implied inner) => do
      let inner ← addUnder false inner path value
      some (entries.set key (.table .implied inner))
    | some (.tables items) => do
      let last ← items.getLast?
      let last ← addUnder false last path value
      some (entries.set key (.tables (items.dropLast ++ [last])))
    | some _ => none

/-- A pair of a dotted key and its value. -/
structure Pair where
  path : List String
  value : Value

/-- Adds pairs to a table, one after the other. -/
def addPairs (entries : Entries) : List Pair → Option Entries
  | [] => some entries
  | pair :: rest => do
    let entries ← addUnder true entries pair.path pair.value
    addPairs entries rest

/-- Puts a table where a header says, with the entries that `fill` makes of the ones that are there.
Only a table that has merely been implied so far can get a header. -/
def defineTable (fill : Entries → Option Entries) (entries : Entries) :
    (path : List String) → Option Entries
  | [] => none
  | [key] =>
    match entries.lookup key with
    | none => do
      let inner ← fill []
      some (entries ++ [(key, .table .header inner)])
    | some (.table .implied inner) => do
      let inner ← fill inner
      some (entries.set key (.table .header inner))
    | some _ => none
  | key :: path =>
    match entries.lookup key with
    | none => do
      let inner ← defineTable fill [] path
      some (entries ++ [(key, .table .implied inner)])
    | some (.table origin inner) =>
      if origin = .braces then none
      else do
        let inner ← defineTable fill inner path
        some (entries.set key (.table origin inner))
    | some (.tables items) => do
      let last ← items.getLast?
      let last ← defineTable fill last path
      some (entries.set key (.tables (items.dropLast ++ [last])))
    | some _ => none

/-- Adds a table to the list of tables that a header in double brackets names. -/
def appendTable (fill : Entries → Option Entries) (entries : Entries) :
    (path : List String) → Option Entries
  | [] => none
  | [key] => do
    let item ← fill []
    match entries.lookup key with
    | none => some (entries ++ [(key, .tables [item])])
    | some (.tables items) => some (entries.set key (.tables (items ++ [item])))
    | some _ => none
  | key :: path =>
    match entries.lookup key with
    | none => do
      let inner ← appendTable fill [] path
      some (entries ++ [(key, .table .implied inner)])
    | some (.table origin inner) =>
      if origin = .braces then none
      else do
        let inner ← appendTable fill inner path
        some (entries.set key (.table origin inner))
    | some (.tables items) => do
      let last ← items.getLast?
      let last ← appendTable fill last path
      some (entries.set key (.tables (items.dropLast ++ [last])))
    | some _ => none

/-- The header of a section. -/
inductive Header where
  | table (path : List String)
  | item (path : List String)

/-- A header and the pairs below it. -/
structure Section where
  header : Header
  pairs : List Pair

/-- Adds a section to a document. -/
def Section.addTo (part : Section) (entries : Entries) : Option Entries :=
  match part.header with
  | .table path => defineTable (addPairs · part.pairs) entries path
  | .item path => appendTable (addPairs · part.pairs) entries path

/-- Puts a document together from the pairs at its front and its sections. -/
def assemble (front : List Pair) (parts : List Section) : Option Entries := do
  parts.foldlM (fun entries part => part.addTo entries) (← addPairs [] front)

end MessageTemplate.Toml
