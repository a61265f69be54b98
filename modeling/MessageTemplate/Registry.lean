import MessageTemplate.Placeholder
import MessageTemplate.Table
import MessageTemplate.Text.Lowercase

/-!
Registries: the placeholders that tokens can name. An entry is stored under its identifier in lower
case, so identifiers that differ in case alone name the same entry. Entries stand in the order in
which they were registered, and taking one out leaves the others where they are.
-/

namespace MessageTemplate

/-- Placeholders by lower-cased identifier, in order of registration. -/
structure Registry (σ C : Type) where
  table : Table (Placeholder σ C)

/-- Why a placeholder cannot be registered. -/
inductive RegistryError where
  | duplicate (identifier : String)
  deriving DecidableEq, Repr

/-- The wording of a refused registration. -/
def RegistryError.message : RegistryError → String
  | .duplicate identifier => "duplicate placeholder identifier: " ++ identifier

namespace Registry

variable {σ C : Type}

/-- The registry without placeholders. -/
def empty : Registry σ C := ⟨.empty⟩

/-- The lower-cased identifiers in order. -/
def identifiers (registry : Registry σ C) : List String :=
  registry.table.keys

/-- The number of placeholders. -/
def count (registry : Registry σ C) : Nat :=
  registry.table.size

/-- The placeholder that an identifier names, in whatever case the identifier is given. -/
def lookup? (registry : Registry σ C) (identifier : String) : Option (Placeholder σ C) :=
  registry.table.get? (Text.lowercase identifier)

/-- Whether an identifier names a placeholder. -/
def contains (registry : Registry σ C) (identifier : String) : Bool :=
  registry.table.contains (Text.lowercase identifier)

/-- Adds a placeholder behind the others, unless its identifier is taken. The error names the identifier in
lower case; the placeholder keeps it as it was given. -/
def register (registry : Registry σ C) (p : Placeholder σ C) : Except RegistryError (Registry σ C) :=
  let key := Text.lowercase p.identifier
  if registry.table.contains key then .error (.duplicate key)
  else .ok ⟨registry.table.push key p⟩

/-- Takes out the placeholder that an identifier names, if there is one. The others keep their places, so a
placeholder that is registered again under the identifier comes to stand behind them. -/
def unregister? (registry : Registry σ C) (identifier : String) : Option (Registry σ C) :=
  let key := Text.lowercase identifier
  if registry.table.contains key then some ⟨registry.table.erase key⟩ else none

end Registry

end MessageTemplate
