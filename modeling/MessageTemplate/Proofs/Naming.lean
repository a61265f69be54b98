import MessageTemplate.Proofs.LowercaseTwice
import MessageTemplate.Proofs.NamedCodes
import MessageTemplate.Proofs.Precedence

/-!
Giving names their codes.

A palette is read in both directions, but it is filled in one: a code is put under a name, and what other
names have the same code does not matter. Reading it backwards gives the earliest of them. That this name
leads to the code again rests on how names are kept. They are distinct, or the code found under the name
could be that of an earlier entry; and they are in lower case and settled there, or the name would be
lower-cased into another one before it is looked up. Both hold of a palette from the start and after each
name that is given a code (`Palette.IsNameTable.set`).

The rest is the rule for putting values under names, with the names in lower case: places are those of the
first time a name comes up, and codes are those of the last.
-/

namespace MessageTemplate

/-- The codes under their names in lower case. -/
def lowerNames (updates : List (String × String)) : List (String × String) :=
  updates.map fun (name, code) => (Text.lowercase name, code)

theorem names_lowerNames (updates : List (String × String)) :
    (lowerNames updates).map (·.1) = updates.map fun (name, _) => Text.lowercase name := by
  rw [lowerNames, List.map_map]
  rfl

namespace Palette

/-! ## Names -/

theorem isNameTable_empty : Palette.empty.IsNameTable where
  names_distinct := List.nodup_nil
  lowercase_name := fun _ hentry => absurd hentry List.not_mem_nil

/-- Giving a name its code puts the name there in lower case, where it is not yet. -/
theorem IsNameTable.set {palette : Palette} (h : palette.IsNameTable) (name code : String) :
    (palette.set name code).IsNameTable where
  names_distinct := Table.nodup_keys_set h.names_distinct _ _
  lowercase_name := Table.forall_mem_set (Text.lowercase_lowercase name) h.lowercase_name

/-! ## Giving codes to several names -/

/-- Gives names their codes, one after the other. -/
def setAll (palette : Palette) (updates : List (String × String)) : Palette :=
  updates.foldl (fun palette (name, code) => palette.set name code) palette

/-- The table is filled under the names in lower case. -/
theorem table_setAll (palette : Palette) (updates : List (String × String)) :
    (palette.setAll updates).table = palette.table.setAll (lowerNames updates) := by
  induction updates generalizing palette with
  | nil => rfl
  | cons update rest ih => exact ih (palette.set update.1 update.2)

theorem IsNameTable.setAll {palette : Palette} (h : palette.IsNameTable)
    (updates : List (String × String)) : (palette.setAll updates).IsNameTable := by
  induction updates generalizing palette with
  | nil => exact h
  | cons update rest ih => exact ih (h.set update.1 update.2)

/-! ## Both directions -/

/-- A palette that names were given codes in, compared with what it was at the start. -/
structure IsTwoWay (start : Palette) (updates : List (String × String)) (palette : Palette) :
    Prop where
  names_distinct : palette.table.keys.Nodup
  names_lowercase : ∀ name ∈ palette.table.keys, Text.lowercase name = name
  /-- The names of the start are in their places, and new ones follow in the order in which they were
  given a code first. -/
  names_in_order : palette.table.keys = start.table.keys
    ++ ((updates.map fun (name, _) => Text.lowercase name).filter (· ∉ start.table.keys)).eraseDups
  /-- A name in any case has the code that it was given last in any case, or else its code at the
  start. -/
  code?_eq : ∀ name, palette.code? name
    = (latest? (lowerNames updates) (Text.lowercase name)).or (start.code? name)
  /-- The name of a code is the earliest one that has it. -/
  nameOf?_eq_some_iff : ∀ code name, palette.nameOf? code = some name
    ↔ ∃ front back, palette.entries = front ++ (name, code) :: back ∧ ∀ entry ∈ front, entry.2 ≠ code
  nameOf?_eq_none_iff : ∀ code, palette.nameOf? code = none ↔ ∀ entry ∈ palette.entries, entry.2 ≠ code
  code?_nameOf? : ∀ code name, palette.nameOf? code = some name → palette.code? name = some code

/-- However names are given codes, the palette stays a table with distinct names in lower case, in which
each name has its last code, and the name of each code leads back to it. -/
theorem palette_stays_two_way {start : Palette} (hstart : start = .standard ∨ start = .empty)
    (updates : List (String × String)) : IsTwoWay start updates (start.setAll updates) := by
  have htable : (start.setAll updates).IsNameTable := by
    apply IsNameTable.setAll
    rcases hstart with rfl | rfl
    · exact isChecked_standard.isNameTable
    · exact isNameTable_empty
  refine ⟨htable.names_distinct, ?_, ?_, ?_, ?_, ?_, ?_⟩
  · intro name hname
    obtain ⟨entry, hentry, rfl⟩ := List.mem_map.mp hname
    exact htable.lowercase_name entry hentry
  · rw [table_setAll, Table.keys_setAll, names_lowerNames]
  · intro name
    rw [code?, table_setAll, Table.get?_setAll, code?]
  · intro code name
    have hearliest : (start.setAll updates).IsEarliestName name code.toList ↔ _ := isEarliestName_iff
    rw [IsEarliestName, String.ofList_toList] at hearliest
    exact hearliest.symm
  · intro code
    rw [nameOf?, Option.map_eq_none_iff, List.find?_eq_none]
    exact forall₂_congr fun entry _ => by simp
  · intro code name hname
    exact htable.code?_of_mem (nameOf?_eq_some hname)

/-- A name of the start and a new one are each given two codes, in different case, and one code comes to
have three names. -/
theorem palette_stays_two_way_shared_code :
    let updates := [("Red", "§§"), ("ΑΣ", "§e"), ("RED", "§e"), ("ας", "")]
    let palette := Palette.standard.setAll updates
    IsTwoWay .standard updates palette
      ∧ palette.table.keys = Palette.standard.table.keys ++ ["ας"]
      ∧ palette.code? "rED" = some "§e" ∧ palette.code? "ΑΣ" = some ""
      ∧ palette.nameOf? "§e" = some "red" ∧ palette.nameOf? "§§" = none := by
  intro updates palette
  have htwoWay : IsTwoWay .standard updates palette := palette_stays_two_way (Or.inl rfl) updates
  refine ⟨htwoWay, ?_, ?_, ?_, ?_, ?_⟩
  · rw [htwoWay.names_in_order]
    decide +kernel
  · rw [htwoWay.code?_eq]
    decide +kernel
  · rw [htwoWay.code?_eq]
    decide +kernel
  · decide +kernel
  · decide +kernel

end Palette

end MessageTemplate
