import MessageTemplate.Proofs.Lowercase
import MessageTemplate.Settings

/-!
Checked settings and their palettes.

The check of the settings lets pass only colors whose names can stand in a token and whose codes are a
section sign with one more character. Such names are ASCII, so lower-casing them once is enough, and the
palette holds each name once, in lower case, however the names were written in the settings
(`Settings.isChecked_palette`). The palette then reads in both directions: a name has the code beside
it, and where no two names share a code, a code has the name beside it.
-/

namespace MessageTemplate

/-! ## Checked settings -/

/-- Two checks find nothing wrong if neither does. -/
theorem bind_eq_ok_iff {ε : Type} {first second : Except ε PUnit} :
    (first >>= fun _ => second) = .ok () ↔ first = .ok () ∧ second = .ok () := by
  cases first with
  | error e =>
    constructor
    · intro h
      cases h
    · rintro ⟨h, -⟩
      cases h
  | ok u => exact ⟨fun h => ⟨rfl, h⟩, fun h => h.2⟩

/-- Nothing is wrong with a list if nothing is wrong with any member. -/
theorem forM_eq_ok_iff {α ε : Type} {check : α → Except ε PUnit} {l : List α} :
    l.forM check = .ok () ↔ ∀ a ∈ l, check a = .ok () := by
  induction l with
  | nil => exact ⟨fun _ _ hmem => absurd hmem List.not_mem_nil, fun _ => rfl⟩
  | cons a rest ih =>
    have hstep : (a :: rest).forM check = check a >>= fun _ => rest.forM check := rfl
    rw [hstep, bind_eq_ok_iff, ih, List.forall_mem_cons]

theorem Settings.validateColor_eq_ok_iff {name code : String} :
    validateColor name code = .ok () ↔ IsName name.toList ∧ isWholeFormatCode code = true := by
  rw [validateColor, ← isIdentifier_iff]
  by_cases hname : isIdentifier name = true
  · by_cases hcode : isWholeFormatCode code = true
    · simp [hname, hcode]
    · simp [hname, hcode]
  · simp [hname]

/-- The colors of checked settings have names that tokens can carry and codes of two characters. -/
theorem Settings.colors_of_validate {settings : Settings} (h : settings.validate = .ok ()) :
    ∀ entry ∈ settings.colors.entries,
      IsName entry.1.toList ∧ isWholeFormatCode entry.2 = true := by
  rw [Settings.validate, bind_eq_ok_iff, forM_eq_ok_iff] at h
  intro entry hentry
  exact validateColor_eq_ok_iff.mp (h.1 entry hentry)

/-! ## Palettes -/

/-- The names are distinct and in lower case. -/
structure Palette.IsNameTable (palette : Palette) : Prop where
  names_distinct : palette.table.keys.Nodup
  lowercase_name : ∀ entry ∈ palette.entries, Text.lowercase entry.1 = entry.1

/-- Each name has the code that stands beside it. -/
theorem Palette.IsNameTable.code?_of_mem {palette : Palette} (h : palette.IsNameTable)
    {name code : String} (hentry : (name, code) ∈ palette.entries) :
    palette.code? name = some code := by
  have hlower : Text.lowercase name = name := h.lowercase_name (name, code) hentry
  rw [Palette.code?, hlower]
  exact (Table.get?_eq_some_iff h.names_distinct).mpr hentry

/-- A palette as checked settings make it: distinct names in lower case, each of which can stand in a
token, and codes of two characters. -/
structure Palette.IsChecked (palette : Palette) : Prop where
  names_distinct : palette.table.keys.Nodup
  isName : ∀ entry ∈ palette.entries, IsName entry.1.toList
  lowercase_name : ∀ entry ∈ palette.entries, Text.lowercase entry.1 = entry.1
  code_whole : ∀ entry ∈ palette.entries, isWholeFormatCode entry.2 = true

theorem Palette.isChecked_standard : Palette.standard.IsChecked where
  names_distinct := by decide
  isName := by
    have hall : ∀ entry ∈ Palette.standard.entries, isIdentifier entry.1 = true := by decide
    exact fun entry hentry => isIdentifier_iff.mp (hall entry hentry)
  lowercase_name := by decide
  code_whole := by decide

/-- Another checked color keeps a palette as it must be, also where its name is there already. -/
theorem Palette.IsChecked.set {palette : Palette} (h : palette.IsChecked) {name code : String}
    (hname : IsName name.toList) (hcode : isWholeFormatCode code = true) :
    (palette.set name code).IsChecked where
  names_distinct := Table.nodup_keys_set h.names_distinct _ _
  isName := Table.forall_mem_set hname.lowercase.1 h.isName
  lowercase_name := Table.forall_mem_set hname.lowercase.2 h.lowercase_name
  code_whole := Table.forall_mem_set hcode h.code_whole

/-- The palette of checked settings. The induction is over the configured colors, and what is kept is
the state of the palette that they are put into. -/
theorem Settings.isChecked_palette {settings : Settings} (h : settings.validate = .ok ()) :
    settings.palette.IsChecked := by
  have hcolors := settings.colors_of_validate h
  rw [Settings.palette]
  generalize settings.colors.entries = colors at hcolors
  have hstart : Palette.standard.IsChecked := Palette.isChecked_standard
  generalize Palette.standard = palette at hstart
  induction colors generalizing palette with
  | nil => exact hstart
  | cons entry rest ih =>
    obtain ⟨⟨hname, hcode⟩, hrest⟩ := List.forall_mem_cons.mp hcolors
    rw [List.foldl_cons]
    exact ih hrest _ (hstart.set hname hcode)

/-! ## Names and codes -/

namespace Palette.IsChecked

variable {palette : Palette}

/-- A code is a section sign and a character that stands for a color or a style. -/
theorem code_eq (h : palette.IsChecked) {name code : String} (hentry : (name, code) ∈ palette.entries) :
    ∃ c, code = String.ofList [sectionSign, c] ∧ isFormatCode c = true := by
  obtain ⟨c, hlist, hc⟩ := isWholeFormatCode_iff.mp (h.code_whole (name, code) hentry)
  exact ⟨c, by rw [← hlist, String.ofList_toList], hc⟩

theorem isNameTable (h : palette.IsChecked) : palette.IsNameTable :=
  ⟨h.names_distinct, h.lowercase_name⟩

/-- Each name has the code that stands beside it. -/
theorem code?_of_mem (h : palette.IsChecked) {name code : String}
    (hentry : (name, code) ∈ palette.entries) : palette.code? name = some code :=
  h.isNameTable.code?_of_mem hentry

/-- Codes hold no brace. -/
theorem no_brace (h : palette.IsChecked) {name code : String}
    (hentry : (name, code) ∈ palette.entries) : '{' ∉ code.toList := by
  obtain ⟨c, hcode, hc⟩ := h.code_eq hentry
  rw [hcode, String.toList_ofList]
  intro hmem
  rcases List.mem_cons.mp hmem with hsign | hmem
  · exact absurd hsign (by decide)
  · rw [← List.mem_singleton.mp hmem] at hc
    exact absurd hc (by decide)

end Palette.IsChecked

/-- Every code of the palette is a format code. The names are not looked at. -/
def Palette.HasFormatCodes (palette : Palette) : Prop :=
  ∀ entry ∈ palette.entries, IsCode entry.2.toList

theorem Palette.IsChecked.hasFormatCodes {palette : Palette} (h : palette.IsChecked) :
    palette.HasFormatCodes :=
  fun entry hentry => isWholeFormatCode_iff.mp (h.code_whole entry hentry)

/-- The name of a code is a name that has this code. -/
theorem Palette.nameOf?_eq_some {palette : Palette} {code name : String}
    (h : palette.nameOf? code = some name) : (name, code) ∈ palette.entries := by
  obtain ⟨entry, hfind, rfl⟩ := Option.map_eq_some_iff.mp h
  have hcode : entry.2 = code := by simpa using List.find?_some hfind
  rw [← hcode]
  exact List.mem_of_find?_eq_some hfind

/-- No two names of the palette have the same code. -/
def Palette.CodesDistinct (palette : Palette) : Prop :=
  (palette.entries.map (·.2)).Nodup

theorem Palette.codesDistinct_standard : Palette.standard.CodesDistinct := by
  rw [Palette.CodesDistinct]
  decide

/-- Where no two names have the same code, a code has the name that it is the code of. -/
theorem Palette.CodesDistinct.nameOf?_eq {palette : Palette} (h : palette.CodesDistinct)
    {name code : String} (hentry : (name, code) ∈ palette.entries) :
    palette.nameOf? code = some name := by
  obtain ⟨front, back, hentries⟩ := List.append_of_mem hentry
  have hfront : front.find? (·.2 = code) = none := by
    rw [Palette.CodesDistinct, hentries, List.map_append, List.nodup_append] at h
    rw [List.find?_eq_none]
    intro entry hmem hcode
    exact h.2.2 entry.2 (List.mem_map_of_mem hmem) code List.mem_cons_self (by simpa using hcode)
  rw [Palette.nameOf?, hentries, List.find?_append, hfront, Option.none_or,
    List.find?_cons_of_pos (by simp)]
  rfl

end MessageTemplate
