import Mathlib.Data.List.Sort
import MessageTemplate.Engine.Request

/-!
Settings that are built step by step.

Colors and texts are given to settings one at a time. Two names that differ in case alone are two entries
there, and only later does one of them win: of colors the last one in the order of the names, of texts the
first. If that order were the order in which they were given, it would matter. It is not, since both tables
are sorted: what they hold is the entries that were given and those of before whose names were not given
again (`SortedTable.mem_insertAll_iff`), in which no order occurs, and a sorted table is determined by what
it holds (`SortedTable.eq_of_mem_iff`).

This is the whole argument. Everything else is computed from the settings.
-/

namespace MessageTemplate

/-! ## Sorted tables -/

namespace SortedTable

variable {α : Type}

/-- A sorted table is determined by its entries. -/
theorem eq_of_mem_iff {table other : SortedTable α}
    (h : ∀ entry, entry ∈ table.entries ↔ entry ∈ other.entries) : table = other := by
  have hirrefl : Std.Irrefl fun a b : String × α => a.1 < b.1 := ⟨fun a => String.lt_irrefl a.1⟩
  have hantisymm : Std.Antisymm fun a b : String × α => a.1 < b.1 :=
    ⟨fun a b hab hba => absurd hba (String.lt_asymm hab)⟩
  have hentries : table.entries = other.entries := table.sorted.eq_of_mem_iff other.sorted h
  cases table
  cases other
  cases hentries
  rfl

/-- Among sorted entries a new one is put in the place of those with its name. -/
theorem mem_insertEntry_iff {key : String} {value : α} {entries : List (String × α)}
    (hsorted : entries.Pairwise fun a b => a.1 < b.1) (entry : String × α) :
    entry ∈ insertEntry key value entries
      ↔ entry = (key, value) ∨ entry ∈ entries ∧ entry.1 ≠ key := by
  induction entries with
  | nil => simp [insertEntry]
  | cons first rest ih =>
    obtain ⟨hfirst, hrest⟩ := List.pairwise_cons.mp hsorted
    rw [insertEntry]
    by_cases hlt : key < first.1
    · -- all names that are there come behind the new one
      have hbehind : entry ∈ first :: rest → entry.1 ≠ key := by
        rintro hmem rfl
        rcases List.mem_cons.mp hmem with rfl | hmem
        · exact String.lt_irrefl _ hlt
        · exact String.lt_irrefl _ (String.lt_trans hlt (hfirst entry hmem))
      rw [if_pos hlt, List.mem_cons, and_iff_left_of_imp hbehind]
    · rw [if_neg hlt]
      by_cases heq : key = first.1
      · have hbehind : entry ∈ rest → entry.1 ≠ key := by
          rintro hmem rfl
          exact String.lt_irrefl _ (heq ▸ hfirst entry hmem)
        rw [if_pos heq, List.mem_cons, List.mem_cons, or_and_right, and_iff_left_of_imp hbehind]
        refine or_congr_right ⟨Or.inr, ?_⟩
        rintro (⟨rfl, hne⟩ | hmem)
        · exact absurd heq.symm hne
        · exact hmem
      · rw [if_neg heq, List.mem_cons, List.mem_cons, ih hrest, or_and_right, or_left_comm]
        refine or_congr_right (or_congr_left ⟨?_, And.left⟩)
        rintro rfl
        exact ⟨rfl, fun hname => heq hname.symm⟩

/-- Puts values under names, one after the other. -/
def insertAll (table : SortedTable α) (entries : List (String × α)) : SortedTable α :=
  entries.foldl (fun table entry => table.insert entry.1 entry.2) table

/-- If no name comes twice, the table holds the new entries, and the old ones whose names are not among
theirs. The induction is on the new entries; the table that the first of them leaves is the table for the
rest. -/
theorem mem_insertAll_iff {table : SortedTable α} {entries : List (String × α)}
    (hdistinct : (entries.map (·.1)).Nodup) (entry : String × α) :
    entry ∈ (table.insertAll entries).entries
      ↔ entry ∈ entries ∨ entry ∈ table.entries ∧ entry.1 ∉ entries.map (·.1) := by
  induction entries generalizing table with
  | nil => simp [insertAll]
  | cons first rest ih =>
    rw [List.map_cons, List.nodup_cons] at hdistinct
    have hstep : table.insertAll (first :: rest) = (table.insert first.1 first.2).insertAll rest := rfl
    have hinsert : entry ∈ (table.insert first.1 first.2).entries
        ↔ entry = first ∨ entry ∈ table.entries ∧ entry.1 ≠ first.1 :=
      mem_insertEntry_iff table.sorted entry
    have hfirst : entry = first → entry.1 ∉ rest.map (·.1) := by
      rintro rfl
      exact hdistinct.1
    rw [hstep, ih hdistinct.2, hinsert, or_and_right, and_iff_left_of_imp hfirst, List.map_cons,
      List.mem_cons, List.mem_cons, not_or, and_assoc, or_left_comm, or_assoc]

/-- In which order entries with different names are put into the table makes no difference. -/
theorem insertAll_perm {entries entries' : List (String × α)} (h : entries.Perm entries')
    (hdistinct : (entries.map (·.1)).Nodup) (table : SortedTable α) :
    table.insertAll entries = table.insertAll entries' := by
  have hnames : (entries.map (·.1)).Perm (entries'.map (·.1)) := h.map _
  refine eq_of_mem_iff fun entry => ?_
  rw [mem_insertAll_iff hdistinct, mem_insertAll_iff (hnames.nodup_iff.mp hdistinct), h.mem_iff,
    hnames.mem_iff]

end SortedTable

/-! ## Building settings -/

namespace Settings

/-- What settings can be given under a name: a color, or the text of a placeholder. -/
inductive Kind where
  | color
  | placeholder
  deriving DecidableEq, Repr

/-- A color with its code, or a placeholder with its text. -/
structure Addition where
  kind : Kind
  name : String
  value : String
  deriving DecidableEq, Repr

/-- The settings with the color or the placeholder. -/
def add (settings : Settings) (addition : Addition) : Settings :=
  match addition.kind with
  | .color => settings.withColor addition.name addition.value
  | .placeholder => settings.withPlaceholder addition.name addition.value

/-- The settings with colors and placeholders that are given one after the other. -/
def addAll (settings : Settings) (additions : List Addition) : Settings :=
  additions.foldl add settings

/-- What the settings hold of a kind. -/
def table (settings : Settings) : Kind → SortedTable String
  | .color => settings.colors
  | .placeholder => settings.placeholders

/-- What is given of a kind. -/
def entriesOf (kind : Kind) (additions : List Addition) : List (String × String) :=
  additions.filterMap fun addition =>
    if addition.kind = kind then some (addition.name, addition.value) else none

/-- No exact name is given twice to the same kind. A color and a placeholder may share one, and names may
differ in case alone. -/
def NamesOnce (additions : List Addition) : Prop :=
  ∀ kind, ((entriesOf kind additions).map (·.1)).Nodup

theorem mem_entriesOf_iff {kind : Kind} {additions : List Addition} {name value : String} :
    (name, value) ∈ entriesOf kind additions ↔ ⟨kind, name, value⟩ ∈ additions := by
  rw [entriesOf, List.mem_filterMap]
  constructor
  · rintro ⟨addition, hmem, hentry⟩
    split at hentry
    next hkind =>
      cases hentry
      rwa [← hkind]
    next => cases hentry
  · exact fun hmem => ⟨_, hmem, if_pos rfl⟩

/-- Colors go to colors and placeholders to placeholders, and all else stays. -/
theorem addAll_eq (settings : Settings) (additions : List Addition) :
    settings.addAll additions
      = { settings with
          colors := settings.colors.insertAll (entriesOf .color additions)
          placeholders := settings.placeholders.insertAll (entriesOf .placeholder additions) } := by
  induction additions generalizing settings with
  | nil => rfl
  | cons addition rest ih =>
    have hstep : settings.addAll (addition :: rest) = (settings.add addition).addAll rest := rfl
    obtain ⟨kind, name, value⟩ := addition
    cases kind with
    | color => exact hstep.trans (ih _)
    | placeholder => exact hstep.trans (ih _)

theorem addAll_perm {additions additions' : List Addition} (h : additions.Perm additions')
    (honce : NamesOnce additions) (settings : Settings) :
    settings.addAll additions = settings.addAll additions' := by
  have hof : ∀ kind, (entriesOf kind additions).Perm (entriesOf kind additions') :=
    fun kind => h.filterMap _
  rw [addAll_eq, addAll_eq, SortedTable.insertAll_perm (hof .color) (honce .color),
    SortedTable.insertAll_perm (hof .placeholder) (honce .placeholder)]

/-- The settings hold what is given, and what they held under names that are not given again. -/
theorem mem_table_addAll_iff {settings : Settings} {additions : List Addition}
    (honce : NamesOnce additions) (kind : Kind) (name value : String) :
    (name, value) ∈ ((settings.addAll additions).table kind).entries
      ↔ ⟨kind, name, value⟩ ∈ additions
        ∨ (name, value) ∈ (settings.table kind).entries
          ∧ ∀ other, ⟨kind, name, other⟩ ∉ additions := by
  have htable : (settings.addAll additions).table kind
      = (settings.table kind).insertAll (entriesOf kind additions) := by
    rw [addAll_eq]
    cases kind with
    | color => rfl
    | placeholder => rfl
  have hname : name ∉ (entriesOf kind additions).map (·.1)
      ↔ ∀ other, ⟨kind, name, other⟩ ∉ additions := by
    simp only [List.mem_map, Prod.exists, exists_and_right, exists_eq_right, not_exists,
      mem_entriesOf_iff]
  rw [htable, SortedTable.mem_insertAll_iff (honce kind), mem_entriesOf_iff, hname]

/-- Settings that are given the same colors and placeholders in different orders are the same, if no exact
name is given twice to the same kind. They hold what was given, and what was there under other names. So
their palettes are the same, and what validation says of them; and engines for them that are initialized
with the same server have the same identifiers in the same order, and give the same replies to whatever is
requested, parsed messages among them. -/
theorem order_of_additions_does_not_matter {additions additions' : List Addition}
    (hperm : additions.Perm additions') (honce : NamesOnce additions) (settings : Settings) :
    let given := settings.addAll additions
    let given' := settings.addAll additions'
    (∀ kind name value, (name, value) ∈ (given.table kind).entries
        ↔ ⟨kind, name, value⟩ ∈ additions
          ∨ (name, value) ∈ (settings.table kind).entries
            ∧ ∀ other, ⟨kind, name, other⟩ ∉ additions)
      ∧ given = given' ∧ given.palette = given'.palette ∧ given.validate = given'.validate
      ∧ ∀ (σ C : Type) [PlayerSource σ C] (state : σ) (server : ServerSource σ),
        let engine : Engine σ C := ((Session.init server).run (.ofSettings given state)).2
        let engine' : Engine σ C := ((Session.init server).run (.ofSettings given' state)).2
        engine.world.registry.identifiers = engine'.world.registry.identifiers
          ∧ (∀ message player maxDepth,
            ((Request.parse message player maxDepth).serve.run engine).1
              = ((Request.parse message player maxDepth).serve.run engine').1)
          ∧ ∀ requests, ((serveAll requests).run engine).1 = ((serveAll requests).run engine').1 := by
  intro given given'
  have hgiven : given = given' := addAll_perm hperm honce settings
  refine ⟨mem_table_addAll_iff honce, hgiven, ?_, ?_, ?_⟩
  · rw [hgiven]
  · rw [hgiven]
  · intro σ C _ state server engine engine'
    -- an engine is made from its settings and its server alone
    have hengine : engine = engine' :=
      congrArg (fun settings => ((Session.init server).run (.ofSettings settings state)).2) hgiven
    rw [hengine]
    exact ⟨rfl, fun _ _ _ => rfl, fun _ => rfl⟩

/-- Names that differ in case alone, given in one order and in the opposite one. The color that counts is
the one of the last name and the text that counts is that of the first, whichever came last. -/
theorem order_of_additions_does_not_matter_case_variants :
    let additions : List Addition := [⟨.color, "Gold", "\xa7e"⟩, ⟨.placeholder, "motd", "b"⟩,
      ⟨.color, "gold", "\xa7b"⟩, ⟨.placeholder, "Motd", "a"⟩]
    let given := addAll {} additions
    let given' := addAll {} additions.reverse
    let engine : Engine Unit := ((Session.init ({} : Server)).run (.ofSettings given' ())).2
    NamesOnce additions ∧ given = given'
      ∧ given'.colors.entries = [("Gold", "\xa7e"), ("gold", "\xa7b")]
      ∧ given'.placeholders.entries = [("Motd", "a"), ("motd", "b")]
      ∧ given'.palette.code? "GOLD" = some "\xa7b"
      ∧ ((expand none given'.maxDepth "\x7bMOTD\x7d").run engine.world).1 = "a" := by
  intro additions given given' engine
  have honce : NamesOnce additions := by
    intro kind
    cases kind with
    | color => decide
    | placeholder => decide
  obtain ⟨-, hgiven, -⟩ :=
    order_of_additions_does_not_matter (List.reverse_perm additions).symm honce {}
  exact ⟨honce, hgiven, by decide, by decide, by decide +kernel, by decide +kernel⟩

end Settings

end MessageTemplate
