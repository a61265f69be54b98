/-!
Tables: values stored under names, in the order in which the names were added. Every operation finds
an entry by its exact name; a table that ignores case is given lower-cased names by its owner.

The list of names is the view through which the operations are understood: `push` adds a name at the
end, `replace` leaves the names alone, and `erase` takes one out.
-/

namespace MessageTemplate

/-- Values under names, in order of addition. -/
structure Table (α : Type) where
  entries : List (String × α)
  deriving DecidableEq, Repr

namespace Table

variable {α : Type}

/-- The table without entries. -/
def empty : Table α := ⟨[]⟩

/-- The names in order. -/
def keys (table : Table α) : List String :=
  table.entries.map (·.1)

/-- The number of entries. -/
def size (table : Table α) : Nat :=
  table.entries.length

/-- The value under a name. -/
def get? (table : Table α) (key : String) : Option α :=
  table.entries.lookup key

/-- Whether a name has a value. -/
def contains (table : Table α) (key : String) : Bool :=
  table.keys.contains key

/-- Adds an entry behind all others, without looking whether the name is taken. -/
def push (table : Table α) (key : String) (value : α) : Table α :=
  ⟨table.entries ++ [(key, value)]⟩

/-- Gives every entry with this name the value; the entries keep their places. -/
def replace (table : Table α) (key : String) (value : α) : Table α :=
  ⟨table.entries.map fun entry => if entry.1 = key then (key, value) else entry⟩

/-- Puts the value under the name: in the entry's place when there is one, else behind all. -/
def set (table : Table α) (key : String) (value : α) : Table α :=
  if table.contains key then table.replace key value else table.push key value

/-- Takes the entries with this name out; the others keep their order. -/
def erase (table : Table α) (key : String) : Table α :=
  ⟨table.entries.filter (·.1 ≠ key)⟩

/-- Whether two tables hold the same values under the same names, in whatever order. -/
def agrees [DecidableEq α] (table other : Table α) : Bool :=
  table.size == other.size
    && table.entries.all fun (key, value) => decide (other.get? key = some value)

/-! ## What the operations do to the names -/

theorem contains_iff {table : Table α} {key : String} :
    table.contains key = true ↔ key ∈ table.keys := by
  exact List.contains_iff_mem

@[simp] theorem keys_empty : (empty : Table α).keys = [] := rfl

@[simp] theorem keys_push (table : Table α) (key : String) (value : α) :
    (table.push key value).keys = table.keys ++ [key] := by
  simp only [keys, push, List.map_append, List.map_cons, List.map_nil]

@[simp] theorem keys_replace (table : Table α) (key : String) (value : α) :
    (table.replace key value).keys = table.keys := by
  simp only [keys, replace, List.map_map]
  refine List.map_congr_left fun entry _ => ?_
  by_cases h : entry.1 = key
  · rw [Function.comp_apply, if_pos h, h]
  · rw [Function.comp_apply, if_neg h]

@[simp] theorem keys_erase (table : Table α) (key : String) :
    (table.erase key).keys = table.keys.filter (· ≠ key) := by
  simp only [keys, erase, List.filter_map]
  rfl

/-! ## What the operations do to the values -/

theorem get?_eq_none_iff {table : Table α} {key : String} :
    table.get? key = none ↔ key ∉ table.keys := by
  rw [get?, List.lookup_eq_none_iff]
  constructor
  · intro h hmem
    obtain ⟨entry, hentry, rfl⟩ := List.mem_map.mp hmem
    exact absurd (h entry hentry) (by simp)
  · intro h entry hentry
    rw [bne_iff_ne]
    rintro rfl
    exact h (List.mem_map_of_mem hentry)

theorem mem_entries_of_get?_eq {table : Table α} {key : String} {value : α}
    (h : table.get? key = some value) : (key, value) ∈ table.entries := by
  obtain ⟨front, back, hentries, -⟩ := List.lookup_eq_some_iff.mp h
  rw [hentries]
  exact List.mem_append_right _ List.mem_cons_self

/-- Where names are distinct, every entry is found. -/
theorem get?_eq_some_iff {table : Table α} (hdistinct : table.keys.Nodup) {key : String} {value : α} :
    table.get? key = some value ↔ (key, value) ∈ table.entries := by
  refine ⟨mem_entries_of_get?_eq, fun hmem => ?_⟩
  obtain ⟨front, back, hentries⟩ := List.append_of_mem hmem
  refine List.lookup_eq_some_iff.mpr ⟨front, back, hentries, fun entry hentry => ?_⟩
  rw [keys, hentries, List.map_append, List.nodup_append] at hdistinct
  rw [bne_iff_ne]
  exact (hdistinct.2.2 entry.1 (List.mem_map_of_mem hentry) key List.mem_cons_self).symm

/-- What is added behind the others is found if nothing before it has the name. -/
theorem get?_push (table : Table α) (key : String) (value : α) (key' : String) :
    (table.push key value).get? key' = (table.get? key').or ([(key, value)].lookup key') :=
  List.lookup_append

/-- Erasing a name leaves what is under the others. -/
theorem get?_erase (table : Table α) (key key' : String) :
    (table.erase key).get? key' = if key' = key then none else table.get? key' := by
  obtain ⟨entries⟩ := table
  rw [get?, get?, erase]
  dsimp only
  induction entries with
  | nil =>
    rw [List.filter_nil, List.lookup_nil, ite_self]
  | cons entry rest ih =>
    obtain ⟨name, value⟩ := entry
    by_cases hname : name = key
    · rw [List.filter_cons_of_neg (by simpa using hname), ih, List.lookup_cons, hname]
      by_cases hkey : key' = key
      · rw [if_pos hkey, if_pos hkey]
      · rw [if_neg hkey, if_neg hkey, beq_false_of_ne hkey]
    · rw [List.filter_cons_of_pos (by simpa using hname), List.lookup_cons, List.lookup_cons, ih]
      by_cases hkey : key' = name
      · rw [hkey, beq_self_eq_true]
        exact (if_neg hname).symm
      · rw [beq_false_of_ne hkey]

/-- Where names are distinct, the order of the entries does not matter to what is found. -/
theorem get?_eq_of_perm {table other : Table α} (hdistinct : table.keys.Nodup)
    (h : table.entries.Perm other.entries) (key : String) : table.get? key = other.get? key := by
  have hkeys : table.keys.Perm other.keys := h.map _
  have hother : other.keys.Nodup := hkeys.nodup_iff.mp hdistinct
  refine Option.ext fun value => ?_
  rw [get?_eq_some_iff hdistinct, get?_eq_some_iff hother]
  exact h.mem_iff

/-! ## Putting a value under a name -/

/-- Replacing changes what is under this name, where there is something. -/
theorem get?_replace (table : Table α) (key : String) (value : α) (key' : String) :
    (table.replace key value).get? key'
      = if key' = key then (table.get? key').map fun _ => value else table.get? key' := by
  obtain ⟨entries⟩ := table
  rw [get?, get?, replace]
  dsimp only
  induction entries with
  | nil =>
    rw [List.map_nil, List.lookup_nil, Option.map_none, ite_self]
  | cons entry rest ih =>
    obtain ⟨name, old⟩ := entry
    rw [List.map_cons, List.lookup_cons, List.lookup_cons, ih]
    by_cases hname : name = key
    · rw [if_pos hname, hname]
      by_cases hkey : key' = key
      · rw [if_pos hkey, if_pos hkey, hkey, beq_self_eq_true]
        rfl
      · rw [if_neg hkey, if_neg hkey, beq_false_of_ne hkey]
    · rw [if_neg hname]
      by_cases hkey : key' = name
      · rw [hkey, if_neg hname, if_neg hname, beq_self_eq_true]
      · rw [beq_false_of_ne hkey]

/-- The name has the value then, and the others have what they had. -/
theorem get?_set (table : Table α) (key : String) (value : α) (key' : String) :
    (table.set key value).get? key' = if key' = key then some value else table.get? key' := by
  rw [set]
  split
  next hcontains =>
    rw [get?_replace]
    by_cases hkey : key' = key
    · rw [if_pos hkey, if_pos hkey, hkey]
      cases hget : table.get? key with
      | none => exact absurd (contains_iff.mp hcontains) (get?_eq_none_iff.mp hget)
      | some old => rfl
    · rw [if_neg hkey, if_neg hkey]
  next habsent =>
    rw [contains_iff] at habsent
    rw [get?_push, List.lookup_cons, List.lookup_nil]
    by_cases hkey : key' = key
    · rw [if_pos hkey, hkey, beq_self_eq_true, get?_eq_none_iff.mpr habsent, Option.none_or]
    · rw [if_neg hkey, beq_false_of_ne hkey, Option.or_none]

/-- What holds of the entries and of the new one holds of the entries afterwards. -/
theorem forall_mem_set {P : String × α → Prop} {table : Table α} {key : String} {value : α}
    (hnew : P (key, value)) (hold : ∀ entry ∈ table.entries, P entry) :
    ∀ entry ∈ (table.set key value).entries, P entry := by
  intro entry hentry
  rw [set] at hentry
  split at hentry
  · obtain ⟨old, hmem, rfl⟩ := List.mem_map.mp hentry
    by_cases hkey : old.1 = key
    · rw [if_pos hkey]
      exact hnew
    · rw [if_neg hkey]
      exact hold old hmem
  · rcases List.mem_append.mp hentry with hmem | hlast
    · exact hold entry hmem
    · rw [List.mem_singleton.mp hlast]
      exact hnew

/-- Names stay distinct. -/
theorem nodup_keys_set {table : Table α} (h : table.keys.Nodup) (key : String) (value : α) :
    (table.set key value).keys.Nodup := by
  rw [set]
  split
  · rw [keys_replace]
    exact h
  · next habsent =>
    rw [contains_iff] at habsent
    rw [keys_push, List.nodup_append]
    refine ⟨h, List.pairwise_singleton _ _, ?_⟩
    rintro old hold _ hnew rfl
    rw [List.mem_singleton.mp hnew] at hold
    exact habsent hold

end Table

end MessageTemplate
