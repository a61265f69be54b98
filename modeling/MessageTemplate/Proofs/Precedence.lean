import MessageTemplate.Table

/-!
Which of several entries with one name counts.

There are two rules. Adding entries that are new keeps the first one of a name and passes over the
others, and over all whose name is taken already (`newEntries`). Putting values under names keeps the
last one of a name, but in the place that the name had or first got (`Table.setAll`). Both are said here
of lists of entries, apart from the loops that follow them.
-/

namespace MessageTemplate

variable {α : Type}

/-! ## The first one counts -/

/-- The entries whose name is not taken, and of several with one name the first. -/
def newEntries (taken : List String) (entries : List (String × α)) : List (String × α) :=
  (entries.filter fun entry => entry.1 ∉ taken).eraseDupsBy fun a b => a.1 == b.1

variable {taken : List String} {entry : String × α}

@[simp] theorem newEntries_nil (taken : List String) :
    newEntries taken ([] : List (String × α)) = [] := rfl

/-- An entry whose name is taken is passed over. -/
theorem newEntries_taken (h : entry.1 ∈ taken) (rest : List (String × α)) :
    newEntries taken (entry :: rest) = newEntries taken rest := by
  rw [newEntries, List.filter_cons_of_neg (by simpa using h), newEntries]

/-- An entry whose name is free is new, and its name is taken for the others. -/
theorem newEntries_free (h : entry.1 ∉ taken) (rest : List (String × α)) :
    newEntries taken (entry :: rest) = entry :: newEntries (taken ++ [entry.1]) rest := by
  rw [newEntries, List.filter_cons_of_pos (by simpa using h), List.eraseDupsBy_cons,
    List.filter_filter, newEntries]
  have hfilter : ∀ other : String × α,
      (decide ((other.1 == entry.1) = false) && decide (other.1 ∉ taken))
        = decide (other.1 ∉ taken ++ [entry.1]) := by
    intro other
    simp [and_comm]
  simp only [hfilter]

theorem name_of_mem_newEntries {entries : List (String × α)} {entry : String × α}
    (h : entry ∈ newEntries taken entries) : entry.1 ∉ taken := by
  induction entries generalizing taken with
  | nil => cases h
  | cons first rest ih =>
    by_cases hfirst : first.1 ∈ taken
    · rw [newEntries_taken hfirst] at h
      exact ih h
    · rw [newEntries_free hfirst] at h
      rcases List.mem_cons.mp h with rfl | h
      · exact hfirst
      · exact fun htaken => ih h (List.mem_append_left _ htaken)

/-- Entries with free and distinct names are all new. -/
theorem newEntries_eq_self {entries : List (String × α)}
    (hfree : ∀ entry ∈ entries, entry.1 ∉ taken) (hdistinct : (entries.map (·.1)).Nodup) :
    newEntries taken entries = entries := by
  induction entries generalizing taken with
  | nil => rfl
  | cons entry rest ih =>
    obtain ⟨hentry, hrest⟩ := List.forall_mem_cons.mp hfree
    rw [List.map_cons, List.nodup_cons] at hdistinct
    rw [newEntries_free hentry, ih ?_ hdistinct.2]
    intro other hother htaken
    rcases List.mem_append.mp htaken with htaken | hname
    · exact hrest other hother htaken
    · rw [← List.mem_singleton.mp hname] at hdistinct
      exact hdistinct.1 (List.mem_map_of_mem hother)

/-- The names that are new stand in the order in which they come up first. -/
theorem names_newEntries (taken : List String) (entries : List (String × α)) :
    (newEntries taken entries).map (·.1)
      = ((entries.map (·.1)).filter (· ∉ taken)).eraseDups := by
  induction entries generalizing taken with
  | nil => rfl
  | cons entry rest ih =>
    rw [List.map_cons]
    by_cases hentry : entry.1 ∈ taken
    · rw [newEntries_taken hentry, ih, List.filter_cons_of_neg (by simpa using hentry)]
    · rw [newEntries_free hentry, List.map_cons, ih, List.filter_cons_of_pos (by simpa using hentry),
        List.eraseDups_cons, List.filter_filter]
      have hfilter : ∀ name : String, decide (name ∉ taken ++ [entry.1])
          = (!name == entry.1 && decide (name ∉ taken)) := by
        intro name
        exact Bool.eq_iff_iff.mpr (by simp [and_comm])
      simp only [hfilter]

/-! ## The last one counts -/

/-- The value that the last entry of a name holds. -/
def latest? (entries : List (String × α)) (key : String) : Option α :=
  entries.reverse.lookup key

/-- The first entry counts only where no other has its name. -/
theorem latest?_cons (entry : String × α) (rest : List (String × α)) (key : String) :
    latest? (entry :: rest) key
      = (latest? rest key).or (if key = entry.1 then some entry.2 else none) := by
  rw [latest?, List.reverse_cons, List.lookup_append, latest?, List.lookup_cons, List.lookup_nil]
  by_cases hkey : key = entry.1
  · rw [hkey, beq_self_eq_true, if_pos rfl]
  · rw [beq_false_of_ne hkey, if_neg hkey]

/-- An entry with the last value that its name is given, or else with its own. -/
def latestEntry (entries : List (String × α)) (entry : String × α) : String × α :=
  (entry.1, (latest? entries entry.1).getD entry.2)

/-- One more entry in front only matters to its own name. -/
theorem latestEntry_cons_of_ne {first entry : String × α} (h : entry.1 ≠ first.1)
    (rest : List (String × α)) : latestEntry (first :: rest) entry = latestEntry rest entry := by
  rw [latestEntry, latest?_cons, if_neg h, Option.or_none, latestEntry]

/-- To its own name it gives what it would be given itself. -/
theorem latestEntry_cons_of_eq {first entry : String × α} (h : entry.1 = first.1)
    (rest : List (String × α)) : latestEntry (first :: rest) entry = latestEntry rest first := by
  rw [latestEntry, latest?_cons, if_pos h, Option.or_some, Option.getD_some, h, latestEntry]

/-- New entries behind a name that is taken do not have it. -/
theorem map_latestEntry_newEntries {first : String × α} (h : first.1 ∈ taken)
    (rest entries : List (String × α)) :
    (newEntries taken entries).map (latestEntry (first :: rest))
      = (newEntries taken entries).map (latestEntry rest) := by
  refine List.map_congr_left fun entry hentry => latestEntry_cons_of_ne (fun hname => ?_) rest
  rw [← hname] at h
  exact name_of_mem_newEntries hentry h

namespace Table

/-- Puts values under names, one after the other. -/
def setAll (table : Table α) (entries : List (String × α)) : Table α :=
  entries.foldl (fun table entry => table.set entry.1 entry.2) table

/-- A value that is put under a name of the table first, and then perhaps others. -/
theorem map_latestEntry_replace (table : Table α) (first : String × α) (rest : List (String × α)) :
    (table.replace first.1 first.2).entries.map (latestEntry rest)
      = table.entries.map (latestEntry (first :: rest)) := by
  rw [replace, List.map_map]
  refine List.map_congr_left fun entry _ => ?_
  by_cases hname : entry.1 = first.1
  · rw [Function.comp_apply, if_pos hname, latestEntry_cons_of_eq hname]
  · rw [Function.comp_apply, if_neg hname, latestEntry_cons_of_ne hname]

/-- A value that is put under a new name first, and then perhaps others. -/
theorem map_latestEntry_push {table : Table α} {first : String × α} (h : first.1 ∉ table.keys)
    (rest : List (String × α)) :
    (table.push first.1 first.2).entries.map (latestEntry rest)
      = (table.entries ++ [first]).map (latestEntry (first :: rest)) := by
  rw [push, List.map_append, List.map_append, List.map_singleton, List.map_singleton,
    latestEntry_cons_of_eq rfl]
  congr 1
  refine List.map_congr_left fun entry hentry => (latestEntry_cons_of_ne (fun hname => ?_) rest).symm
  rw [← hname] at h
  exact h (List.mem_map_of_mem hentry)

/-- The names stay in their places and new ones follow in the order in which they come up first. Under
each name stands the last value it was given, or else the one that was there. The induction is on the
entries; the table that the first of them leaves is the table for the rest. -/
theorem entries_setAll (table : Table α) (entries : List (String × α)) :
    (table.setAll entries).entries
      = (table.entries ++ newEntries table.keys entries).map (latestEntry entries) := by
  induction entries generalizing table with
  | nil =>
    rw [newEntries_nil, List.append_nil]
    exact (List.map_id table.entries).symm
  | cons first rest ih =>
    have hstep : table.setAll (first :: rest) = (table.set first.1 first.2).setAll rest := rfl
    rw [hstep, ih, List.map_append]
    by_cases hmem : first.1 ∈ table.keys
    · have hset : table.set first.1 first.2 = table.replace first.1 first.2 :=
        if_pos (contains_iff.mpr hmem)
      rw [hset, keys_replace, newEntries_taken hmem, map_latestEntry_replace, List.map_append,
        map_latestEntry_newEntries hmem]
    · have hset : table.set first.1 first.2 = table.push first.1 first.2 :=
        if_neg fun hcontains => hmem (contains_iff.mp hcontains)
      -- from here on the name counts as taken
      have htaken : first.1 ∈ table.keys ++ [first.1] :=
        List.mem_append_right _ List.mem_cons_self
      rw [hset, keys_push, newEntries_free hmem, map_latestEntry_push hmem,
        ← map_latestEntry_newEntries htaken rest, ← List.map_append, List.append_assoc,
        List.singleton_append]

/-- The names that were there, and behind them the new ones. -/
theorem keys_setAll (table : Table α) (entries : List (String × α)) :
    (table.setAll entries).keys
      = table.keys ++ ((entries.map (·.1)).filter (· ∉ table.keys)).eraseDups := by
  have hkept : (·.1) ∘ latestEntry entries = fun entry => entry.1 := rfl
  rw [keys, entries_setAll, List.map_map, hkept, List.map_append, names_newEntries, keys]

/-- Under a name is found what it was given last, or else what was there. -/
theorem get?_setAll (table : Table α) (entries : List (String × α)) (key : String) :
    (table.setAll entries).get? key = (latest? entries key).or (table.get? key) := by
  induction entries generalizing table with
  | nil => rfl
  | cons first rest ih =>
    have hstep : table.setAll (first :: rest) = (table.set first.1 first.2).setAll rest := rfl
    rw [hstep, ih, get?_set, latest?_cons, Option.or_assoc]
    by_cases hkey : key = first.1
    · rw [if_pos hkey, if_pos hkey, Option.some_or]
    · rw [if_neg hkey, if_neg hkey, Option.none_or]

end Table

end MessageTemplate
