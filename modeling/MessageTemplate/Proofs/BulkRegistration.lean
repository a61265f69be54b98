import Mathlib.Data.Finset.Card
import MessageTemplate.Proofs.Hosts
import MessageTemplate.Proofs.Initialization

/-!
Registering in bulk counts what is new.

The answer is computed beside the registry: each placeholder is offered in turn, and the ones that are
accepted are counted. That the number is right depends on what is taken when the turn of each one comes,
which are the identifiers of the start and those of the placeholders accepted before it, under the full
mappings to lower case. So the induction is on the placeholders with the world general, and the entries
that are added are the same list on both sides (`newEntries`); its length is the number of names that are
new (`card_names_sdiff`).

Afterwards every identifier of the list is taken, whoever owns it, so a second time nothing is accepted.

The law is one for any list of keys with placeholders (`World.BulkLaw`). What it says of a registration
depends on which list that is, so each registration is stated with its own: the entries it is called with,
with their identifiers in lower case and their own values, the entries of the palette, and the names of the
fields of a player and of a server.
-/

namespace MessageTemplate

variable {σ C : Type}

/-! ## Counting names -/

/-- There is one new entry for each name that is not taken. -/
theorem card_names_sdiff {α : Type} (taken : List String) (entries : List (String × α)) :
    ((entries.map (·.1)).toFinset \ taken.toFinset).card = (newEntries taken entries).length := by
  induction entries generalizing taken with
  | nil => rw [List.map_nil, List.toFinset_nil, Finset.empty_sdiff, Finset.card_empty, newEntries_nil,
      List.length_nil]
  | cons entry rest ih =>
    rw [List.map_cons, List.toFinset_cons]
    by_cases hentry : entry.1 ∈ taken
    · rw [Finset.insert_sdiff_of_mem _ (List.mem_toFinset.mpr hentry), newEntries_taken hentry, ih]
    · -- the name is new, and taken for the others
      have hsplit : insert entry.1 (rest.map (·.1)).toFinset \ taken.toFinset
          = insert entry.1 ((rest.map (·.1)).toFinset \ (taken ++ [entry.1]).toFinset) := by
        ext name
        by_cases hname : name = entry.1
        · simp [hname, hentry]
        · simp [hname]
      have hnew : entry.1 ∉ (rest.map (·.1)).toFinset \ (taken ++ [entry.1]).toFinset := by
        simp
      rw [hsplit, Finset.card_insert_of_notMem hnew, ih, newEntries_free hentry, List.length_cons]

/-! ## One placeholder after the other -/

theorem registerAll_taken {p : Placeholder σ C} {world : World σ C}
    (h : Text.lowercase p.identifier ∈ world.registry.identifiers) (rest : List (Placeholder σ C)) :
    (registerAll (p :: rest)).run world
      = (registerAll rest).run (world.withRefusal (Text.lowercase p.identifier)) := by
  have hstep : (register p).run world = (false, world.withRefusal _) :=
    ((world.registerLaw p).refused h).2
  rw [registerAll, run_bind, hstep]
  rfl

theorem registerAll_free {p : Placeholder σ C} {world : World σ C}
    (h : Text.lowercase p.identifier ∉ world.registry.identifiers) (rest : List (Placeholder σ C)) :
    (registerAll (p :: rest)).run world
      = (((registerAll rest).run (world.withEntry p)).1 + 1,
        ((registerAll rest).run (world.withEntry p)).2) := by
  have hstep : (register p).run world = (true, world.withEntry p) :=
    ((world.registerLaw p).accepted h).2
  rw [registerAll, run_bind, hstep]
  rfl

theorem identifiers_withEntry (world : World σ C) (p : Placeholder σ C) :
    (world.withEntry p).registry.identifiers
      = world.registry.identifiers ++ [Text.lowercase p.identifier] :=
  Table.keys_push _ _ _

/-- The answer is the number of entries that are added. -/
theorem registerAll_answer (ps : List (Placeholder σ C)) (world : World σ C) :
    ((registerAll ps).run world).1
      = (newEntries world.registry.identifiers (ps.map Placeholder.entry)).length := by
  induction ps generalizing world with
  | nil => rfl
  | cons p rest ih =>
    rw [List.map_cons]
    by_cases htaken : Text.lowercase p.identifier ∈ world.registry.identifiers
    · have hentry : p.entry.1 ∈ world.registry.identifiers := htaken
      rw [registerAll_taken htaken, ih, newEntries_taken hentry]
      rfl
    · have hentry : p.entry.1 ∉ world.registry.identifiers := htaken
      rw [registerAll_free htaken, ih, identifiers_withEntry, newEntries_free hentry,
        List.length_cons]
      rfl

/-- Nothing is invoked, and what handlers share stays. -/
theorem registerAll_keeps (ps : List (Placeholder σ C)) (world : World σ C) :
    ((registerAll ps).run world).2.state = world.state
      ∧ ((registerAll ps).run world).2.invocations = world.invocations := by
  induction ps generalizing world with
  | nil => exact ⟨rfl, rfl⟩
  | cons p rest ih =>
    by_cases htaken : Text.lowercase p.identifier ∈ world.registry.identifiers
    · rw [registerAll_taken htaken]
      exact ih _
    · rw [registerAll_free htaken]
      exact ih _

/-! ## A second time -/

/-- The world in which it is logged of these keys, in order, that they were refused. -/
def World.refusing (world : World σ C) (keys : List String) : World σ C :=
  { world with log := world.log ++ (keys.map Event.rejected).toArray }

/-- Where all identifiers are taken, nothing is registered. -/
theorem registerAll_of_taken {ps : List (Placeholder σ C)} {world : World σ C}
    (h : ∀ p ∈ ps, Text.lowercase p.identifier ∈ world.registry.identifiers) :
    (registerAll ps).run world
      = (0, world.refusing (ps.map fun p => Text.lowercase p.identifier)) := by
  induction ps generalizing world with
  | nil =>
    rw [World.refusing, List.map_nil, List.map_nil, Array.append_empty]
    rfl
  | cons p rest ih =>
    obtain ⟨hp, hrest⟩ := List.forall_mem_cons.mp h
    have hkept : ∀ q ∈ rest, Text.lowercase q.identifier
        ∈ (world.withRefusal (Text.lowercase p.identifier)).registry.identifiers := hrest
    rw [registerAll_taken hp, ih hkept, World.withRefusal, World.refusing, World.refusing,
      List.map_cons, List.map_cons]
    simp

/-- Placeholders that were registered in bulk have their identifiers taken, by them or by others. -/
theorem identifiers_addAll (registry : Registry σ C) {ps : List (Placeholder σ C)}
    {p : Placeholder σ C} (hp : p ∈ ps) :
    Text.lowercase p.identifier ∈ (registry.addAll ps).identifiers := by
  by_contra hfree
  have hnone := Table.get?_eq_none_iff.mpr hfree
  rw [Registry.get?_addAll, Option.or_eq_none_iff, List.lookup_eq_none_iff] at hnone
  have hne := hnone.2 p.entry (List.mem_map_of_mem hp)
  exact bne_iff_ne.mp hne rfl

/-! ## The law -/

/-- What a registration in bulk comes to in this world, if these placeholders are offered under these
keys. -/
structure World.BulkLaw (world : World σ C) (registration : Run σ C Nat)
    (offered : List (String × Placeholder σ C)) : Prop where
  /-- The answer is the number of distinct keys that were not registered. -/
  answer_eq : (registration.run world).1
    = ((offered.map (·.1)).toFinset \ world.registry.identifiers.toFinset).card
  /-- The registry grows by as many entries. -/
  count_eq : (registration.run world).2.registry.count
    = world.registry.count + (registration.run world).1
  /-- The entries that were there stay as they are. Behind them come the new ones, for each key the first
  placeholder that is offered under it, in the order in which they are offered. -/
  entries_eq : (registration.run world).2.registry.table.entries
    = world.registry.table.entries ++ newEntries world.registry.identifiers offered
  state_eq : (registration.run world).2.state = world.state
  invocations_eq : (registration.run world).2.invocations = world.invocations
  /-- A second time the answer is zero, and nothing happens but that refusals are logged. -/
  again : registration.run (registration.run world).2
    = (0, (registration.run world).2.refusing (offered.map (·.1)))

/-- Placeholders are offered under their identifiers in lower case. -/
theorem World.bulkLaw_registerAll (world : World σ C) (ps : List (Placeholder σ C)) :
    world.BulkLaw (registerAll ps) (ps.map Placeholder.entry) where
  answer_eq := by rw [registerAll_answer, card_names_sdiff]
  count_eq := by
    rw [registerAll_answer, registry_registerAll, Registry.count, Table.size,
      Registry.entries_addAll, List.length_append]
    rfl
  entries_eq := by rw [registry_registerAll, Registry.entries_addAll]
  state_eq := (registerAll_keeps ps world).1
  invocations_eq := (registerAll_keeps ps world).2
  again := by
    have hnames : (ps.map Placeholder.entry).map (·.1)
        = ps.map fun p => Text.lowercase p.identifier := by
      rw [List.map_map]
      rfl
    rw [hnames]
    -- those that were refused have their identifiers taken as well
    refine registerAll_of_taken fun p hp => ?_
    rw [registry_registerAll]
    exact identifiers_addAll world.registry hp

/-- Texts are offered as constants, each under its own identifier in lower case. -/
theorem World.bulkLaw_texts (world : World σ C) (entries : List (String × String)) :
    world.BulkLaw (registerAll (textPlaceholders entries))
      (entries.map fun (identifier, value) =>
        (Text.lowercase identifier, .constant identifier value)) := by
  have hoffered : (textPlaceholders entries : List (Placeholder σ C)).map Placeholder.entry
      = entries.map fun (identifier, value) =>
          (Text.lowercase identifier, .constant identifier value) := by
    rw [textPlaceholders, List.map_map]
    rfl
  rw [← hoffered]
  exact world.bulkLaw_registerAll _

/-- Default placeholders whose identifiers are in lower case are offered under these. -/
theorem World.bulkLaw_defaults (world : World σ C) {requiresContext : Bool} {names : List String}
    {ps : List (Placeholder σ C)} (h : Placeholder.AreDefaults requiresContext names ps)
    (hlower : names.map Text.lowercase = names) :
    world.BulkLaw (registerAll ps) (names.zip ps) := by
  have hoffered : ps.map Placeholder.entry = names.zip ps := by
    have hpairs := List.zip_map' (l := ps) (f := fun p => Text.lowercase p.identifier) (g := id)
    rw [h.lowercase_identifiers hlower, List.map_id] at hpairs
    exact hpairs.symm
  rw [← hoffered]
  exact world.bulkLaw_registerAll ps

/-- Registering in bulk counts exactly and is idempotent, in every world and whatever is registered.
Configured texts are offered as constants with their own values, under their identifiers in lower case;
the colors of a palette likewise; and the fields of a player and of a server under their names. The answer
is the number of distinct keys that were not registered, and it is what the registry grows by; the entries
of before stay, and of each new key the first entry is added. A second time the answer is zero, and
refusals are logged but nothing else changes. -/
theorem bulk_registration_counts (world : World σ C) :
    (∀ entries : List (String × String),
        world.BulkLaw (registerAll (textPlaceholders entries))
          (entries.map fun (identifier, value) =>
            (Text.lowercase identifier, .constant identifier value)))
      ∧ (∀ palette : Palette,
        world.BulkLaw (registerAll (colorPlaceholders palette))
          (palette.entries.map fun (name, code) => (Text.lowercase name, .constant name code)))
      ∧ (∀ [PlayerSource σ C], ∃ players : List (Placeholder σ C),
        Placeholder.ShowPlayer players
          ∧ world.BulkLaw (registerAll playerPlaceholders) (Player.fieldNames.zip players))
      ∧ ∀ server : ServerSource σ, ∃ fields : List (Placeholder σ C),
        Placeholder.ShowServer server fields
          ∧ world.BulkLaw (registerAll (serverPlaceholders server)) (Server.fieldNames.zip fields) := by
  refine ⟨world.bulkLaw_texts, fun palette => world.bulkLaw_texts palette.entries, ?_, fun server => ?_⟩
  · intro _
    have hplayers : Placeholder.ShowPlayer (playerPlaceholders : List (Placeholder σ C)) :=
      showPlayer_playerPlaceholders
    exact ⟨playerPlaceholders, hplayers,
      world.bulkLaw_defaults hplayers.toAreDefaults Player.lowercase_fieldNames⟩
  · have hfields : Placeholder.ShowServer server (serverPlaceholders server : List (Placeholder σ C)) :=
      showServer_serverPlaceholders server
    exact ⟨serverPlaceholders server, hfields,
      world.bulkLaw_defaults hfields.toAreDefaults Server.lowercase_fieldNames⟩

end MessageTemplate
