import Mathlib.Data.List.Nodup
import MessageTemplate.Proofs.Sessions

/-!
The registry as an ordered map.

The log tells when identifiers were registered and taken out. Read from its end it says what the
registry must hold: an identifier stands if nothing was said of it since its latest registration, and
it stands where that registration stands among the others (`standing`). This is the second account of
the registry that its own list of entries is compared with. Each of the steps a session is made of
keeps both accounts in agreement (`World.IsOrderedMap.step`), and so does every chain of them; the laws
of registering and unregistering are then read off in any world that a session comes through.
-/

namespace MessageTemplate

variable {σ C : Type}

/-! ## What the log says -/

/-- Whether the event says that the identifier was registered or taken out. -/
def Event.concerns (key : String) : Event → Bool
  | .registered identifier => identifier == key
  | .unregistered identifier => identifier == key
  | _ => false

/-- The identifiers that are registered after these events, in the order of their latest
registrations. -/
def standing : List Event → List String
  | [] => []
  | .registered key :: later =>
    if later.any (Event.concerns key) then standing later else key :: standing later
  | _ :: later => standing later

/-- One more event takes out the identifier that it concerns, and adds it at the end if it was
registered. -/
theorem standing_concat (log : List Event) (event : Event) :
    standing (log ++ [event])
      = (standing log).filter (fun key => !event.concerns key) ++ standing [event] := by
  induction log with
  | nil => rfl
  | cons first later ih =>
    cases first with
    | registered key =>
      rw [List.cons_append, standing, standing, List.any_append]
      by_cases hlater : later.any (Event.concerns key) = true
      · rw [hlater, Bool.true_or, if_pos rfl, if_pos rfl, ih]
      · rw [Bool.not_eq_true] at hlater
        rw [hlater, Bool.false_or, List.any_cons, List.any_nil, Bool.or_false]
        cases hevent : event.concerns key with
        | true => simp [ih, hevent]
        | false => simp [ih, hevent]
    | rejected => exact ih
    | unregistered => exact ih
    | defaultsSkipped => exact ih
    | textsRegistered => exact ih
    | defaultsRegistered => exact ih

/-- An event that says of no identifier that it was registered or taken out changes nothing. -/
theorem standing_concat_of_unconcerned {event : Event} (log : List Event)
    (h : ∀ key, event.concerns key = false) (hnil : standing [event] = []) :
    standing (log ++ [event]) = standing log := by
  rw [standing_concat, hnil, List.append_nil, List.filter_eq_self]
  intro key _
  rw [h, Bool.not_false]

/-- Notes are of no identifier. -/
theorem standing_concat_note {event : Event} (h : event.isNote = true) (log : List Event) :
    standing (log ++ [event]) = standing log := by
  have hquiet : (∀ key, event.concerns key = false) ∧ standing [event] = [] := by
    cases event with
    | registered => cases h
    | rejected => cases h
    | unregistered => cases h
    | defaultsSkipped => exact ⟨fun _ => rfl, rfl⟩
    | textsRegistered => exact ⟨fun _ => rfl, rfl⟩
    | defaultsRegistered => exact ⟨fun _ => rfl, rfl⟩
  exact standing_concat_of_unconcerned log hquiet.1 hquiet.2

/-- An identifier that does not stand comes to stand behind all others. -/
theorem standing_concat_registered {log : List Event} {key : String} (h : key ∉ standing log) :
    standing (log ++ [.registered key]) = standing log ++ [key] := by
  have hkeep : (standing log).filter (fun k => !(Event.registered key).concerns k)
      = standing log := by
    rw [List.filter_eq_self]
    intro k hk
    have hne : key ≠ k := fun heq => h (heq ▸ hk)
    simp [Event.concerns, hne]
  rw [standing_concat, hkeep]
  rfl

theorem standing_concat_unregistered (log : List Event) (key : String) :
    standing (log ++ [.unregistered key]) = (standing log).filter (· ≠ key) := by
  rw [standing_concat]
  have hnil : standing [.unregistered key] = [] := rfl
  rw [hnil, List.append_nil]
  refine List.filter_congr fun k _ => ?_
  by_cases hk : k = key
  · simp [Event.concerns, hk]
  · have hk' : key ≠ k := fun heq => hk heq.symm
    simp [Event.concerns, hk, hk']

/-! ## Registering and unregistering -/

/-- The world with a placeholder registered behind all others. -/
def World.withEntry (world : World σ C) (p : Placeholder σ C) : World σ C :=
  let key := Text.lowercase p.identifier
  { world with
    registry := ⟨world.registry.table.push key p⟩
    log := world.log.push (.registered key) }

/-- The world in which the refusal of a registration is logged, and nothing else has changed. -/
def World.withRefusal (world : World σ C) (key : String) : World σ C :=
  { world with log := world.log.push (.rejected key) }

/-- The world with the entries that remain when one is taken out. -/
def World.withoutEntry (world : World σ C) (key : String)
    (remaining : List (String × Placeholder σ C)) : World σ C :=
  { world with
    registry := ⟨⟨remaining⟩⟩
    log := world.log.push (.unregistered key) }

section Operations

variable {world : World σ C}

/-- A free identifier is registered. -/
theorem tryRegister_free {p : Placeholder σ C}
    (h : Text.lowercase p.identifier ∉ world.registry.identifiers) :
    (tryRegister p).run world = (.ok (), world.withEntry p) := by
  refine tryRegister_ok ?_
  have hfree : ¬ world.registry.table.contains (Text.lowercase p.identifier) = true := by
    rwa [Table.contains_iff]
  rw [Registry.register, if_neg hfree]

/-- A taken identifier is refused, and the registry stays. -/
theorem tryRegister_taken {p : Placeholder σ C}
    (h : Text.lowercase p.identifier ∈ world.registry.identifiers) :
    (tryRegister p).run world
      = (.error (.duplicate (Text.lowercase p.identifier)),
        world.withRefusal (Text.lowercase p.identifier)) := by
  refine tryRegister_duplicate ?_
  have htaken : world.registry.table.contains (Text.lowercase p.identifier) = true := by
    rwa [Table.contains_iff]
  rw [Registry.register, if_pos htaken]

/-- An identifier that is not registered cannot be taken out. -/
theorem unregister_of_not_mem {identifier : String}
    (h : Text.lowercase identifier ∉ world.registry.identifiers) :
    (unregister identifier).run world = (false, world) := by
  refine unregister_absent ?_
  have habsent : ¬ world.registry.table.contains (Text.lowercase identifier) = true := by
    rwa [Table.contains_iff]
  rw [Registry.unregister?, if_neg habsent]

/-- Taking out an identifier removes what is stored under it. -/
theorem unregister_of_mem {identifier : String}
    (h : Text.lowercase identifier ∈ world.registry.identifiers) :
    (unregister identifier).run world
      = (true, world.withoutEntry (Text.lowercase identifier)
          (world.registry.table.erase (Text.lowercase identifier)).entries) := by
  refine unregister_present ?_
  have hpresent : world.registry.table.contains (Text.lowercase identifier) = true := by
    rwa [Table.contains_iff]
  rw [Registry.unregister?, if_pos hpresent]

end Operations

/-- In a table of distinct names, erasing one of them takes out one entry. The others stay as they
are, in their order. -/
theorem Table.entries_erase_of_mem {α : Type} {table : Table α} {key : String}
    (hdistinct : table.keys.Nodup) (hmem : key ∈ table.keys) :
    ∃ front value back, table.entries = front ++ (key, value) :: back
      ∧ (table.erase key).entries = front ++ back ∧ ∀ entry ∈ front ++ back, entry.1 ≠ key := by
  obtain ⟨⟨key', value⟩, hentry, rfl⟩ := List.mem_map.mp hmem
  obtain ⟨front, back, hsplit⟩ := List.append_of_mem hentry
  have hothers : ∀ entry ∈ front ++ back, entry.1 ≠ key' := by
    rw [Table.keys, hsplit, List.map_append, List.map_cons, List.nodup_middle,
      List.nodup_cons] at hdistinct
    intro entry hentry' heq
    have hkey : entry.1 ∈ (front ++ back).map (·.1) := List.mem_map_of_mem hentry'
    rw [heq, List.map_append] at hkey
    exact hdistinct.1 hkey
  refine ⟨front, value, back, hsplit, ?_, hothers⟩
  have hkeep : ∀ part : List (String × α), (∀ entry ∈ part, entry ∈ front ++ back) →
      part.filter (·.1 ≠ key') = part := by
    intro part hpart
    rw [List.filter_eq_self]
    intro entry hentry'
    exact decide_eq_true (hothers entry (hpart entry hentry'))
  rw [Table.erase, hsplit, List.filter_append, List.filter_cons_of_neg (by simp),
    hkeep front fun _ => List.mem_append_left _, hkeep back fun _ => List.mem_append_right _]

/-! ## The ordered map -/

/-- The keys are distinct, and each is the lower case of the identifier that is stored under it. -/
structure Registry.IsMap (registry : Registry σ C) : Prop where
  keys_distinct : registry.identifiers.Nodup
  keys_lowercase : ∀ entry ∈ registry.table.entries,
    entry.1 = Text.lowercase entry.2.identifier

/-- The registry is an ordered map, whose keys stand in the order of their latest registrations. -/
structure World.IsOrderedMap (world : World σ C) : Prop where
  isMap : world.registry.IsMap
  keys_in_order : world.registry.identifiers = standing world.log.toList
  count_eq : world.registry.count = world.registry.identifiers.length
  /-- The registry was a map at every invocation, however deep in a message. -/
  isMap_of_call : ∀ call ∈ world.invocations, call.registry.IsMap

/-- The number of entries is the number of keys, whatever the entries are. -/
theorem Registry.count_eq_length (registry : Registry σ C) :
    registry.count = registry.identifiers.length := by
  rw [Registry.count, Registry.identifiers, Table.keys, List.length_map]
  rfl

namespace Registry.IsMap

variable {registry : Registry σ C}

theorem empty : (Registry.empty : Registry σ C).IsMap where
  keys_distinct := List.nodup_nil
  keys_lowercase := fun _ hentry => absurd hentry List.not_mem_nil

/-- Another entry under a free key. -/
theorem push (h : registry.IsMap) {p : Placeholder σ C}
    (hfree : Text.lowercase p.identifier ∉ registry.identifiers) :
    (Registry.mk (registry.table.push (Text.lowercase p.identifier) p)).IsMap where
  keys_distinct := by
    rw [Registry.identifiers, Table.keys_push, List.nodup_append]
    refine ⟨h.keys_distinct, List.nodup_singleton _, ?_⟩
    rintro key hkey _ hnew rfl
    rw [List.mem_singleton.mp hnew] at hkey
    exact hfree hkey
  keys_lowercase := by
    intro entry hentry
    rcases List.mem_append.mp hentry with hold | hnew
    · exact h.keys_lowercase entry hold
    · rw [List.mem_singleton.mp hnew]

/-- Fewer entries. -/
theorem erase (h : registry.IsMap) (key : String) :
    (Registry.mk (registry.table.erase key)).IsMap where
  keys_distinct := by
    rw [Registry.identifiers, Table.keys_erase]
    exact h.keys_distinct.filter _
  keys_lowercase := fun entry hentry => h.keys_lowercase entry (List.mem_filter.mp hentry).1

/-- The others stay listed, in their order. -/
theorem identifiers_erase (h : registry.IsMap) (key : String) :
    (Registry.mk (registry.table.erase key)).identifiers = registry.identifiers.erase key := by
  rw [h.keys_distinct.erase_eq_filter]
  exact (Table.keys_erase _ _).trans (List.filter_congr fun _ _ => Bool.eq_iff_iff.mpr (by simp))

end Registry.IsMap

theorem World.isOrderedMap_initial (state : σ) :
    (World.initial state : World σ C).IsOrderedMap where
  isMap := .empty
  keys_in_order := rfl
  count_eq := rfl
  isMap_of_call := fun _ hcall => absurd hcall (Array.not_mem_empty _)

namespace World.IsOrderedMap

variable {world after : World σ C}

/-- Steps that change neither the entries nor what the log says of identifiers keep the map. An
invocation that is written down meets the registry of its moment. -/
theorem of_registry_eq (h : world.IsOrderedMap) (hregistry : after.registry = world.registry)
    (hlog : standing after.log.toList = standing world.log.toList)
    (hcalls : ∀ call ∈ after.invocations,
      call ∈ world.invocations ∨ call.registry = world.registry) : after.IsOrderedMap where
  isMap := by rw [hregistry]; exact h.isMap
  keys_in_order := by rw [hregistry, hlog]; exact h.keys_in_order
  count_eq := Registry.count_eq_length _
  isMap_of_call := by
    intro call hcall
    rcases hcalls call hcall with hold | hnew
    · exact h.isMap_of_call call hold
    · rw [hnew]
      exact h.isMap

theorem withRefusal (h : world.IsOrderedMap) (key : String) :
    (world.withRefusal key).IsOrderedMap := by
  refine h.of_registry_eq rfl ?_ fun _ hcall => Or.inl hcall
  rw [World.withRefusal, Array.toList_push]
  exact standing_concat_of_unconcerned _ (fun _ => rfl) rfl

theorem withEntry (h : world.IsOrderedMap) {p : Placeholder σ C}
    (hfree : Text.lowercase p.identifier ∉ world.registry.identifiers) :
    (world.withEntry p).IsOrderedMap where
  isMap := h.isMap.push hfree
  keys_in_order := by
    rw [h.keys_in_order] at hfree
    rw [World.withEntry, Registry.identifiers, Table.keys_push, Array.toList_push,
      standing_concat_registered hfree, ← h.keys_in_order]
    rfl
  count_eq := Registry.count_eq_length _
  isMap_of_call := h.isMap_of_call

theorem withoutEntry (h : world.IsOrderedMap) (key : String) :
    (world.withoutEntry key (world.registry.table.erase key).entries).IsOrderedMap where
  isMap := h.isMap.erase key
  keys_in_order := by
    rw [World.withoutEntry, Array.toList_push, standing_concat_unregistered, ← h.keys_in_order]
    exact Table.keys_erase _ key
  count_eq := Registry.count_eq_length _
  isMap_of_call := h.isMap_of_call

/-- Every step keeps the map. -/
theorem step (h : world.IsOrderedMap) (hstep : World.Step world after) : after.IsOrderedMap := by
  cases hstep with
  | register p =>
    rw [register_run]
    by_cases htaken : Text.lowercase p.identifier ∈ world.registry.identifiers
    · rw [tryRegister_taken htaken]
      exact h.withRefusal _
    · rw [tryRegister_free htaken]
      exact h.withEntry htaken
  | unregister identifier =>
    by_cases hmem : Text.lowercase identifier ∈ world.registry.identifiers
    · rw [unregister_of_mem hmem]
      exact h.withoutEntry _
    · rw [unregister_of_not_mem hmem]
      exact h
  | write state => exact h.of_registry_eq rfl rfl fun _ hcall => Or.inl hcall
  | invoke call hregistry =>
    -- the one new invocation was written down with the registry that the map is kept for
    refine h.of_registry_eq rfl rfl fun call' hcall => ?_
    rcases Array.mem_push.mp hcall with hold | rfl
    · exact Or.inl hold
    · exact Or.inr hregistry
  | note event hnote =>
    refine h.of_registry_eq rfl ?_ fun _ hcall => Or.inl hcall
    rw [Array.toList_push, standing_concat_note hnote]

/-- Every chain of steps keeps the map. -/
theorem reaches (h : world.IsOrderedMap) (hreaches : World.Reaches world after) :
    after.IsOrderedMap := by
  induction hreaches with
  | refl => exact h
  | tail _ hstep ih => exact ih.step hstep

end World.IsOrderedMap

/-! ## The laws of the operations -/

/-- How a registration ends. With a free identifier it succeeds and adds one entry behind the others.
With a taken one it fails, says which one, and is logged; the registry stays. -/
structure World.RegisterLaw (world : World σ C) (p : Placeholder σ C) : Prop where
  accepted : Text.lowercase p.identifier ∉ world.registry.identifiers →
    (tryRegister p).run world = (.ok (), world.withEntry p)
      ∧ (register p).run world = (true, world.withEntry p)
  refused : Text.lowercase p.identifier ∈ world.registry.identifiers →
    (tryRegister p).run world
        = (.error (.duplicate (Text.lowercase p.identifier)),
          world.withRefusal (Text.lowercase p.identifier))
      ∧ (register p).run world = (false, world.withRefusal (Text.lowercase p.identifier))

/-- How taking out an identifier ends. It succeeds if the identifier is registered, and then takes out
its entry alone. Otherwise nothing changes. -/
structure World.UnregisterLaw (world : World σ C) (identifier : String) : Prop where
  removed : Text.lowercase identifier ∈ world.registry.identifiers →
    ∃ front p back,
      world.registry.table.entries = front ++ (Text.lowercase identifier, p) :: back
        ∧ (∀ entry ∈ front ++ back, entry.1 ≠ Text.lowercase identifier)
        ∧ (unregister identifier).run world
          = (true, world.withoutEntry (Text.lowercase identifier) (front ++ back))
  absent : Text.lowercase identifier ∉ world.registry.identifiers →
    (unregister identifier).run world = (false, world)

theorem World.registerLaw (world : World σ C) (p : Placeholder σ C) : world.RegisterLaw p where
  accepted := by
    intro hfree
    rw [register_run, tryRegister_free hfree]
    exact ⟨rfl, rfl⟩
  refused := by
    intro htaken
    rw [register_run, tryRegister_taken htaken]
    exact ⟨rfl, rfl⟩

theorem World.IsOrderedMap.unregisterLaw {world : World σ C} (h : world.IsOrderedMap)
    (identifier : String) : world.UnregisterLaw identifier where
  removed := by
    intro hmem
    obtain ⟨front, p, back, hentries, herase, hothers⟩ :=
      Table.entries_erase_of_mem h.isMap.keys_distinct hmem
    refine ⟨front, p, back, hentries, hothers, ?_⟩
    rw [unregister_of_mem hmem, herase]
  absent := unregister_of_not_mem

/-- The registry is an ordered map through whole sessions. Whatever is requested, the world is changed
by steps only, and in every world that steps lead to, the registry is an ordered map and registering and
unregistering obey their laws. -/
theorem registry_refines_ordered_map [PlayerSource σ C] (settings : Settings) (state : σ) :
    (∀ requests : List (Request σ C), World.Reaches (.initial state)
        ((serveAll requests).run (.ofSettings settings state)).2.world)
      ∧ ∀ world : World σ C, World.Reaches (.initial state) world →
        world.IsOrderedMap ∧ (∀ p, world.RegisterLaw p)
          ∧ ∀ identifier, world.UnregisterLaw identifier := by
  refine ⟨fun requests => (serveAll_follows requests (.ofSettings settings state)).reaches, ?_⟩
  intro world hreaches
  have hmap : world.IsOrderedMap := (World.isOrderedMap_initial state).reaches hreaches
  exact ⟨hmap, world.registerLaw, hmap.unregisterLaw⟩

/-- A session that registers an identifier anew, and the registry that it ends with. -/
theorem registry_refines_ordered_map_anew :
    let requests : List (Request Unit) := [.register (.constant "B" "1"),
      .register (.constant "a" "2"), .unregister "b", .tryRegister (.constant "b" "3"),
      .register (.constant "A" "4")]
    let world := ((serveAll requests).run (.ofSettings {} ())).2.world
    world.IsOrderedMap ∧ (∀ p, world.RegisterLaw p) ∧ (∀ identifier, world.UnregisterLaw identifier)
      ∧ world.registry.identifiers = ["a", "b"] := by
  intro requests world
  obtain ⟨hreaches, hlaws⟩ := registry_refines_ordered_map (C := Player) {} ()
  obtain ⟨hmap, hregister, hunregister⟩ := hlaws world (hreaches requests)
  exact ⟨hmap, hregister, hunregister, by decide⟩

end MessageTemplate
