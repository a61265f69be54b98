import MessageTemplate.Proofs.LowercaseTwice
import MessageTemplate.Proofs.Registrations

/-!
Listed identifiers address their entries.

An entry is stored under its identifier in lower case, and whatever is asked of the registry is lower-cased
first. So a listed identifier that is asked for has been lower-cased twice, and a key that could be lowered
further would be listed and yet be found by nobody. There is no such key, since lower-casing settles a text
(`Registry.IsMap.lowercase_key`): each listed identifier finds, guards and takes out the entry that is stored
under it. Taking one out leaves the others listed, and so they can all be taken out, in any order.
-/

namespace MessageTemplate

variable {σ C : Type}

/-! ## Keys -/

/-- The keys of a map are in lower case. -/
theorem Registry.IsMap.lowercase_key {registry : Registry σ C} (h : registry.IsMap) {key : String}
    (hkey : key ∈ registry.identifiers) : Text.lowercase key = key := by
  obtain ⟨entry, hentry, rfl⟩ := List.mem_map.mp hkey
  rw [h.keys_lowercase entry hentry, Text.lowercase_lowercase]

/-- Without a listed identifier there is no entry. -/
theorem Registry.eq_empty_of_identifiers_eq_nil {registry : Registry σ C}
    (h : registry.identifiers = []) : registry = .empty := by
  obtain ⟨⟨entries⟩⟩ := registry
  obtain rfl : entries = [] := List.map_eq_nil_iff.mp h
  rfl

/-- The key is the address of the placeholder: it finds the one entry that is stored under it, keeps others
from being registered in its place, and takes this entry out. -/
structure World.Addresses (world : World σ C) (key : String) (p : Placeholder σ C) : Prop where
  stored_iff : ∀ q, (key, q) ∈ world.registry.table.entries ↔ q = p
  contained : world.registry.contains key = true
  found : world.registry.lookup? key = some p
  refused : ∀ q : Placeholder σ C, Text.lowercase q.identifier = key →
    (tryRegister q).run world = (.error (.duplicate key), world.withRefusal key)
      ∧ (register q).run world = (false, world.withRefusal key)
  removed : (unregister key).run world
    = (true, world.withoutEntry key (world.registry.table.erase key).entries)

/-- Listed identifiers are addresses. -/
theorem World.IsOrderedMap.exists_addresses {world : World σ C} (h : world.IsOrderedMap) {key : String}
    (hkey : key ∈ world.registry.identifiers) : ∃ p, world.Addresses key p := by
  have hlower : Text.lowercase key = key := h.isMap.lowercase_key hkey
  have hlookup : ∀ p, world.registry.lookup? key = some p ↔ (key, p) ∈ world.registry.table.entries := by
    intro p
    rw [Registry.lookup?, hlower]
    exact Table.get?_eq_some_iff h.isMap.keys_distinct
  obtain ⟨⟨key, p⟩, hentry, rfl⟩ := List.mem_map.mp hkey
  have hfound : world.registry.lookup? key = some p := (hlookup p).mpr hentry
  refine ⟨p, ?_, ?_, hfound, ?_, ?_⟩
  · intro q
    rw [← hlookup q, hfound, Option.some.injEq]
    exact eq_comm
  · rw [Registry.contains, hlower]
    exact Table.contains_iff.mpr hkey
  · rintro q hq
    have htaken : Text.lowercase q.identifier ∈ world.registry.identifiers := by rwa [hq]
    rw [register_run, tryRegister_taken htaken, hq]
    exact ⟨rfl, rfl⟩
  · have hmem : Text.lowercase key ∈ world.registry.identifiers := by rwa [hlower]
    rw [unregister_of_mem hmem, hlower]

/-! ## Taking out all -/

/-- Taking out a listed identifier leaves the others, in their order. -/
theorem World.IsOrderedMap.identifiers_unregister {world : World σ C} (h : world.IsOrderedMap) {key : String}
    (hkey : key ∈ world.registry.identifiers) :
    ((unregister key).run world).1 = true
      ∧ ((unregister key).run world).2.registry.identifiers = world.registry.identifiers.erase key := by
  obtain ⟨p, haddresses⟩ := h.exists_addresses hkey
  rw [haddresses.removed]
  exact ⟨rfl, h.isMap.identifiers_erase key⟩

/-- All listed identifiers can be taken out, in any order. What keeps the induction going is that the
identifiers still to be taken out are those still listed. -/
theorem World.IsOrderedMap.unregister_perm {world : World σ C} (h : world.IsOrderedMap) {keys : List String}
    (hperm : keys.Perm world.registry.identifiers) :
    ((keys.mapM unregister).run world).1 = keys.map (fun _ => true)
      ∧ ((keys.mapM unregister).run world).2.registry = .empty := by
  induction keys generalizing world with
  | nil => exact ⟨rfl, Registry.eq_empty_of_identifiers_eq_nil (List.nil_perm.mp hperm)⟩
  | cons key rest ih =>
    obtain ⟨hkey, hrest⟩ := List.cons_perm_iff_perm_erase.mp hperm
    obtain ⟨hanswer, hleft⟩ := h.identifiers_unregister hkey
    have hmap : ((unregister key).run world).2.IsOrderedMap := h.reaches (bySteps_unregister key world)
    rw [← hleft] at hrest
    obtain ⟨hanswers, hempty⟩ := ih hmap hrest
    have hrun : ((key :: rest).mapM unregister).run world
        = (((unregister key).run world).1 :: ((rest.mapM unregister).run ((unregister key).run world).2).1,
          ((rest.mapM unregister).run ((unregister key).run world).2).2) := by
      rw [List.mapM_cons]
      rfl
    rw [hrun, hanswer, hanswers]
    exact ⟨rfl, hempty⟩

/-- Lower-casing a second time changes nothing. So in every world that steps lead to, each listed identifier
is the address of an entry, and all of them can be taken out in any order, which leaves no entry. -/
theorem listed_identifiers_address {state : σ} {world : World σ C}
    (hreaches : World.Reaches (.initial state) world) :
    (∀ s : String, Text.lowercase (Text.lowercase s) = Text.lowercase s)
      ∧ (∀ key ∈ world.registry.identifiers, ∃ p, world.Addresses key p)
      ∧ ∀ keys : List String, keys.Perm world.registry.identifiers →
        ((keys.mapM unregister).run world).1 = keys.map (fun _ => true)
          ∧ ((keys.mapM unregister).run world).2.registry = .empty := by
  have hmap : world.IsOrderedMap := (World.isOrderedMap_initial state).reaches hreaches
  exact ⟨Text.lowercase_lowercase, fun key => hmap.exists_addresses, fun keys => hmap.unregister_perm⟩

/-- A session with a name that ends in a sigma, one that grows in lower case, and a refused registration. -/
theorem listed_identifiers_address_sigma :
    let requests : List (Request Unit) := [.register (.constant "ΑΣ" "1"),
      .register (.constant "İ" "2"), .register (.constant "B" "3"), .register (.constant "ας" "4")]
    let world := ((serveAll requests).run (.ofSettings {} ())).2.world
    World.Reaches (.initial ()) world
      ∧ world.registry.identifiers = ["ας", "i̇", "b"]
      ∧ (∃ p, world.Addresses "ας" p) ∧ (∃ p, world.Addresses "i̇" p)
      ∧ ((["b", "ας", "i̇"].mapM unregister).run world).1 = [true, true, true]
      ∧ ((["b", "ας", "i̇"].mapM unregister).run world).2.registry = .empty := by
  intro requests world
  have hreaches : World.Reaches (.initial ()) world :=
    (serveAll_follows requests (.ofSettings {} ())).reaches
  have hlisted : world.registry.identifiers = ["ας", "i̇", "b"] := by decide +kernel
  obtain ⟨-, haddress, hall⟩ := listed_identifiers_address hreaches
  rw [hlisted] at haddress
  have hperm : ["b", "ας", "i̇"].Perm world.registry.identifiers := by
    rw [hlisted]
    decide
  obtain ⟨hanswers, hempty⟩ := hall _ hperm
  exact ⟨hreaches, hlisted, haddress _ (by decide), haddress _ (by decide), hanswers, hempty⟩

end MessageTemplate
