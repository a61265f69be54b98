import MessageTemplate.Proofs.Concatenation
import MessageTemplate.Proofs.Heights
import MessageTemplate.Proofs.LowercaseTwice

/-!
Which names a message can reach.

Any text can be registered as an identifier, but tokens are written in ASCII. What is registered and what
is written meet in lower case: a placeholder is stored under its identifier lower-cased by the full
mappings, and it is found under the identifier of a token, which then is a name in ASCII lower case. So it
depends on the lower case alone whether a message reaches a placeholder. The Kelvin sign is not ASCII and
becomes a `k`, which can be written; an accented letter stays one, and no message names it.

That nothing else reaches it is said of all messages, and so of all texts that the values of constants
are: every invocation, at whatever level, is gated, and meets the registry of the start, since constants
leave it as it is (`Expands.keeps_registry`).
-/

namespace MessageTemplate

variable {σ C : Type}

/-! ## Registries that stay -/

section Kept

variable {context : Option C} {start : World σ C} {maxDepth depth : Nat} {text : String}
  {world after : World σ C}

/-- A call of a stateless placeholder meets the registry of the start and leaves it. -/
theorem World.Makes.keeps_registry (hstateless : start.registry.IsStateless context)
    (hregistry : world.registry = start.registry) {t : Token} {span : Span} {call : Call σ C}
    {called : Outcome × World σ C}
    (h : world.Makes context maxDepth depth text t span call called) :
    call.invocation.registry = start.registry ∧ called.2.registry = start.registry := by
  obtain ⟨hadmits, hcall, rfl⟩ := h
  rw [hregistry] at hadmits
  have hplaceholder : call.invocation.placeholder.IsStateless := hstateless t _ hadmits
  refine ⟨?_, (World.perform_stateless hplaceholder world).2.trans hregistry⟩
  rw [hcall]
  exact hregistry

/-- So all calls of a tree meet it. -/
theorem Expands.keeps_registry (hstateless : start.registry.IsStateless context)
    {segments : List Segment} {calls : List (Call σ C)}
    (h : Expands context maxDepth depth text world segments calls after)
    (hregistry : world.registry = start.registry) :
    after.registry = start.registry ∧ ∀ call ∈ calls, call.invocation.registry = start.registry := by
  induction h with
  | nil => exact ⟨hregistry, fun _ hcall => absurd hcall List.not_mem_nil⟩
  | literal _ ih => exact ih hregistry
  | refused _ _ ih => exact ih hregistry
  | failed hcall _ _ ih =>
    obtain ⟨hmet, hleft⟩ := hcall.keeps_registry hstateless hregistry
    obtain ⟨hkept, hcalls⟩ := ih hleft
    exact ⟨hkept, List.forall_mem_cons.mpr ⟨hmet, hcalls⟩⟩
  | nested hcall _ _ _ ihinner ih =>
    obtain ⟨hmet, hleft⟩ := hcall.keeps_registry hstateless hregistry
    obtain ⟨hmid, hinner⟩ := ihinner hleft
    obtain ⟨hkept, hcalls⟩ := ih hmid
    exact ⟨hkept, List.forall_mem_cons.mpr ⟨hmet, List.forall_mem_append.mpr ⟨hinner, hcalls⟩⟩⟩

end Kept

/-! ## Invoking a placeholder -/

/-- The placeholder is invoked when the message is expanded. -/
def World.Invokes (world : World σ C) (context : Option C) (maxDepth : Nat) (message : String)
    (p : Placeholder σ C) : Prop :=
  ∃ call ∈ world.since ((expand context maxDepth message).run world).2, call.placeholder = p

/-- What is invoked was called for a token, through the gates, and in the registry of the start, if the
placeholders there are stateless. -/
theorem World.Invokes.exists_call {context : Option C} {world : World σ C}
    (hstateless : world.registry.IsStateless context) {maxDepth : Nat} {message : String}
    {p : Placeholder σ C} (h : world.Invokes context maxDepth message p) :
    ∃ call : Call σ C, call.IsGated context maxDepth
      ∧ call.invocation.registry = world.registry ∧ call.invocation.placeholder = p := by
  obtain ⟨calls, hcalls⟩ := expands_expandAt context maxDepth 0 message world
  obtain ⟨invocation, hmem, rfl⟩ := h
  rw [expand, hcalls.records.since_eq] at hmem
  obtain ⟨call, hcall, rfl⟩ := List.mem_map.mp hmem
  refine ⟨call, ?_, (hcalls.keeps_registry hstateless rfl).2 call hcall, rfl⟩
  exact hcalls.isGated (fun t span ht => mem_tokens_of_mem_visible ht) call hcall

/-- An invocation with which an expansion goes on is among those that were written down. -/
theorem World.mem_since_noting (world : World σ C) (call : Invocation σ C) (context : Option C)
    (maxDepth depth : Nat) (text : String) :
    call ∈ world.since ((expandAt context maxDepth depth text).run (world.noting call)).2 := by
  obtain ⟨calls, hcalls⟩ := expands_expandAt context maxDepth depth text (world.noting call)
  rw [World.since, hcalls.records, World.noting, Array.toList_append, Array.toList_push,
    List.append_assoc, ← Array.length_toList, List.drop_left]
  exact List.mem_cons_self

/-! ## A placeholder alone -/

/-- The placeholder is all that is registered. -/
def Registry.only (p : Placeholder σ C) : Registry σ C :=
  ⟨⟨[(Text.lowercase p.identifier, p)]⟩⟩

theorem registry_register_alone {world : World σ C} (hempty : world.registry = .empty)
    (p : Placeholder σ C) : ((register p).run world).2.registry = .only p := by
  have hfree : Text.lowercase p.identifier ∉ world.registry.identifiers := by
    rw [hempty]
    exact List.not_mem_nil
  rw [register_run, tryRegister_free hfree]
  simp only [World.withEntry, hempty]
  rfl

namespace Registry

theorem get?_only {p q : Placeholder σ C} {key : String} :
    (only p).table.get? key = some q ↔ key = Text.lowercase p.identifier ∧ q = p := by
  have hdistinct : (only p).table.keys.Nodup := List.nodup_singleton _
  rw [Table.get?_eq_some_iff hdistinct, ← Prod.mk.injEq]
  exact List.mem_singleton

theorem isStateless_only {p : Placeholder σ C} (h : p.IsStateless) (context : Option C) :
    (only p).IsStateless context := by
  refine isStateless_of_forall (fun entry hentry => ?_) context
  rw [List.mem_singleton.mp hentry]
  exact h

end Registry

/-- A stateless placeholder that is invoked has a name for a lower case. The token that it was called for
is named by it, and tokens have such names. -/
theorem World.Invokes.isLowerName {world : World σ C} {context : Option C} {maxDepth : Nat}
    {message : String} {p : Placeholder σ C} (hstateless : p.IsStateless)
    (hregistry : world.registry = .only p) (h : world.Invokes context maxDepth message p) :
    IsLowerName (Text.lowercase p.identifier).toList := by
  have hkept : world.registry.IsStateless context := by
    rw [hregistry]
    exact Registry.isStateless_only hstateless context
  obtain ⟨call, hgated, hmet, -⟩ := h.exists_call hkept
  have hstored := hgated.stored
  rw [hmet, hregistry, Registry.get?_only] at hstored
  have hwellFormed : call.token.WellFormed := wellFormed_of_mem_tokens hgated.occurs
  rw [← hstored.1, ← hwellFormed.lowercase_identifier]
  exact hwellFormed.isName.isLowerName_lowercase

/-- If the lower case of its identifier is a name, the token with this name invokes a constant, and becomes
what the value becomes one level deeper. -/
theorem expand_constant_alone {world : World σ C} {s value : String}
    (hregistry : world.registry = .only (.constant s value))
    (hname : IsLowerName (Text.lowercase s).toList) (context : Option C) {maxDepth : Nat}
    (hdepth : 0 < maxDepth) :
    (expand context maxDepth (Token.mk (Text.lowercase s) none).raw).run world
      = (expandAt context maxDepth 1 value).run (world.noting
          (world.invocation context (maxDepth - 1) ⟨Text.lowercase s, none⟩ (.constant s value))) := by
  have hwellFormed : (Token.mk (Text.lowercase s) none).WellFormed :=
    ⟨hname.isName, fun params hparams => nomatch hparams⟩
  -- looking the name up lower-cases it once more, which does nothing
  have hlookup : world.registry.lookup? (Text.lowercase s) = some (.constant s value) := by
    rw [hregistry, Registry.lookup?, Text.lowercase_lowercase, Registry.get?_only]
    exact ⟨rfl, rfl⟩
  have hresolve : (resolveAt context maxDepth 0 ⟨Text.lowercase s, none⟩).run world = _ :=
    resolve_constant hlookup rfl
  rw [expand_of_pos hdepth, scan_raw hwellFormed, substitute_replaced _ _ _ _ hresolve, substitute,
    run_pure, String.append_empty]
  rfl

/-- A constant that is all that is registered can be reached by a message exactly if its identifier in
lower case is made of `a` to `z`, digits and underscores, and is not empty. Then it is reached by this name
in braces, which become what its value is expanded to one level deeper. -/
theorem constant_reached_iff {world : World σ C} (hempty : world.registry = .empty) (s value : String)
    (context : Option C) {maxDepth : Nat} (hdepth : 0 < maxDepth) :
    let p : Placeholder σ C := .constant s value
    let named := ((register p).run world).2
    let message := "\x7b" ++ Text.lowercase s ++ "\x7d"
    ((∃ message, named.Invokes context maxDepth message p) ↔ IsLowerName (Text.lowercase s).toList)
      ∧ (IsLowerName (Text.lowercase s).toList →
        named.Invokes context maxDepth message p
          ∧ (expand context maxDepth message).run named
            = (expandAt context maxDepth 1 value).run (named.noting
                (named.invocation context (maxDepth - 1) ⟨Text.lowercase s, none⟩ p))) := by
  intro p named message
  have hregistry : named.registry = .only p := registry_register_alone hempty p
  have hreached : IsLowerName (Text.lowercase s).toList →
      named.Invokes context maxDepth message p
        ∧ (expand context maxDepth message).run named
          = (expandAt context maxDepth 1 value).run (named.noting
              (named.invocation context (maxDepth - 1) ⟨Text.lowercase s, none⟩ p)) := by
    intro hname
    have hrun := expand_constant_alone hregistry hname context hdepth
    rw [Token.raw_bare] at hrun
    have hmem := named.mem_since_noting
      (named.invocation context (maxDepth - 1) ⟨Text.lowercase s, none⟩ p) context maxDepth 1 value
    rw [← hrun] at hmem
    exact ⟨⟨_, hmem, rfl⟩, hrun⟩
  refine ⟨⟨?_, fun hname => ⟨message, (hreached hname).1⟩⟩, hreached⟩
  rintro ⟨other, hinvokes⟩
  have hstateless : p.IsStateless := Placeholder.isStateless_constant s value
  have hname := hinvokes.isLowerName hstateless hregistry
  have hid : p.identifier = s := rfl
  rw [hid] at hname
  exact hname

/-- The Kelvin sign becomes a `k`, by which the constant is reached, and its value is not expanded where
there is one level only. An accented letter is reached by no message. -/
theorem constant_reached_iff_kelvin :
    let world : World Unit Unit := .initial ()
    let kelvin : Placeholder Unit Unit := .constant "\u212a_1" "<\x7bk_1\x7d>"
    let accented : Placeholder Unit Unit := .constant "\xc9" "x"
    (world.registry = .empty ∧ 0 < 1)
      ∧ ((register kelvin).run world).2.Invokes none 1 "\x7bk_1\x7d" kelvin
      ∧ ((expand none 1 "\x7bk_1\x7d").run ((register kelvin).run world).2).1 = "<\x7bk_1\x7d>"
      ∧ ¬ ∃ message, ((register accented).run world).2.Invokes none 1 message accented := by
  intro world kelvin accented
  have hempty : world.registry = .empty := rfl
  have hkelvin : Text.lowercase "\u212a_1" = "k_1" := by decide +kernel
  have haccented : Text.lowercase "\xc9" = "\xe9" := by decide +kernel
  obtain ⟨-, hreached⟩ := constant_reached_iff hempty "\u212a_1" "<\x7bk_1\x7d>" none Nat.one_pos
  obtain ⟨hnever, -⟩ := constant_reached_iff hempty "\xc9" "x" none Nat.one_pos
  rw [hkelvin] at hreached
  rw [haccented] at hnever
  obtain ⟨hinvokes, hrun⟩ := hreached (by simp [IsLowerName])
  refine ⟨⟨hempty, Nat.one_pos⟩, hinvokes, ?_, ?_⟩
  · rw [expandAt_of_le (Nat.le_refl 1)] at hrun
    exact congrArg Prod.fst hrun
  · intro hsome
    exact absurd (hnever.mp hsome) (by simp [IsLowerName])

end MessageTemplate
