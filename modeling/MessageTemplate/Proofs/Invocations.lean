import MessageTemplate.Proofs.Lowercase
import MessageTemplate.Proofs.Resolution
import MessageTemplate.Proofs.Segmentation

/-!
Which handlers are invoked, in which order, and with what.

The invocations of an expansion form a tree: a token of the message is invoked, then the tokens of
its value, and only then the next token of the message, in a registry that may have changed in
between. `Expands` describes that tree without the expander, in the order in which the invocations
happen, and `ExpandsAll` does so for several messages. What the gates promise is then a property of
every node, proved along the tree, and what happened is the nodes read from left to right.
-/

namespace MessageTemplate

variable {σ C : Type}

/-! ## The tree of invocations -/

/-- One invocation, and the token that it was made for: where it stands, in which text, and at which
depth that text was reached. -/
structure Call (σ C : Type) where
  depth : Nat
  text : String
  token : Token
  span : Span
  invocation : Invocation σ C

/-- The segments that are gone through of a text that is reached at a depth: at the bound there are
none, since the text stays as it is. -/
def visible (maxDepth depth : Nat) (text : String) : List Segment :=
  if depth < maxDepth then scan text else []

/-- A call is made for a token of a text: its placeholder is admitted at that moment, and is invoked
for the token with the levels that are left. -/
structure World.Makes (world : World σ C) (context : Option C) (maxDepth depth : Nat) (text : String)
    (t : Token) (span : Span) (call : Call σ C) (called : Outcome × World σ C) : Prop where
  admits : world.registry.Admits context t call.invocation.placeholder
  call_eq : call = ⟨depth, text, t, span,
    world.invocation context (maxDepth - (depth + 1)) t call.invocation.placeholder⟩
  performed : world.perform call.invocation = called

/-- From a world, going through segments of a text makes these calls and leaves this world. A token
is called where a placeholder is admitted at that moment, and passed over where none is. If the handler
fails, the next token follows; if it gives a value, the tokens of the value come first. -/
inductive Expands (context : Option C) (maxDepth : Nat) :
    Nat → String → World σ C → List Segment → List (Call σ C) → World σ C → Prop where
  | nil {depth text world} : Expands context maxDepth depth text world [] [] world
  | literal {depth text world s rest calls after}
      (hrest : Expands context maxDepth depth text world rest calls after) :
      Expands context maxDepth depth text world (.text s :: rest) calls after
  | refused {depth text world t span rest calls after}
      (hrefused : ∀ p, ¬ world.registry.Admits context t p)
      (hrest : Expands context maxDepth depth text world rest calls after) :
      Expands context maxDepth depth text world (.token t span :: rest) calls after
  | failed {depth text world t span rest failure call called calls after}
      (hcall : world.Makes context maxDepth depth text t span call called)
      (hfailure : called.1.result = .error failure)
      (hrest : Expands context maxDepth depth text called.2 rest calls after) :
      Expands context maxDepth depth text world (.token t span :: rest) (call :: calls) after
  | nested {depth text world t span rest value call called inner mid calls after}
      (hcall : world.Makes context maxDepth depth text t span call called)
      (hvalue : called.1.result = .ok value)
      (hinner : Expands context maxDepth (depth + 1) value called.2
        (visible maxDepth (depth + 1) value) inner mid)
      (hrest : Expands context maxDepth depth text mid rest calls after) :
      Expands context maxDepth depth text world (.token t span :: rest)
        (call :: (inner ++ calls)) after

/-- Messages are expanded one after the other, each in the world that the one before it leaves. -/
inductive ExpandsAll (context : Option C) (maxDepth : Nat) :
    World σ C → List String → List (Call σ C) → World σ C → Prop where
  | nil {world} : ExpandsAll context maxDepth world [] [] world
  | cons {world message rest calls mid more after}
      (hmessage : Expands context maxDepth 0 message world (visible maxDepth 0 message) calls mid)
      (hrest : ExpandsAll context maxDepth mid rest more after) :
      ExpandsAll context maxDepth world (message :: rest) (calls ++ more) after

section Tree

variable {context : Option C} {maxDepth depth : Nat} {text : String} {world after after' : World σ C}
  {segments : List Segment} {messages : List String} {calls calls' : List (Call σ C)}

/-- What a token is called with, and what comes of it, is determined. -/
theorem World.Makes.unique {t : Token} {span : Span} {call call' : Call σ C}
    {called called' : Outcome × World σ C}
    (h : world.Makes context maxDepth depth text t span call called)
    (h' : world.Makes context maxDepth depth text t span call' called') :
    call' = call ∧ called' = called := by
  have hcall : call' = call := by
    rw [h.call_eq, h'.call_eq, h.admits.unique h'.admits]
  refine ⟨hcall, ?_⟩
  rw [← h.performed, ← h'.performed, hcall]

/-- The tree is determined: a token is called or passed over by what the world is at that moment. -/
theorem Expands.deterministic (h : Expands context maxDepth depth text world segments calls after)
    (h' : Expands context maxDepth depth text world segments calls' after') :
    calls' = calls ∧ after' = after := by
  induction h generalizing calls' after' with
  | nil =>
    cases h' with
    | nil => exact ⟨rfl, rfl⟩
  | literal _ ih =>
    cases h' with
    | literal hrest' => exact ih hrest'
  | refused hrefused _ ih =>
    cases h' with
    | refused _ hrest' => exact ih hrest'
    | failed hcall' => exact absurd hcall'.admits (hrefused _)
    | nested hcall' => exact absurd hcall'.admits (hrefused _)
  | failed hcall hfailure _ ih =>
    cases h' with
    | refused hrefused' => exact absurd hcall.admits (hrefused' _)
    | failed hcall' _ hrest' =>
      obtain ⟨rfl, rfl⟩ := hcall.unique hcall'
      obtain ⟨rfl, rfl⟩ := ih hrest'
      exact ⟨rfl, rfl⟩
    | nested hcall' hvalue' =>
      obtain ⟨rfl, rfl⟩ := hcall.unique hcall'
      rw [hvalue'] at hfailure
      cases hfailure
  | nested hcall hvalue _ _ ihinner ih =>
    cases h' with
    | refused hrefused' => exact absurd hcall.admits (hrefused' _)
    | failed hcall' hfailure' =>
      -- the same call cannot have failed and given a value
      obtain ⟨rfl, rfl⟩ := hcall.unique hcall'
      rw [hvalue] at hfailure'
      cases hfailure'
    | nested hcall' hvalue' hinner' hrest' =>
      obtain ⟨rfl, rfl⟩ := hcall.unique hcall'
      obtain rfl := Except.ok.inj (hvalue'.symm.trans hvalue)
      obtain ⟨rfl, rfl⟩ := ihinner hinner'
      obtain ⟨rfl, rfl⟩ := ih hrest'
      exact ⟨rfl, rfl⟩

theorem ExpandsAll.deterministic (h : ExpandsAll context maxDepth world messages calls after)
    (h' : ExpandsAll context maxDepth world messages calls' after') :
    calls' = calls ∧ after' = after := by
  induction h generalizing calls' after' with
  | nil =>
    cases h' with
    | nil => exact ⟨rfl, rfl⟩
  | cons hmessage _ ih =>
    cases h' with
    | cons hmessage' hrest' =>
      obtain ⟨rfl, rfl⟩ := hmessage.deterministic hmessage'
      obtain ⟨rfl, rfl⟩ := ih hrest'
      exact ⟨rfl, rfl⟩

end Tree

/-! ## What is recorded -/

/-- The calls are what the record of invocations has grown by, in order. -/
def Records (world : World σ C) (calls : List (Call σ C)) (after : World σ C) : Prop :=
  after.invocations = world.invocations ++ (calls.map (·.invocation)).toArray

section Recorded

variable {context : Option C} {maxDepth depth : Nat} {text : String} {world mid after : World σ C}
  {calls more : List (Call σ C)}

theorem Records.nil (world : World σ C) : Records world [] world :=
  Array.append_empty.symm

/-- What two runs record, one after the other. -/
theorem Records.append (h : Records world calls mid) (hmore : Records mid more after) :
    Records world (calls ++ more) after := by
  rw [Records, hmore, h, List.map_append, ← List.append_toArray, Array.append_assoc]

/-- A call that is made is recorded. -/
theorem World.Makes.records {t : Token} {span : Span} {call : Call σ C}
    {called : Outcome × World σ C}
    (h : world.Makes context maxDepth depth text t span call called) :
    Records world [call] called.2 := by
  rw [Records, ← h.performed, invocations_perform]
  rfl

/-- The calls of the tree are what is recorded. -/
theorem Expands.records {segments : List Segment}
    (h : Expands context maxDepth depth text world segments calls after) :
    Records world calls after := by
  induction h with
  | nil => exact .nil _
  | literal _ ih => exact ih
  | refused _ _ ih => exact ih
  | failed hcall _ _ ih => exact hcall.records.append ih
  | nested hcall _ _ _ ihinner ih => exact hcall.records.append (ihinner.append ih)

theorem ExpandsAll.records {messages : List String}
    (h : ExpandsAll context maxDepth world messages calls after) : Records world calls after := by
  induction h with
  | nil => exact .nil _
  | cons hmessage _ ih => exact hmessage.records.append ih

end Recorded

/-! ## Gates -/

/-- The parameters of a written token: what stands between its first colon and its closing brace. -/
inductive IsParamsOf (raw : String) : Option String → Prop where
  | absent (hcolon : ':' ∉ raw.toList) : IsParamsOf raw none
  | present {before params : String} (hfirst : ':' ∉ before.toList) (hclosed : '}' ∉ params.toList)
      (hraw : raw = before ++ ":" ++ params ++ "\x7d") : IsParamsOf raw (some params)

/-- The parameters of a token are read off its written form. -/
theorem Token.WellFormed.isParamsOf {t : Token} (h : t.WellFormed) : IsParamsOf t.raw t.params := by
  have hname : ':' ∉ t.identifier.toList := h.isName.not_mem (by decide)
  obtain ⟨identifier, params⟩ := t
  cases params with
  | none =>
    refine .absent ?_
    rw [Token.toList_raw, Token.rawParams]
    simpa using hname
  | some params =>
    refine @IsParamsOf.present _ ("\x7b" ++ identifier) params ?_ (h.params_closed params rfl) ?_
    · rw [String.toList_append]
      simpa using hname
    · simp only [Token.raw, Token.rawParams, String.append_assoc]

/-- What every invocation satisfies. Its token stands in the text that is expanded, above the bound,
and the placeholder is the one that was stored at that moment under the token's identifier in ASCII
lower case. It gets the context of the caller and the parameters that are written, and both gates let
it pass. -/
structure Call.IsGated (context : Option C) (maxDepth : Nat) (call : Call σ C) : Prop where
  occurs : (call.token, call.span) ∈ tokens call.text
  spelled : call.span.Spells call.text call.token.raw
  above_bound : call.depth < maxDepth
  identifier_eq : call.invocation.identifier = call.token.identifier.toLower
  stored : call.invocation.registry.table.get? call.token.identifier.toLower
    = some call.invocation.placeholder
  context_eq : call.invocation.context = context
  isParams : IsParamsOf call.token.raw call.invocation.params
  context_present : call.invocation.placeholder.requiresContext = true → context.isSome = true
  params_supported : call.invocation.params.isSome = true →
    call.invocation.placeholder.supportsParameters = true

section Gated

variable {context : Option C} {maxDepth depth : Nat} {text : String} {t : Token} {span : Span}
  {world after : World σ C} {calls : List (Call σ C)}

/-- A call that is made for a token of a text above the bound is gated. -/
theorem World.Makes.isGated {call : Call σ C} {called : Outcome × World σ C}
    (h : world.Makes context maxDepth depth text t span call called) (hdepth : depth < maxDepth)
    (hmem : (t, span) ∈ tokens text) : call.IsGated context maxDepth := by
  obtain ⟨hadmits, hcall, -⟩ := h
  have ht : t.WellFormed := wellFormed_of_mem_tokens hmem
  generalize call.invocation.placeholder = p at hadmits hcall
  subst hcall
  refine ⟨hmem, spells_of_mem_tokens hmem, hdepth, ht.lowercase_identifier, ?_, rfl, ht.isParamsOf,
    hadmits.context_present, hadmits.params_supported⟩
  have hstored := hadmits.stored
  rwa [Registry.lookup?, ht.lowercase_identifier] at hstored

theorem mem_tokens_of_mem_visible (h : .token t span ∈ visible maxDepth depth text) :
    depth < maxDepth ∧ (t, span) ∈ tokens text := by
  rw [visible] at h
  split at h
  next hlt => exact ⟨hlt, mem_segment_tokens_iff.mpr h⟩
  next => cases h

/-- Every call of the tree is gated. The induction carries along that what is left of the text holds
tokens of the text, and none at the bound. -/
theorem Expands.isGated {segments : List Segment}
    (h : Expands context maxDepth depth text world segments calls after)
    (hplace : ∀ t span, .token t span ∈ segments → depth < maxDepth ∧ (t, span) ∈ tokens text) :
    ∀ call ∈ calls, call.IsGated context maxDepth := by
  induction h with
  | nil => exact fun call hcall => absurd hcall List.not_mem_nil
  | literal _ ih => exact ih fun t span ht => hplace t span (List.mem_cons_of_mem _ ht)
  | refused _ _ ih => exact ih fun t span ht => hplace t span (List.mem_cons_of_mem _ ht)
  | failed hcall _ _ ih =>
    obtain ⟨hdepth, hmem⟩ := hplace _ _ List.mem_cons_self
    refine List.forall_mem_cons.mpr ⟨hcall.isGated hdepth hmem, ?_⟩
    exact ih fun t span ht => hplace t span (List.mem_cons_of_mem _ ht)
  | nested hcall _ _ _ ihinner ih =>
    obtain ⟨hdepth, hmem⟩ := hplace _ _ List.mem_cons_self
    refine List.forall_mem_cons.mpr ⟨hcall.isGated hdepth hmem, List.forall_mem_append.mpr ⟨?_, ?_⟩⟩
    -- the value is a text of its own, and its tokens are seen only above the bound
    · exact ihinner fun t span ht => mem_tokens_of_mem_visible ht
    · exact ih fun t span ht => hplace t span (List.mem_cons_of_mem _ ht)

theorem ExpandsAll.isGated {messages : List String}
    (h : ExpandsAll context maxDepth world messages calls after) :
    ∀ call ∈ calls, call.IsGated context maxDepth := by
  induction h with
  | nil => exact fun call hcall => absurd hcall List.not_mem_nil
  | cons hmessage _ ih =>
    exact List.forall_mem_append.mpr
      ⟨hmessage.isGated fun t span ht => mem_tokens_of_mem_visible ht, ih⟩

end Gated

/-! ## The expander walks the tree -/

/-- Where a placeholder is admitted, invoking it is the call of the tree. -/
theorem makes_of_admits {world : World σ C} {context : Option C} {maxDepth depth : Nat} {t : Token}
    {p : Placeholder σ C} (hadmits : world.registry.Admits context t p) (text : String)
    (span : Span) :
    world.Makes context maxDepth depth text t span
      ⟨depth, text, t, span, world.invocation context (maxDepth - (depth + 1)) t p⟩
      (world.perform (world.invocation context (maxDepth - (depth + 1)) t p)) :=
  ⟨hadmits, rfl, rfl⟩

/-- Substituting segments walks the tree, if expanding values does one level deeper. -/
theorem expands_substitute {context : Option C} {maxDepth depth : Nat}
    (hnested : ∀ (value : String) (world : World σ C), ∃ calls,
      Expands context maxDepth (depth + 1) value world (visible maxDepth (depth + 1) value) calls
        ((expandAt context maxDepth (depth + 1) value).run world).2)
    (text : String) (segments : List Segment) (world : World σ C) :
    ∃ calls, Expands context maxDepth depth text world segments calls
      ((substitute (resolveAt context maxDepth depth) segments).run world).2 := by
  induction segments generalizing world with
  | nil => exact ⟨[], .nil⟩
  | cons segment rest ih =>
    cases segment with
    | text s =>
      obtain ⟨calls, hrest⟩ := ih world
      exact ⟨calls, .literal hrest⟩
    | token t span =>
      rcases resolve_cases (expandAt context maxDepth (depth + 1)) context (maxDepth - (depth + 1))
          t world with
        ⟨u, hgate, hstep⟩ | ⟨p, failure, hadmits, hcall, hstep⟩ | ⟨p, value, hadmits, hcall, hstep⟩
      · rw [substitute_kept _ _ _ _ hstep]
        obtain ⟨calls, hrest⟩ := ih world
        exact ⟨calls, .refused (Registry.not_admits_of_gate_error hgate) hrest⟩
      · rw [substitute_kept _ _ _ _ hstep]
        obtain ⟨calls, hrest⟩ := ih _
        exact ⟨_, .failed (makes_of_admits hadmits text span) hcall hrest⟩
      · rw [substitute_replaced _ _ _ _ hstep]
        obtain ⟨inner, hinner⟩ := hnested value _
        obtain ⟨calls, hrest⟩ := ih _
        exact ⟨_, .nested (makes_of_admits hadmits text span) hcall hinner hrest⟩

/-- Expanding a text walks the tree. The induction is on the levels that are left. -/
theorem expands_expandAt (context : Option C) (maxDepth depth : Nat) (text : String)
    (world : World σ C) : ∃ calls,
    Expands context maxDepth depth text world (visible maxDepth depth text) calls
      ((expandAt context maxDepth depth text).run world).2 := by
  induction hlevels : maxDepth - depth generalizing depth text world with
  | zero =>
    -- at the bound nothing of the text is seen, and the text stays
    have hle : maxDepth ≤ depth := Nat.sub_eq_zero_iff_le.mp hlevels
    rw [expandAt_of_le hle, visible, if_neg (Nat.not_lt.mpr hle)]
    exact ⟨[], .nil⟩
  | succ levels ih =>
    have hlt : depth < maxDepth := by omega
    rw [expandAt_of_lt hlt, visible, if_pos hlt]
    refine expands_substitute ?_ text (scan text) world
    intro value mid
    exact ih (depth + 1) value mid (by omega)

theorem expandsAll_expandAll (context : Option C) (maxDepth : Nat) (messages : List String)
    (world : World σ C) : ∃ calls,
    ExpandsAll context maxDepth world messages calls
      ((expandAll context maxDepth messages).run world).2 := by
  induction messages generalizing world with
  | nil => exact ⟨[], .nil⟩
  | cons message rest ih =>
    obtain ⟨calls, hmessage⟩ := expands_expandAt context maxDepth 0 message world
    obtain ⟨more, hrest⟩ := ih ((expand context maxDepth message).run world).2
    exact ⟨calls ++ more, .cons hmessage hrest⟩

/-! ## Invocations -/

/-- What a run from one world to another has done: it made the calls of a tree that has no others,
these are what was recorded, and every one of them is gated. -/
structure IsWalk (context : Option C) (maxDepth : Nat)
    (tree : List (Call σ C) → World σ C → Prop) (world : World σ C) (calls : List (Call σ C))
    (after : World σ C) : Prop where
  walked : tree calls after
  no_other : ∀ calls' after', tree calls' after' → calls' = calls ∧ after' = after
  recorded : Records world calls after
  gated : ∀ call ∈ calls, call.IsGated context maxDepth

/-- The invocations of expanding a message, of checking it and of expanding several messages are those
for the admitted tokens, depth first and from left to right, and the gates hold for each of them. -/
theorem invocations_pass_gates (context : Option C) (maxDepth : Nat) (world : World σ C) :
    (∀ message, ∃ calls, IsWalk context maxDepth
        (Expands context maxDepth 0 message world (visible maxDepth 0 message)) world calls
        ((expand context maxDepth message).run world).2)
      ∧ (∀ message, ∃ calls, IsWalk context maxDepth
        (Expands context maxDepth 0 message world (visible maxDepth 0 message)) world calls
        ((check context maxDepth message).run world).2)
      ∧ ∀ messages, ∃ calls, IsWalk context maxDepth
        (ExpandsAll context maxDepth world messages) world calls
        ((expandAll context maxDepth messages).run world).2 := by
  have hexpand : ∀ message, ∃ calls, IsWalk context maxDepth
      (Expands context maxDepth 0 message world (visible maxDepth 0 message)) world calls
      ((expand context maxDepth message).run world).2 := by
    intro message
    obtain ⟨calls, hcalls⟩ := expands_expandAt context maxDepth 0 message world
    exact ⟨calls, hcalls, fun _ _ hcalls' => hcalls.deterministic hcalls', hcalls.records,
      hcalls.isGated fun t span ht => mem_tokens_of_mem_visible ht⟩
  refine ⟨hexpand, ?_, ?_⟩
  · intro message
    rw [check_world]
    exact hexpand message
  · intro messages
    obtain ⟨calls, hcalls⟩ := expandsAll_expandAll context maxDepth messages world
    exact ⟨calls, hcalls, fun _ _ hcalls' => hcalls.deterministic hcalls', hcalls.records,
      hcalls.isGated⟩

end MessageTemplate
