import MessageTemplate.Proofs.Interchange
import MessageTemplate.Proofs.Invocations

/-!
How deep values are nested.

Where handlers are stateless, the tokens of a message, the tokens of their values, and so on make a tree
that does not depend on the bound; the bound says how much of it is gone through. A message has a height
if the tree ends (`Values.HeightAtMost`), and as many levels as the height go through all of it. What a
further level adds are texts of whose tokens none has a value. They used to be copied, and now they are cut
into segments that are written as they are, which is the same text, because the segments of a text write it.

The invocations differ: the tokens of these last texts are tried, so handlers are invoked that fail. But
only such handlers. The invocations that give a value are determined by the tree as well
(`Values.used`), and so both facts have one proof, an induction on the height for whatever is computed
level by level (`Values.HeightAtMost.eq_of_le`).
-/

namespace MessageTemplate

variable {σ C : Type}

/-! ## Heights -/

namespace Values

/-- The value that stands behind a token, if there is one. -/
def ofToken? (values : Values) (t : Token) : Option String :=
  values (Text.lowercase t.identifier) t.params

/-- A message none of whose tokens has a value has height zero. Above that, the values of its tokens are
less high than the message. -/
def HeightAtMost (values : Values) : Nat → String → Prop
  | 0, message => ∀ found ∈ tokens message, values.ofToken? found.1 = none
  | height + 1, message =>
    ∀ found ∈ tokens message, ∀ value ∈ values.ofToken? found.1, values.HeightAtMost height value

instance decidableHeightAtMost (values : Values) :
    ∀ height message, Decidable (values.HeightAtMost height message)
  | 0, message =>
    inferInstanceAs (Decidable (∀ found ∈ tokens message, values.ofToken? found.1 = none))
  | height + 1, message =>
    have := values.decidableHeightAtMost height
    inferInstanceAs (Decidable (∀ found ∈ tokens message, ∀ value ∈ values.ofToken? found.1,
      values.HeightAtMost height value))

/-- What is computed level by level does not depend on the levels beyond the height, if it does not where
no token has a value, and if with a level more it depends on what is computed of the values only. -/
theorem HeightAtMost.eq_of_le {values : Values} {α : Type} {f : Nat → String → α}
    (hleaf : ∀ levels message, values.HeightAtMost 0 message → f levels message = f 0 message)
    (hnode : ∀ levels levels' message,
      (∀ found ∈ tokens message, ∀ value ∈ values.ofToken? found.1, f levels value = f levels' value) →
      f (levels + 1) message = f (levels' + 1) message)
    {height levels : Nat} {message : String} (h : values.HeightAtMost height message)
    (hle : height ≤ levels) : f levels message = f height message := by
  induction height generalizing levels message with
  | zero => exact hleaf levels message h
  | succ height ih =>
    obtain ⟨levels, rfl⟩ : ∃ fewer, levels = fewer + 1 := ⟨levels - 1, by omega⟩
    apply hnode
    intro found hfound value hvalue
    exact ih (h found hfound value hvalue) (by omega)

/-! ### The text -/

theorem fill_token (values : Values) (expandValue : String → String) (t : Token) (span : Span)
    (rest : List Segment) :
    values.fill expandValue (.token t span :: rest)
      = (values.ofToken? t).elim t.raw expandValue ++ values.fill expandValue rest := rfl

/-- It only matters what becomes of the values that tokens have. -/
theorem fill_congr_values {values : Values} {expandValue expandValue' : String → String}
    {segments : List Segment}
    (h : ∀ found ∈ Segment.tokens segments, ∀ value ∈ values.ofToken? found.1,
      expandValue value = expandValue' value) :
    values.fill expandValue segments = values.fill expandValue' segments := by
  induction segments with
  | nil => rfl
  | cons segment rest ih =>
    cases segment with
    | text s => rw [fill, fill, ih h]
    | token t span =>
      obtain ⟨hfirst, hrest⟩ := List.forall_mem_cons.mp h
      rw [fill_token, fill_token, ih hrest]
      cases hvalue : values.ofToken? t with
      | none => rfl
      | some value => rw [Option.elim_some, Option.elim_some, hfirst value hvalue]

/-- Segments whose tokens have no value are written as they are. -/
theorem fill_eq_render {values : Values} (expandValue : String → String) {segments : List Segment}
    (h : ∀ found ∈ Segment.tokens segments, values.ofToken? found.1 = none) :
    values.fill expandValue segments = render segments := by
  induction segments with
  | nil => rw [fill, render_nil]
  | cons segment rest ih =>
    cases segment with
    | text s => rw [fill, render_cons, ih h, Segment.raw]
    | token t span =>
      obtain ⟨hfirst, hrest⟩ := List.forall_mem_cons.mp h
      rw [fill_token, hfirst, Option.elim_none, render_cons, ih hrest, Segment.raw]

/-- Without values a message stays as it is, whatever the levels. -/
theorem expand_of_height_zero {values : Values} {message : String}
    (h : values.HeightAtMost 0 message) (levels : Nat) : values.expand levels message = message := by
  cases levels with
  | zero => rfl
  | succ levels => rw [expand, fill_eq_render _ h, render_scan]

/-- Beyond the height, levels make no difference to the text. -/
theorem HeightAtMost.expand_eq {values : Values} {height levels : Nat} {message : String}
    (h : values.HeightAtMost height message) (hle : height ≤ levels) :
    values.expand levels message = values.expand height message := by
  refine h.eq_of_le (f := values.expand) ?_ ?_ hle
  · intro levels message hzero
    exact expand_of_height_zero hzero levels
  · intro levels levels' message hvalues
    exact fill_congr_values hvalues

/-! ### The values that are used -/

/-- A token with its value, by identifier and parameters, and then what is used in the value. Nothing, if
the token has no value. -/
def usedBy (values : Values) (usedIn : String → List (String × Option String))
    (found : Token × Span) : List (String × Option String) :=
  (values.ofToken? found.1).elim [] fun value =>
    (Text.lowercase found.1.identifier, found.1.params) :: usedIn value

/-- The tokens that are replaced when a message is expanded so many levels deep, by identifier and
parameters. Each comes before the tokens of its value, and these before the next token. -/
def used (values : Values) : Nat → String → List (String × Option String)
  | 0, _ => []
  | levels + 1, message => (tokens message).flatMap (values.usedBy (values.used levels))

/-- Beyond the height, levels make no difference to the tokens that are replaced. -/
theorem HeightAtMost.used_eq {values : Values} {height levels : Nat} {message : String}
    (h : values.HeightAtMost height message) (hle : height ≤ levels) :
    values.used levels message = values.used height message := by
  refine h.eq_of_le (f := values.used) ?_ ?_ hle
  · intro levels message hzero
    cases levels with
    | zero => rfl
    | succ levels =>
      rw [used, used, List.flatMap_eq_nil_iff]
      intro found hfound
      rw [usedBy, hzero found hfound, Option.elim_none]
  · intro levels levels' message hvalues
    rw [used, used]
    refine List.flatMap_congr fun found hfound => ?_
    rw [usedBy, usedBy]
    cases hvalue : values.ofToken? found.1 with
    | none => rfl
    | some value => rw [Option.elim_some, Option.elim_some, hvalues found hfound value hvalue]

end Values

/-! ## Invocations that give a value -/

/-- What the handler of an invocation gives when it is run in this world. -/
def Invocation.resultIn (call : Invocation σ C) (world : World σ C) : Except String String :=
  ((call.placeholder.handler call.context call.params).run.run world).1.result

/-- The invocations that were written down between two worlds. -/
def World.since (world after : World σ C) : List (Invocation σ C) :=
  after.invocations.toList.drop world.invocations.size

/-- The invocations among these that give a value in the world, by identifier and parameters. -/
def World.answered (world : World σ C) (calls : List (Invocation σ C)) :
    List (String × Option String) :=
  (calls.filter fun call => (call.resultIn world).isOk).map fun call => (call.identifier, call.params)

/-- What the record has grown by was written down since. -/
theorem World.since_eq {world after : World σ C} {calls : List (Invocation σ C)}
    (h : after.invocations = world.invocations ++ calls.toArray) : world.since after = calls := by
  rw [since, h, Array.toList_append, ← Array.length_toList, List.drop_left]

theorem Records.since_eq {world after : World σ C} {calls : List (Call σ C)}
    (h : Records world calls after) : world.since after = calls.map (·.invocation) :=
  World.since_eq h

section Stateless

variable {context : Option C} {start : World σ C}

theorem answered_cons_error {call : Invocation σ C} {failure : String}
    (h : call.resultIn start = .error failure) (calls : List (Invocation σ C)) :
    start.answered (call :: calls) = start.answered calls := by
  rw [World.answered, List.filter_cons_of_neg (by rw [h]; exact Bool.false_ne_true), World.answered]

theorem answered_cons_ok {call : Invocation σ C} {value : String}
    (h : call.resultIn start = .ok value) (calls : List (Invocation σ C)) :
    start.answered (call :: calls) = (call.identifier, call.params) :: start.answered calls := by
  rw [World.answered, List.filter_cons_of_pos (by rw [h]; rfl), List.map_cons, World.answered]

theorem answered_append (calls more : List (Invocation σ C)) :
    start.answered (calls ++ more) = start.answered calls ++ start.answered more := by
  rw [World.answered, List.filter_append, List.map_append, World.answered, World.answered]

/-- The value of a token is what its placeholder gives. -/
theorem World.ofToken?_of_admits {t : Token} (ht : t.WellFormed) {p : Placeholder σ C}
    (h : start.registry.Admits context t p) :
    (start.value? context).ofToken? t
      = ((p.handler context t.params).run.run start).1.result.toOption := by
  rw [Values.ofToken?, World.value?, ((Registry.admits_lowercase_iff ht).mpr h).gate_eq]

/-- A token for which no placeholder is admitted has no value. -/
theorem World.ofToken?_of_refused {t : Token} (ht : t.WellFormed)
    (h : ∀ p, ¬ start.registry.Admits context t p) : (start.value? context).ofToken? t = none := by
  rw [Option.eq_none_iff_forall_not_mem]
  intro value hvalue
  obtain ⟨p, hadmits, -⟩ := World.value?_eq_some_iff.mp hvalue
  exact h p ((Registry.admits_lowercase_iff ht).mp hadmits)

/-- A call that is made in a world with the same registry keeps the registry, and ends as it would at the
start. -/
theorem World.Makes.stateless (hstateless : start.registry.IsStateless context) {world : World σ C}
    (hregistry : world.registry = start.registry) {maxDepth depth : Nat} {text : String} {t : Token}
    (ht : t.WellFormed) {span : Span} {call : Call σ C} {called : Outcome × World σ C}
    (h : world.Makes context maxDepth depth text t span call called) :
    called.2.registry = start.registry
      ∧ call.invocation.resultIn start = called.1.result
      ∧ (start.value? context).ofToken? t = called.1.result.toOption := by
  obtain ⟨hadmits, hcall, rfl⟩ := h
  rw [hregistry] at hadmits
  generalize call.invocation.placeholder = p at hadmits hcall
  subst hcall
  have hp : p.IsStateless := hstateless t p hadmits
  have hcalled : (world.invocation context (maxDepth - (depth + 1)) t p).placeholder.IsStateless := hp
  obtain ⟨houtcome, hkept⟩ := World.perform_stateless hcalled world
  have hresult : ((p.handler context t.params).run.run start).1.result
      = (world.perform (world.invocation context (maxDepth - (depth + 1)) t p)).1.result :=
    congrArg Outcome.result ((hp.outcome_eq context t.params start world).trans houtcome.symm)
  refine ⟨hkept.trans hregistry, hresult, ?_⟩
  rw [World.ofToken?_of_admits ht hadmits, hresult]

/-- A call is written down under the identifier of its token, with the parameters of the token. -/
theorem World.Makes.request_eq {world : World σ C} {maxDepth depth : Nat} {text : String} {t : Token}
    {span : Span} {call : Call σ C} {called : Outcome × World σ C}
    (h : world.Makes context maxDepth depth text t span call called) :
    (call.invocation.identifier, call.invocation.params)
      = (Text.lowercase t.identifier, t.params) := by
  rw [h.call_eq]
  rfl

/-- What is used in a text that is reached at a depth is what is used by the tokens that are seen of it. -/
theorem Values.flatMap_visible (values : Values) (maxDepth depth : Nat) (text : String) :
    (Segment.tokens (visible maxDepth depth text)).flatMap
        (values.usedBy (values.used (maxDepth - (depth + 1))))
      = values.used (maxDepth - depth) text := by
  rw [visible]
  split
  · obtain ⟨levels, hlevels⟩ : ∃ levels, maxDepth - depth = levels + 1 :=
      ⟨maxDepth - (depth + 1), by omega⟩
    have hfewer : maxDepth - (depth + 1) = levels := by omega
    rw [hlevels, hfewer, used, tokens]
  · have hzero : maxDepth - depth = 0 := by omega
    rw [hzero, used, Segment.tokens, List.flatMap_nil]

/-- The calls of the tree that give a value are those for the tokens that are replaced. The induction is on
the tree; every call keeps the registry, and with it the values. -/
theorem Expands.answered_eq (hstateless : start.registry.IsStateless context)
    {maxDepth depth : Nat} {text : String} {world after : World σ C} {segments : List Segment}
    {calls : List (Call σ C)} (h : Expands context maxDepth depth text world segments calls after)
    (hregistry : world.registry = start.registry)
    (hsegments : ∀ found ∈ Segment.tokens segments, found.1.WellFormed) :
    after.registry = start.registry
      ∧ start.answered (calls.map (·.invocation))
        = (Segment.tokens segments).flatMap ((start.value? context).usedBy
            ((start.value? context).used (maxDepth - (depth + 1)))) := by
  induction h with
  | nil => exact ⟨hregistry, rfl⟩
  | literal _ ih => exact ih hregistry hsegments
  | refused hrefused _ ih =>
    obtain ⟨ht, hrest⟩ := List.forall_mem_cons.mp hsegments
    obtain ⟨hkept, hcalls⟩ := ih hregistry hrest
    rw [hregistry] at hrefused
    refine ⟨hkept, ?_⟩
    rw [hcalls, Segment.tokens, List.flatMap_cons, Values.usedBy,
      World.ofToken?_of_refused ht hrefused, Option.elim_none, List.nil_append]
  | failed hcall hfailure _ ih =>
    obtain ⟨ht, hrest⟩ := List.forall_mem_cons.mp hsegments
    obtain ⟨hcalled, hresult, hvalue⟩ := hcall.stateless hstateless hregistry ht
    obtain ⟨hkept, hcalls⟩ := ih hcalled hrest
    rw [hfailure] at hresult hvalue
    refine ⟨hkept, ?_⟩
    rw [List.map_cons, answered_cons_error hresult, hcalls, Segment.tokens, List.flatMap_cons,
      Values.usedBy, hvalue]
    rfl
  | @nested depth _ _ t _ _ value _ _ _ _ _ _ hcall hvalue hinner _ ihinner ih =>
    obtain ⟨ht, hrest⟩ := List.forall_mem_cons.mp hsegments
    obtain ⟨hcalled, hresult, htoken⟩ := hcall.stateless hstateless hregistry ht
    -- the value is a text of its own, of which the tokens are seen that are above the bound
    have hwellFormed : ∀ found ∈ Segment.tokens (visible maxDepth (depth + 1) value),
        found.1.WellFormed := by
      rintro ⟨t', span'⟩ hfound
      exact wellFormed_of_mem_tokens (mem_tokens_of_mem_visible (mem_segment_tokens_iff.mp hfound)).2
    obtain ⟨hmid, hnested⟩ := ihinner hcalled hwellFormed
    obtain ⟨hkept, hcalls⟩ := ih hmid hrest
    rw [Values.flatMap_visible] at hnested
    rw [hvalue] at hresult htoken
    have hsome : (start.value? context).ofToken? t = some value := htoken
    refine ⟨hkept, ?_⟩
    rw [List.map_cons, List.map_append, answered_cons_ok hresult, answered_append, hnested, hcalls,
      hcall.request_eq, Segment.tokens, List.flatMap_cons, Values.usedBy, hsome, Option.elim_some,
      List.cons_append]

/-- The invocations of an expansion that give a value are those for the tokens that are replaced. -/
theorem answered_expand (hstateless : start.registry.IsStateless context) (levels : Nat)
    (message : String) :
    start.answered (start.since ((expand context levels message).run start).2)
      = (start.value? context).used levels message := by
  obtain ⟨calls, hcalls⟩ := expands_expandAt context levels 0 message start
  have hwellFormed : ∀ found ∈ Segment.tokens (visible levels 0 message), found.1.WellFormed := by
    rintro ⟨t, span⟩ hfound
    exact wellFormed_of_mem_tokens (mem_tokens_of_mem_visible (mem_segment_tokens_iff.mp hfound)).2
  rw [expand, hcalls.records.since_eq, (hcalls.answered_eq hstateless rfl hwellFormed).2,
    Values.flatMap_visible, Nat.sub_zero]

end Stateless

/-! ## Levels beyond the height -/

/-- With as many levels as the message is high, or more, it makes no difference how many there are. The
text is the same. The invocations are the same and in the same order, except that with more levels
others come in whose handlers fail. -/
theorem expand_eq_of_height_le {context : Option C} {world : World σ C}
    (hstateless : world.registry.IsStateless context) {height : Nat} {message : String}
    (hheight : (world.value? context).HeightAtMost height message) {levels levels' : Nat}
    (hlevels : height ≤ levels) (hlevels' : height ≤ levels') :
    let expanded := (expand context levels message).run world
    let expanded' := (expand context levels' message).run world
    expanded.1 = expanded'.1
      ∧ world.answered (world.since expanded.2) = world.answered (world.since expanded'.2) := by
  intro expanded expanded'
  constructor
  · have htext : ∀ {n}, height ≤ n → ((expand context n message).run world).1
        = (world.value? context).expand height message := by
      intro n hn
      rw [(expand_stateless hstateless n message).1, hheight.expand_eq hn]
    exact (htext hlevels).trans (htext hlevels').symm
  · have hcalls : ∀ {n}, height ≤ n →
        world.answered (world.since ((expand context n message).run world).2)
          = (world.value? context).used height message := by
      intro n hn
      rw [answered_expand hstateless, hheight.used_eq hn]
    exact (hcalls hlevels).trans (hcalls hlevels').symm

/-- A constant whose value holds a token of a handler that fails. One level is enough; with a second one
the handler is invoked, in vain. -/
theorem expand_eq_of_height_le_in_vain :
    let broken : Placeholder Unit Nat :=
      .contextFree "broken" fun _ => .done (.failure (.failed "boom"))
    let world : World Unit Nat :=
      ((registerAll [.constant "a" "<\x7bbroken\x7d>", broken]).run (.initial ())).2
    let message := "\x7ba\x7d\x7bnope\x7d"
    let expanded := (expand none 1 message).run world
    let expanded' := (expand none 2 message).run world
    world.registry.IsStateless none ∧ (world.value? none).HeightAtMost 1 message ∧ 1 ≤ 1 ∧ 1 ≤ 2
      ∧ expanded.1 = expanded'.1
      ∧ world.answered (world.since expanded.2) = world.answered (world.since expanded'.2)
      ∧ (world.since expanded.2).map (·.identifier) = ["a"]
      ∧ (world.since expanded'.2).map (·.identifier) = ["a", "broken"] := by
  intro broken world message expanded expanded'
  have hstateless : world.registry.IsStateless none := by
    apply Registry.isStateless_registerAll
    rw [List.forall_mem_cons, List.forall_mem_singleton]
    exact ⟨Placeholder.isStateless_constant _ _,
      Placeholder.isStateless_of_done fun _ _ => ⟨.failure (.failed "boom"), rfl⟩⟩
  have hheight : (world.value? none).HeightAtMost 1 message := by decide +kernel
  obtain ⟨htext, hcalls⟩ :=
    expand_eq_of_height_le hstateless hheight (Nat.le_refl 1) (Nat.le_succ 1)
  exact ⟨hstateless, hheight, Nat.le_refl 1, Nat.le_succ 1, htext, hcalls, by decide +kernel,
    by decide +kernel⟩

end MessageTemplate
