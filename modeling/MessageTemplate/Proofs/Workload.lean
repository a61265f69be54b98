import Mathlib.Algebra.Ring.GeomSum
import MessageTemplate.Proofs.Levels
import MessageTemplate.Proofs.Reached

/-!
How many handlers an expansion invokes.

The tokens of a message, the tokens of their values, and so on make a tree, and the bound says how deep it
is gone through. If no value has more than `b` tokens, no node has more than `b` nodes below it: there is at
most one invocation for each token of the message, at most `b` for the value of each of these, and so on,
one power of `b` for each level.

Handlers may keep state and register others, so what one of them answers is known only in the world that
all those before it have left. The run is therefore gone through once more, and each invocation that it
records is put together with the world in which it is made (`answers`, `isRecorded_answers`). What has to be
assumed of the values is assumed of these answers alone, and the bound is an induction on the levels and on
the segments within a level, for whatever world (`length_answers_le`).

No smaller bound holds. A constant whose value is `b` tokens that name it makes the whole tree
(`expand_copies`).
-/

namespace MessageTemplate

variable {σ C : Type}

/-! ## Answers -/

/-- An invocation, and the world in which it is made. -/
structure Answer (σ C : Type) where
  world : World σ C
  call : Invocation σ C

/-- The value that the handler gives then, or what goes wrong. -/
def Answer.result (answer : Answer σ C) : Except String String :=
  (answer.world.perform answer.call).1.result

/-- The handler fails, or gives a value with at most so many tokens. -/
def Answer.HasAtMost (answer : Answer σ C) (count : Nat) : Prop :=
  ∀ value ∈ answer.result.toOption, (tokens value).length ≤ count

instance (answer : Answer σ C) (count : Nat) : Decidable (answer.HasAtMost count) :=
  inferInstanceAs (Decidable (∀ value ∈ answer.result.toOption, (tokens value).length ≤ count))

section Answers

variable (inValue : String → World σ C → List (Answer σ C)) (context : Option C) (levels : Nat)

/-- The answers for a token: that of its own handler, if there is one that is invoked, and then those for
the tokens of the value that it gives. -/
def answersTo (t : Token) (world : World σ C) : List (Answer σ C) :=
  match world.registry.gate context t with
  | .error _ => []
  | .ok p =>
    let call := world.invocation context levels t p
    let called := world.perform call
    ⟨world, call⟩ :: called.1.result.toOption.elim [] fun value => inValue value called.2

/-- The answers for the tokens among segments, each in the world that those before it leave. -/
def answersAmong : List Segment → World σ C → List (Answer σ C)
  | [], _ => []
  | .text _ :: rest, world => answersAmong rest world
  | .token t _ :: rest, world =>
    answersTo inValue context levels t world
      ++ answersAmong rest ((resolve (expand context levels) context levels t).run world).2

end Answers

/-- The answers of the handlers that are invoked when a message is expanded so many levels deep, in the
order in which they are invoked. -/
def answers (context : Option C) : Nat → String → World σ C → List (Answer σ C)
  | 0, _, _ => []
  | levels + 1, message, world =>
    answersAmong (answers context levels) context levels (scan message) world

section Token

variable {inValue : String → World σ C → List (Answer σ C)} {context : Option C} {levels : Nat}
  {t : Token} {p : Placeholder σ C} {world : World σ C}

theorem answersTo_refused {u : Unresolved} (h : world.registry.gate context t = .error u) :
    answersTo inValue context levels t world = [] := by
  rw [answersTo, h]

theorem answersTo_failed (h : world.registry.Admits context t p) {failure : String}
    (hcall : (world.perform (world.invocation context levels t p)).1.result = .error failure) :
    answersTo inValue context levels t world = [⟨world, world.invocation context levels t p⟩] := by
  rw [answersTo, h.gate_eq]
  simp only [hcall]
  rfl

theorem answersTo_value (h : world.registry.Admits context t p) {value : String}
    (hcall : (world.perform (world.invocation context levels t p)).1.result = .ok value) :
    answersTo inValue context levels t world
      = ⟨world, world.invocation context levels t p⟩
        :: inValue value (world.perform (world.invocation context levels t p)).2 := by
  rw [answersTo, h.gate_eq]
  simp only [hcall]
  rfl

end Token

/-! ## The answers are those of the run -/

/-- From one world to another, the invocations of these answers are what is recorded. -/
def IsRecorded (world : World σ C) (given : List (Answer σ C)) (after : World σ C) : Prop :=
  after.invocations = world.invocations ++ (given.map (·.call)).toArray

section Recorded

variable {world mid after : World σ C} {given more : List (Answer σ C)}

theorem IsRecorded.nil (world : World σ C) : IsRecorded world [] world :=
  Array.append_empty.symm

theorem IsRecorded.append (h : IsRecorded world given mid) (hmore : IsRecorded mid more after) :
    IsRecorded world (given ++ more) after := by
  rw [IsRecorded, hmore, h, List.map_append, ← List.append_toArray, Array.append_assoc]

theorem isRecorded_perform (world : World σ C) (call : Invocation σ C) :
    IsRecorded world [⟨world, call⟩] (world.perform call).2 := by
  rw [IsRecorded, invocations_perform]
  rfl

end Recorded

section Run

variable {inValue : String → World σ C → List (Answer σ C)} {context : Option C} {levels : Nat}

theorem isRecorded_answersTo
    (hvalue : ∀ value world,
      IsRecorded world (inValue value world) ((expand context levels value).run world).2)
    (t : Token) (world : World σ C) :
    IsRecorded world (answersTo inValue context levels t world)
      ((resolve (expand context levels) context levels t).run world).2 := by
  rcases resolve_cases (expand context levels) context levels t world with
    ⟨u, hgate, hstep⟩ | ⟨p, failure, hadmits, hcall, hstep⟩ | ⟨p, value, hadmits, hcall, hstep⟩
  · rw [answersTo_refused hgate, hstep]
    exact .nil world
  · rw [answersTo_failed hadmits hcall, hstep]
    exact isRecorded_perform world _
  · rw [answersTo_value hadmits hcall, hstep]
    exact (isRecorded_perform world _).append (hvalue value _)

theorem isRecorded_answersAmong
    (hvalue : ∀ value world,
      IsRecorded world (inValue value world) ((expand context levels value).run world).2)
    (segments : List Segment) (world : World σ C) :
    IsRecorded world (answersAmong inValue context levels segments world)
      ((substitute (resolve (expand context levels) context levels) segments).run world).2 := by
  induction segments generalizing world with
  | nil => exact .nil world
  | cons segment rest ih =>
    cases segment with
    | text s => exact ih world
    | token t span =>
      have hafter : ((substitute (resolve (expand context levels) context levels)
            (.token t span :: rest)).run world).2
          = ((substitute (resolve (expand context levels) context levels) rest).run
              ((resolve (expand context levels) context levels t).run world).2).2 := rfl
      rw [hafter]
      exact (isRecorded_answersTo hvalue t world).append (ih _)

/-- The answers are those of the invocations that the expansion records. -/
theorem isRecorded_answers (context : Option C) (levels : Nat) (message : String)
    (world : World σ C) :
    IsRecorded world (answers context levels message world)
      ((expand context levels message).run world).2 := by
  induction levels generalizing message world with
  | zero =>
    rw [expand_zero]
    exact .nil world
  | succ levels ih =>
    rw [expand_succ]
    exact isRecorded_answersAmong ih (scan message) world

end Run

/-! ## The bound -/

section Bound

variable {inValue : String → World σ C → List (Answer σ C)} {context : Option C} {levels b most : Nat}

/-- A token has at most one answer and those for its value. -/
theorem length_answersTo_le
    (hvalue : ∀ value world, (∀ answer ∈ inValue value world, answer.HasAtMost b) →
      (inValue value world).length ≤ (tokens value).length * most)
    {t : Token} {world : World σ C}
    (h : ∀ answer ∈ answersTo inValue context levels t world, answer.HasAtMost b) :
    (answersTo inValue context levels t world).length ≤ b * most + 1 := by
  rcases resolve_cases (expand context levels) context levels t world with
    ⟨u, hgate, -⟩ | ⟨p, failure, hadmits, hcall, -⟩ | ⟨p, value, hadmits, hcall, -⟩
  · rw [answersTo_refused hgate]
    exact Nat.zero_le _
  · rw [answersTo_failed hadmits hcall]
    exact Nat.le_add_left 1 _
  · rw [answersTo_value hadmits hcall] at h ⊢
    obtain ⟨hown, hinner⟩ := List.forall_mem_cons.mp h
    -- the handler's own answer comes first, and it is this value
    have htokens : (tokens value).length ≤ b := by
      refine hown value ?_
      rw [Answer.result, hcall]
      rfl
    rw [List.length_cons]
    calc (inValue value _).length + 1 ≤ (tokens value).length * most + 1 :=
          Nat.add_le_add_right (hvalue value _ hinner) 1
      _ ≤ b * most + 1 := Nat.add_le_add_right (Nat.mul_le_mul_right most htokens) 1

theorem length_answersAmong_le
    (hvalue : ∀ value world, (∀ answer ∈ inValue value world, answer.HasAtMost b) →
      (inValue value world).length ≤ (tokens value).length * most)
    {segments : List Segment} {world : World σ C}
    (h : ∀ answer ∈ answersAmong inValue context levels segments world, answer.HasAtMost b) :
    (answersAmong inValue context levels segments world).length
      ≤ (Segment.tokens segments).length * (b * most + 1) := by
  induction segments generalizing world with
  | nil => exact Nat.zero_le _
  | cons segment rest ih =>
    cases segment with
    | text s => exact ih h
    | token t span =>
      obtain ⟨hfirst, hrest⟩ := List.forall_mem_append.mp h
      rw [answersAmong, List.length_append, Segment.tokens, List.length_cons, Nat.add_one_mul,
        Nat.add_comm]
      exact Nat.add_le_add (ih hrest) (length_answersTo_le hvalue hfirst)

/-- The induction is on the levels: with one level more, each token has one answer and at most `b` times
as many as a token has with one level less. -/
theorem length_answers_le {message : String} {world : World σ C}
    (h : ∀ answer ∈ answers context levels message world, answer.HasAtMost b) :
    (answers context levels message world).length
      ≤ (tokens message).length * ∑ i ∈ Finset.range levels, b ^ i := by
  induction levels generalizing message world with
  | zero => exact Nat.zero_le _
  | succ levels ih =>
    rw [geom_sum_succ]
    exact length_answersAmong_le (fun _ _ => ih) h

end Bound

/-! ## The bound is attained -/

/-- So many tokens with the name `x`, one behind the other. -/
def copies (count : Nat) : String :=
  String.join (List.replicate count "\x7bx\x7d")

theorem copies_succ (count : Nat) : copies (count + 1) = "\x7bx\x7d" ++ copies count := by
  rw [copies, List.replicate_succ, String.join_cons, copies]

theorem copies_add (count more : Nat) : copies (count + more) = copies count ++ copies more := by
  rw [copies, ← List.replicate_append_replicate, String.join_append, copies, copies]

theorem isLowerName_x : IsLowerName (Text.lowercase "x").toList := by
  have hlowercase : Text.lowercase "x" = "x" := by decide +kernel
  rw [hlowercase]
  simp [IsLowerName]

/-- No match reaches from a copy into those behind it. -/
theorem noMatchAcross_copy (count : Nat) :
    NoMatchAcross "\x7bx\x7d".toList (copies count).toList :=
  (isComplete_of_closed ['{', 'x']).noMatchAcross _

theorem length_tokens_copies (count : Nat) : (tokens (copies count)).length = count := by
  induction count with
  | zero => decide +kernel
  | succ count ih =>
    have hone : (tokens "\x7bx\x7d").length = 1 := by decide +kernel
    rw [copies_succ, tokens_append (noMatchAcross_copy count), List.length_append, List.length_map,
      hone, ih, Nat.add_comm]

/-- The world with invocations written down. -/
def World.notingAll (world : World σ C) (calls : List (Invocation σ C)) : World σ C :=
  { world with invocations := world.invocations ++ calls.toArray }

namespace World

variable (world : World σ C)

@[simp] theorem notingAll_nil : world.notingAll [] = world := by
  rw [notingAll, Array.append_empty]

theorem notingAll_cons (call : Invocation σ C) (calls : List (Invocation σ C)) :
    world.notingAll (call :: calls) = (world.noting call).notingAll calls := by
  rw [notingAll, notingAll, noting, Array.push_eq_append, Array.append_assoc, List.toArray_cons]

theorem notingAll_append (calls more : List (Invocation σ C)) :
    world.notingAll (calls ++ more) = (world.notingAll calls).notingAll more := by
  rw [notingAll, notingAll, notingAll, ← List.append_toArray, Array.append_assoc]

end World

section Copies

variable {b : Nat}

/-- With one level more, a copy becomes what the copies in the value become. -/
theorem expand_copy {world : World σ C}
    (hregistry : world.registry = .only (.constant "x" (copies b))) (context : Option C)
    (levels : Nat) :
    ∃ call : Invocation σ C, (expand context (levels + 1) "\x7bx\x7d").run world
      = (expand context levels (copies b)).run (world.noting call) := by
  have hrun := expand_constant_alone hregistry isLowerName_x context (Nat.succ_pos levels)
  have hlevels : levels.succ = 1 + levels := Nat.add_comm levels 1
  have hraw : (Token.mk (Text.lowercase "x") none).raw = "\x7bx\x7d" := by decide +kernel
  rw [hraw, hlevels, expandAt_add, Nat.add_comm 1 levels] at hrun
  exact ⟨_, hrun⟩

/-- So many levels make so many copies out of each. The induction is on the levels, and on the copies within
a level. -/
theorem expand_copies (context : Option C) (levels count : Nat) {world : World σ C}
    (hregistry : world.registry = .only (.constant "x" (copies b))) :
    ∃ calls : List (Invocation σ C),
      (expand context levels (copies count)).run world
          = (copies (count * b ^ levels), world.notingAll calls)
        ∧ calls.length = count * ∑ i ∈ Finset.range levels, b ^ i := by
  induction levels generalizing count world with
  | zero =>
    refine ⟨[], ?_, rfl⟩
    rw [expand_zero, run_pure, Nat.pow_zero, Nat.mul_one, World.notingAll_nil]
  | succ levels ihlevels =>
    induction count generalizing world with
    | zero =>
      refine ⟨[], ?_, (Nat.zero_mul _).symm⟩
      rw [Nat.zero_mul, World.notingAll_nil]
      exact expandAt_of_no_brace List.not_mem_nil context (levels + 1) 0 world
    | succ count ih =>
      obtain ⟨call, hcall⟩ := expand_copy hregistry context levels
      have hnoting : (world.noting call).registry = .only (.constant "x" (copies b)) := hregistry
      obtain ⟨inner, hinner, hinnerLength⟩ := ihlevels b hnoting
      have hmid : ((world.noting call).notingAll inner).registry = .only (.constant "x" (copies b)) :=
        hregistry
      obtain ⟨rest, hrest, hrestLength⟩ := ih hmid
      refine ⟨call :: (inner ++ rest), ?_, ?_⟩
      · -- what the first copy becomes stands before what the others become
        have hcopies : b * b ^ levels + count * b ^ (levels + 1) = (count + 1) * b ^ (levels + 1) := by
          rw [Nat.add_one_mul, Nat.add_comm, Nat.pow_succ']
        rw [copies_succ, expand_append_run (noMatchAcross_copy count), hcall, hinner, hrest,
          ← copies_add, hcopies, World.notingAll_cons, World.notingAll_append]
      · rw [List.length_cons, List.length_append, hinnerLength, hrestLength, Nat.add_right_comm,
          ← geom_sum_succ, Nat.add_one_mul, Nat.add_comm]

/-- And only the constant is invoked. -/
theorem hasAtMost_copies {world : World σ C} {context : Option C} {levels : Nat} {message : String}
    (hregistry : world.registry = .only (.constant "x" (copies b))) {answer : Answer σ C}
    (h : answer ∈ answers context levels message world) : answer.HasAtMost b := by
  have hstateless : world.registry.IsStateless context := by
    rw [hregistry]
    exact Registry.isStateless_only (Placeholder.isStateless_constant _ _) context
  have hinvoked : world.Invokes context levels message answer.call.placeholder := by
    refine ⟨answer.call, ?_, rfl⟩
    rw [World.since_eq (isRecorded_answers context levels message world)]
    exact List.mem_map_of_mem h
  -- it was called through the gates, in a registry that holds nothing else
  obtain ⟨call, hgated, hmet, hcall⟩ := hinvoked.exists_call hstateless
  have hstored := hgated.stored
  rw [hmet, hregistry, Registry.get?_only, hcall] at hstored
  have hresult : answer.result = .ok (copies b) := by
    rw [Answer.result, World.perform, hstored.2]
    rfl
  intro value hvalue
  rw [hresult] at hvalue
  obtain rfl : copies b = value := Option.some.inj hvalue
  exact Nat.le_of_eq (length_tokens_copies b)

end Copies

/-- If each handler that is invoked fails or gives a value with at most `b` tokens, an expansion invokes at
most `1 + b + b² + …` handlers for each token of the message, with a summand for each level. It does not
matter what is registered, nor what handlers change and register meanwhile. There is no smaller bound: a
constant whose value is `b` tokens that name it is invoked as often as that, and each token of the message
becomes `b ^ maxDepth` of them. -/
theorem invocations_within_tree :
    (∀ (context : Option C) (world : World σ C) (maxDepth : Nat) (message : String),
      let after := ((expand context maxDepth message).run world).2
      let given := answers context maxDepth message world
      world.since after = given.map (·.call)
        ∧ ∀ b, (∀ answer ∈ given, answer.HasAtMost b) →
          (world.since after).length
            ≤ (tokens message).length * ∑ i ∈ Finset.range maxDepth, b ^ i)
      ∧ ∀ (context : Option C) (state : σ) (t b maxDepth : Nat),
        let world : World σ C := ((register (.constant "x" (copies b))).run (.initial state)).2
        let run := (expand context maxDepth (copies t)).run world
        (tokens (copies t)).length = t
          ∧ (∀ answer ∈ answers context maxDepth (copies t) world, answer.HasAtMost b)
          ∧ (world.since run.2).length = t * ∑ i ∈ Finset.range maxDepth, b ^ i
          ∧ run.1 = copies (t * b ^ maxDepth) := by
  refine ⟨?_, ?_⟩
  · intro context world maxDepth message after given
    have hsince : world.since after = given.map (·.call) :=
      World.since_eq (isRecorded_answers context maxDepth message world)
    refine ⟨hsince, fun b hgiven => ?_⟩
    rw [hsince, List.length_map]
    exact length_answers_le hgiven
  · intro context state t b maxDepth world run
    have hregistry : world.registry = .only (.constant "x" (copies b)) :=
      registry_register_alone rfl _
    obtain ⟨calls, hrun, hcalls⟩ := expand_copies context maxDepth t hregistry
    have hsince : world.since run.2 = calls :=
      World.since_eq (congrArg (fun run => run.2.invocations) hrun)
    refine ⟨length_tokens_copies t, fun _ => hasAtMost_copies hregistry, ?_, congrArg Prod.fst hrun⟩
    rw [hsince, hcalls]

/-- A handler that registers another one when it is first invoked, and fails from then on. The values have
one token or two, three levels allow for fourteen invocations, and there are six. -/
theorem invocations_within_tree_plant :
    let plant : Handler Nat Unit := fun _ _ =>
      .read fun planted => .write (planted + 1) <|
        .register "leaf" false false (fun _ _ => .done (.value "\x7bPlant\x7d")) fun fresh =>
          .done (if fresh then .value "\x7bleaf\x7d \x7bplant\x7d" else .failure (.failed "planted"))
    let world : World Nat Unit := ((register ⟨"plant", false, false, plant⟩).run (.initial 0)).2
    let message := "\x7bplant\x7d \x7bleaf\x7d"
    let after := ((expand none 3 message).run world).2
    (∀ answer ∈ answers none 3 message world, answer.HasAtMost 2)
      ∧ (world.since after).length ≤ 14
      ∧ (world.since after).map (·.identifier) = ["plant", "leaf", "plant", "plant", "leaf", "plant"]
      ∧ after.state = 4 := by
  intro plant world message after
  have hgiven : ∀ answer ∈ answers none 3 message world, answer.HasAtMost 2 := by decide +kernel
  have hallowed : (tokens message).length * ∑ i ∈ Finset.range 3, 2 ^ i = 14 := by decide +kernel
  obtain ⟨hbounded, -⟩ := @invocations_within_tree Nat Unit
  obtain ⟨-, hlength⟩ := hbounded none world 3 message
  have hle := hlength 2 hgiven
  rw [hallowed] at hle
  exact ⟨hgiven, hle, by decide +kernel, by decide +kernel⟩

end MessageTemplate
