import Mathlib.Data.List.Iterate
import MessageTemplate.Proofs.Defaults
import MessageTemplate.Proofs.Levels

/-!
Chains of values.

A constant whose value holds one token hands the expansion on to the placeholder that this token names.
If that is such a constant too, and so on, there is no end to it: the placeholders are finitely many, so
the chain comes back to one of them, and it is the bound that ends it. Each level unfolds one value. What
stands before its token is written in the order in which the values are unfolded, and what stands behind
it in the opposite order, for it is written around all that the token becomes.

Nothing depends on where the chain leads. A step is the same for a placeholder that names itself as for
one that leads into a cycle (`Chain.expand_link`), and the whole is an induction on the levels
(`Chain.expand_spelling`).
-/

namespace MessageTemplate

variable {σ C ι : Type}

/-- Constants, each with one token in its value. The token names the next one, in whatever ASCII case,
and what stands around it holds no opening brace. -/
structure Chain (ι : Type) where
  key : ι → String
  next : ι → ι
  front : ι → String
  spelling : ι → String
  back : ι → String
  isLowerName_key : ∀ i, IsLowerName (key i).toList
  toLower_spelling : ∀ i, (spelling i).toLower = key (next i)
  no_brace_front : ∀ i, '{' ∉ (front i).toList
  no_brace_back : ∀ i, '{' ∉ (back i).toList

namespace Chain

/-- The token in the value of a member. -/
def link (chain : Chain ι) (i : ι) : Token :=
  ⟨chain.spelling i, none⟩

/-- The value of a member. -/
def value (chain : Chain ι) (i : ι) : String :=
  chain.front i ++ (chain.link i).raw ++ chain.back i

/-- Every member is registered as a constant with its value. -/
def IsRegistered (chain : Chain ι) (registry : Registry σ C) : Prop :=
  ∀ i, ∃ name, registry.lookup? (chain.key i) = some (.constant name (chain.value i))

/-- A member, the next one, and so on, so many of them. -/
def members (chain : Chain ι) (i : ι) (count : Nat) : List ι :=
  List.iterate chain.next i count

/-- What stands before the tokens, from the first member to the last. -/
def fronts (chain : Chain ι) (i : ι) (count : Nat) : String :=
  String.join ((chain.members i count).map chain.front)

/-- What stands behind the tokens, from the last member to the first. -/
def backs (chain : Chain ι) (i : ι) (count : Nat) : String :=
  String.join ((chain.members i count).map chain.back).reverse

variable (chain : Chain ι)

@[simp] theorem fronts_zero (i : ι) : chain.fronts i 0 = "" := rfl

@[simp] theorem backs_zero (i : ι) : chain.backs i 0 = "" := rfl

theorem members_succ (i : ι) (count : Nat) :
    chain.members i (count + 1) = i :: chain.members (chain.next i) count := rfl

theorem fronts_succ (i : ι) (count : Nat) :
    chain.fronts i (count + 1) = chain.front i ++ chain.fronts (chain.next i) count := by
  rw [fronts, members_succ, List.map_cons, String.join_cons, fronts]

theorem backs_succ (i : ι) (count : Nat) :
    chain.backs i (count + 1) = chain.backs (chain.next i) count ++ chain.back i := by
  rw [backs, members_succ, List.map_cons, List.reverse_cons, String.join_append, String.join_cons,
    String.join_nil, String.append_empty, backs]

/-! ## One level -/

section Level

variable {chain} {world : World σ C} {i : ι} {written : String}

/-- Whatever ASCII case a key is written in, the token can stand in a message. -/
theorem wellFormed (hwritten : written.toLower = chain.key i) :
    (Token.mk written none).WellFormed where
  isName := ((chain.isLowerName_key i).isName.of_toLower hwritten).1
  params_closed := fun _ hparams => nomatch hparams

/-- And it is looked up under the key. -/
theorem lowercase_written (hwritten : written.toLower = chain.key i) :
    Text.lowercase written = chain.key i :=
  ((chain.isLowerName_key i).isName.of_toLower hwritten).2

/-- So it names the member. -/
theorem lookup?_written (hwritten : written.toLower = chain.key i) (registry : Registry σ C) :
    registry.lookup? written = registry.lookup? (chain.key i) := by
  rw [Registry.lookup?, Registry.lookup?, lowercase_written hwritten,
    lowercase_written (chain.isLowerName_key i).toLower_eq]

/-- The value of a member is expanded by expanding its token. -/
theorem expand_value (context : Option C) (levels : Nat) (world : World σ C) (i : ι) :
    (expand context levels (chain.value i)).run world
      = (chain.front i ++ ((expand context levels (chain.link i).raw).run world).1 ++ chain.back i,
        ((expand context levels (chain.link i).raw).run world).2) := by
  have hfront : IsComplete (chain.front i).toList := isComplete_of_no_brace (chain.no_brace_front i)
  have htoken : IsComplete (chain.front i ++ (chain.link i).raw).toList := by
    rw [String.toList_append]
    exact (wellFormed (chain.toLower_spelling i)).isTokenText.isComplete_append _
  have hstays : ∀ {text : String}, '{' ∉ text.toList → ∀ world : World σ C,
      (expand context levels text).run world = (text, world) :=
    fun htext => expandAt_of_no_brace htext context levels 0
  rw [value, expand_append_run (htoken.noMatchAcross _), expand_append_run (hfront.noMatchAcross _),
    hstays (chain.no_brace_front i), hstays (chain.no_brace_back i)]

/-- One level: the member that the token names is invoked, and the token in its value is expanded with
one level less, between the texts around it. -/
theorem expand_link (hregistered : chain.IsRegistered world.registry)
    (hwritten : written.toLower = chain.key i) (context : Option C) (levels : Nat) :
    ∃ call : Invocation σ C, call.identifier = chain.key i
      ∧ (expand context (levels + 1) (Token.mk written none).raw).run world
        = (chain.front i
            ++ ((expand context levels (chain.link i).raw).run (world.noting call)).1 ++ chain.back i,
          ((expand context levels (chain.link i).raw).run (world.noting call)).2) := by
  obtain ⟨name, hlookup⟩ := hregistered i
  rw [← lookup?_written hwritten] at hlookup
  let call : Invocation σ C :=
    world.invocation context levels ⟨written, none⟩ (.constant name (chain.value i))
  -- the token alone is the message, so the message is what becomes of it
  have hresolve : (resolve (expand context levels) context levels ⟨written, none⟩).run world = _ :=
    resolve_constant hlookup rfl
  have hrun := substitute_replaced _ [] world ⟨0, (Token.mk written none).raw.utf8ByteSize⟩ hresolve
  rw [← scan_raw (wellFormed hwritten), ← expand_succ, expand_value] at hrun
  refine ⟨call, lowercase_written hwritten, hrun.trans ?_⟩
  rw [substitute, run_pure, String.append_empty]

end Level

/-! ## All levels -/

/-- With so many levels, so many members are unfolded. The induction is on the levels. The token with
which it starts is not in the value of a member, so how it is written is left open: only the token that is
left in the end is written as in the value that was unfolded last. -/
theorem expand_spelling {chain : Chain ι} (context : Option C) (levels : Nat) {world : World σ C}
    (hregistered : chain.IsRegistered world.registry) {i : ι} {written : String}
    (hwritten : written.toLower = chain.key i) :
    ∃ calls : List (Invocation σ C),
      calls.map (·.identifier) = (chain.members i (levels + 1)).map chain.key
        ∧ (expand context (levels + 1) (Token.mk written none).raw).run world
          = (chain.fronts i (levels + 1) ++ (chain.link (chain.next^[levels] i)).raw
              ++ chain.backs i (levels + 1),
            { world with invocations := world.invocations ++ calls.toArray }) := by
  induction levels generalizing world i written with
  | zero =>
    obtain ⟨call, hcall, hrun⟩ := expand_link hregistered hwritten context 0
    refine ⟨[call], by rw [List.map_singleton, hcall]; rfl, ?_⟩
    rw [hrun, expand_zero, run_pure, fronts_succ, backs_succ, fronts_zero, backs_zero,
      String.append_empty, String.empty_append]
    rfl
  | succ levels ih =>
    obtain ⟨call, hcall, hrun⟩ := expand_link hregistered hwritten context (levels + 1)
    have hnoting : chain.IsRegistered (world.noting call).registry := hregistered
    obtain ⟨calls, hcalls, hrest⟩ := ih hnoting (chain.toLower_spelling i)
    refine ⟨call :: calls, by rw [List.map_cons, hcall, hcalls]; rfl, ?_⟩
    have hworld : { world with invocations := world.invocations ++ (call :: calls).toArray }
        = { world.noting call with
            invocations := (world.noting call).invocations ++ calls.toArray } := by
      rw [World.noting]
      simp
    rw [hrun, link, hrest, hworld, fronts_succ chain i, backs_succ chain i, Function.iterate_succ_apply]
    simp only [String.append_assoc]

end Chain

/-- Chains unfold in closed form, wherever they lead. Without a level the token stays and nothing happens.
With levels, as many members are invoked, one after the other, and nothing else happens; what is written
is what stands before the tokens in their values, then the token that the last of these values holds, then
what stands behind the tokens, in the opposite order. -/
theorem expand_chain {chain : Chain ι} {world : World σ C}
    (hregistered : chain.IsRegistered world.registry) (context : Option C) (i : ι) :
    (expand context 0 (Token.mk (chain.key i) none).raw).run world
        = ((Token.mk (chain.key i) none).raw, world)
      ∧ ∀ levels, ∃ calls : List (Invocation σ C),
        (expand context (levels + 1) (Token.mk (chain.key i) none).raw).run world
            = (chain.fronts i (levels + 1) ++ (chain.link (chain.next^[levels] i)).raw
                ++ chain.backs i (levels + 1),
              { world with invocations := world.invocations ++ calls.toArray })
          ∧ calls.length = levels + 1
          ∧ calls.map (·.identifier) = (chain.members i (levels + 1)).map chain.key := by
  refine ⟨by rw [expand_zero, run_pure], fun levels => ?_⟩
  obtain ⟨calls, hcalls, hrun⟩ :=
    chain.expand_spelling context levels hregistered (chain.isLowerName_key i).toLower_eq
  refine ⟨calls, hrun, ?_, hcalls⟩
  have hlength := congrArg List.length hcalls
  rwa [List.length_map, List.length_map, Chain.members, List.length_iterate] at hlength

/-- A member that leads into a cycle of two. The tokens are written in either case, and what stands around
them holds closing braces, colons and nothing at all. -/
def Chain.lasso : Chain (Fin 3) where
  key := fun | 0 => "a" | 1 => "b_2" | 2 => "c"
  next := fun | 0 => 1 | 1 => 2 | 2 => 1
  front := fun | 0 => "<" | 1 => "\x7d" | 2 => ""
  spelling := fun | 0 => "B_2" | 1 => "c" | 2 => "b_2"
  back := fun | 0 => ">" | 1 => "" | 2 => ":\x7d"
  isLowerName_key i := by
    match i with
    | 0 => simp [IsLowerName]
    | 1 => simp [IsLowerName]
    | 2 => simp [IsLowerName]
  toLower_spelling i := Text.toLower_eq_iff.mpr (by revert i; decide)
  no_brace_front := by decide
  no_brace_back := by decide

/-- Four levels go into the cycle and once round it. -/
theorem expand_chain_lasso :
    let world : World Unit Unit := ((registerAll [.constant "A" "<\x7bB_2\x7d>",
      .constant "b_2" "\x7d\x7bc\x7d", .constant "c" "\x7bb_2\x7d:\x7d"]).run (.initial ())).2
    Chain.lasso.IsRegistered world.registry
      ∧ ∃ calls : List (Invocation Unit Unit),
        (expand none 4 "\x7ba\x7d").run world
            = ("<\x7d\x7d\x7bc\x7d:\x7d>",
              { world with invocations := world.invocations ++ calls.toArray })
          ∧ calls.map (·.identifier) = ["a", "b_2", "c", "b_2"] := by
  intro world
  have hregistered : Chain.lasso.IsRegistered world.registry := by
    intro i
    match i with
    | 0 => exact ⟨"A", rfl⟩
    | 1 => exact ⟨"b_2", rfl⟩
    | 2 => exact ⟨"c", rfl⟩
  obtain ⟨-, hlevels⟩ := expand_chain hregistered none 0
  obtain ⟨calls, hrun, -, hcalls⟩ := hlevels 3
  have hmessage : (Token.mk (Chain.lasso.key 0) none).raw = "\x7ba\x7d" := by decide
  have htext : Chain.lasso.fronts 0 4 ++ (Chain.lasso.link (Chain.lasso.next^[3] 0)).raw
      ++ Chain.lasso.backs 0 4 = "<\x7d\x7d\x7bc\x7d:\x7d>" := by decide
  rw [hmessage, htext] at hrun
  exact ⟨hregistered, calls, hrun, hcalls⟩

end MessageTemplate
