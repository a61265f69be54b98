import MessageTemplate.Proofs.Concatenation
import MessageTemplate.Proofs.Heights
import MessageTemplate.Proofs.Verdicts

/-!
Messages that are expanded to the end.

Where handlers are stateless and there are levels enough, a token that is left in an expanded message has
no value. That would say that the message is stable, if it were not for the seams: what is written is put
together from pieces of different depth, and a brace at the end of one piece can open a token that another
piece closes. It cannot where the literal text holds no opening brace. A piece is then either a whole token
or text without a brace, so it is complete, which is the condition under which texts can be put one behind
the other without a new token (`IsComplete`). So what the induction on the height shows of every piece is
not only that its tokens have no value, but that it is complete as well (`Values.IsSettled`).
-/

namespace MessageTemplate

variable {σ C : Type}

/-- The segment is a token, or text without an opening brace. -/
def Segment.HasNoBrace : Segment → Prop
  | .text s => '{' ∉ s.toList
  | .token _ _ => True

instance Segment.decidableHasNoBrace : DecidablePred Segment.HasNoBrace
  | .text s => inferInstanceAs (Decidable ('{' ∉ s.toList))
  | .token _ _ => isTrue trivial

namespace Values

variable {values : Values} {message : String}

/-! ## The texts that are reached -/

/-- What the expansion of a message comes to if there are levels enough: the message, and the values of the
tokens of what it comes to. -/
inductive ComesTo (values : Values) (message : String) : String → Prop where
  | message : values.ComesTo message message
  | value {text value : String} {found : Token × Span} (htext : values.ComesTo message text)
      (hfound : found ∈ tokens text) (hvalue : value ∈ values.ofToken? found.1) :
      values.ComesTo message value

/-- Whatever the expansion comes to has no opening brace outside its tokens. -/
def HasNoBrace (values : Values) (message : String) : Prop :=
  ∀ text, values.ComesTo message text → ∀ segment ∈ scan text, segment.HasNoBrace

/-- What the value of a token comes to, the message comes to. -/
theorem ComesTo.of_value {found : Token × Span} (hfound : found ∈ tokens message) {value text : String}
    (hvalue : value ∈ values.ofToken? found.1) (h : values.ComesTo value text) :
    values.ComesTo message text := by
  induction h with
  | message => exact .value .message hfound hvalue
  | value _ hfound' hvalue' ih => exact .value ih hfound' hvalue'

theorem HasNoBrace.of_value (h : values.HasNoBrace message) {found : Token × Span}
    (hfound : found ∈ tokens message) {value : String} (hvalue : value ∈ values.ofToken? found.1) :
    values.HasNoBrace value :=
  fun text htext => h text (htext.of_value hfound hvalue)

/-- It is enough to look at texts that hold the message and, with a text, the values of its tokens. -/
theorem HasNoBrace.of_closed (texts : List String) (hmessage : message ∈ texts)
    (hclosed : ∀ text ∈ texts, ∀ found ∈ tokens text, ∀ value ∈ values.ofToken? found.1,
      value ∈ texts)
    (hplain : ∀ text ∈ texts, ∀ segment ∈ scan text, segment.HasNoBrace) :
    values.HasNoBrace message := by
  intro text htext
  apply hplain
  induction htext with
  | message => exact hmessage
  | value _ hfound hvalue ih => exact hclosed _ ih _ hfound _ hvalue

/-! ## Settled texts -/

/-- No token of the text has a value, and none is left open at its end. -/
structure IsSettled (values : Values) (text : String) : Prop where
  complete : IsComplete text.toList
  no_value : ∀ found ∈ tokens text, values.ofToken? found.1 = none

/-- Text without an opening brace is settled. -/
theorem isSettled_of_no_brace {s : String} (h : '{' ∉ s.toList) : values.IsSettled s where
  complete := isComplete_of_no_brace h
  no_value := by
    rw [tokens, scan_of_no_brace h, Segment.tokens_prepend]
    exact fun found hfound => absurd hfound List.not_mem_nil

/-- A token without a value is settled. -/
theorem isSettled_raw {t : Token} (ht : t.WellFormed) (h : values.ofToken? t = none) :
    values.IsSettled t.raw where
  complete := ht.isTokenText.isComplete_append []
  no_value := by
    rw [tokens, scan_raw ht, Segment.tokens, Segment.tokens, List.forall_mem_singleton]
    exact h

/-- Settled texts one behind the other are settled: at the seam no token comes about. -/
theorem IsSettled.append {a b : String} (ha : values.IsSettled a) (hb : values.IsSettled b) :
    values.IsSettled (a ++ b) where
  complete := by
    rw [String.toList_append]
    exact ha.complete.append hb.complete
  no_value := by
    rw [tokens_append (ha.complete.noMatchAcross _), List.forall_mem_append]
    refine ⟨ha.no_value, fun found hfound => ?_⟩
    obtain ⟨original, horiginal, rfl⟩ := List.mem_map.mp hfound
    exact hb.no_value original horiginal

/-- Segments without a brace outside tokens are settled when they are written, if what becomes of the
values is. -/
theorem isSettled_fill {expandValue : String → String} {segments : List Segment}
    (hplain : ∀ segment ∈ segments, segment.HasNoBrace)
    (hsegments : ∀ found ∈ Segment.tokens segments, found.1.WellFormed)
    (hvalues : ∀ found ∈ Segment.tokens segments, ∀ value ∈ values.ofToken? found.1,
      values.IsSettled (expandValue value)) :
    values.IsSettled (values.fill expandValue segments) := by
  induction segments with
  | nil => exact isSettled_of_no_brace (s := "") List.not_mem_nil
  | cons segment rest ih =>
    obtain ⟨hsegment, hrest⟩ := List.forall_mem_cons.mp hplain
    cases segment with
    | text s => exact (isSettled_of_no_brace hsegment).append (ih hrest hsegments hvalues)
    | token t span =>
      obtain ⟨ht, htokens⟩ := List.forall_mem_cons.mp hsegments
      obtain ⟨hvalue, hothers⟩ := List.forall_mem_cons.mp hvalues
      rw [fill_token]
      refine IsSettled.append ?_ (ih hrest htokens hothers)
      cases hfound : values.ofToken? t with
      | none => exact isSettled_raw ht hfound
      | some value => exact hvalue value hfound

/-- With as many levels as a message is high, it is settled when it is expanded. The induction is on the
height; the values of the tokens are less high, and come to nothing that the message does not come to. -/
theorem HeightAtMost.isSettled_expand {height : Nat} (h : values.HeightAtMost height message)
    (hplain : values.HasNoBrace message) : values.IsSettled (values.expand height message) := by
  have hwellFormed : ∀ {text : String}, ∀ found ∈ tokens text, found.1.WellFormed :=
    fun found hfound => wellFormed_of_mem_tokens hfound
  induction height generalizing message with
  | zero =>
    -- no token has a value, so the message is what comes of filling it, with whatever it be
    rw [expand, ← render_scan message, ← fill_eq_render id h]
    refine isSettled_fill (hplain message .message) hwellFormed fun found hfound value hvalue => ?_
    rw [h found hfound] at hvalue
    cases hvalue
  | succ height ih =>
    rw [expand]
    refine isSettled_fill (hplain message .message) hwellFormed fun found hfound value hvalue => ?_
    exact ih (h found hfound value hvalue) (hplain.of_value hfound hvalue)

/-- Nothing stands for a token without a value, however many levels there are. -/
theorem replacement?_of_no_value {t : Token} (h : values.ofToken? t = none) (levels : Nat) :
    values.replacement? levels t = none := by
  cases levels with
  | zero => rfl
  | succ levels =>
    rw [ofToken?] at h
    rw [replacement?, h, Option.map_none]

end Values

/-! ## Expanded messages -/

/-- A message that is expanded to the end is stable. If there are as many levels as it is high, and neither
it nor a value that it comes to holds an opening brace outside its tokens, then no token of the expanded
message has a value. So expanding it again, under whatever bound, gives it back, and checking it reports
every token. -/
theorem expanded_is_stable {context : Option C} {world : World σ C}
    (hstateless : world.registry.IsStateless context) {levels : Nat} {message : String}
    (hheight : (world.value? context).HeightAtMost levels message)
    (hplain : (world.value? context).HasNoBrace message) :
    let expanded := (expand context levels message).run world
    expanded.2.registry = world.registry
      ∧ (∀ found ∈ tokens expanded.1, (world.value? context).ofToken? found.1 = none)
      ∧ ∀ later : World σ C, later.registry = world.registry → ∀ maxDepth,
        ((expand context maxDepth expanded.1).run later).1 = expanded.1
          ∧ ((check context maxDepth expanded.1).run later).1.map (·.span)
            = (tokens expanded.1).map (·.2) := by
  intro expanded
  obtain ⟨htext, hkept⟩ := expand_stateless hstateless levels message
  have hsettled : (world.value? context).IsSettled expanded.1 := by
    rw [htext]
    exact hheight.isSettled_expand hplain
  refine ⟨hkept, hsettled.no_value, fun later hlater maxDepth => ?_⟩
  have hstateless' : later.registry.IsStateless context := by rwa [hlater]
  have hvalues : later.value? context = world.value? context :=
    World.value?_of_registry_eq hstateless hlater
  constructor
  · rw [(expand_stateless hstateless' maxDepth expanded.1).1, hvalues]
    exact Values.expand_of_height_zero hsettled.no_value maxDepth
  · rw [(check_decided hstateless'.isDecided maxDepth expanded.1).1, map_span_reportBy,
      List.filter_eq_self.mpr]
    intro found hfound
    rw [← Option.ne_none_iff_isSome]
    intro hverdict
    rw [World.verdict?_eq_none_iff (wellFormed_of_mem_tokens hfound), hvalues,
      Values.replacement?_of_no_value (hsettled.no_value found hfound)] at hverdict
    cases hverdict

/-- A value with parameters that hold a brace, and one that is a part of a value. -/
theorem expanded_is_stable_open_params :
    let world : World Unit Nat := ((registerAll [.constant "a" "<\x7bB\x7d>\x7bnope:\x7b\x7d",
      .constant "b" "x\x7d"]).run (.initial ())).2
    let message := "\x7bA\x7d \x7ba:1\x7d"
    let expanded := (expand none 2 message).run world
    world.registry.IsStateless none ∧ (world.value? none).HeightAtMost 2 message
      ∧ (world.value? none).HasNoBrace message
      ∧ expanded.1 = "<x\x7d>\x7bnope:\x7b\x7d \x7ba:1\x7d"
      ∧ ((expand none 2 expanded.1).run expanded.2).1 = expanded.1
      ∧ ((check none 2 expanded.1).run expanded.2).1.map (·.span) = [⟨4, 12⟩, ⟨13, 18⟩] := by
  intro world message expanded
  have hstateless : world.registry.IsStateless none := by
    apply Registry.isStateless_registerAll
    rw [List.forall_mem_cons, List.forall_mem_singleton]
    exact ⟨Placeholder.isStateless_constant _ _, Placeholder.isStateless_constant _ _⟩
  have hheight : (world.value? none).HeightAtMost 2 message := by decide +kernel
  have hplain : (world.value? none).HasNoBrace message :=
    .of_closed [message, "<\x7bB\x7d>\x7bnope:\x7b\x7d", "x\x7d"] List.mem_cons_self
      (by decide +kernel) (by decide +kernel)
  obtain ⟨hkept, -, hstable⟩ := expanded_is_stable hstateless hheight hplain
  obtain ⟨htext, hreport⟩ := hstable expanded.2 hkept 2
  refine ⟨hstateless, hheight, hplain, by decide +kernel, htext, ?_⟩
  rw [hreport]
  decide +kernel

end MessageTemplate
