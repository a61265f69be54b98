import MessageTemplate.Proofs.Concatenation

/-!
Whether a message has any token.

The lexer never looks at a place that it has passed. It skips runs of other characters, goes on behind a
brace that opens no token, and swallows the braces in the parameters of the tokens it takes. A search that
tries every place of the message may well find matches that the lexer does not: those that overlap one of
its tokens. But then the lexer has found a token, and this is the whole argument. Where it finds none,
all it passed was found not to begin a match, so there is no match anywhere (`hasTokens_eq_false_iff`).

A message without tokens is its own expansion, and there is nothing to report on it, whatever is
registered.
-/

namespace MessageTemplate

variable {σ C : Type}

/-! ## Matches at a byte -/

/-- What stands in the message from this byte on begins with a match of the grammar. The match may lie
inside a token, or overlap one. -/
def MatchesAt (message : String) (i : Nat) : Prop :=
  ∃ before behind : String, message = before ++ behind ∧ before.utf8ByteSize = i
    ∧ StartsToken behind.toList

/-- A match begins at some byte exactly if the message is not free of matches. -/
theorem exists_matchesAt_iff {message : String} :
    (∃ i, MatchesAt message i) ↔ ¬ NoMatchWithin message.toList [] := by
  constructor
  · rintro ⟨-, before, behind, rfl, -, hstart⟩ hno
    obtain ⟨w, hw, rest, hrest⟩ := hstart
    rw [String.toList_append, ← hrest] at hno
    exact hno.false_of_match hw
  · intro hsome
    -- a text that is not free of matches is cut in two where one begins
    by_contra hnone
    refine hsome fun skipped more hmessage _ hstart => hnone ?_
    rw [List.append_nil] at hstart
    refine ⟨_, String.ofList skipped, String.ofList more, ?_, rfl, ?_⟩
    · rw [← String.ofList_append, ← hmessage, String.ofList_toList]
    · rwa [String.toList_ofList]

/-! ## Tokens of the lexer and of the scanner -/

/-- The leftmost search finds nothing exactly where no match begins. -/
theorem leftmostMatches_nil_iff {offset : Nat} {cs : List Char} :
    LeftmostMatches offset cs [] ↔ NoMatchWithin cs [] := by
  constructor
  · intro h
    cases h with
    | none hno => exact hno
  · exact LeftmostMatches.none

/-- Without a token among its pieces a message has no match at all. -/
theorem tokenSpans_lex_eq_nil_iff {message : String} :
    tokenSpans (lex message) = [] ↔ NoMatchWithin message.toList [] := by
  have hlex : LeftmostMatches 0 message.toList (tokenSpans (lex message)) :=
    leftmostMatches_pieces 0 message.toList
  constructor
  · intro hnil
    rw [hnil] at hlex
    exact leftmostMatches_nil_iff.mp hlex
  · exact fun hno => hlex.unique (leftmostMatches_nil_iff.mpr hno)

/-- Joining the literal pieces leaves the tokens where they are. -/
theorem spans_tokens_join (literal : String) (ps : List (Piece × Span)) :
    (Segment.tokens (join literal ps)).map (·.2) = tokenSpans ps := by
  induction ps generalizing literal with
  | nil =>
    have hnil : Segment.tokens (Segment.prepend literal []) = Segment.tokens [] :=
      Segment.tokens_prepend literal []
    exact congrArg (List.map (·.2)) hnil
  | cons p rest ih =>
    obtain ⟨piece, span⟩ := p
    cases piece with
    | literal s => exact ih (literal ++ s)
    | token t =>
      rw [join, ← Segment.prepend_token, Segment.tokens_prepend, Segment.tokens, List.map_cons, ih]
      rfl

theorem tokens_eq_nil_iff {message : String} :
    tokens message = [] ↔ NoMatchWithin message.toList [] := by
  rw [← tokenSpans_lex_eq_nil_iff, ← spans_tokens_join "", List.map_eq_nil_iff]
  rfl

theorem hasTokens_eq_false_iff {message : String} :
    hasTokens message = false ↔ NoMatchWithin message.toList [] := by
  rw [← tokenSpans_lex_eq_nil_iff, hasTokens, List.any_eq_false, tokenSpans, List.map_eq_nil_iff,
    List.filter_eq_nil_iff]

/-! ## Messages without tokens -/

/-- Segments without tokens are written as they are. -/
theorem substitute_of_no_tokens (resolveToken : Token → Run σ C (Except Unresolved String))
    {segments : List Segment} (h : Segment.tokens segments = []) (world : World σ C) :
    (substitute resolveToken segments).run world = (render segments, world) := by
  induction segments with
  | nil => rw [render_nil, substitute, run_pure]
  | cons segment rest ih =>
    cases segment with
    | text s => rw [substitute_text, ih h, render_cons, Segment.raw]
    | token t span => cases h

/-- Nothing of them is reported. -/
theorem diagnose_of_no_tokens (resolveToken : Token → Run σ C (Except Unresolved String))
    {segments : List Segment} (h : Segment.tokens segments = []) (world : World σ C) :
    (diagnose resolveToken segments).run world = ([], world) := by
  induction segments with
  | nil => rfl
  | cons segment rest ih =>
    cases segment with
    | text s => exact ih h
    | token t span => cases h

theorem expand_of_no_tokens {message : String} (h : tokens message = []) (context : Option C)
    (maxDepth : Nat) (world : World σ C) :
    (expand context maxDepth message).run world = (message, world) := by
  rcases Nat.eq_zero_or_pos maxDepth with rfl | hpos
  · rw [expand_zero, run_pure]
  · rw [expand_of_pos hpos, substitute_of_no_tokens _ h, render_scan]

theorem check_of_no_tokens {message : String} (h : tokens message = []) (context : Option C)
    (maxDepth : Nat) (world : World σ C) :
    (check context maxDepth message).run world = ([], world) := by
  rcases Nat.eq_zero_or_pos maxDepth with rfl | hpos
  · rw [check_zero, h, List.map_nil, run_pure]
  · rw [check_of_pos hpos, diagnose_of_no_tokens _ h]

/-- A message has a token exactly if a match of the grammar begins at one of its bytes, be it inside what
the lexer takes for text, parameters or another token. If it has none, expanding it gives the message
itself and checking it reports nothing, and both leave the world as it is. -/
theorem hasTokens_misses_nothing (message : String) :
    (hasTokens message = true ↔ tokens message ≠ [])
      ∧ (hasTokens message = true ↔ ∃ i, MatchesAt message i)
      ∧ (hasTokens message = false →
        ∀ (σ C : Type) (context : Option C) (maxDepth : Nat) (world : World σ C),
          (expand context maxDepth message).run world = (message, world)
            ∧ (check context maxDepth message).run world = ([], world)) := by
  have htrue : hasTokens message = true ↔ ¬ NoMatchWithin message.toList [] := by
    rw [← hasTokens_eq_false_iff, Bool.not_eq_false]
  refine ⟨?_, ?_, ?_⟩
  · rw [htrue, Ne, tokens_eq_nil_iff]
  · rw [htrue, exists_matchesAt_iff]
  · intro hfalse σ C context maxDepth world
    have hnone : tokens message = [] := tokens_eq_nil_iff.mpr (hasTokens_eq_false_iff.mp hfalse)
    exact ⟨expand_of_no_tokens hnone context maxDepth world,
      check_of_no_tokens hnone context maxDepth world⟩

/-- Of three braces none is closed as it should be, although two of them are closed. A constant that would
be named stays where it is. -/
theorem hasTokens_misses_nothing_braces :
    let message := "\xa7\x7ba b\x7d \x7b\x7d\x7ba:b"
    let world : World Unit Nat := ((register (.constant "a" "x")).run (.initial ())).2
    hasTokens message = false ∧ (¬ ∃ i, MatchesAt message i)
      ∧ (expand (some 3) 2 message).run world = (message, world)
      ∧ (check (some 3) 2 message).run world = ([], world) := by
  intro message world
  have hfalse : hasTokens message = false := by decide +kernel
  obtain ⟨-, hmatches, hstays⟩ := hasTokens_misses_nothing message
  obtain ⟨hexpand, hcheck⟩ := hstays hfalse Unit Nat (some 3) 2 world
  rw [hfalse] at hmatches
  exact ⟨hfalse, fun hsome => Bool.false_ne_true (hmatches.mpr hsome), hexpand, hcheck⟩

end MessageTemplate
