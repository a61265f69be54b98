import MessageTemplate.Proofs.Spans
import MessageTemplate.Proofs.TokenGrammar
import MessageTemplate.Token.Segment

/-!
What the lexer finds: the leftmost tokens, one after the other.

A search for the grammar knows nothing of pieces. It skips to the first place where a match begins,
takes the match, and goes on behind it (`LeftmostMatches`). The lexer cuts more: a brace that opens
no token is a piece of its own, and so is each run of other characters. Both go through the message
in the same direction and never look back, so it is enough to show that a piece that is no token
skips nothing the search would take. `lexInduction` is the induction all proofs about the lexer use:
a message is empty, or begins with a token, with a brace at which no token begins, or with a run.
-/

namespace MessageTemplate

/-! ## One step of the lexer -/

@[simp] theorem pieces_nil : pieces [] = [] := by
  rw [pieces]

/-- A token is cut off whole. -/
theorem pieces_token {t : Token} (ht : t.WellFormed) (rest : List Char) :
    pieces (t.raw.toList ++ rest) = .token t :: pieces rest := by
  obtain ⟨v, hv⟩ := ht.isTokenText.exists_cons
  have hread : Token.read? (v ++ rest) = some (t, rest) :=
    ht.read?_raw (by rw [hv, List.cons_append])
  rw [hv, List.cons_append, pieces, if_pos rfl]
  split
  next u behind hsome =>
    rw [hread] at hsome
    obtain ⟨rfl, rfl⟩ := Prod.mk.inj (Option.some.inj hsome)
    rfl
  next hnone =>
    rw [hread] at hnone
    cases hnone

/-- A brace at which no token begins is cut off alone. -/
theorem pieces_brace {rest : List Char} (h : ¬ StartsToken ('{' :: rest)) :
    pieces ('{' :: rest) = .literal "\x7b" :: pieces rest := by
  have hread : Token.read? rest = none := Token.read?_eq_none_iff.mpr h
  rw [pieces, if_pos rfl]
  split
  next u behind hsome =>
    rw [hread] at hsome
    cases hsome
  next => rfl

/-- A run of other characters is cut off where the next brace stands. -/
theorem pieces_run {run rest : List Char} (hne : run ≠ []) (hrun : '{' ∉ run)
    (hrest : ∀ c ∈ rest.head?, c = '{') :
    pieces (run ++ rest) = .literal (String.ofList run) :: pieces rest := by
  obtain ⟨c, run, rfl⟩ := List.exists_cons_of_ne_nil hne
  have hc : c ≠ '{' := fun h => hrun (h ▸ List.mem_cons_self)
  have hall : ∀ x ∈ run, (x != '{') = true := by
    intro x hx
    rw [bne_iff_ne]
    rintro rfl
    exact hrun (List.mem_cons_of_mem _ hx)
  have hcut : (run ++ rest).takeWhile (· != '{') = run
      ∧ (run ++ rest).dropWhile (· != '{') = rest := by
    cases rest with
    | nil => simpa using hall
    | cons d rest =>
      obtain rfl : d = '{' := hrest d rfl
      exact takeWhile_append_cons hall rfl rest
  rw [List.cons_append, pieces, if_neg hc, hcut.1, hcut.2]

/-- Every text is empty, or begins with a token, with a brace at which no token begins, or with a run
of other characters that ends before a brace or with the text. -/
@[elab_as_elim]
theorem lexInduction {motive : List Char → Prop} (nil : motive [])
    (token : ∀ (t : Token) (rest : List Char), t.WellFormed → motive rest →
      motive (t.raw.toList ++ rest))
    (brace : ∀ rest : List Char, ¬ StartsToken ('{' :: rest) → motive rest → motive ('{' :: rest))
    (run : ∀ run rest : List Char, run ≠ [] → '{' ∉ run → (∀ c ∈ rest.head?, c = '{') →
      motive rest → motive (run ++ rest))
    (cs : List Char) : motive cs := by
  induction hlen : cs.length using Nat.strong_induction_on generalizing cs with
  | _ n ih =>
    subst hlen
    cases cs with
    | nil => exact nil
    | cons c rest =>
      by_cases hc : c = '{'
      · subst hc
        by_cases hstart : StartsToken ('{' :: rest)
        · -- the match is the token, and what follows it is shorter
          obtain ⟨w, hw, behind, hbehind⟩ := hstart
          obtain ⟨t, ht, rfl⟩ := hw.exists_token
          have hlt : behind.length < ('{' :: rest).length := by
            obtain ⟨v, hv⟩ := hw.exists_cons
            rw [← hbehind, hv, List.cons_append, List.length_cons, List.length_append]
            omega
          rw [← hbehind]
          exact token t behind ht (ih _ hlt behind rfl)
        · exact brace rest hstart (ih _ (by simp) rest rfl)
      · have hsplit : c :: rest = (c :: rest).takeWhile (· != '{') ++ (c :: rest).dropWhile (· != '{') :=
          List.takeWhile_append_dropWhile.symm
        have hcons : (c :: rest).takeWhile (· != '{') = c :: rest.takeWhile (· != '{') :=
          List.takeWhile_cons_of_pos (by rwa [bne_iff_ne])
        have hdrop : (c :: rest).dropWhile (· != '{') = rest.dropWhile (· != '{') :=
          List.dropWhile_cons_of_pos (by rwa [bne_iff_ne])
        rw [hsplit]
        refine run _ _ ?_ ?_ ?_ (ih _ ?_ _ rfl)
        · rw [hcons]
          exact List.cons_ne_nil _ _
        · intro hmem
          simpa using List.mem_takeWhile_imp hmem
        · intro d hd
          have hhead := List.head?_dropWhile_not (· != '{') (c :: rest)
          rw [Option.mem_def.mp hd] at hhead
          simpa using hhead
        · rw [hdrop, List.length_cons]
          exact Nat.lt_succ_of_le (List.dropWhile_sublist _).length_le

/-! ## What the pieces write -/

/-- The pieces write the message. -/
theorem written_pieces (cs : List Char) : written (pieces cs) = cs := by
  induction cs using lexInduction with
  | nil => rw [pieces_nil, written_nil]
  | token t rest ht ih => rw [pieces_token ht, written_cons, ih, Piece.raw]
  | brace rest h ih =>
    rw [pieces_brace h, written_cons, ih]
    rfl
  | run run rest hne hrun hrest ih =>
    rw [pieces_run hne hrun hrest, written_cons, ih, Piece.raw, String.toList_ofList]

/-- No piece is empty. -/
theorem raw_ne_empty_of_mem_pieces {cs : List Char} {p : Piece} (hp : p ∈ pieces cs) :
    p.raw.toList ≠ [] := by
  induction cs using lexInduction with
  | nil =>
    rw [pieces_nil] at hp
    cases hp
  | token t rest ht ih =>
    rw [pieces_token ht] at hp
    rcases List.mem_cons.mp hp with rfl | hp
    · exact ht.raw_ne_nil
    · exact ih hp
  | brace rest h ih =>
    rw [pieces_brace h] at hp
    rcases List.mem_cons.mp hp with rfl | hp
    · exact List.cons_ne_nil _ _
    · exact ih hp
  | run run rest hne hrun hrest ih =>
    rw [pieces_run hne hrun hrest] at hp
    rcases List.mem_cons.mp hp with rfl | hp
    · rwa [Piece.raw, String.toList_ofList]
    · exact ih hp

/-! ## Literal pieces -/

/-- A brace, with behind it what keeps it from opening a token. -/
def IsLoneBrace (s : String) (behind : List Char) : Prop :=
  s = "\x7b" ∧ ¬ StartsToken ('{' :: behind)

/-- A run of characters other than the opening brace, which nothing behind it prolongs. -/
structure IsRun (s : String) (behind : List Char) : Prop where
  ne_nil : s.toList ≠ []
  no_brace : '{' ∉ s.toList
  stops : ∀ c ∈ behind.head?, c = '{'

/-- A literal piece is a brace that opens no token, or a run that ends where it must. -/
theorem literal_of_pieces_eq {cs : List Char} {front back : List Piece} {s : String}
    (h : pieces cs = front ++ .literal s :: back) :
    IsLoneBrace s (written back) ∨ IsRun s (written back) := by
  induction cs using lexInduction generalizing front with
  | nil =>
    rw [pieces_nil] at h
    exact absurd h.symm (by simp)
  | token t rest ht ih =>
    rw [pieces_token ht] at h
    cases front with
    | nil => cases (List.cons.inj h).1
    | cons q front => exact ih (List.cons.inj h).2
  | brace rest hbrace ih =>
    rw [pieces_brace hbrace] at h
    cases front with
    | nil =>
      obtain ⟨hs, rfl⟩ := List.cons.inj h
      rw [written_pieces]
      exact Or.inl ⟨(Piece.literal.inj hs).symm, hbrace⟩
    | cons q front => exact ih (List.cons.inj h).2
  | run run rest hne hrun hrest ih =>
    rw [pieces_run hne hrun hrest] at h
    cases front with
    | nil =>
      obtain ⟨hs, rfl⟩ := List.cons.inj h
      obtain rfl : String.ofList run = s := Piece.literal.inj hs
      rw [written_pieces]
      exact Or.inr ⟨by rwa [String.toList_ofList], by rwa [String.toList_ofList], hrest⟩
    | cons q front => exact ih (List.cons.inj h).2

/-- Two runs never stand side by side: before a run stands a brace or a token, if anything. -/
theorem before_run_of_pieces_eq {cs : List Char} {front back : List Piece} {p : Piece} {s : String}
    (h : pieces cs = front ++ p :: .literal s :: back) (hs : IsRun s (written back)) :
    p = .literal "\x7b" ∨ ∃ t, p = .token t := by
  cases p with
  | token t => exact Or.inr ⟨t, rfl⟩
  | literal s' =>
    rcases literal_of_pieces_eq h with hlone | hrun
    · exact Or.inl (by rw [hlone.1])
    · -- a run ends before a brace, and the next one does not begin with a brace
      exfalso
      obtain ⟨c, u, hu⟩ := List.exists_cons_of_ne_nil hs.ne_nil
      have hc : c = '{' := hrun.stops c (by rw [written_cons, Piece.raw, hu]; rfl)
      exact hs.no_brace (by rw [hu, hc]; exact List.mem_cons_self)

/-! ## The leftmost search -/

/-- The spans that a search finds which looks for the first match, takes it, and goes on behind it.
The text begins at byte `offset`. -/
inductive LeftmostMatches : Nat → List Char → List Span → Prop where
  /-- There is no match. -/
  | none {offset : Nat} {cs : List Char} (hno : NoMatchWithin cs []) : LeftmostMatches offset cs []
  /-- No match begins before this one. -/
  | next {offset : Nat} {before w behind : List Char} {found : List Span} (hw : IsTokenText w)
      (hleft : NoMatchWithin before (w ++ behind))
      (hrest : LeftmostMatches (offset + byteLength before + byteLength w) behind found) :
      LeftmostMatches offset (before ++ (w ++ behind))
        (⟨offset + byteLength before, offset + byteLength before + byteLength w⟩ :: found)

/-- Where no match begins, the search goes on. -/
theorem LeftmostMatches.skip {offset : Nat} {text cs : List Char} {found : List Span}
    (hno : NoMatchWithin text cs) (h : LeftmostMatches (offset + byteLength text) cs found) :
    LeftmostMatches offset (text ++ cs) found := by
  cases h with
  | none hcs =>
    refine .none (noMatchWithin_append.mpr ⟨?_, hcs⟩)
    rwa [List.append_nil]
  | @next _ before w behind found hw hleft hrest =>
    have hnext := @LeftmostMatches.next offset (text ++ before) w behind found hw
      (noMatchWithin_append.mpr ⟨hno, hleft⟩) (by rwa [byteLength_append, ← Nat.add_assoc])
    rwa [byteLength_append, ← Nat.add_assoc, List.append_assoc] at hnext

/-- Two searches of one text find the same. -/
theorem LeftmostMatches.unique {offset : Nat} {cs : List Char} {found found' : List Span}
    (h : LeftmostMatches offset cs found) (h' : LeftmostMatches offset cs found') :
    found = found' := by
  induction h generalizing found' with
  | none hno =>
    cases h' with
    | none => rfl
    | next hw => exact (hno.false_of_match hw).elim
  | @next offset before w behind found hw hleft hrest ih =>
    generalize htext : before ++ (w ++ behind) = cs at h'
    cases h' with
    | none hno =>
      rw [← htext] at hno
      exact (hno.false_of_match hw).elim
    | next hw' hleft' hrest' =>
      obtain ⟨rfl, rfl, rfl⟩ := first_match_unique hw hw' hleft hleft' htext
      rw [ih hrest']

/-- The spans of the tokens among pieces. -/
def tokenSpans (ps : List (Piece × Span)) : List Span :=
  (ps.filter (·.1.isToken)).map (·.2)

theorem tokenSpans_token (offset : Nat) (t : Token) (ps : List Piece) :
    tokenSpans (layOut offset (.token t :: ps))
      = ⟨offset, offset + t.raw.utf8ByteSize⟩
        :: tokenSpans (layOut (offset + t.raw.utf8ByteSize) ps) := rfl

theorem tokenSpans_literal (offset : Nat) (s : String) (ps : List Piece) :
    tokenSpans (layOut offset (.literal s :: ps))
      = tokenSpans (layOut (offset + s.utf8ByteSize) ps) := rfl

/-- The search finds the tokens of the lexer. -/
theorem leftmostMatches_pieces (offset : Nat) (cs : List Char) :
    LeftmostMatches offset cs (tokenSpans (layOut offset (pieces cs))) := by
  induction cs using lexInduction generalizing offset with
  | nil =>
    rw [pieces_nil]
    exact .none (noMatchWithin_nil _)
  | token t rest ht ih =>
    rw [pieces_token ht, tokenSpans_token]
    have hnext := @LeftmostMatches.next offset [] t.raw.toList rest _ ht.isTokenText
      (noMatchWithin_nil _) (by rw [byteLength_nil, Nat.add_zero, byteLength_toList]; exact ih _)
    rwa [byteLength_nil, Nat.add_zero, byteLength_toList, List.nil_append] at hnext
  | brace rest h ih =>
    rw [pieces_brace h, tokenSpans_literal]
    -- the lexer stops at every brace, the search does not: what was skipped is added to its text
    have hskip : NoMatchWithin ['{'] rest := noMatchWithin_cons.mpr ⟨h, noMatchWithin_nil _⟩
    exact LeftmostMatches.skip hskip (ih _)
  | run run rest hne hrun hrest ih =>
    rw [pieces_run hne hrun hrest, tokenSpans_literal]
    exact LeftmostMatches.skip (.of_not_mem hrun rest) (ih _)

/-! ## The lexer -/

/-- What a list of pieces with their spans must be to cut a message as the grammar wants it. -/
structure IsLexing (message : String) (ps : List (Piece × Span)) : Prop where
  /-- The spans are contiguous, from the first byte of the message to the last. -/
  tiles : Tiles 0 (ps.map (·.2)) message.utf8ByteSize
  nonempty : ∀ p span, (p, span) ∈ ps → span.start < span.stop
  /-- The spans lie on character boundaries, and hold what the pieces write. -/
  spells : ∀ p span, (p, span) ∈ ps → span.Spells message p.raw
  /-- The tokens are those of the leftmost search, and no others. -/
  tokens_leftmost : ∀ found, LeftmostMatches 0 message.toList found ↔ found = tokenSpans ps
  /-- Any other piece is a brace at which no token begins, or a run that is as long as it can be: it
  ends before a brace or with the message, and begins behind a brace, behind a token or with the
  message. -/
  literal : ∀ s span, (.literal s, span) ∈ ps → ∃ before behind,
    message.toList = before ++ (s.toList ++ behind) ∧ span.start = byteLength before
      ∧ (IsLoneBrace s behind ∨ IsRun s behind
        ∧ (before = [] ∨ before.getLast? = some '{'
          ∨ ∃ t other, (.token t, other) ∈ ps ∧ other.stop = span.start))

/-- A piece of the lexer stands between what is written before and behind it. -/
theorem mem_lex_iff {message : String} {p : Piece} {span : Span} :
    (p, span) ∈ lex message ↔ ∃ front back, pieces message.toList = front ++ p :: back
      ∧ span = ⟨byteLength (written front), byteLength (written front) + p.raw.utf8ByteSize⟩ := by
  rw [lex, mem_layOut_iff]
  simp only [Nat.zero_add]

/-- What the pieces around a piece write is the message without it. -/
theorem toList_eq_of_pieces_eq {message : String} {front back : List Piece} {p : Piece}
    (h : pieces message.toList = front ++ p :: back) :
    message.toList = written front ++ (p.raw.toList ++ written back) := by
  rw [← written_cons, ← written_append, ← h, written_pieces]

/-- A span of the lexer spells what its piece writes. -/
theorem spells_of_mem_lex {message : String} {p : Piece} {span : Span}
    (h : (p, span) ∈ lex message) : span.Spells message p.raw := by
  obtain ⟨front, back, hpieces, rfl⟩ := mem_lex_iff.mp h
  have hmessage : message
      = String.ofList (written front) ++ p.raw ++ String.ofList (written back) := by
    rw [← String.ofList_toList (s := message), toList_eq_of_pieces_eq hpieces, String.ofList_append,
      String.ofList_append, String.ofList_toList, String.append_assoc]
  rw [hmessage]
  exact Span.spells_of_append _ _ _

/-- A run of the lexer begins where it must. -/
theorem run_begins {message s : String} {front back : List Piece}
    (h : pieces message.toList = front ++ .literal s :: back) (hs : IsRun s (written back)) :
    written front = [] ∨ (written front).getLast? = some '{'
      ∨ ∃ t other, (.token t, other) ∈ lex message ∧ other.stop = byteLength (written front) := by
  rcases List.eq_nil_or_concat front with rfl | ⟨front, p, rfl⟩
  · exact Or.inl rfl
  · rw [List.concat_eq_append] at h ⊢
    have hsplit : pieces message.toList = front ++ p :: .literal s :: back := by
      rw [h, List.append_assoc, List.singleton_append]
    refine Or.inr ?_
    rcases before_run_of_pieces_eq hsplit hs with rfl | ⟨t, rfl⟩
    · refine Or.inl ?_
      rw [written_append, List.getLast?_append]
      rfl
    · have hmem := mem_lex_iff.mpr ⟨front, .literal s :: back, hsplit, rfl⟩
      refine Or.inr ⟨t, _, hmem, ?_⟩
      rw [written_append, byteLength_append, written_cons, written_nil, List.append_nil,
        byteLength_toList]

/-- The lexer cuts a message into contiguous pieces whose tokens are those of the leftmost search. -/
theorem lex_finds_leftmost_tokens (message : String) : IsLexing message (lex message) where
  tiles := by
    have htiles := tiles_layOut 0 (pieces message.toList)
    rwa [written_pieces, byteLength_toList, Nat.zero_add] at htiles
  nonempty := by
    intro p span h
    obtain ⟨front, back, hpieces, rfl⟩ := mem_lex_iff.mp h
    have hraw : p.raw.toList ≠ [] :=
      raw_ne_empty_of_mem_pieces (by rw [hpieces]; exact List.mem_append_right _ List.mem_cons_self)
    rw [Ne, ← byteLength_eq_zero_iff, byteLength_toList] at hraw
    simp only
    omega
  spells := fun p span h => spells_of_mem_lex h
  tokens_leftmost := by
    intro found
    have hlex : LeftmostMatches 0 message.toList (tokenSpans (lex message)) :=
      leftmostMatches_pieces 0 message.toList
    exact ⟨fun h => h.unique hlex, fun h => h ▸ hlex⟩
  literal := by
    intro s span h
    obtain ⟨front, back, hpieces, rfl⟩ := mem_lex_iff.mp h
    refine ⟨written front, written back, toList_eq_of_pieces_eq hpieces, rfl, ?_⟩
    exact (literal_of_pieces_eq hpieces).imp_right fun hs => ⟨hs, run_begins hpieces hs⟩

end MessageTemplate
