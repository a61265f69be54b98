import MessageTemplate.Proofs.Lexing

/-!
Messages and their segments correspond one to one.

`scan` joins the literal pieces between tokens, so it forgets how they were cut. What it gives is the
one list of segments that writes the message and could not be written otherwise (`IsCanonical`):
no text is empty, no two texts stand side by side, every span is where the segments before it end,
and no token hides in a text. That `scan` gives such a list is an induction over the message in
which the text since the last token is carried along. That there is only one comes from the grammar
alone: the first match of a text is determined, and a canonical list shows it as its first token.
-/

namespace MessageTemplate

/-! ## Canonical segments -/

/-- The segments written one after the other. -/
def render (segments : List Segment) : String :=
  String.join (segments.map Segment.raw)

@[simp] theorem render_nil : render [] = "" := by
  rw [render, List.map_nil, String.join_nil]

@[simp] theorem render_cons (segment : Segment) (segments : List Segment) :
    render (segment :: segments) = segment.raw ++ render segments := by
  rw [render, List.map_cons, String.join_cons]
  rfl

@[simp] theorem render_append (front back : List Segment) :
    render (front ++ back) = render front ++ render back := by
  rw [render, List.map_append, String.join_append]
  rfl

/-- Segments that could not be cut otherwise, where the first one begins at byte `offset`. -/
structure IsCanonicalFrom (offset : Nat) (segments : List Segment) : Prop where
  text_nonempty : ∀ s, .text s ∈ segments → s ≠ ""
  texts_apart : ∀ front s s' back, segments ≠ front ++ .text s :: .text s' :: back
  token_wellFormed : ∀ t span, .token t span ∈ segments → t.WellFormed
  /-- A token takes the bytes behind those of the segments before it. -/
  token_span : ∀ front t span back, segments = front ++ .token t span :: back →
    span = ⟨offset + (render front).utf8ByteSize,
      offset + (render front).utf8ByteSize + t.raw.utf8ByteSize⟩
  /-- No brace inside a text begins a match in what is written from there on. -/
  no_token_in_text : ∀ front s back, segments = front ++ .text s :: back →
    ∀ before more, s.toList = before ++ '{' :: more →
      ¬ StartsToken ('{' :: (more ++ (render back).toList))

/-- Segments of a message that could not be cut otherwise. -/
abbrev IsCanonical (segments : List Segment) : Prop :=
  IsCanonicalFrom 0 segments

/-- What a segment has to be where other segments follow it. -/
def IsCanonicalHead (offset : Nat) : Segment → List Segment → Prop
  | .text s, rest =>
    s ≠ "" ∧ (∀ s' back, rest ≠ .text s' :: back) ∧ NoMatchWithin s.toList (render rest).toList
  | .token t span, _ => t.WellFormed ∧ span = ⟨offset, offset + t.raw.utf8ByteSize⟩

theorem isCanonicalFrom_nil (offset : Nat) : IsCanonicalFrom offset [] where
  text_nonempty := by simp
  texts_apart := by simp
  token_wellFormed := by simp
  token_span := by simp
  no_token_in_text := by simp

/-- Canonical segments are a canonical segment and canonical segments behind it. -/
theorem isCanonicalFrom_cons {offset : Nat} {segment : Segment} {rest : List Segment} :
    IsCanonicalFrom offset (segment :: rest) ↔ IsCanonicalHead offset segment rest
      ∧ IsCanonicalFrom (offset + segment.raw.utf8ByteSize) rest := by
  constructor
  · intro h
    refine ⟨?_, ?_, ?_, ?_, ?_, ?_⟩
    · cases segment with
      | text s =>
        refine ⟨h.text_nonempty s List.mem_cons_self, ?_, ?_⟩
        · intro s' back hrest
          exact h.texts_apart [] s s' back (by rw [hrest, List.nil_append])
        · exact noMatchWithin_iff_brace.mpr (h.no_token_in_text [] s rest rfl)
      | token t span =>
        refine ⟨h.token_wellFormed t span List.mem_cons_self, ?_⟩
        have hspan := h.token_span [] t span rest rfl
        rwa [render_nil, String.utf8ByteSize_empty, Nat.add_zero] at hspan
    · exact fun s hs => h.text_nonempty s (List.mem_cons_of_mem _ hs)
    · intro front s s' back hrest
      exact h.texts_apart (segment :: front) s s' back (by rw [hrest, List.cons_append])
    · exact fun t span ht => h.token_wellFormed t span (List.mem_cons_of_mem _ ht)
    · intro front t span back hrest
      have hspan := h.token_span (segment :: front) t span back (by rw [hrest, List.cons_append])
      rwa [render_cons, String.utf8ByteSize_append, ← Nat.add_assoc] at hspan
    · intro front s back hrest
      exact h.no_token_in_text (segment :: front) s back (by rw [hrest, List.cons_append])
  · rintro ⟨hhead, h⟩
    refine ⟨?_, ?_, ?_, ?_, ?_⟩
    · intro s hs
      rcases List.mem_cons.mp hs with rfl | hs
      · exact hhead.1
      · exact h.text_nonempty s hs
    · intro front s s' back hrest
      cases front with
      | nil =>
        obtain ⟨rfl, rfl⟩ := List.cons.inj hrest
        exact hhead.2.1 s' back rfl
      | cons _ front => exact h.texts_apart front s s' back (List.cons.inj hrest).2
    · intro t span ht
      rcases List.mem_cons.mp ht with rfl | ht
      · exact hhead.1
      · exact h.token_wellFormed t span ht
    · intro front t span back hrest
      cases front with
      | nil =>
        obtain ⟨rfl, rfl⟩ := List.cons.inj hrest
        rw [render_nil, String.utf8ByteSize_empty, Nat.add_zero]
        exact hhead.2
      | cons _ front =>
        obtain ⟨rfl, htail⟩ := List.cons.inj hrest
        rw [render_cons, String.utf8ByteSize_append, ← Nat.add_assoc]
        exact h.token_span front t span back htail
    · intro front s back hrest
      cases front with
      | nil =>
        obtain ⟨rfl, rfl⟩ := List.cons.inj hrest
        exact noMatchWithin_iff_brace.mp hhead.2.2
      | cons _ front => exact h.no_token_in_text front s back (List.cons.inj hrest).2

/-- A canonical segment writes something. -/
theorem IsCanonicalHead.raw_ne_nil {offset : Nat} {segment : Segment} {rest : List Segment}
    (h : IsCanonicalHead offset segment rest) : segment.raw.toList ≠ [] := by
  cases segment with
  | text s => exact fun hnil => h.1 (String.toList_eq_nil_iff.mp hnil)
  | token t span => exact h.1.raw_ne_nil

/-! ## What scanning gives -/

/-- A text in front of segments that do not begin with one. -/
theorem isCanonicalFrom_ofText_append {offset : Nat} {literal : String} {segments : List Segment}
    (hno : NoMatchWithin literal.toList (render segments).toList)
    (hapart : ∀ s back, segments ≠ .text s :: back)
    (h : IsCanonicalFrom (offset + literal.utf8ByteSize) segments) :
    IsCanonicalFrom offset (Segment.ofText literal ++ segments) := by
  rw [Segment.ofText]
  split
  next hempty =>
    obtain rfl : literal = "" := String.isEmpty_iff.mp hempty
    exact h
  next hne =>
    refine isCanonicalFrom_cons.mpr ⟨⟨?_, hapart, hno⟩, h⟩
    rintro rfl
    exact hne rfl

/-- Joining pieces writes what they write, behind the literal text that is carried along. -/
theorem toList_render_join (literal : String) (offset : Nat) (ps : List Piece) :
    (render (join literal (layOut offset ps))).toList = literal.toList ++ written ps := by
  have hofText : ∀ s, render (Segment.ofText s) = s := by
    intro s
    rw [Segment.ofText]
    split
    next hempty => rw [String.isEmpty_iff.mp hempty, render_nil]
    next => rw [render_cons, render_nil, String.append_empty, Segment.raw]
  induction ps generalizing literal offset with
  | nil => rw [layOut, join, hofText, written_nil, List.append_nil]
  | cons p ps ih =>
    cases p with
    | token t =>
      rw [layOut, join, render_append, hofText, render_cons, String.toList_append,
        String.toList_append, ih, written_cons]
      rfl
    | literal s =>
      rw [layOut, join, ih, String.toList_append, List.append_assoc, written_cons]
      rfl

/-- Joining the pieces of a text gives canonical segments. The literal text since the last token is
carried along, and no token has begun in it. -/
theorem isCanonicalFrom_join (cs : List Char) (offset : Nat) (literal : String)
    (hno : NoMatchWithin literal.toList cs) :
    IsCanonicalFrom offset (join literal (layOut (offset + literal.utf8ByteSize) (pieces cs))) := by
  induction cs using lexInduction generalizing offset literal with
  | nil =>
    rw [pieces_nil, layOut, join, ← List.append_nil (Segment.ofText literal)]
    exact isCanonicalFrom_ofText_append (by rwa [render_nil]) (by simp) (isCanonicalFrom_nil _)
  | token t rest ht ih =>
    rw [pieces_token ht, layOut, join]
    -- the text that was carried along ends here, and the next one begins empty
    refine isCanonicalFrom_ofText_append ?_ (by simp) (isCanonicalFrom_cons.mpr ⟨⟨ht, rfl⟩, ?_⟩)
    · rw [render_cons, String.toList_append, toList_render_join, written_pieces]
      exact hno
    · have hrest := ih (offset + literal.utf8ByteSize + t.raw.utf8ByteSize) ""
        (noMatchWithin_nil rest)
      rwa [String.utf8ByteSize_empty, Nat.add_zero] at hrest
  | brace rest h ih =>
    rw [pieces_brace h, layOut, join]
    -- the brace joins the text, for what follows it does not make it a token
    have hmore : NoMatchWithin (literal ++ "\x7b").toList rest := by
      rw [String.toList_append, noMatchWithin_append]
      exact ⟨hno, noMatchWithin_cons.mpr ⟨h, noMatchWithin_nil rest⟩⟩
    have hrest := ih offset (literal ++ "\x7b") hmore
    rwa [String.utf8ByteSize_append, ← Nat.add_assoc] at hrest
  | run run rest hne hrun hrest ih =>
    rw [pieces_run hne hrun hrest, layOut, join]
    have hmore : NoMatchWithin (literal ++ String.ofList run).toList rest := by
      rw [String.toList_append, noMatchWithin_append, String.toList_ofList]
      exact ⟨hno, .of_not_mem hrun rest⟩
    have hrest := ih offset (literal ++ String.ofList run) hmore
    rwa [String.utf8ByteSize_append, ← Nat.add_assoc] at hrest

/-- The segments of a message write it. -/
theorem render_scan (message : String) : render (scan message) = message := by
  rw [← String.toList_inj, scan, lex, toList_render_join, written_pieces]
  rfl

/-- The segments of a message are canonical. -/
theorem isCanonical_scan (message : String) : IsCanonical (scan message) :=
  isCanonicalFrom_join message.toList 0 "" (noMatchWithin_nil _)

/-! ## Nothing else is canonical -/

/-- Behind a canonical text stands a token, if anything. -/
theorem IsCanonicalFrom.rest_startsToken {offset : Nat} {s : String} {rest : List Segment}
    (h : IsCanonicalFrom offset (.text s :: rest)) :
    (render rest).toList = [] ∨ ∃ w behind, IsTokenText w ∧ w ++ behind = (render rest).toList := by
  obtain ⟨⟨-, hapart, -⟩, hrest⟩ := isCanonicalFrom_cons.mp h
  cases rest with
  | nil =>
    rw [render_nil]
    exact Or.inl rfl
  | cons segment rest =>
    cases segment with
    | text s' => exact absurd rfl (hapart s' rest)
    | token t span =>
      obtain ⟨⟨ht, -⟩, -⟩ := isCanonicalFrom_cons.mp hrest
      rw [render_cons, String.toList_append]
      exact Or.inr ⟨_, _, ht.isTokenText, rfl⟩

/-- A text that goes on behind a canonical text would hide the token there. -/
theorem IsCanonicalFrom.eq_nil_of_rest {offset : Nat} {s : String} {rest : List Segment}
    (h : IsCanonicalFrom offset (.text s :: rest)) {more behind : List Char}
    (hno : NoMatchWithin more behind) (hrest : (render rest).toList = more ++ behind) :
    more = [] := by
  rcases h.rest_startsToken with hnil | ⟨w, x, hw, hwx⟩
  · rw [hnil] at hrest
    exact (List.append_eq_nil_iff.mp hrest.symm).1
  · exact hno.eq_nil hw (hwx.trans hrest)

/-- Two canonical lists of segments that write the same begin with the same segment. -/
theorem IsCanonicalFrom.head_eq {offset : Nat} {segment segment' : Segment}
    {rest rest' : List Segment} (h : IsCanonicalFrom offset (segment :: rest))
    (h' : IsCanonicalFrom offset (segment' :: rest'))
    (heq : segment.raw.toList ++ (render rest).toList
      = segment'.raw.toList ++ (render rest').toList) : segment = segment' := by
  have hhead := (isCanonicalFrom_cons.mp h).1
  have hhead' := (isCanonicalFrom_cons.mp h').1
  cases segment with
  | text s =>
    cases segment' with
    | text s' =>
      -- one text would be longer than the other, and hold the token behind that one
      have hchars : s.toList = s'.toList := by
        rcases List.append_eq_append_iff.mp heq with ⟨more, hs', hmore⟩ | ⟨more, hs, hmore⟩
        · have hno := hhead'.2.2
          rw [show s'.toList = s.toList ++ more from hs', noMatchWithin_append] at hno
          rw [h.eq_nil_of_rest hno.2 hmore, List.append_nil] at hs'
          exact hs'.symm
        · have hno := hhead.2.2
          rw [show s.toList = s'.toList ++ more from hs, noMatchWithin_append] at hno
          rw [h'.eq_nil_of_rest hno.2 hmore, List.append_nil] at hs
          exact hs
      rw [String.toList_inj.mp hchars]
    | token t' span' =>
      exact absurd (hhead.2.2.eq_nil hhead'.1.isTokenText heq.symm) hhead.raw_ne_nil
  | token t span =>
    cases segment' with
    | text s' =>
      exact absurd (hhead'.2.2.eq_nil hhead.1.isTokenText heq) hhead'.raw_ne_nil
    | token t' span' =>
      obtain ⟨rfl, -⟩ := hhead.1.eq_of_append_eq hhead'.1 heq
      rw [hhead.2, hhead'.2]

/-- A message has one canonical list of segments. -/
theorem IsCanonicalFrom.unique {offset : Nat} {segments segments' : List Segment}
    (h : IsCanonicalFrom offset segments) (h' : IsCanonicalFrom offset segments')
    (heq : (render segments).toList = (render segments').toList) : segments = segments' := by
  induction segments generalizing offset segments' with
  | nil =>
    cases segments' with
    | nil => rfl
    | cons segment' rest' =>
      rw [render_nil, render_cons, String.toList_append] at heq
      exact absurd (List.append_eq_nil_iff.mp heq.symm).1 (isCanonicalFrom_cons.mp h').1.raw_ne_nil
  | cons segment rest ih =>
    cases segments' with
    | nil =>
      rw [render_nil, render_cons, String.toList_append] at heq
      exact absurd (List.append_eq_nil_iff.mp heq).1 (isCanonicalFrom_cons.mp h).1.raw_ne_nil
    | cons segment' rest' =>
      rw [render_cons, render_cons, String.toList_append, String.toList_append] at heq
      obtain rfl : segment = segment' := h.head_eq h' heq
      rw [ih (isCanonicalFrom_cons.mp h).2 (isCanonicalFrom_cons.mp h').2
        (List.append_cancel_left heq)]

/-! ## The tokens of a message -/

theorem mem_segment_tokens_iff {segments : List Segment} {t : Token} {span : Span} :
    (t, span) ∈ Segment.tokens segments ↔ .token t span ∈ segments := by
  induction segments with
  | nil => exact ⟨fun h => absurd h List.not_mem_nil, fun h => absurd h List.not_mem_nil⟩
  | cons segment rest ih =>
    cases segment with
    | text s => rw [Segment.tokens, ih, List.mem_cons, or_iff_right (by simp)]
    | token u other =>
      rw [Segment.tokens, List.mem_cons, List.mem_cons, ih, Segment.token.injEq, Prod.mk.injEq]

/-- The spans of tokens among canonical segments are disjoint and in order, and none lies before the
first segment. -/
theorem IsCanonicalFrom.tokens_ordered {offset : Nat} {segments : List Segment}
    (h : IsCanonicalFrom offset segments) :
    (∀ found ∈ Segment.tokens segments, offset ≤ found.2.start)
      ∧ (Segment.tokens segments).Pairwise fun a b => a.2.stop ≤ b.2.start := by
  induction segments generalizing offset with
  | nil => exact ⟨by simp [Segment.tokens], .nil⟩
  | cons segment rest ih =>
    obtain ⟨hhead, hrest⟩ := isCanonicalFrom_cons.mp h
    obtain ⟨hle, hpairwise⟩ := ih hrest
    cases segment with
    | text s => exact ⟨fun found hfound => (Nat.le_add_right _ _).trans (hle found hfound), hpairwise⟩
    | token t span =>
      obtain ⟨-, rfl⟩ := hhead
      refine ⟨?_, List.pairwise_cons.mpr ⟨hle, hpairwise⟩⟩
      intro found hfound
      rcases List.mem_cons.mp hfound with rfl | hfound
      · exact Nat.le_refl offset
      · exact (Nat.le_add_right _ _).trans (hle found hfound)

/-- The tokens of a message stand one behind the other. -/
theorem tokens_pairwise (message : String) :
    (tokens message).Pairwise fun a b => a.2.stop ≤ b.2.start :=
  (isCanonical_scan message).tokens_ordered.2

theorem wellFormed_of_mem_tokens {message : String} {t : Token} {span : Span}
    (h : (t, span) ∈ tokens message) : t.WellFormed :=
  (isCanonical_scan message).token_wellFormed t span (mem_segment_tokens_iff.mp h)

/-- A token of a message stands between two texts, and its span is the bytes behind the first one. -/
theorem exists_parts_of_mem_tokens {message : String} {t : Token} {span : Span}
    (h : (t, span) ∈ tokens message) :
    ∃ before behind, message = before ++ t.raw ++ behind
      ∧ span = ⟨before.utf8ByteSize, before.utf8ByteSize + t.raw.utf8ByteSize⟩ := by
  obtain ⟨front, back, hscan⟩ := List.append_of_mem (mem_segment_tokens_iff.mp h)
  have hspan := (isCanonical_scan message).token_span front t span back hscan
  rw [Nat.zero_add] at hspan
  refine ⟨render front, render back, ?_, hspan⟩
  rw [String.append_assoc, ← Segment.raw, ← render_cons, ← render_append, ← hscan, render_scan]

/-- The span of a token of a message spells the token. -/
theorem spells_of_mem_tokens {message : String} {t : Token} {span : Span}
    (h : (t, span) ∈ tokens message) : span.Spells message t.raw := by
  obtain ⟨before, behind, rfl, rfl⟩ := exists_parts_of_mem_tokens h
  exact Span.spells_of_append _ _ _

/-- The span of a token of a message is not empty. -/
theorem start_lt_stop_of_mem_tokens {message : String} {t : Token} {span : Span}
    (h : (t, span) ∈ tokens message) : span.start < span.stop := by
  have hraw : t.raw.toList ≠ [] := (wellFormed_of_mem_tokens h).raw_ne_nil
  obtain ⟨before, behind, rfl, rfl⟩ := exists_parts_of_mem_tokens h
  rw [Ne, ← byteLength_eq_zero_iff, byteLength_toList] at hraw
  simp only
  omega

/-! ## The correspondence -/

/-- Scanning and rendering are inverse to each other between messages and canonical lists of
segments. -/
theorem scan_render_bijection :
    (∀ message, render (scan message) = message ∧ IsCanonical (scan message))
      ∧ ∀ segments, IsCanonical segments → scan (render segments) = segments := by
  refine ⟨fun message => ⟨render_scan message, isCanonical_scan message⟩, ?_⟩
  intro segments h
  exact (isCanonical_scan _).unique h (by rw [render_scan])

end MessageTemplate
