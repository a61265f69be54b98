import MessageTemplate.Proofs.Segmentation
import MessageTemplate.Text.Lines

/-!
The lines of a text and where their tokens stand in it.

How a text is cut into lines is said apart from the function that does it (`Text.Cuts`): a line reaches
to the next line feed, a carriage return directly before that is part of the line's end, and a line starts
behind the end of the one before. One text is cut in one way only (`Text.cuts_iff`). So a line with its
end dropped still stands in the text at its offset, whatever ends the lines before it have, and the span
of a token of a line, moved by the offset, is a span of the same token in the text.
-/

namespace MessageTemplate

namespace Text

/-! ## Cutting into lines -/

/-- The characters, which stand from byte `offset` on, are cut into these lines. Without a line feed they
are one line, or none if there are no characters. -/
inductive Cuts : Nat → List Char → List Line → Prop where
  | nil {offset} : Cuts offset [] []
  | last {offset text} (hne : text ≠ []) (htext : '\n' ∉ text) :
      Cuts offset text [⟨offset, String.ofList text⟩]
  | lf {offset text rest lines} (htext : '\n' ∉ text) (hreturn : text.getLast? ≠ some '\r')
      (hrest : Cuts (offset + byteLength text + 1) rest lines) :
      Cuts offset (text ++ '\n' :: rest) (⟨offset, String.ofList text⟩ :: lines)
  | crlf {offset text rest lines} (htext : '\n' ∉ text)
      (hrest : Cuts (offset + byteLength text + 2) rest lines) :
      Cuts offset (text ++ '\r' :: '\n' :: rest) (⟨offset, String.ofList text⟩ :: lines)

/-- Characters up to a line feed are a line without its carriage return. -/
theorem linesFrom_run {run : List Char} (hrun : '\n' ∉ run) (offset : Nat) (current rest : List Char) :
    linesFrom offset current (run ++ '\n' :: rest)
      = ⟨offset, String.ofList (dropLineEnd (current.reverse ++ run))⟩
        :: linesFrom (offset + byteLength (current.reverse ++ run) + 1) [] rest := by
  induction run generalizing current with
  | nil =>
    rw [List.nil_append, linesFrom, if_pos rfl, List.append_nil]
    rfl
  | cons c run ih =>
    rw [List.mem_cons, not_or] at hrun
    obtain ⟨hc, hrest⟩ := hrun
    rw [List.cons_append, linesFrom, if_neg (Ne.symm hc), ih hrest, List.reverse_cons,
      List.append_assoc, List.singleton_append]

/-- Characters without a line feed are a line as they are. -/
theorem linesFrom_last {run : List Char} (hrun : '\n' ∉ run) (offset : Nat) (current : List Char) :
    linesFrom offset current run
      = if current.reverse ++ run = [] then []
        else [⟨offset, String.ofList (current.reverse ++ run)⟩] := by
  induction run generalizing current with
  | nil => simp [linesFrom]
  | cons c run ih =>
    rw [List.mem_cons, not_or] at hrun
    obtain ⟨hc, hrest⟩ := hrun
    rw [linesFrom, if_neg (Ne.symm hc), ih hrest, List.reverse_cons, List.append_assoc,
      List.singleton_append]

theorem dropLineEnd_of_ne {text : List Char} (h : text.getLast? ≠ some '\r') :
    dropLineEnd text = text := by
  rw [dropLineEnd, if_neg h]

theorem dropLineEnd_concat (text : List Char) : dropLineEnd (text ++ ['\r']) = text := by
  rw [dropLineEnd, if_pos List.getLast?_concat, List.dropLast_concat]

/-- The lines are those into which the characters are cut. -/
theorem Cuts.linesFrom_eq {offset : Nat} {cs : List Char} {lines : List Line}
    (h : Cuts offset cs lines) : linesFrom offset [] cs = lines := by
  induction h with
  | nil => rfl
  | last hne htext => rw [linesFrom_last htext, List.reverse_nil, List.nil_append, if_neg hne]
  | lf htext hreturn _ ih =>
    rw [linesFrom_run htext, List.reverse_nil, List.nil_append, dropLineEnd_of_ne hreturn, ih]
  | @crlf offset text rest lines htext _ ih =>
    have hrun : '\n' ∉ text ++ ['\r'] := by simp [htext]
    have hsplit : text ++ '\r' :: '\n' :: rest = (text ++ ['\r']) ++ '\n' :: rest := by simp
    have hnext : offset + byteLength (text ++ ['\r']) + 1 = offset + byteLength text + 2 := by
      rw [byteLength_append]
      rfl
    rw [hsplit, linesFrom_run hrun, List.reverse_nil, List.nil_append, dropLineEnd_concat, hnext, ih]

/-- All characters can be cut. The induction is on their number, since the next line starts behind the
first line feed. -/
theorem exists_cuts (offset : Nat) (cs : List Char) : ∃ lines, Cuts offset cs lines := by
  induction hlength : cs.length using Nat.strong_induction_on generalizing offset cs with
  | _ n ih =>
    by_cases hmem : '\n' ∈ cs
    · obtain ⟨text, rest, rfl, htext⟩ := List.eq_append_cons_of_mem hmem
      have hshorter : rest.length < n := by
        rw [← hlength, List.length_append, List.length_cons]
        omega
      by_cases hreturn : text.getLast? = some '\r'
      · obtain ⟨front, rfl⟩ := List.getLast?_eq_some_iff.mp hreturn
        obtain ⟨lines, hlines⟩ := ih rest.length hshorter (offset + byteLength front + 2) rest rfl
        rw [List.append_assoc]
        exact ⟨_, .crlf (fun h => htext (List.mem_append_left _ h)) hlines⟩
      · obtain ⟨lines, hlines⟩ := ih rest.length hshorter (offset + byteLength text + 1) rest rfl
        exact ⟨_, .lf htext hreturn hlines⟩
    · by_cases hne : cs = []
      · exact ⟨[], hne ▸ .nil⟩
      · exact ⟨_, .last hne hmem⟩

/-- Characters are cut into their lines, and in no other way. -/
theorem cuts_iff {offset : Nat} {cs : List Char} {lines : List Line} :
    Cuts offset cs lines ↔ linesFrom offset [] cs = lines := by
  refine ⟨Cuts.linesFrom_eq, ?_⟩
  rintro rfl
  obtain ⟨lines, hlines⟩ := exists_cuts offset cs
  rwa [hlines.linesFrom_eq]

theorem cuts_lines (s : String) : Cuts 0 s.toList (lines s) :=
  cuts_iff.mpr rfl

/-! ## Where lines stand -/

/-- The byte behind the line, where its end begins if it has one. -/
def Line.stop (line : Line) : Nat :=
  line.offset + line.text.utf8ByteSize

theorem line_stop (offset : Nat) (text : List Char) :
    (Line.mk offset (String.ofList text)).stop = offset + byteLength text := rfl

/-- Lines start behind one another, and none before the characters do. -/
theorem Cuts.ordered {offset : Nat} {cs : List Char} {lines : List Line} (h : Cuts offset cs lines) :
    (∀ line ∈ lines, offset ≤ line.offset) ∧ lines.Pairwise fun a b => a.stop < b.offset := by
  -- a line in front of lines that start behind its end
  have hcons : ∀ {offset next : Nat} {text : List Char} {lines : List Line},
      offset + byteLength text < next →
      (∀ line ∈ lines, next ≤ line.offset) ∧ (lines.Pairwise fun a b => a.stop < b.offset) →
      (∀ line ∈ Line.mk offset (String.ofList text) :: lines, offset ≤ line.offset)
        ∧ (Line.mk offset (String.ofList text) :: lines).Pairwise fun a b => a.stop < b.offset := by
    intro offset next text lines hnext ⟨hle, hlines⟩
    constructor
    · intro line hline
      rcases List.mem_cons.mp hline with rfl | hline
      · exact Nat.le_refl offset
      · have := hle line hline
        omega
    · refine List.pairwise_cons.mpr ⟨fun line hline => ?_, hlines⟩
      have := hle line hline
      rw [line_stop]
      omega
  induction h with
  | nil => exact ⟨fun _ hline => absurd hline List.not_mem_nil, .nil⟩
  | last hne htext =>
    exact hcons (Nat.lt_succ_self _) ⟨fun _ hline => absurd hline List.not_mem_nil, .nil⟩
  | lf htext hreturn hrest ih => exact hcons (Nat.lt_succ_self _) ih
  | crlf htext hrest ih => exact hcons (by omega) ih

/-- A line stands among the characters, behind as many bytes as its offset says. -/
theorem Cuts.exists_parts {offset : Nat} {cs : List Char} {lines : List Line}
    (h : Cuts offset cs lines) {line : Line} (hline : line ∈ lines) :
    ∃ before behind, cs = before ++ line.text.toList ++ behind
      ∧ line.offset = offset + byteLength before := by
  induction h with
  | nil => cases hline
  | @last offset text hne htext =>
    obtain rfl := List.mem_singleton.mp hline
    exact ⟨[], [], by simp, rfl⟩
  | @lf offset text rest lines htext hreturn hrest ih =>
    rcases List.mem_cons.mp hline with rfl | hline
    · exact ⟨[], '\n' :: rest, by simp, rfl⟩
    · obtain ⟨before, behind, rfl, hoffset⟩ := ih hline
      refine ⟨text ++ '\n' :: before, behind, by simp, ?_⟩
      have hend : byteLength ('\n' :: before) = 1 + byteLength before := byteLength_cons _ _
      rw [hoffset, byteLength_append, hend]
      omega
  | @crlf offset text rest lines htext hrest ih =>
    rcases List.mem_cons.mp hline with rfl | hline
    · exact ⟨[], '\r' :: '\n' :: rest, by simp, rfl⟩
    · obtain ⟨before, behind, rfl, hoffset⟩ := ih hline
      refine ⟨text ++ '\r' :: '\n' :: before, behind, by simp, ?_⟩
      have hend : byteLength ('\r' :: '\n' :: before) = 1 + (1 + byteLength before) := by
        rw [byteLength_cons, byteLength_cons]
        rfl
      rw [hoffset, byteLength_append, hend]
      omega

/-- A line of a text stands in it, behind as many bytes as its offset says. -/
theorem exists_parts_of_mem_lines {s : String} {line : Line} (hline : line ∈ lines s) :
    ∃ before behind, s = before ++ line.text ++ behind ∧ line.offset = before.utf8ByteSize := by
  obtain ⟨before, behind, hparts, hoffset⟩ := (cuts_lines s).exists_parts hline
  refine ⟨String.ofList before, String.ofList behind, ?_, ?_⟩
  · rw [← String.toList_inj, hparts, String.toList_append, String.toList_append,
      String.toList_ofList, String.toList_ofList]
  · rw [hoffset, Nat.zero_add]
    rfl

/-! ## Tokens of lines -/

/-- The tokens of the lines, one line after the other, with the bytes they take in the text. -/
def lineTokens (lines : List Line) : List (Token × Span) :=
  lines.flatMap fun line => (tokens line.text).map fun found => (found.1, found.2.shift line.offset)

theorem lineTokens_cons (line : Line) (rest : List Line) :
    lineTokens (line :: rest)
      = (tokens line.text).map (fun found => (found.1, found.2.shift line.offset))
        ++ lineTokens rest := rfl

theorem mem_lineTokens_iff {lines : List Line} {t : Token} {span : Span} :
    (t, span) ∈ lineTokens lines
      ↔ ∃ line ∈ lines, ∃ within, (t, within) ∈ tokens line.text
        ∧ span = within.shift line.offset := by
  rw [lineTokens, List.mem_flatMap]
  refine exists_congr fun line => and_congr_right fun _ => ?_
  constructor
  · intro h
    obtain ⟨⟨u, within⟩, hmem, heq⟩ := List.mem_map.mp h
    obtain ⟨rfl, rfl⟩ := Prod.mk.inj heq
    exact ⟨within, hmem, rfl⟩
  · rintro ⟨within, hmem, rfl⟩
    exact List.mem_map.mpr ⟨(t, within), hmem, rfl⟩

/-- Where a token of a line stands in the text: the same token stands there, within the line. -/
theorem place_of_mem_tokens {s : String} {line : Line} (hline : line ∈ lines s) {t : Token}
    {within : Span} (h : (t, within) ∈ tokens line.text) :
    (within.shift line.offset).Spells s t.raw
      ∧ line.offset ≤ (within.shift line.offset).start
      ∧ (within.shift line.offset).stop ≤ line.stop := by
  obtain ⟨before, behind, hs, hoffset⟩ := exists_parts_of_mem_lines hline
  obtain ⟨front, back, hline, rfl⟩ := exists_parts_of_mem_tokens h
  have hspan : Span.shift ⟨front.utf8ByteSize, front.utf8ByteSize + t.raw.utf8ByteSize⟩ line.offset
      = ⟨(before ++ front).utf8ByteSize, (before ++ front).utf8ByteSize + t.raw.utf8ByteSize⟩ := by
    rw [Span.shift, hoffset, String.utf8ByteSize_append]
    simp only [Span.mk.injEq]
    omega
  have hparts : s = before ++ front ++ t.raw ++ (back ++ behind) := by
    rw [hs, hline]
    simp only [String.append_assoc]
  refine ⟨?_, Nat.le_add_left _ _, ?_⟩
  · rw [hspan, hparts]
    exact Span.spells_of_append _ _ _
  · rw [Line.stop, hline, Span.shift, String.utf8ByteSize_append, String.utf8ByteSize_append]
    simp only
    omega

/-- The tokens of the lines of a text stand one behind the other in the text. -/
theorem pairwise_lineTokens (s : String) :
    (lineTokens (lines s)).Pairwise fun a b => a.2.stop ≤ b.2.start := by
  rw [lineTokens, List.pairwise_flatMap]
  constructor
  · intro line _
    refine List.pairwise_map.mpr ((tokens_pairwise line.text).imp fun {a b} hab => ?_)
    exact Nat.add_le_add_right hab line.offset
  · refine (cuts_lines s).ordered.2.imp_of_mem fun {line line'} hline hline' hbehind => ?_
    rintro ⟨t, span⟩ hfound ⟨t', span'⟩ hfound'
    obtain ⟨⟨_, within⟩, hmem, heq⟩ := List.mem_map.mp hfound
    obtain ⟨⟨_, within'⟩, hmem', heq'⟩ := List.mem_map.mp hfound'
    obtain ⟨rfl, rfl⟩ := Prod.mk.inj heq
    obtain ⟨rfl, rfl⟩ := Prod.mk.inj heq'
    have hstop := (place_of_mem_tokens hline hmem).2.2
    have hstart := (place_of_mem_tokens hline' hmem').2.1
    simp only
    omega

end Text

end MessageTemplate
