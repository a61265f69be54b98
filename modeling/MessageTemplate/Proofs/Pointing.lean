import Mathlib.Algebra.Order.BigOperators.Group.List
import MessageTemplate.Proofs.Agreement
import MessageTemplate.Proofs.ReportRows

/-!
Where reports point.

A diagnostic has the bytes of its token, and the report takes these numbers for positions in characters.
On a message of one line the report points at the token exactly if the two counts agree, that is, if all
characters up to the token's end take one byte each. A section sign before the token moves everything
behind it.

What pointing means is said without spans: the header names the column that the token begins at, the
token's characters and no others are in the label's color, and the marks stand under its columns and no
others (`PointsAt`). That the rows give a wrong span away is not plain, since a character can take no
column at all, and white space at the end of a line is not shown: a span that reaches beyond the token is
told by the colors of the line where the line goes on, and by the number of marks where it does not.
-/

namespace MessageTemplate.Report

/-! ## Pointing at a token -/

/-- The rows of a report point at the token that stands between the other characters of a line. The
header names its column, the line has the token and nothing else in the label's color, and the marks
below are under the token and nothing else. -/
structure PointsAt (rows : List String) (filename : String) (before token behind : List Char) :
    Prop where
  header : rows[1]? = some (headerRow filename (before.length + 1))
  line : rows[3]? = some (numberedMargin 1 0 ++ (shownFrom .unmarked 0 before
    ++ shownFrom .label before.length token
    ++ shownFrom .unmarked (before.length + token.length) (Text.trimEnd behind)))
  marks : ∃ row padding, rows[4]? = some (blankMargin 1
      ++ (spaces (columnsFrom 0 before) ++ row ++ spaces padding))
    ∧ IsMarks row (columnsFrom before.length token)

/-! ## What rows give away -/

theorem length_paint_lt (s : String) : (paint .label s).length < (paint .unmarked s).length := by
  have hcode : Style.label.code.length < Style.unmarked.code.length := by decide
  simp only [paint, String.length_append]
  omega

/-- A character takes less room in the label's color, whose escape sequence is the shorter one. -/
theorem length_shownChar_lt (position : Nat) (c : Char) :
    (shownChar .label position c).length < (shownChar .unmarked position c).length := by
  rw [shownChar, shownChar]
  by_cases htab : c = '\t'
  · have hcolumns : 0 < columnsAt position c := by
      rw [columnsAt, if_pos htab]
      omega
    rw [if_pos htab, if_pos htab, repeated, repeated, String.length_join, String.length_join,
      List.map_replicate, List.map_replicate, List.sum_replicate_nat, List.sum_replicate_nat]
    exact Nat.mul_lt_mul_of_pos_left (length_paint_lt " ") hcolumns
  · rw [if_neg htab, if_neg htab]
    by_cases hblank : Text.isBlank c = true
    · rw [if_pos hblank, if_pos hblank]
      exact length_paint_lt " "
    · rw [if_neg hblank, if_neg hblank]
      exact length_paint_lt _

/-- The longer of two spans with one start is told by the line, where a character of the text is in the
one and not in the other. -/
theorem length_shownText_lt {cs : List Char} {start stop stop' : Nat} (hstart : start ≤ stop)
    (hstop : stop < stop') (htext : stop < (Text.trimEnd cs).length) :
    (shownText ⟨start, stop'⟩ ⟨0, cs⟩).length < (shownText ⟨start, stop⟩ ⟨0, cs⟩).length := by
  have hstyle : ∀ i, stop ≤ i → i < stop' → styleAt ⟨start, stop'⟩ i = .label
      ∧ styleAt ⟨start, stop⟩ i = .unmarked := fun i hi hi' =>
    ⟨styleAt_of_mem (Nat.le_trans hstart hi) hi', styleAt_of_not_mem (Or.inr hi)⟩
  rw [shownText_eq, shownText_eq, String.length_join, String.length_join, List.map_map, List.map_map]
  refine List.sum_lt_sum _ _ (fun ⟨c, i⟩ _ => ?_) ?_
  · rw [Function.comp_apply, Function.comp_apply]
    dsimp only
    -- the spans differ in the positions between their ends only
    by_cases hbetween : stop ≤ i ∧ i < stop'
    · obtain ⟨hlabel, hunmarked⟩ := hstyle i hbetween.1 hbetween.2
      rw [hlabel, hunmarked]
      exact Nat.le_of_lt (length_shownChar_lt i c)
    · have hsame : styleAt ⟨start, stop'⟩ i = styleAt ⟨start, stop⟩ i := by
        by_cases hin : start ≤ i ∧ i < stop
        · rw [styleAt_of_mem hin.1 (Nat.lt_trans hin.2 hstop), styleAt_of_mem hin.1 hin.2]
        · rw [styleAt_of_not_mem (by dsimp only; omega), styleAt_of_not_mem (by dsimp only; omega)]
      rw [hsame]
  · refine ⟨((Text.trimEnd cs)[stop], stop), ?_, ?_⟩
    · exact List.mk_mem_zipIdx_iff_getElem?.mpr (List.getElem?_eq_getElem htext)
    · obtain ⟨hlabel, hunmarked⟩ := hstyle stop (Nat.le_refl _) hstop
      rw [Function.comp_apply, Function.comp_apply]
      dsimp only
      rw [hlabel, hunmarked]
      exact length_shownChar_lt _ _

/-- Each mark brings two escape sequences. -/
theorem IsMarks.count_escape {row : String} {columns : Nat} (h : IsMarks row columns) :
    row.toList.count '\x1b' = 2 * columns := by
  obtain ⟨marks, rfl, rfl, hmarks⟩ := h
  induction marks with
  | nil => rfl
  | cons mark rest ih =>
    obtain ⟨hmark, hrest⟩ := List.forall_mem_cons.mp hmarks
    have hcount : (paint .label mark).toList.count '\x1b' = 2 := by
      rcases hmark with rfl | rfl
      · decide
      · decide
    rw [List.map_cons, String.join_cons, String.toList_append, List.count_append, hcount, ih hrest,
      List.length_cons]
    omega

theorem count_escape_spaces (n : Nat) : (spaces n).toList.count '\x1b' = 0 := by
  rw [spaces, String.toList_ofList, List.count_replicate]
  rfl

/-- The number of marks is told by the row. -/
theorem IsMarks.columns_eq {row row' : String} {columns columns' before before' behind behind' : Nat}
    (h : IsMarks row columns) (h' : IsMarks row' columns')
    (heq : spaces before ++ row ++ spaces behind = spaces before' ++ row' ++ spaces behind') :
    columns = columns' := by
  have hcount := congrArg (fun s : String => s.toList.count '\x1b') heq
  simp only [String.toList_append, List.count_append, count_escape_spaces, h.count_escape,
    h'.count_escape] at hcount
  omega

/-! ## When the rows point at the token -/

/-- Behind the text the positions of a span are as many columns. -/
theorem sum_widthAt_behind {text : List Char} {start : Nat} (h : text.length ≤ start) (n : Nat) :
    ((List.range' start n).map (widthAt text)).sum = n := by
  have hones : (List.range' start n).map (widthAt text) = List.replicate n 1 := by
    refine List.eq_replicate_iff.mpr ⟨by rw [List.length_map, List.length_range'], ?_⟩
    intro columns hcolumns
    obtain ⟨position, hposition, rfl⟩ := List.mem_map.mp hcolumns
    exact widthAt_of_le (Nat.le_trans h (List.mem_range'_1.mp hposition).1)
  rw [hones, List.sum_replicate_nat, Nat.mul_one]

/-- A span that reaches beyond the token is told by the line, or by the marks where the text ends with
the token. -/
theorem PointsAt.stop_le {rows : List String} {filename : String} {before token behind : List Char}
    {stop : Nat} (h : PointsAt rows filename before token behind)
    (htrim : Text.trimEnd (before ++ token ++ behind) = before ++ token ++ Text.trimEnd behind)
    (hspan : before.length < stop)
    (hrows : IsReportOn rows filename ⟨before.length, stop⟩ (before ++ token ++ behind)) :
    stop ≤ before.length + token.length := by
  by_contra hbeyond
  have hlt : before.length + token.length < stop := Nat.not_le.mp hbeyond
  -- if anything is shown behind the token, its first character has the wrong color; otherwise every
  -- position behind the token is a column, and there are too many marks
  by_cases htext : before.length + token.length
      < (Text.trimEnd (before ++ token ++ behind)).length
  · have hline := Option.some.inj (hrows.line.symm.trans h.line)
    rw [String.append_right_inj, ← shownText_of_parts htrim] at hline
    have hlength := length_shownText_lt (Nat.le_add_right before.length token.length) hlt htext
    rw [hline] at hlength
    exact Nat.lt_irrefl _ hlength
  · obtain ⟨row, padding, hjoin, hmarks⟩ := @exists_isMarks ⟨before.length, stop⟩ hspan
      (Text.trimEnd (before ++ token ++ behind))
    obtain ⟨row', padding', hrow', hmarks'⟩ := h.marks
    have hrow := Option.some.inj (hrows.marks.symm.trans hrow')
    rw [String.append_right_inj, hjoin] at hrow
    have hcolumns := hmarks.columns_eq hmarks' hrow
    have htoken := sum_widthAt before token (Text.trimEnd behind)
    have hbehind := sum_widthAt_behind (Nat.not_lt.mp htext) (stop - (before.length + token.length))
    have hsplit := @List.range'_append before.length token.length
      (stop - (before.length + token.length)) 1
    have hcount : token.length + (stop - (before.length + token.length)) = stop - before.length := by
      omega
    rw [Nat.one_mul, hcount] at hsplit
    dsimp only at hcolumns
    rw [← hsplit, List.map_append, List.sum_append, hbehind, htrim, htoken] at hcolumns
    omega

/-- The rows point at the token if its span, counted in characters, is the one that they show, and only
then. -/
theorem IsReportOn.pointsAt_iff {rows : List String} {filename : String} {span : Span}
    {before token behind : List Char}
    (hrows : IsReportOn rows filename span (before ++ token ++ behind))
    (htrim : Text.trimEnd (before ++ token ++ behind) = before ++ token ++ Text.trimEnd behind)
    (hspan : span.start < span.stop) (hstop : before.length + token.length ≤ span.stop) :
    PointsAt rows filename before token behind
      ↔ span = ⟨before.length, before.length + token.length⟩ := by
  constructor
  · intro h
    obtain ⟨start, stop⟩ := span
    obtain rfl : start = before.length := by
      have hheader := Option.some.inj (hrows.header.symm.trans h.header)
      exact Nat.succ.inj (headerRow_injective hheader)
    obtain rfl : stop = before.length + token.length :=
      Nat.le_antisymm (h.stop_le htrim hspan hrows) hstop
    rfl
  · rintro rfl
    obtain ⟨row, padding, hjoin, hmarks⟩ := exists_isMarks hspan
      (Text.trimEnd (before ++ token ++ behind))
    have hrow := hrows.marks
    have hbefore := sum_widthAt [] before (token ++ Text.trimEnd behind)
    have htoken := sum_widthAt before token (Text.trimEnd behind)
    rw [List.nil_append, ← List.append_assoc, ← htrim, List.length_nil] at hbefore
    rw [Nat.add_sub_cancel_left, htrim, htoken] at hmarks
    rw [hjoin, hbefore] at hrow
    exact ⟨hrows.header, by rw [hrows.line, shownText_of_parts htrim], row, padding, hrow, hmarks⟩

/-- A report whose span reaches beyond the source does not show it. -/
theorem not_pointsAt_of_length_lt {d : Diagnostic} {source : String}
    (hline : ∀ c ∈ source.toList, isLineEnd c = false) (hne : source.toList ≠ [])
    (hspan : d.span.start < d.span.stop) (h : source.toList.length < d.span.stop) (filename : String)
    (before token behind : List Char) :
    ¬ PointsAt (reportLines d source filename) filename before token behind := by
  intro hpoints
  rw [reportLines_singleton hline hne hspan] at hpoints
  by_cases hbeyond : source.toList.length + 1 < d.span.stop
  · rw [if_pos hbeyond] at hpoints
    have hheader := hpoints.header
    cases hheader
  · have hstop : (SourceLine.mk 0 source.toList).stop < d.span.stop := by
      have heq : (SourceLine.mk 0 source.toList).stop = source.toList.length := Nat.zero_add _
      omega
    rw [if_neg hbeyond, body, oneLine, if_pos rfl, if_pos hstop] at hpoints
    -- the margin of the line that is missing would have a number
    have hmargin := congrArg (fun s : String => s.toList.take 12) (Option.some.inj hpoints.line)
    simp only [String.toList_append] at hmargin
    rw [List.take_append_of_le_length (by decide)] at hmargin
    exact absurd hmargin (by decide)

/-- The brace that closes a token is no white space. -/
theorem trimEnd_token (before : List Char) (t : Token) (behind : List Char) :
    Text.trimEnd (before ++ t.raw.toList ++ behind)
      = before ++ t.raw.toList ++ Text.trimEnd behind := by
  have hlast : before ++ t.raw.toList
      = before ++ ('{' :: (t.identifier.toList ++ (Token.rawParams t.params).toList)) ++ ['}'] := by
    rw [t.toList_raw, List.append_assoc, List.cons_append, List.append_assoc]
  rw [hlast]
  exact trimEnd_append_singleton (by decide) _ behind

/-- A report on a message of one line points at its token exactly if all characters up to the token's
end take one byte each. The report is a text, whose rows these are, each with a line end. -/
theorem report_points_at_token_iff {σ C : Type} (context : Option C) (maxDepth : Nat)
    {message : String} (hline : ∀ c ∈ message.toList, isLineEnd c = false) (world : World σ C)
    {d : Diagnostic} (hd : d ∈ ((check context maxDepth message).run world).1) (filename : String) :
    d.report message filename
        = String.join ((reportLines d message filename).map fun row => row ++ "\n")
      ∧ ∃ before t behind, message = before ++ t.raw ++ behind ∧ (t, d.span) ∈ tokens message
        ∧ d.span = ⟨before.utf8ByteSize, before.utf8ByteSize + t.raw.utf8ByteSize⟩
        ∧ (PointsAt (reportLines d message filename) filename before.toList t.raw.toList behind.toList
          ↔ ∀ c ∈ before.toList ++ t.raw.toList, c.utf8Size = 1) := by
  have hreport := isReport_check context maxDepth message world
  obtain ⟨t, ht, -, -⟩ := hreport.token d hd
  have hspan := hreport.nonempty d hd
  obtain ⟨before, behind, hmessage, hbytes⟩ := exists_parts_of_mem_tokens ht
  refine ⟨rfl, before, t, behind, hmessage, ht, hbytes, ?_⟩
  have hcs : message.toList = before.toList ++ t.raw.toList ++ behind.toList := by
    rw [hmessage, String.toList_append, String.toList_append]
  have hlength : message.toList.length
      = before.toList.length + t.raw.toList.length + behind.toList.length := by
    rw [hcs, List.length_append, List.length_append]
  have hne : message.toList ≠ [] := by
    have hraw := (wellFormed_of_mem_tokens ht).raw_ne_nil
    rw [hcs]
    exact fun hnil => hraw (List.append_eq_nil_iff.mp (List.append_eq_nil_iff.mp hnil).1).2
  -- there are at least as many bytes as characters before the token, and in it
  have hbefore := length_le_byteLength before.toList
  have htoken := length_le_byteLength t.raw.toList
  have hcounts : d.span = ⟨byteLength before.toList,
      byteLength before.toList + byteLength t.raw.toList⟩ := by
    rw [hbytes, byteLength_toList, byteLength_toList]
  have hstop := congrArg Span.stop hcounts
  dsimp only at hstop
  rw [← byteLength_eq_length_iff, byteLength_append, List.length_append]
  by_cases hinside : d.span.stop ≤ message.toList.length
  · have hrows := isReportOn_of_stop_le hinside
      (paint .label "Warning:" ++ " " ++ d.unresolved.message) filename
    rw [hcs] at hrows
    rw [reportLines_singleton hline hne hspan, if_neg (by omega), hcs,
      hrows.pointsAt_iff (trimEnd_token _ t _) hspan (by omega), hcounts, Span.mk.injEq]
    omega
  · have hno := not_pointsAt_of_length_lt hline hne hspan (Nat.not_le.mp hinside) filename
      before.toList t.raw.toList behind.toList
    refine iff_of_false hno ?_
    omega

/-- A report on a message of ASCII characters. -/
theorem report_points_at_token_ascii :
    let message := "Hi \x7bnope\x7d!"
    let d : Diagnostic := ⟨⟨3, 9⟩, ⟨"nope", .unknownIdentifier⟩⟩
    d ∈ ((check none 10 message).run (.initial () : World Unit Nat)).1
      ∧ ∃ rows, d.report message "motd.txt" = String.join (rows.map fun row => row ++ "\n")
        ∧ ∃ (before : String) (t : Token) (behind : String), message = before ++ t.raw ++ behind
          ∧ PointsAt rows "motd.txt" before.toList t.raw.toList behind.toList := by
  intro message d
  have hall : message.toList.all (fun c => !isLineEnd c && c.utf8Size == 1) = true := by decide
  have hchars : ∀ c ∈ message.toList, isLineEnd c = false ∧ c.utf8Size = 1 := fun c hc => by
    simpa using List.all_eq_true.mp hall c hc
  have hd : d ∈ ((check none 10 message).run (.initial () : World Unit Nat)).1 := by decide +kernel
  obtain ⟨hreport, before, t, behind, hmessage, -, -, hpoints⟩ :=
    report_points_at_token_iff none 10 (fun c hc => (hchars c hc).1) _ hd "motd.txt"
  refine ⟨hd, _, hreport, before, t, behind, hmessage,
    hpoints.mpr fun c hc => (hchars c ?_).2⟩
  rw [hmessage, String.toList_append, String.toList_append]
  exact List.mem_append_left _ hc

/-- Behind a section sign, a report points one column too far. -/
theorem report_misses_token_behind_section_sign :
    let message := "§6\x7bnope\x7d joined the game"
    let d : Diagnostic := ⟨⟨3, 9⟩, ⟨"nope", .unknownIdentifier⟩⟩
    let rows := reportLines d message "motd.txt"
    d ∈ ((check none 10 message).run (.initial () : World Unit Nat)).1
      ∧ message = "§6" ++ (Token.mk "nope" none).raw ++ " joined the game"
      ∧ d.report message "motd.txt" = String.join (rows.map fun row => row ++ "\n")
      ∧ ¬ PointsAt rows "motd.txt" "§6".toList
        (Token.mk "nope" none).raw.toList " joined the game".toList := by
  intro message d rows
  refine ⟨by decide +kernel, by decide, rfl, fun hpoints => ?_⟩
  exact absurd hpoints.header (by decide +kernel)

end MessageTemplate.Report
