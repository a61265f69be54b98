import Mathlib.Algebra.Order.Ring.Nat
import MessageTemplate.Proofs.Spans
import MessageTemplate.Report

/-!
How a report on a single line is drawn.

The rows of such a report are taken apart here. The line of the source is shown character by character,
each in the color of its position, and under it stands a row that is made position by position, as wide
as the characters above. Positions before the span, in it and behind it are treated alike each, so both
rows fall into three parts (`shownText_of_parts`, `exists_isMarks`).
-/

namespace MessageTemplate.Report

/-! ## Characters and columns -/

/-- The columns that a character takes at its position. -/
def columnsAt (position : Nat) (c : Char) : Nat :=
  if c = '\t' then (position / 4 + 1) * 4 - position
  else if Text.isBlank c then 1
  else Text.columns c

/-- The columns that characters take from a position on. -/
def columnsFrom (position : Nat) (cs : List Char) : Nat :=
  ((cs.zipIdx position).map fun (c, i) => columnsAt i c).sum

/-- A character in a color, white space as spaces. -/
def shownChar (style : Style) (position : Nat) (c : Char) : String :=
  if c = '\t' then repeated (columnsAt position c) (paint style " ")
  else if Text.isBlank c then paint style " "
  else paint style (String.singleton c)

/-- Characters in a color from a position on. -/
def shownFrom (style : Style) (position : Nat) (cs : List Char) : String :=
  String.join ((cs.zipIdx position).map fun (c, i) => shownChar style i c)

/-- A row of marks in the label's color, so many columns wide. -/
def IsMarks (row : String) (columns : Nat) : Prop :=
  ∃ marks : List String, row = String.join (marks.map (paint .label)) ∧ marks.length = columns
    ∧ ∀ mark ∈ marks, mark = "─" ∨ mark = "┬"

/-- The header of a report on the first line, with the column that it names. -/
def headerRow (filename : String) (column : Nat) : String :=
  spaces 3 ++ paint .margin "╭" ++ paint .margin "─" ++ paint .margin "["
    ++ (filename ++ ":1:" ++ toString column) ++ paint .margin "]"

/-- The column can be read off the header. -/
theorem headerRow_injective {filename : String} {column column' : Nat}
    (h : headerRow filename column = headerRow filename column') : column = column' := by
  rw [headerRow, headerRow, String.append_left_inj, String.append_right_inj,
    String.append_right_inj] at h
  have hdigits := congrArg (fun s => Nat.ofDigitChars 10 s.toList 0) h
  simpa only [Nat.toString_eq_ofList_toDigits, String.toList_ofList,
    Nat.ofDigitChars_ten_toDigits] using hdigits

/-! ## Sources of one line -/

/-- Characters without a line end are one line. -/
theorem cutLines_of_no_end {cs : List Char} (h : ∀ c ∈ cs, isLineEnd c = false)
    (current : List Char) :
    cutLines current cs = if current.reverse ++ cs = [] then [] else [current.reverse ++ cs] := by
  induction cs generalizing current with
  | nil =>
    rw [cutLines, List.append_nil]
    simp
  | cons c cs ih =>
    obtain ⟨hc, hcs⟩ := List.forall_mem_cons.mp h
    have hne : c ≠ '\r' := by
      rintro rfl
      cases hc
    have hstep : cutLines current (c :: cs) = cutLines (c :: current) cs := by
      rw [cutLines, if_neg (by simp [hc])]
      rintro rest rfl
      exact absurd rfl hne
    rw [hstep, ih hcs, List.reverse_cons, List.append_assoc, List.singleton_append]

theorem sourceLines_of_no_end {source : String} (h : ∀ c ∈ source.toList, isLineEnd c = false)
    (hne : source.toList ≠ []) : sourceLines source = [⟨0, source.toList⟩] := by
  rw [sourceLines, cutLines_of_no_end h, List.reverse_nil, List.nil_append, if_neg hne]
  rfl

/-- A single line holds the positions of the text and the one behind it. -/
theorem lineAt?_singleton (cs : List Char) (position : Nat) :
    lineAt? [⟨0, cs⟩] position = if cs.length < position then none else some 0 := by
  rw [lineAt?, List.getLast?_singleton]
  have hstop : (SourceLine.mk 0 cs).stop = cs.length := Nat.zero_add _
  simp only [hstop]
  rfl

/-- The rows of a report on a single line, if the span begins and ends in it. -/
theorem reportLines_singleton {d : Diagnostic} {source : String}
    (h : ∀ c ∈ source.toList, isLineEnd c = false) (hne : source.toList ≠ [])
    (hspan : d.span.start < d.span.stop) (filename : String) :
    reportLines d source filename
      = if source.toList.length + 1 < d.span.stop then
          [paint .label "Warning:" ++ " " ++ d.unresolved.message]
        else (paint .label "Warning:" ++ " " ++ d.unresolved.message)
          :: body d [⟨0, source.toList⟩] filename 0 0 ⟨0, source.toList⟩ ⟨0, source.toList⟩ := by
  rw [reportLines, sourceLines_of_no_end h hne]
  simp only [lineAt?_singleton, if_neg (Nat.not_le.mpr hspan)]
  by_cases hbeyond : source.toList.length + 1 < d.span.stop
  · have hstop : source.toList.length < d.span.stop - 1 := by omega
    rw [if_pos hbeyond, if_pos hstop]
    by_cases hstart : source.toList.length < d.span.start
    · rw [if_pos hstart]
      rfl
    · rw [if_neg hstart]
      rfl
  · have hstart : ¬ source.toList.length < d.span.start := by omega
    have hstop : ¬ source.toList.length < d.span.stop - 1 := by omega
    rw [if_neg hbeyond, if_neg hstart, if_neg hstop]
    rfl

/-- The marks under a position of a single line. -/
def markAt (text : List Char) (span : Span) (position : Nat) : String :=
  if position = (span.start + span.stop) / 2 then
    if inSpan span position then
      stretch (widthAt text position) (paint .label "┬") (paint .label "─")
    else stretch (widthAt text position) (paint .label "│") (paint .label " ")
  else if inSpan span position then
    stretch (widthAt text position) (paint .label "─") (paint .label "─")
  else stretch (widthAt text position) " " " "

/-- The header, the line and the marks of a report on a single line that holds the span. -/
structure IsReportOn (rows : List String) (filename : String) (span : Span) (cs : List Char) :
    Prop where
  header : rows[1]? = some (headerRow filename (span.start + 1))
  line : rows[3]? = some (numberedMargin 1 0 ++ shownText span ⟨0, cs⟩)
  marks : rows[4]? = some (blankMargin 1 ++ String.join
    ((List.range (span.stop + 2)).map (markAt (Text.trimEnd cs) span)))

theorem isReportOn_of_stop_le {d : Diagnostic} {cs : List Char} (h : d.span.stop ≤ cs.length)
    (message filename : String) :
    IsReportOn (message :: body d [⟨0, cs⟩] filename 0 0 ⟨0, cs⟩ ⟨0, cs⟩) filename d.span cs := by
  have hstop : ¬ (SourceLine.mk 0 cs).stop < d.span.stop := by
    have heq : (SourceLine.mk 0 cs).stop = cs.length := Nat.zero_add _
    omega
  have hplace : filename ++ ":" ++ toString (0 + 1) ++ ":" ++ toString (d.span.start - 0 + 1)
      = filename ++ ":1:" ++ toString (d.span.start + 1) := by
    have hone : ":" ++ toString (0 + 1) ++ ":" = ":1:" := by decide
    rw [← hone, Nat.sub_zero]
    simp only [String.append_assoc]
  constructor
  · rw [headerRow, ← hplace]
    rfl
  · rw [body, oneLine, if_pos rfl, if_neg hstop]
    rfl
  · rw [body, oneLine, if_pos rfl, if_neg hstop]
    refine congrArg (fun l => some (blankMargin 1 ++ String.join l))
      (List.map_congr_left fun position _ => ?_)
    simp only [Nat.zero_add, Nat.sub_zero]
    rfl

/-! ## The line -/

theorem widthAt_of_getElem? {text : List Char} {position : Nat} {c : Char}
    (h : text[position]? = some c) : widthAt text position = columnsAt position c := by
  rw [widthAt, h]
  rfl

/-- Behind the text every position takes one column. -/
theorem widthAt_of_le {text : List Char} {position : Nat} (h : text.length ≤ position) :
    widthAt text position = 1 := by
  rw [widthAt, List.getElem?_eq_none h]

theorem inSpan_iff {span : Span} {position : Nat} :
    inSpan span position = true ↔ span.start ≤ position ∧ position < span.stop := by
  rw [inSpan, Bool.and_eq_true, decide_eq_true_eq, decide_eq_true_eq]

/-- The style of a position. -/
def styleAt (span : Span) (position : Nat) : Style :=
  if inSpan span position then .label else .unmarked

/-- A line is shown character by character, each in the style of its position. -/
theorem shownText_eq (span : Span) (cs : List Char) :
    shownText span ⟨0, cs⟩ = String.join ((Text.trimEnd cs).zipIdx.map
      fun (c, i) => shownChar (styleAt span i) i c) := by
  refine congrArg String.join (List.map_congr_left fun ⟨c, i⟩ hmem => ?_)
  have hwidth := widthAt_of_getElem? (List.mk_mem_zipIdx_iff_getElem?.mp hmem)
  simp only [hwidth, Nat.zero_add]
  rfl

/-- Characters of one style. -/
theorem join_shownChar {span : Span} {style : Style} {position : Nat} {cs : List Char}
    (h : ∀ i, position ≤ i → i < position + cs.length → styleAt span i = style) :
    String.join ((cs.zipIdx position).map fun (c, i) => shownChar (styleAt span i) i c)
      = shownFrom style position cs := by
  refine congrArg String.join (List.map_congr_left fun ⟨c, i⟩ hmem => ?_)
  have hbounds := List.mem_zipIdx hmem
  have hstyle : styleAt span i = style := h i hbounds.1 hbounds.2.1
  simp only [hstyle]

theorem styleAt_of_mem {span : Span} {position : Nat} (hstart : span.start ≤ position)
    (hstop : position < span.stop) : styleAt span position = .label := by
  exact if_pos (inSpan_iff.mpr ⟨hstart, hstop⟩)

theorem styleAt_of_not_mem {span : Span} {position : Nat}
    (h : position < span.start ∨ span.stop ≤ position) : styleAt span position = .unmarked := by
  refine if_neg fun hin => ?_
  have hbounds := inSpan_iff.mp hin
  omega

/-- With the span of a token, the token is shown in the label's color and the rest is not. -/
theorem shownText_of_parts {cs before token rest : List Char}
    (htrim : Text.trimEnd cs = before ++ token ++ rest) :
    shownText ⟨before.length, before.length + token.length⟩ ⟨0, cs⟩
      = shownFrom .unmarked 0 before ++ shownFrom .label before.length token
        ++ shownFrom .unmarked (before.length + token.length) rest := by
  rw [shownText_eq, htrim, List.zipIdx_append, List.zipIdx_append, List.map_append,
    List.map_append, String.join_append, String.join_append, List.length_append, Nat.zero_add,
    Nat.zero_add]
  congr 1
  · congr 1
    · refine join_shownChar fun i _ hi => styleAt_of_not_mem (Or.inl ?_)
      rwa [Nat.zero_add] at hi
    · exact join_shownChar fun i hstart hstop => styleAt_of_mem hstart hstop
  · exact join_shownChar fun i hi _ => styleAt_of_not_mem (Or.inr hi)

/-- The last character of a token ends the text at the earliest. -/
theorem trimEnd_append_singleton {c : Char} (h : Text.isBlank c = false) (cs behind : List Char) :
    Text.trimEnd (cs ++ [c] ++ behind) = cs ++ [c] ++ Text.trimEnd behind := by
  rw [Text.trimEnd, List.reverse_append, List.dropWhile_append]
  have hlast : (cs ++ [c]).reverse.dropWhile Text.isBlank = (cs ++ [c]).reverse := by
    rw [List.reverse_append, List.reverse_singleton, List.singleton_append,
      List.dropWhile_cons_of_neg (by simp [h])]
  by_cases hempty : (behind.reverse.dropWhile Text.isBlank).isEmpty = true
  · rw [if_pos hempty, hlast, List.reverse_reverse, Text.trimEnd, List.isEmpty_iff.mp hempty,
      List.reverse_nil, List.append_nil]
  · rw [if_neg hempty, List.reverse_append, List.reverse_reverse, Text.trimEnd]

/-! ## The marks -/

/-- Positions that hold characters take the columns of these. -/
theorem sum_widthAt (front cs back : List Char) :
    ((List.range' front.length cs.length).map (widthAt (front ++ cs ++ back))).sum
      = columnsFrom front.length cs := by
  rw [← List.zipIdx_map_snd, List.map_map, columnsFrom]
  refine congrArg List.sum (List.map_congr_left fun ⟨c, i⟩ hmem => ?_)
  obtain ⟨hstart, hget⟩ := List.mk_mem_zipIdx_iff_le_and_getElem?_sub.mp hmem
  refine widthAt_of_getElem? ?_
  have hlt := (List.getElem?_eq_some_iff.mp hget).1
  rw [List.append_assoc, List.getElem?_append_right hstart, List.getElem?_append_left hlt, hget]

theorem spaces_add (m n : Nat) : spaces (m + n) = spaces m ++ spaces n := by
  rw [spaces, spaces, spaces, ← String.ofList_append, List.replicate_append_replicate]

theorem repeated_spaces (n : Nat) : repeated n " " = spaces n := by
  induction n with
  | zero => rfl
  | succ n ih =>
    have hstep : repeated (n + 1) " " = " " ++ repeated n " " := by
      rw [repeated, List.replicate_succ, String.join_cons, repeated]
    rw [hstep, ih, Nat.add_comm, spaces_add]
    rfl

theorem stretch_spaces (n : Nat) : stretch n " " " " = spaces n := by
  cases n with
  | zero => rfl
  | succ n =>
    rw [stretch, if_neg (Nat.succ_ne_zero n), Nat.add_sub_cancel, repeated_spaces, Nat.add_comm,
      spaces_add]
    rfl

theorem join_spaces {l : List Nat} {row : Nat → String} {columns : Nat → Nat}
    (h : ∀ i ∈ l, row i = spaces (columns i)) :
    String.join (l.map row) = spaces (l.map columns).sum := by
  induction l with
  | nil => rfl
  | cons i rest ih =>
    obtain ⟨hi, hrest⟩ := List.forall_mem_cons.mp h
    rw [List.map_cons, List.map_cons, String.join_cons, List.sum_cons, spaces_add, hi, ih hrest]

theorem isMarks_stretch (n : Nat) {sign : String} (h : sign = "─" ∨ sign = "┬") :
    IsMarks (stretch n (paint .label sign) (paint .label "─")) n := by
  cases n with
  | zero => exact ⟨[], rfl, rfl, fun _ hmark => absurd hmark List.not_mem_nil⟩
  | succ n =>
    refine ⟨sign :: List.replicate n "─", ?_, ?_, ?_⟩
    · rw [stretch, if_neg (Nat.succ_ne_zero n), List.map_cons, String.join_cons,
        List.map_replicate]
      rfl
    · rw [List.length_cons, List.length_replicate]
    · intro mark hmark
      rcases List.mem_cons.mp hmark with rfl | hmark
      · exact h
      · exact Or.inl (List.eq_of_mem_replicate hmark)

theorem isMarks_join {l : List Nat} {row : Nat → String} {columns : Nat → Nat}
    (h : ∀ i ∈ l, IsMarks (row i) (columns i)) :
    IsMarks (String.join (l.map row)) (l.map columns).sum := by
  induction l with
  | nil => exact ⟨[], rfl, rfl, fun _ hmark => absurd hmark List.not_mem_nil⟩
  | cons i rest ih =>
    obtain ⟨hi, hrest⟩ := List.forall_mem_cons.mp h
    obtain ⟨marks, hrow, hlength, hmarks⟩ := hi
    obtain ⟨marks', hrow', hlength', hmarks'⟩ := ih hrest
    refine ⟨marks ++ marks', ?_, ?_, ?_⟩
    · rw [List.map_cons, String.join_cons, List.map_append, String.join_append, hrow, hrow']
    · rw [List.length_append, List.map_cons, List.sum_cons, hlength, hlength']
    · exact List.forall_mem_append.mpr ⟨hmarks, hmarks'⟩

theorem markAt_outside {text : List Char} {span : Span} (h : span.start < span.stop) {position : Nat}
    (hout : position < span.start ∨ span.stop ≤ position) :
    markAt text span position = spaces (widthAt text position) := by
  have hmiddle : position ≠ (span.start + span.stop) / 2 := by omega
  have hnot : ¬ inSpan span position = true := by
    rw [inSpan_iff]
    omega
  rw [markAt, if_neg hmiddle, if_neg hnot, stretch_spaces]

theorem markAt_inside {span : Span} {position : Nat} (hstart : span.start ≤ position)
    (hstop : position < span.stop) (text : List Char) :
    IsMarks (markAt text span position) (widthAt text position) := by
  have hin : inSpan span position = true := inSpan_iff.mpr ⟨hstart, hstop⟩
  rw [markAt, hin, if_pos rfl, if_pos rfl]
  by_cases hmiddle : position = (span.start + span.stop) / 2
  · rw [if_pos hmiddle]
    exact isMarks_stretch _ (Or.inr rfl)
  · rw [if_neg hmiddle]
    exact isMarks_stretch _ (Or.inl rfl)

/-- Under a span stand marks as wide as its positions, and spaces before and behind them. -/
theorem exists_isMarks {span : Span} (h : span.start < span.stop) (text : List Char) :
    ∃ row padding, String.join ((List.range (span.stop + 2)).map (markAt text span))
        = spaces ((List.range' 0 span.start).map (widthAt text)).sum ++ row ++ spaces padding
      ∧ IsMarks row
        ((List.range' span.start (span.stop - span.start)).map (widthAt text)).sum := by
  -- the row goes on for two positions behind the span
  have hsplit : List.range (span.stop + 2)
      = List.range' 0 span.start ++ List.range' span.start (span.stop - span.start)
        ++ List.range' span.stop 2 := by
    have hinner := @List.range'_append 0 span.start (span.stop - span.start) 1
    have houter := @List.range'_append 0 span.stop 2 1
    rw [Nat.zero_add, Nat.one_mul, Nat.add_sub_cancel' (Nat.le_of_lt h)] at hinner
    rw [Nat.zero_add, Nat.one_mul] at houter
    rw [hinner, houter, List.range_eq_range']
  have hbefore : String.join ((List.range' 0 span.start).map (markAt text span))
      = spaces ((List.range' 0 span.start).map (widthAt text)).sum := by
    refine join_spaces fun position hposition => markAt_outside h (Or.inl ?_)
    have hlt := (List.mem_range'_1.mp hposition).2
    omega
  have hbehind : String.join ((List.range' span.stop 2).map (markAt text span))
      = spaces ((List.range' span.stop 2).map (widthAt text)).sum :=
    join_spaces fun position hposition =>
      markAt_outside h (Or.inr (List.mem_range'_1.mp hposition).1)
  have hmarks : IsMarks
      (String.join ((List.range' span.start (span.stop - span.start)).map (markAt text span)))
      ((List.range' span.start (span.stop - span.start)).map (widthAt text)).sum := by
    refine isMarks_join fun position hposition => ?_
    obtain ⟨hstart, hstop⟩ := List.mem_range'_1.mp hposition
    exact markAt_inside hstart (by omega) text
  refine ⟨_, ((List.range' span.stop 2).map (widthAt text)).sum, ?_, hmarks⟩
  rw [hsplit, List.map_append, List.map_append, String.join_append, String.join_append, hbefore,
    hbehind]

end MessageTemplate.Report
