import MessageTemplate.Report.Source
import MessageTemplate.Report.Style
import MessageTemplate.Text.Blank
import MessageTemplate.Text.Columns
import MessageTemplate.Unresolved

/-!
Reports: an unresolved token shown in the text that it stands in, with a label under it and advice
below.

The numbers of the diagnostic's span are taken as positions in characters here. They point at the
token where only single-byte characters stand before it.
-/

namespace MessageTemplate.Report

/-- The text at the label. -/
def labelText : String := " left as literal text"

/-! ## The margin -/

/-- The number of digits that line numbers are given. -/
def numberWidth (lastLine : Nat) : Nat :=
  (Nat.toDigits 10 (lastLine + 1)).length

/-- The margin beside a line of the source. -/
def numberedMargin (width line : Nat) : String :=
  let number := toString (line + 1)
  " " ++ paint .margin (spaces (width - number.length) ++ number ++ " │") ++ " "

/-- The margin beside anything else. -/
def blankMargin (width : Nat) : String :=
  " " ++ paint .faintMargin (spaces (width + 1) ++ "│") ++ " "

/-- The margin where lines of the source are left out. -/
def skippedMargin (width : Nat) : String :=
  " " ++ paint .faintMargin (spaces (width + 1) ++ "┆") ++ " "

/-! ## A line of the source -/

/-- The columns taken by the character at a position of a line; a tab reaches to the next multiple of
four. Behind the text every position takes one column. -/
def widthAt (text : List Char) (position : Nat) : Nat :=
  match text[position]? with
  | none => 1
  | some c =>
    if c = '\t' then (position / 4 + 1) * 4 - position
    else if Text.isBlank c then 1
    else Text.columns c

/-- Whether a position is in the span. -/
def inSpan (span : Span) (position : Nat) : Bool :=
  decide (span.start ≤ position) && decide (position < span.stop)

/-- The line as it is shown: white space as spaces, the span in the label's color. -/
def shownText (span : Span) (line : SourceLine) : String :=
  let text := Text.trimEnd line.chars
  String.join (text.zipIdx.map fun (c, i) =>
    let style : Style := if inSpan span (line.offset + i) then .label else .unmarked
    if c = '\t' then repeated (widthAt text i) (paint style " ")
    else if Text.isBlank c then paint style " "
    else paint style (String.singleton c))

/-- A sign as wide as a column of the text: the sign once, and its tail in the remaining places. -/
def stretch (width : Nat) (sign tail : String) : String :=
  if width = 0 then "" else sign ++ repeated (width - 1) tail

/-! ## A span in one line -/

/-- The line with the span, the line under it that marks the span, and the arrow to the label. A span
that reaches beyond the line is not shown. -/
def oneLine (width : Nat) (span : Span) (number : Nat) (line : SourceLine) : List String :=
  if line.stop < span.stop then [blankMargin width]
  else
    let text := Text.trimEnd line.chars
    let middle := (span.start + span.stop) / 2 - line.offset
    let positions := List.range (span.stop - line.offset + 2)
    let dash := paint .label "─"
    let underline := positions.map fun i =>
      let n := widthAt text i
      if i = middle then
        if inSpan span (line.offset + i) then stretch n (paint .label "┬") dash
        else stretch n (paint .label "│") (paint .label " ")
      else if inSpan span (line.offset + i) then stretch n dash dash
      else stretch n " " " "
    let arrow := positions.map fun i =>
      let n := widthAt text i
      if i < middle then stretch n " " " "
      else if i = middle then stretch n (paint .label "╰") dash
      else stretch n dash dash
    [numberedMargin width number ++ shownText span line,
     blankMargin width ++ String.join underline,
     blankMargin width ++ String.join arrow ++ labelText]

/-! ## A span over several lines -/

/-- The last line of the span, and the arrow from it to the label. -/
def lastOfLines (width : Nat) (span : Span) (number : Nat) (line : SourceLine) : List String :=
  let text := Text.trimEnd line.chars
  let reach := (List.range (line.length + 2)).foldl (fun n i => n + widthAt text i) 3
  [numberedMargin width number ++ paintEach .label "├─▶ " ++ shownText span line,
   blankMargin width ++ paint .label "│" ++ spaces reach,
   blankMargin width ++ paint .label "╰" ++ repeated reach (paint .label "─") ++ labelText]

/-- The first and the last line of the span, with one mark for all lines between. The last line counts
as one of those between when the span reaches beyond the text, and then there is no arrow. -/
def severalLines (width : Nat) (span : Span) (first last : Nat) (firstLine lastLine : SourceLine) :
    List String :=
  let ends := span.stop ≤ lastLine.stop
  let between := last - first - if ends then 1 else 0
  [numberedMargin width first ++ paintEach .label "╭─▶ " ++ shownText span firstLine]
    ++ (if between = 0 then [] else [skippedMargin width ++ paint .label "┆" ++ spaces 3])
    ++ (if ends then lastOfLines width span last lastLine else [])

/-! ## The report -/

/-- What stands between the margin and the advice. -/
def adviceIndent (span : Span) (lines : List SourceLine) (first last : Nat) : String :=
  if first = last then ""
  else if 0 < first && lines.head?.map (·.length) = some span.start then
    paint .label "│" ++ spaces 3
  else spaces 4

/-- The lines below the message, when the span lies in the source. -/
def body (d : Diagnostic) (lines : List SourceLine) (filename : String) (first last : Nat)
    (firstLine lastLine : SourceLine) : List String :=
  let width := numberWidth last
  let place := filename ++ ":" ++ toString (first + 1) ++ ":"
    ++ toString (d.span.start - firstLine.offset + 1)
  let shown :=
    if first = last then oneLine width d.span first firstLine
    else severalLines width d.span first last firstLine lastLine
  let indent := adviceIndent d.span lines first last
  let advice := match d.unresolved.reason.help? with
    | none => []
    | some help => [blankMargin width ++ indent,
        blankMargin width ++ indent ++ paint .note "Help" ++ ": " ++ help]
  [spaces (width + 2) ++ paint .margin "╭" ++ paint .margin "─" ++ paint .margin "[" ++ place
      ++ paint .margin "]",
   spaces (width + 2) ++ paint .margin "│"]
    ++ shown ++ advice ++ [paint .margin (repeated (width + 2) "─" ++ "╯")]

/-- The lines of a report. A span outside the source leaves the message alone. Whether it is outside, and
which line it begins and ends in, goes by positions in characters, whatever the numbers of the span count. -/
def reportLines (d : Diagnostic) (source filename : String) : List String :=
  let lines := sourceLines source
  let message := paint .label "Warning:" ++ " " ++ d.unresolved.message
  let place := do
    let first ← lineAt? lines d.span.start
    let last ← if d.span.stop ≤ d.span.start then some first else lineAt? lines (d.span.stop - 1)
    return (first, last, ← lines[first]?, ← lines[last]?)
  match place with
  | none => [message]
  | some (first, last, firstLine, lastLine) =>
    message :: body d lines filename first last firstLine lastLine

end Report

/-- The diagnostic as a report on the text it was found in. -/
def Diagnostic.report (d : Diagnostic) (source filename : String) : String :=
  String.join ((Report.reportLines d source filename).map (· ++ "\n"))

end MessageTemplate
