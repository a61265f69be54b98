import MessageTemplate.Command.Run
import MessageTemplate.Proofs.DefaultVerdicts
import MessageTemplate.Proofs.Lines

/-!
The command's check of a text, compared with a plain run on it.

The check goes through the lines of the text and moves what it finds in each of them by the line's offset;
a plain run expands the same lines and writes them out. The command registers the defaults only, for fixed
hosts, and its handlers share nothing, so neither what was found in earlier lines nor that they were checked
and not expanded has any influence. Both runs therefore follow one table of values: the check reports the
tokens of the lines that nothing stands for (`checkLines_stateless`), and the plain run writes these as they
are, and what stands for the others (`Values.expand_eq_join`). Where the reported tokens stand in the text is
known from how it is cut into lines.
-/

namespace MessageTemplate

/-! ## Reports on lines -/

section Lines

variable {player : Option Player} {world : World Unit Player}

/-- Moving what is reported is reporting what is moved. -/
theorem map_shift_reportBy (verdict? : Token → Option Unresolved) (offset : Nat)
    (found : List (Token × Span)) :
    (reportBy verdict? found).map (·.shift offset)
      = reportBy verdict? (found.map fun found => (found.1, found.2.shift offset)) := by
  rw [reportBy, reportBy, List.map_filterMap, List.filterMap_map]
  refine List.filterMap_congr fun found _ => ?_
  rw [Option.map_map]
  rfl

/-- Checking lines one after the other gives the verdicts on their tokens, with the bytes that the tokens
take in the text. -/
theorem checkLines_stateless (hstateless : world.registry.IsStateless player) (levels : Nat)
    (lines : List Text.Line) :
    ((Command.checkLines player levels lines).run world).1
      = reportBy (world.verdict? player levels) (Text.lineTokens lines) := by
  induction lines generalizing world with
  | nil => rfl
  | cons line rest ih =>
    obtain ⟨hfound, hkept⟩ := check_decided hstateless.isDecided levels line.text
    have hrest := @ih ((check player levels line.text).run world).2 (by rwa [hkept])
    rw [World.verdict?_of_registry_eq hstateless.isDecided hkept] at hrest
    have hstep : ((Command.checkLines player levels (line :: rest)).run world).1
        = ((check player levels line.text).run world).1.map (·.shift line.offset)
          ++ ((Command.checkLines player levels rest).run
            ((check player levels line.text).run world).2).1 := rfl
    rw [hstep, hrest, hfound, map_shift_reportBy, Text.lineTokens_cons, reportBy, reportBy, reportBy,
      List.filterMap_append]

end Lines

/-- What is found in a text that is checked line by line. The spans are in order, disjoint and not empty,
and each of them is that of a token within a line of the text. -/
structure IsLineReport (source : String) (found : List Diagnostic) : Prop where
  ordered : found.Pairwise fun d e => d.span.stop ≤ e.span.start
  nonempty : ∀ d ∈ found, d.span.start < d.span.stop
  token : ∀ d ∈ found, ∃ t : Token, t.WellFormed ∧ d.span.Spells source t.raw
    ∧ ∃ line ∈ Text.lines source, line.offset ≤ d.span.start ∧ d.span.stop ≤ line.stop

/-- Reporting some of the tokens of the lines of a text. -/
theorem isLineReport_reportBy (verdict? : Token → Option Unresolved) (source : String) :
    IsLineReport source (reportBy verdict? (Text.lineTokens (Text.lines source))) := by
  have hspan : ∀ d ∈ reportBy verdict? (Text.lineTokens (Text.lines source)),
      ∃ line ∈ Text.lines source, ∃ t within, (t, within) ∈ tokens line.text
        ∧ d.span = within.shift line.offset := by
    intro d hd
    obtain ⟨⟨t, span⟩, hfound, hd⟩ := List.mem_filterMap.mp hd
    obtain ⟨u, -, rfl⟩ := Option.map_eq_some_iff.mp hd
    obtain ⟨line, hline, within, hwithin, rfl⟩ := Text.mem_lineTokens_iff.mp hfound
    exact ⟨line, hline, t, within, hwithin, rfl⟩
  constructor
  case ordered =>
    -- what is reported is a part of the tokens, in their order
    have hspans : ((Text.lineTokens (Text.lines source)).map (·.2)).Pairwise
        fun a b => a.stop ≤ b.start :=
      List.pairwise_map.mpr (Text.pairwise_lineTokens source)
    refine List.pairwise_map.mp (hspans.sublist ?_)
    rw [map_span_reportBy]
    exact List.filter_sublist.map _
  case nonempty =>
    intro d hd
    obtain ⟨line, -, t, within, hwithin, hd⟩ := hspan d hd
    rw [hd]
    exact Nat.add_lt_add_right (start_lt_stop_of_mem_tokens hwithin) line.offset
  case token =>
    intro d hd
    obtain ⟨line, hline, t, within, hwithin, hd⟩ := hspan d hd
    obtain ⟨hspells, hstart, hstop⟩ := Text.place_of_mem_tokens hline hwithin
    rw [hd]
    exact ⟨t, wellFormed_of_mem_tokens hwithin, hspells, line, hline, hstart, hstop⟩

/-! ## Runs of the command -/

namespace Command

/-- The bytes of a text encode it. -/
theorem decode_toByteArray (s : String) : decode (.ok s.toByteArray) = .ok s := by
  have hvalid : String.fromUTF8? s.toByteArray = some s := dif_pos s.isValidUTF8
  rw [decode, hvalid]

/-- The arguments of a plain run on the same text, with the same settings and the same player. -/
def Arguments.plain (arguments : Arguments) : Arguments where
  input := arguments.input
  config := arguments.config
  flags := arguments.flags.filter (· = .noPlayer)

section Plain

variable (arguments : Arguments)

theorem Arguments.has_plain (flag : Flag) :
    arguments.plain.has flag = (arguments.has flag && decide (flag = .noPlayer)) := by
  rw [Bool.eq_iff_iff]
  simp [Arguments.has, Arguments.plain]

theorem Arguments.has_plain_of_ne {flag : Flag} (h : flag ≠ .noPlayer) :
    arguments.plain.has flag = false := by
  rw [has_plain, decide_eq_false h, Bool.and_false]

theorem playerFor_plain (settings : Settings) :
    playerFor arguments.plain settings = playerFor arguments settings := by
  rw [playerFor, playerFor, Arguments.has_plain, decide_eq_true rfl, Bool.and_true]

/-- A plain run does nothing with a line that has been expanded. -/
theorem finish_plain (palette : Palette) : finish arguments.plain palette = id := by
  funext line
  have hstrip : arguments.plain.has .strip = false := arguments.has_plain_of_ne (by decide)
  have hrevert : arguments.plain.has .revert = false := arguments.has_plain_of_ne (by decide)
  simp only [finish, hstrip, hrevert, Bool.false_eq_true, if_false]
  rfl

end Plain

variable {m : Type → Type} [Monad m] [LawfulMonad m]

/-- A text that stands in the standard input is read from there if no file is named, unless that is a
terminal. -/
theorem readInput_standardInput {files : Files m} {source : String}
    (hinteractive : files.interactive = false)
    (h : files.standardInput = pure (.ok source.toByteArray)) :
    readInput files none = pure (.ok (source, "<stdin>")) := by
  rw [readInput, hinteractive, h, pure_bind]
  simp only [Bool.false_eq_true, if_false, decode_toByteArray]

/-- What a run does with a text once the settings and the text have been read. -/
theorem run_eq {files : Files m} {arguments : Arguments} {settings : Settings}
    {source filename : String}
    (hsettings : loadSettings files arguments.config = pure (.ok settings))
    (hinput : readInput files arguments.input = pure (.ok (source, filename)))
    (hlist : arguments.has .list = false) :
    run files arguments = pure (if arguments.has .check then
        checkText (prepare settings) (playerFor arguments settings) source filename
      else expandText (prepare settings) arguments (playerFor arguments settings) source) := by
  rw [run, hsettings, pure_bind]
  simp only [hlist, hinput, Bool.false_eq_true, if_false, pure_bind]
  split
  · rfl
  · rfl

/-- The server that the command shows: the one of the settings, or else the standard one. -/
abbrev serverFor (settings : Settings) : ServerSource Unit :=
  (settings.server.getD {}).source

/-- The engine of the command has the defaults, and nothing else. -/
theorem prepare_hasDefaults (settings : Settings) :
    (prepare settings).HasDefaults settings (serverFor settings) :=
  .of_init settings _ ()

/-- Where handlers share nothing, a question has one answer, and so the defaults keep no state. -/
theorem prepare_isStateless (settings : Settings) (player : Option Player) :
    (prepare settings).world.registry.IsStateless player := by
  rw [(prepare_hasDefaults settings).registry_eq]
  intro t p hadmits context params
  obtain ⟨requiresContext, hp⟩ :=
    settings.exists_isDefault_of_admits (serverFor settings) hadmits
  obtain ⟨question, hquestion⟩ := hp.asks context params
  refine ⟨.value (question.run ()).1, fun world => ?_⟩
  rw [hquestion world]
  exact ⟨rfl, rfl⟩

/-- What is found in the lines of a text are the tokens that nothing stands for. -/
theorem checkLines_prepare (settings : Settings) (player : Option Player) (source : String) :
    let world := (prepare settings).world
    let found := ((checkLines player settings.maxDepth (Text.lines source)).run world).1
    IsLineReport source found
      ∧ found.map (·.span) = ((Text.lineTokens (Text.lines source)).filter fun found =>
          ((world.value? player).replacement? settings.maxDepth found.1).isNone).map (·.2) := by
  intro world found
  have hfound : found = reportBy (world.verdict? player settings.maxDepth)
      (Text.lineTokens (Text.lines source)) :=
    checkLines_stateless (prepare_isStateless settings player) _ _
  rw [hfound]
  refine ⟨isLineReport_reportBy _ source, ?_⟩
  rw [map_span_reportBy]
  refine congrArg (List.map Prod.snd) (List.filter_congr ?_)
  rintro ⟨t, span⟩ hmem
  obtain ⟨line, -, within, hwithin, -⟩ := Text.mem_lineTokens_iff.mp hmem
  have ht : t.WellFormed := wellFormed_of_mem_tokens hwithin
  rw [Bool.eq_iff_iff, ← Option.ne_none_iff_isSome, Ne, World.verdict?_eq_none_iff ht,
    Bool.not_eq_true, Option.isSome_eq_false_iff]

/-- A plain run writes, in each line, the text between the tokens and what stands for the tokens. -/
theorem output_expandText_plain (settings : Settings) (arguments : Arguments)
    (player : Option Player) (source : String) :
    (expandText (prepare settings) arguments.plain player source).output
      = unlines ((Text.lines source).map fun line => String.join ((scan line.text).map
          (((prepare settings).world.value? player).written settings.maxDepth))) := by
  have hdefaults := prepare_hasDefaults settings
  have houtput : (expandText (prepare settings) arguments.plain player source).output
      = unlines ((((expandAll player (prepare settings).maxDepth
          ((Text.lines source).map (·.text))).run (prepare settings).world).1).map
            (finish arguments.plain (prepare settings).palette)) := rfl
  rw [houtput, finish_plain, List.map_id,
    (expandAll_stateless (prepare_isStateless settings player) _ _).1, hdefaults.maxDepth_eq, List.map_map]
  refine congrArg unlines (List.map_congr_left fun line _ => ?_)
  exact Values.expand_eq_join _ _ line.text

/-- Where the check of a text points, for any settings and any text that could be read. The text is cut
into lines as `Text.Cuts` says. The diagnostics have spans that are in order, disjoint and not empty, and
each of them spells a token within a line. They are those of the tokens that nothing stands for, and these
are what a plain run on the same text leaves as they are written. The check fails if there are any, and
says how many there are. -/
theorem check_points_at_what_stays {files : Files m} {arguments : Arguments} {settings : Settings}
    {source filename : String}
    (hsettings : loadSettings files arguments.config = pure (.ok settings))
    (hinput : readInput files arguments.input = pure (.ok (source, filename)))
    (hcheck : arguments.has .check = true) (hlist : arguments.has .list = false) :
    let player := playerFor arguments settings
    let world := (prepare settings).world
    let found := ((checkLines player settings.maxDepth (Text.lines source)).run world).1
    let values := world.value? player
    Text.Cuts 0 source.toList (Text.lines source)
      ∧ IsLineReport source found
      ∧ found.map (·.span) = ((Text.lineTokens (Text.lines source)).filter fun found =>
          (values.replacement? settings.maxDepth found.1).isNone).map (·.2)
      ∧ (∃ expanded : Completion, run files arguments.plain = pure expanded ∧ expanded.code = 0
        ∧ expanded.output = unlines ((Text.lines source).map fun line =>
          String.join ((scan line.text).map (values.written settings.maxDepth))))
      ∧ ∃ checked : Completion, run files arguments = pure checked
        ∧ checked.code = (if found.isEmpty then 0 else 1) ∧ checked.output = ""
        ∧ checked.errors = String.join (found.map (·.report source filename))
          ++ (if found.isEmpty then "" else toString found.length ++ " unresolved placeholder(s)\n") := by
  intro player world found values
  obtain ⟨hreport, hspans⟩ := checkLines_prepare settings player source
  have hplain : run files arguments.plain
      = pure (expandText (prepare settings) arguments.plain player source) := by
    have hnoList : arguments.plain.has .list = false := arguments.has_plain_of_ne (by decide)
    have hnoCheck : arguments.plain.has .check = false := arguments.has_plain_of_ne (by decide)
    -- the two runs read the same files
    have hsettings' : loadSettings files arguments.plain.config = pure (.ok settings) := hsettings
    have hinput' : readInput files arguments.plain.input = pure (.ok (source, filename)) := hinput
    rw [run_eq hsettings' hinput' hnoList, hnoCheck, playerFor_plain]
    rfl
  have hchecked : run files arguments
      = pure (checkText (prepare settings) player source filename) := by
    rw [run_eq hsettings hinput hlist, hcheck]
    rfl
  refine ⟨Text.cuts_lines source, hreport, hspans, ⟨_, hplain, rfl, ?_⟩, _, hchecked, ?_⟩
  · exact output_expandText_plain settings arguments player source
  · rw [checkText, (prepare_hasDefaults settings).maxDepth_eq]
    exact ⟨rfl, rfl, rfl⟩

/-- Two line ends, an empty line, characters of two bytes, and a last line without an end. -/
theorem check_points_at_what_stays_mixed_ends :
    let source := "§a\x7bred\x7d\r\n\r\n\x7bnope\x7d é\x7bplayer:x\x7d\n\x7bserver_max\x7d\x7bb"
    let files : Files Id := { read := fun _ => .error .notFound, standardInput := .ok source.toByteArray }
    let arguments : Arguments := { flags := [.check] }
    let found := ((checkLines (some {}) defaultMaxDepth (Text.lines source)).run
      (prepare {}).world).1
    loadSettings files arguments.config = pure (.ok {})
      ∧ readInput files arguments.input = pure (.ok (source, "<stdin>"))
      ∧ arguments.has .check = true ∧ arguments.has .list = false
      ∧ found.map (·.span) = [⟨12, 18⟩, ⟨21, 31⟩]
      ∧ ∃ checked : Completion, run files arguments = pure checked ∧ checked.code = 1 := by
  intro source files arguments found
  have hsettings : loadSettings files arguments.config = pure (.ok {}) := rfl
  have hinput : readInput files arguments.input = pure (.ok (source, "<stdin>")) :=
    readInput_standardInput rfl rfl
  obtain ⟨-, -, hspans, -, checked, hchecked, hcode, -⟩ :=
    check_points_at_what_stays hsettings hinput (by decide) (by decide)
  have hfound : found.map (·.span) = [⟨12, 18⟩, ⟨21, 31⟩] := by
    refine hspans.trans ?_
    decide +kernel
  have hsome : ¬ found.isEmpty = true := by
    intro hempty
    rw [List.isEmpty_iff.mp hempty] at hfound
    cases hfound
  exact ⟨hsettings, hinput, by decide, by decide, hfound, checked, hchecked,
    hcode.trans (if_neg hsome)⟩

end Command

end MessageTemplate
