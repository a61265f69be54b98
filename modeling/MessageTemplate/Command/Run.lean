import MessageTemplate.Command.Arguments
import MessageTemplate.Engine
import MessageTemplate.Report
import MessageTemplate.Settings.Load
import MessageTemplate.Text.Lines

/-!
What the command does. It reads settings, prepares an engine, and then lists the placeholders, checks
a text or expands it line by line. Files are read through functions that are given to it, so the
command is the same for files on a disk and for files that are only imagined. At a terminal there is
no text to wait for unless a file is named: then the command introduces itself and ends.
-/

namespace MessageTemplate

/-- The span of a diagnostic found in a part of a text, seen from the start of the text. -/
def Diagnostic.shift (d : Diagnostic) (offset : Nat) : Diagnostic :=
  { d with span := d.span.shift offset }

namespace Command

/-- Why a file cannot be read. -/
inductive ReadError where
  | notFound
  | isDirectory
  | notText
  | other (message : String)
  deriving DecidableEq, Repr

/-- The wording of an error. -/
def ReadError.message : ReadError → String
  | .notFound => "No such file or directory (os error 2)"
  | .isDirectory => "Is a directory (os error 21)"
  | .notText => "stream did not contain valid UTF-8"
  | .other message => message

/-- Where the command reads from. -/
structure Files (m : Type → Type) where
  read : String → m (Except ReadError ByteArray)
  standardInput : m (Except ReadError ByteArray)
  /-- Whether the standard input is a terminal. -/
  interactive : Bool := false

/-- Why there is no text to work on. -/
inductive NoInput where
  /-- No file is named, and the standard input is a terminal. -/
  | terminal
  | unreadable (message : String)
  deriving DecidableEq, Repr

/-- How a run of the command ends: its exit code, what it has written, and the events it has logged. -/
structure Completion where
  code : Nat
  output : String := ""
  errors : String := ""
  log : List Event := []

/-- The text that bytes encode. -/
def decode : Except ReadError ByteArray → Except ReadError String
  | .error error => .error error
  | .ok bytes =>
    match String.fromUTF8? bytes with
    | some text => .ok text
    | none => .error .notText

/-- A text of lines, each with a line end. -/
def unlines (lines : List String) : String :=
  String.join (lines.map (· ++ "\n"))

/-- Checks a text line by line. Each line is a message of its own, so no token goes on over a line end;
but what is found is reported on the text as a whole, and so its spans are moved to count from the start
of the text. Lines are checked in order in one world, and what handlers do for one line is there for the
next. -/
def checkLines (player : Option Player) (levels : Nat) :
    List Text.Line → Run Unit Player (List Diagnostic)
  | [] => return []
  | line :: rest => do
    let found ← check player levels line.text
    let more ← checkLines player levels rest
    return found.map (·.shift line.offset) ++ more

/-- What is done with a line once it is expanded: a gradient first, then the removal or the reversion
of format codes. -/
def finish (arguments : Arguments) (palette : Palette) (line : String) : String :=
  let colored :=
    if !arguments.gradient.isEmpty then palette.characterGradient arguments.gradient line
    else palette.wordGradient arguments.wordGradient line
  if arguments.has .strip then stripFormatting colored
  else if arguments.has .revert then palette.revert colored
  else colored

/-- An engine with all default placeholders, for the server of the settings or else the standard one. -/
def prepare (settings : Settings) : Engine Unit :=
  ((Session.init (settings.server.getD {})).run (.ofSettings settings ())).2

/-- The player that messages are for: that of the settings or else the standard one, unless there is to be
none. -/
def playerFor (arguments : Arguments) (settings : Settings) : Option Player :=
  if arguments.has .noPlayer then none else some (settings.player.getD {})

/-- Lists the identifiers of the placeholders. -/
def listPlaceholders (engine : Engine Unit) : Completion where
  code := 0
  output := unlines engine.world.registry.identifiers
  log := engine.world.log.toList

/-- Reports the tokens of a text that would stay as they are; that there are any is a failure. Reports go
to the errors and show the whole text, though each token was found in its line. -/
def checkText (engine : Engine Unit) (player : Option Player) (source filename : String) :
    Completion :=
  let (found, world) := (checkLines player engine.maxDepth (Text.lines source)).run engine.world
  let reports := String.join (found.map (·.report source filename))
  let summary :=
    if found.isEmpty then "" else toString found.length ++ " unresolved placeholder(s)\n"
  { code := if found.isEmpty then 0 else 1
    errors := reports ++ summary
    log := world.log.toList }

/-- Expands a text line by line. Whatever ended a line in the text, a line feed ends it in the output, also
the last one. -/
def expandText (engine : Engine Unit) (arguments : Arguments) (player : Option Player)
    (source : String) : Completion :=
  let (lines, world) :=
    (expandAll player engine.maxDepth ((Text.lines source).map (·.text))).run engine.world
  { code := 0
    output := unlines (lines.map (finish arguments engine.palette))
    log := world.log.toList }

/-- Ends with an error. -/
def failed (message : String) : Completion where
  code := 1
  errors := message ++ "\n"

variable {m : Type → Type} [Monad m]

/-- Reads the settings from the file that is named for them. They are checked there; the standard settings,
which hold where no file is named, need no check. -/
def loadSettings (files : Files m) : Option String → m (Except LoadError Settings)
  | none => return .ok {}
  | some path => do
    match decode (← files.read path) with
    | .error error => return .error (.unreadable error.message)
    | .ok source => return Settings.load source

/-- Reads the text to work on, and gives it with the name that reports use for it. A terminal is not
read from. -/
def readInput (files : Files m) : Option String → m (Except NoInput (String × String))
  | some path => do
    match decode (← files.read path) with
    | .error error =>
      return .error (.unreadable ("Error reading file '" ++ path ++ "': " ++ error.message))
    | .ok source => return .ok (source, path)
  | none => do
    if files.interactive then return .error .terminal
    match decode (← files.standardInput) with
    | .error error => return .error (.unreadable ("Error reading from stdin: " ++ error.message))
    | .ok source => return .ok (source, "<stdin>")

/-- Does what the arguments say. A text is looked for only if the placeholders are not to be listed; what
was logged before it could not be read is logged all the same. -/
def run (files : Files m) (arguments : Arguments) : m Completion := do
  match ← loadSettings files arguments.config with
  | .error error =>
    let path := arguments.config.getD ""
    return failed ("Error loading config '" ++ path ++ "': " ++ error.message)
  | .ok settings =>
    let engine := prepare settings
    if arguments.has .list then return listPlaceholders engine
    match ← readInput files arguments.input with
    | .error .terminal =>
      return { code := 0, output := introText, log := engine.world.log.toList }
    | .error (.unreadable message) =>
      return { failed message with log := engine.world.log.toList }
    | .ok (source, filename) =>
      let player := playerFor arguments settings
      if arguments.has .check then return checkText engine player source filename
      return expandText engine arguments player source

/-- Reads a command line and does what it says. -/
def execute (files : Files m) (command : List String) : m Completion := do
  match Arguments.read command with
  | .error .help => return { code := 0, output := helpText }
  | .error (.misuse error) => return { code := 2, errors := "error: " ++ error.message ++ "\n" }
  | .ok arguments => run files arguments

end Command

end MessageTemplate
