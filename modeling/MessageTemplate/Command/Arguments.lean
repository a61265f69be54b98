/-!
The arguments of the command line. They are read from left to right, and reading stops at the first
one that is wrong or asks for help; whether the given options go together is looked at last.
-/

namespace MessageTemplate.Command

/-- Options without a value. -/
inductive Flag where
  | noPlayer
  | strip
  | revert
  | check
  | list
  | debug
  deriving DecidableEq, Repr

/-- Options with a value. -/
inductive Setting where
  | config
  | gradient
  | wordGradient
  deriving DecidableEq, Repr

/-- Everything that can be given by name. -/
inductive Choice where
  | help
  | flag (flag : Flag)
  | setting (setting : Setting)
  deriving DecidableEq, Repr

/-- What the arguments say. A gradient's colors add up over its occurrences. -/
structure Arguments where
  input : Option String := none
  config : Option String := none
  gradient : List String := []
  wordGradient : List String := []
  flags : List Flag := []
  deriving DecidableEq, Repr

/-- What can be wrong with arguments. -/
inductive UsageError where
  | unknownOption (name : String)
  | unexpectedArgument (argument : String)
  | missingValue (setting : Setting)
  | emptyValue (name : String)
  | unwantedValue (name value : String)
  | repeated (name : String)
  | conflict (first second : String)
  deriving DecidableEq, Repr

/-- Why reading stops before the end. -/
inductive Interruption where
  | help
  | misuse (error : UsageError)
  deriving DecidableEq, Repr

/-- A flag's name. -/
def Flag.name : Flag → String
  | .noPlayer => "--no-player"
  | .strip => "--strip"
  | .revert => "--revert"
  | .check => "--check"
  | .list => "--list"
  | .debug => "--debug"

/-- A setting's name. -/
def Setting.name : Setting → String
  | .config => "--config"
  | .gradient => "--gradient"
  | .wordGradient => "--word-gradient"

/-- The wording of an error. -/
def UsageError.message : UsageError → String
  | .unknownOption name => "unexpected option '" ++ name ++ "'"
  | .unexpectedArgument argument => "unexpected argument '" ++ argument ++ "'"
  | .missingValue setting => "a value is required for '" ++ setting.name ++ "'"
  | .emptyValue name => "the value of '" ++ name ++ "' must not be empty"
  | .unwantedValue name value => "unexpected value '" ++ value ++ "' for '" ++ name ++ "'"
  | .repeated name => "'" ++ name ++ "' cannot be used more than once"
  | .conflict first second => "'" ++ first ++ "' cannot be used with '" ++ second ++ "'"

/-- The choice that two dashes and a name stand for. -/
def longChoice? : String → Option Choice
  | "help" => some .help
  | "config" => some (.setting .config)
  | "gradient" => some (.setting .gradient)
  | "word-gradient" => some (.setting .wordGradient)
  | "no-player" => some (.flag .noPlayer)
  | "strip" => some (.flag .strip)
  | "revert" => some (.flag .revert)
  | "check" => some (.flag .check)
  | "list" => some (.flag .list)
  | "debug" => some (.flag .debug)
  | _ => none

/-- The choice that a dash and a letter stand for. -/
def shortChoice? : Char → Option Choice
  | 'h' => some .help
  | 'c' => some (.setting .config)
  | 'l' => some (.flag .list)
  | 'd' => some (.flag .debug)
  | _ => none

namespace Arguments

/-- Whether a flag is given. -/
def has (arguments : Arguments) (flag : Flag) : Bool :=
  arguments.flags.contains flag

/-- Adds a flag, which can be given once. -/
def addFlag (arguments : Arguments) (flag : Flag) : Except UsageError Arguments :=
  if arguments.has flag then .error (.repeated flag.name)
  else .ok { arguments with flags := arguments.flags ++ [flag] }

/-- The colors of a list: what stands before, between and after its commas. -/
def colorsOf (value : String) : List String :=
  value.splitOn ","

/-- Adds a setting's value. -/
def addSetting (arguments : Arguments) (setting : Setting) (value : String) :
    Except UsageError Arguments :=
  match setting with
  | .config =>
    if arguments.config.isSome then .error (.repeated setting.name)
    else if value.isEmpty then .error (.emptyValue setting.name)
    else .ok { arguments with config := some value }
  | .gradient => .ok { arguments with gradient := arguments.gradient ++ colorsOf value }
  | .wordGradient => .ok { arguments with wordGradient := arguments.wordGradient ++ colorsOf value }

/-- Takes an argument as the input file, of which there can be one. -/
def addInput (arguments : Arguments) (file : String) : Except UsageError Arguments :=
  if arguments.input.isSome then .error (.unexpectedArgument file)
  else if file.isEmpty then .error (.emptyValue "INPUT")
  else .ok { arguments with input := some file }

/-- What is left to do when letters behind a dash have been read. -/
inductive Pending where
  | nothing
  | value (setting : Setting)

/-- Reads the letters behind a dash. One that takes a value takes the remaining ones as its value; an
equals sign before them is left out. When none remain, the value is the next argument. -/
def readLetters (arguments : Arguments) : List Char → Except Interruption (Arguments × Pending)
  | [] => .ok (arguments, .nothing)
  | c :: rest =>
    match shortChoice? c with
    | none => .error (.misuse (.unknownOption (String.ofList ['-', c])))
    | some .help => .error .help
    | some (.flag flag) =>
      match arguments.addFlag flag with
      | .error error => .error (.misuse error)
      | .ok arguments => readLetters arguments rest
    | some (.setting setting) =>
      let attached (value : List Char) :=
        match arguments.addSetting setting (String.ofList value) with
        | .error error => .error (.misuse error)
        | .ok arguments => .ok (arguments, .nothing)
      match rest with
      | [] => .ok (arguments, .value setting)
      | '=' :: value => attached value
      | value => attached value

/-- Reads an option by its name, with the value behind its equals sign if there is one. -/
def readName (arguments : Arguments) (name : List Char) (value : Option (List Char)) :
    Except Interruption (Arguments × Pending) :=
  let written := "--" ++ String.ofList name
  match longChoice? (String.ofList name), value with
  | none, _ => .error (.misuse (.unknownOption written))
  | some (.setting setting), none => .ok (arguments, .value setting)
  | some (.setting setting), some value =>
    match arguments.addSetting setting (String.ofList value) with
    | .error error => .error (.misuse error)
    | .ok arguments => .ok (arguments, .nothing)
  | some _, some value => .error (.misuse (.unwantedValue written (String.ofList value)))
  | some .help, none => .error .help
  | some (.flag flag), none =>
    match arguments.addFlag flag with
    | .error error => .error (.misuse error)
    | .ok arguments => .ok (arguments, .nothing)

/-- Reads an argument that does not stand behind two dashes alone. A dash alone is a file. -/
def readOne (arguments : Arguments) (argument : String) :
    Except Interruption (Arguments × Pending) :=
  match argument.toList with
  | '-' :: '-' :: cs =>
    let value := match cs.dropWhile (· != '=') with
      | _ :: value => some value
      | [] => none
    arguments.readName (cs.takeWhile (· != '=')) value
  | '-' :: c :: cs => arguments.readLetters (c :: cs)
  | _ =>
    match arguments.addInput argument with
    | .error error => .error (.misuse error)
    | .ok arguments => .ok (arguments, .nothing)

/-- Whether an argument begins like an option, so that it cannot be the value of one. -/
def looksLikeOption (argument : String) : Bool :=
  match argument.toList with
  | '-' :: _ :: _ => true
  | _ => false

/-- Reads arguments from left to right. Behind two dashes alone, all are files. -/
def readAll (arguments : Arguments) : List String → Except Interruption Arguments
  | [] => .ok arguments
  | argument :: rest =>
    if argument = "--" then
      match rest.foldlM addInput arguments with
      | .error error => .error (.misuse error)
      | .ok arguments => .ok arguments
    else
      match arguments.readOne argument with
      | .error interruption => .error interruption
      | .ok (arguments, .nothing) => readAll arguments rest
      | .ok (arguments, .value setting) =>
        match rest with
        | [] => .error (.misuse (.missingValue setting))
        | value :: rest =>
          if looksLikeOption value then .error (.misuse (.missingValue setting))
          else match arguments.addSetting setting value with
            | .error error => .error (.misuse error)
            | .ok arguments => readAll arguments rest

/-- Options that exclude one another. -/
def compatible (arguments : Arguments) : Except UsageError Unit :=
  if arguments.has .strip && arguments.has .revert then
    .error (.conflict (Flag.name .revert) (Flag.name .strip))
  else if !arguments.gradient.isEmpty && !arguments.wordGradient.isEmpty then
    .error (.conflict (Setting.name .wordGradient) (Setting.name .gradient))
  else .ok ()

/-- Reads a command line. -/
def read (command : List String) : Except Interruption Arguments :=
  match readAll {} command with
  | .error interruption => .error interruption
  | .ok arguments =>
    match arguments.compatible with
    | .error error => .error (.misuse error)
    | .ok () => .ok arguments

end Arguments

/-- What the command can do, for its user. -/
def helpText : String :=
  "Expand \x7bplaceholder\x7d tokens in game-server messages

Usage: placeholder-api [OPTIONS] [INPUT]

Arguments:
  [INPUT]  Input file, one message per line (reads from stdin if not provided)

Options:
  -c, --config <CONFIG>         Configuration file (TOML format)
      --no-player               Parse without a player context
      --strip                   Remove format codes from the output
      --revert                  Turn format codes in the output back into \x7bcolor\x7d tokens
      --gradient <COLORS>       Color each character of the output, e.g. --gradient red,gold,yellow
      --word-gradient <COLORS>  Color each word of the output
      --check                   Report tokens that would stay unresolved and exit non-zero if any
  -l, --list                    List registered placeholders
  -d, --debug                   Debug logging
  -h, --help                    Print help
"

/-- What is shown to a user who starts the command at a terminal without a text to work on. -/
def introText : String :=
  "Placeholder API - expand \x7bplaceholder\x7d tokens in game-server messages

USAGE:
    placeholder-api [OPTIONS] [FILE]
    echo '<message>' | placeholder-api

OPTIONS:
    -c, --config <FILE>       Colors, text placeholders, preview player/server (TOML)
    --no-player               Parse without a player context
    --strip                   Remove format codes from the output
    --revert                  Turn format codes back into \x7bcolor\x7d tokens
    --gradient <COLORS>       Per-character gradient, e.g. red,gold,yellow
    --word-gradient <COLORS>  Per-word gradient
    --check                   Report unresolved tokens
    -l, --list                List registered placeholders
    -d, --debug               Debug logging
    -h, --help                Print help

SYNTAX:
    \x7bidentifier\x7d             e.g. \x7bplayer\x7d, \x7bserver_online\x7d, \x7bred\x7d
    \x7bidentifier:params\x7d      only for placeholders that accept parameters

QUICK START:
    echo '\x7bgold\x7d\x7bplayer\x7d\x7breset\x7d joined (\x7bserver_online\x7d/\x7bserver_max\x7d)' | placeholder-api
"

end MessageTemplate.Command
