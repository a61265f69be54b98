import MessageTemplate.Command.Run

/-!
The command line: reads files and writes what the command answers.
-/

namespace MessageTemplate.Command

/-- What went wrong when a file was read. -/
def readErrorOf : IO.Error → ReadError
  | .noFileOrDirectory .. => .notFound
  | .noSuchThing .. => .notFound
  | .inappropriateType .. => .isDirectory
  | error => .other (toString error)

/-- Reads bytes and turns an exception into an error. -/
def attempt (action : IO ByteArray) : IO (Except ReadError ByteArray) := do
  try
    return .ok (← action)
  catch error => return .error (readErrorOf error)

/-- Reads a stream to its end. -/
partial def readToEnd (stream : IO.FS.Stream) (bytes : ByteArray) : IO ByteArray := do
  let more ← stream.read 65536
  if more.isEmpty then return bytes
  readToEnd stream (bytes ++ more)

/-- The files on the disk and the standard input. -/
def diskFiles (interactive : Bool) : Files IO where
  read path := attempt (IO.FS.readBinFile path)
  standardInput := attempt do readToEnd (← IO.getStdin) .empty
  interactive := interactive

/-- An event as a line of the log. -/
def eventLine (event : Event) : String :=
  let fields := event.fields.map fun (name, value) => " " ++ name ++ "=" ++ value
  "DEBUG " ++ event.message ++ String.join fields

end MessageTemplate.Command

open MessageTemplate.Command in
/-- Runs the command. The log is shown on request. -/
def main (command : List String) : IO UInt32 := do
  let completion ← execute (diskFiles (← (← IO.getStdin).isTty)) command
  let debug := match Arguments.read command with
    | .ok arguments => arguments.has .debug
    | .error _ => false
  if debug then
    (← IO.getStderr).putStr (unlines (completion.log.map eventLine))
  (← IO.getStdout).putStr completion.output
  (← IO.getStderr).putStr completion.errors
  return completion.code.toUInt32
