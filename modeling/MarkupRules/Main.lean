import MarkupRules.Cli.Program

/-!
The command line.
-/
namespace MarkupRules.Cli

/-- What the system says about a file that cannot be read. Every error that comes from the system
has a number, which decides; those of the runtime itself have none. -/
def fileError : IO.Error → FileError
  | .alreadyExists _ number reason | .otherError number reason | .resourceBusy number reason
  | .resourceVanished number reason | .unsupportedOperation number reason
  | .hardwareFault number reason | .unsatisfiedConstraints number reason
  | .illegalOperation number reason | .protocolError number reason | .timeExpired number reason
  | .interrupted _ number reason | .noFileOrDirectory _ number reason
  | .invalidArgument _ number reason | .permissionDenied _ number reason
  | .resourceExhausted _ number reason | .inappropriateType _ number reason
  | .noSuchThing _ number reason => .ofNumber number.toNat reason
  | .unexpectedEof => .other "unexpected end of file" 0
  | .userError reason => .other reason 0

/-- Reads a file. -/
def readFile (path : String) : IO (Except FileError Content) := do
  try
    let bytes ← IO.FS.withFile path .read fun handle => handle.readBinToEnd
    match Content.ofBytes? bytes.toList with
    | some content => return .ok content
    | none => return .error (.other "File too large" 27)
  catch e => return .error (fileError e)

/-- Runs a program on the files of the system. -/
def perform : Program → IO Outcome
  | .finished outcome => return outcome
  | .read path next => do
    let content ← readFile path
    perform (next content)

/-- Runs the command that the arguments name and returns the exit code. -/
def runArguments (args : List String) : IO UInt32 := do
  let env : Environment :=
    { schema := ← IO.getEnv "TAGCHECK_SCHEMA", logLevel := ← IO.getEnv "TAGCHECK_LOG_LEVEL" }
  let onTerminal ← (← IO.getStdout).isTty
  let outcome ← perform (program onTerminal env args)
  IO.print outcome.stdout
  if let some message := outcome.error then
    IO.eprintln ("error: " ++ message)
  return outcome.exit.toNat.toUInt32

end MarkupRules.Cli

/-- The program. -/
def main (args : List String) : IO UInt32 := MarkupRules.Cli.runArguments args
