import MarkupRules.Cli.Report
import MarkupRules.Validation.Validator

/-!
What a run of the command line does.

A `Program` reads files by request and ends with an outcome. It never prints before it
ends, so a run that stops early has printed nothing.
-/
namespace MarkupRules.Cli

/-- The content of a file. Its bytes can be counted in 64 bits. -/
structure Content where
  bytes : List UInt8
  length_lt : bytes.length < Nat.pow 2 64 := by decide
  deriving Repr, DecidableEq

/-- Bytes as the content of a file, if they can be counted in 64 bits. -/
def Content.ofBytes? (bytes : List UInt8) : Option Content :=
  if h : bytes.length < Nat.pow 2 64 then some ⟨bytes, h⟩ else none

/-- Why a file cannot be read. -/
inductive FileError where
  | notFound
  | permissionDenied
  /-- Denied as well, but as an operation that is not permitted. -/
  | notPermitted
  | notADirectory
  | isADirectory
  | nameTooLong
  /-- Another reason, as the system words it, with its number. -/
  | other (reason : String) (number : Nat)
  deriving Repr, DecidableEq

/-- The wording of a file error. -/
def FileError.message : FileError → String
  | notFound => "No such file or directory (os error 2)"
  | permissionDenied => "Permission denied (os error 13)"
  | notPermitted => "Operation not permitted (os error 1)"
  | notADirectory => "Not a directory (os error 20)"
  | isADirectory => "Is a directory (os error 21)"
  | nameTooLong => "File name too long (os error 36)"
  | other reason number => s!"{reason} (os error {number})"

/-- The reason with a number, as the system words it. -/
def FileError.ofNumber (number : Nat) (reason : String) : FileError :=
  match number with
  | 1 => notPermitted
  | 2 => notFound
  | 13 => permissionDenied
  | 20 => notADirectory
  | 21 => isADirectory
  | 36 => nameTooLong
  | _ => other reason number

/-- Whether the file is there but may not be read. -/
def FileError.isDenied : FileError → Bool
  | permissionDenied | notPermitted => true
  | _ => false

/-- How a run ends. -/
inductive ExitCode where
  | success
  | failure
  /-- The arguments were refused. -/
  | arguments
  | permissionDenied
  /-- A document was malformed or broke a rule. -/
  | dataInvalid
  /-- The schema cannot be used. -/
  | usage
  | internal
  deriving Repr, DecidableEq

/-- The number of an exit code. -/
def ExitCode.toNat : ExitCode → Nat
  | success => 0
  | failure => 1
  | arguments => 2
  | permissionDenied => 50
  | dataInvalid => 60
  | usage => 64
  | internal => 125

/-- The exit code of a file error. -/
def FileError.exitCode : FileError → ExitCode
  | notFound => .failure
  | permissionDenied | notPermitted => .permissionDenied
  | _ => .internal

/-- What a run leaves behind. -/
structure Outcome where
  exit : ExitCode
  /-- The lines of the standard output. -/
  lines : List String := []
  /-- The message of the standard error output. -/
  error : Option String := none
  deriving Repr, DecidableEq

/-- The text of the standard output. -/
def Outcome.stdout (o : Outcome) : String := String.join (o.lines.map (· ++ "\n"))

/-- A run that reads files on its way. -/
inductive Program where
  | finished (outcome : Outcome)
  | read (path : String) (next : Except FileError Content → Program)

namespace Program

/-- A run that stops with a message. -/
def stop (exit : ExitCode) (message : String) : Program :=
  .finished { exit, error := some message }

/-- The outcome where `files` holds what paths lead to. -/
def run (files : String → Except FileError Content) : Program → Outcome
  | finished outcome => outcome
  | read path next => run files (next (files path))

/-- The paths that are read, in order. -/
def pathsRead (files : String → Except FileError Content) : Program → List String
  | finished _ => []
  | read path next => path :: pathsRead files (next (files path))

end Program

/-- The number of bytes that are asked for under a limit: one more, so that a file that is too
large shows. The sum stays at the greatest number of 64 bits. -/
def askedFor (limit : Nat) : Nat := min (limit + 1) (Nat.pow 2 64 - 1)

/-- What is read of a file under a limit. -/
def readUnder (limit : Nat) (content : Content) : List UInt8 := content.bytes.take (askedFor limit)

/-- Reads a file of limited size. -/
def readBounded (path : String) (limit : Nat) (tooLarge : String → Program)
    (next : List UInt8 → Program) : Program :=
  .read path fun
    | .error e => .stop e.exitCode s!"{path}: {e.message}"
    | .ok content =>
      let bytes := readUnder limit content
      if limit < bytes.length then tooLarge s!"{path}: larger than {limit} bytes" else next bytes

/-- Reads a schema as text. What is wrong with its content is a problem of usage. -/
def readSchema (path : String) (limit : Nat) (next : String → Program) : Program :=
  readBounded path limit (fun message => .stop .usage s!"schema {message}") fun bytes =>
    match Text.decode bytes with
    | .ok text => next text
    | .error defect => .stop .usage s!"schema {path}: not a valid string: {defect.message}"

/-- A run that stops because a schema cannot be used. -/
def stopAtSchema (path : String) (e : Schema.Error) : Program :=
  .stop .usage s!"schema {path}: {e.message}"

/-- How markup is read under limits. -/
def Limits.options (limits : Limits) : Markup.Options := { maxDepth := limits.maxDepth }

/-- Validates documents and then writes the reports; `done` are those so far, last first. -/
def validateDocuments (format : Format) (schema : String) (limit : Nat) (v : Validator)
    (done : List DocumentReport) : List String → Program
  | [] =>
    let reports := done.reverse
    .finished
      { exit := if reports.all DocumentReport.isValid then .success else .dataInvalid
        lines := DocumentReport.lines format reports }
  | document :: rest =>
    let next (r : DocumentReport) := validateDocuments format schema limit v (r :: done) rest
    readBounded document limit (fun message => next { document, error := some message })
      fun bytes =>
        match v.validateBytes bytes with
        | .ok failures => next { document, failures }
        | .error (.markup e) => next { document, error := some e.message }
        | .error e => stopAtSchema schema e

/-- Validates documents against a schema. Checks that a schema asks for by name are not there for
the command line. -/
def validate (format : Format) (schema : String) (documents : List String) (denyUnknown : Bool)
    (boolean : Option (List String)) (limits : Limits) : Program :=
  readSchema schema limits.maxSize fun text =>
    let defaults : Validation.Configuration := {}
    let configuration : Validation.Configuration :=
      { unknownAllow := !denyUnknown, boolean := boolean.getD defaults.boolean,
        markup := limits.options }
    match Validator.ofSchema text configuration with
    | .error e => stopAtSchema schema e
    | .ok v =>
      match v.model.checks with
      | ref :: _ =>
        .stop .usage <| s!"schema {schema}: checkBy=" ++ s!"\"{ref.name}\" at {ref.path} " ++
          "needs a custom validator; use the library API"
      | [] => validateDocuments format schema limits.maxSize v [] documents

/-- The report on the content of a document. -/
def checkBytes (document : String) (mode : Markup.AttributeMode) (options : Markup.Options)
    (bytes : List UInt8) : CheckReport :=
  let result : Except Markup.Error Unit := match Text.decode bytes with
    | .error defect => .error (Markup.Error.notText defect)
    | .ok text => Markup.checkWellFormed text mode options
  match result with
  | .ok () => { document }
  | .error e => { document, error := some e.message, line := e.line? }

/-- Checks documents and then writes the reports; `done` are those so far, last first. -/
def checkDocuments (format : Format) (mode : Markup.AttributeMode) (limits : Limits)
    (done : List CheckReport) : List String → Program
  | [] =>
    let reports := done.reverse
    .finished
      { exit := if reports.all CheckReport.isWellFormed then .success else .dataInvalid
        lines := CheckReport.lines format reports }
  | document :: rest =>
    let next (r : CheckReport) := checkDocuments format mode limits (r :: done) rest
    readBounded document limits.maxSize (fun message => next { document, error := some message })
      fun bytes => next (checkBytes document mode limits.options bytes)

/-- Lists the rules of a schema. -/
def rules (format : Format) (schema : String) (limits : Limits) : Program :=
  readSchema schema limits.maxSize fun text =>
    match Schema.Model.compile text limits.options with
    | .error e => stopAtSchema schema e
    | .ok model =>
      .finished { exit := .success, lines := RuleReport.lines format (RuleReport.ofModel model) }

/-- The name and the version of the program. -/
def versionLine : String := "tagcheck 0.1.0"

/-- What is known about the build. -/
def buildLines : List String :=
  ["name: tagcheck", "version: 0.1.0",
    "types: " ++ ", ".intercalate (Schema.ValueType.all.map Schema.ValueType.name)]

/-- How the program is called. -/
def usageLines : List String :=
  ["Usage: tagcheck [OPTIONS] <COMMAND>", "",
    "Commands:",
    "  validate  Validate documents against a schema",
    "  check     Check documents for well-formedness only",
    "  rules     Print the compiled rules of a schema",
    "  version   Show version information"]

/-- The run of a command. -/
def Command.program (format : Format) : Command → Program
  | .validate schema documents denyUnknown boolean limits =>
    Cli.validate format schema documents denyUnknown boolean limits
  | .check documents strictAttributes limits =>
    checkDocuments format (if strictAttributes then .strict else .boolean) limits [] documents
  | .rules schema limits => Cli.rules format schema limits
  | .version extended =>
    .finished { exit := .success, lines := if extended then buildLines else [versionLine] }

/-- The run that arguments ask for. On a terminal a table is the format of those that name
none. -/
def program (onTerminal : Bool) (env : Environment) (args : List String) : Program :=
  match readArguments env args with
  | .refused => .stop .arguments "unusable arguments"
  | .help => .finished { exit := .success, lines := usageLines }
  | .version => .finished { exit := .success, lines := [versionLine] }
  | .invoke i => i.command.program (i.format.getD (if onTerminal then .table else .json))

end MarkupRules.Cli
