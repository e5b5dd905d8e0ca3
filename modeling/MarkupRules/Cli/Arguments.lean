import MarkupRules.Schema.Constraints

/-!
The arguments of the command line.

Arguments are options for all commands, the name of a command, and then options and
documents of that command. An option stands at most once before the command and at most
once behind it; what stands behind it counts. The sizes of files have units, such as `512KiB`.
-/
namespace MarkupRules.Cli

/-- How results are written. -/
inductive Format where
  | json
  | table
  | pretty
  | raw
  deriving Repr, DecidableEq

/-- The format with a name. -/
def Format.ofName? : String → Option Format
  | "json" => some json
  | "table" => some table
  | "pretty" => some pretty
  | "raw" => some raw
  | _ => none

/-- The number of bytes in a unit. -/
def unitBytes? (unit : String) : Option Nat :=
  match unit with
  | "" | "B" => some 1
  | "K" | "KB" | "KiB" => some 1024
  | "M" | "MB" | "MiB" => some (1024 * 1024)
  | "G" | "GB" | "GiB" => some (1024 * 1024 * 1024)
  | _ => none

/-- A positive size of 64 bits: digits and a unit, with blanks around each. -/
def size? (s : String) : Option Nat := do
  let (digits, unit) := Number.spanDigits (Text.trim s.toList)
  let n := Number.digitsValue digits
  let scale ← unitBytes? (String.ofList (Text.trim unit))
  if digits.isEmpty || Nat.pow 2 64 ≤ n || n * scale = 0 || Nat.pow 2 64 ≤ n * scale then none
  else some (n * scale)

/-- The limits for every file. -/
structure Limits where
  maxDepth : Option Nat := none
  /-- The greatest size in bytes. -/
  maxSize : Nat := 16 * 1024 * 1024
  deriving Repr, DecidableEq

/-- What is to be done. -/
inductive Command where
  | validate (schema : String) (documents : List String) (denyUnknown : Bool)
      (boolean : Option (List String)) (limits : Limits)
  | check (documents : List String) (strictAttributes : Bool) (limits : Limits)
  | rules (schema : String) (limits : Limits)
  | version (extended : Bool)
  deriving Repr, DecidableEq

/-- A command together with the format of its output, if one was asked for. -/
structure Invocation where
  format : Option Format
  command : Command
  deriving Repr, DecidableEq

/-- What arguments come to. -/
inductive Request where
  | refused
  | help
  | version
  | invoke (invocation : Invocation)
  deriving Repr, DecidableEq

/-- The options. -/
inductive Opt where
  | format
  | logFormat
  | logLevel
  | schema
  | denyUnknown
  | boolean
  | strictAttributes
  | maxDepth
  | maxSize
  | extended
  deriving Repr, DecidableEq

namespace Opt

/-- The name of an option behind two hyphens. -/
def name : Opt → String
  | format => "format"
  | logFormat => "log-format"
  | logLevel => "log-level"
  | schema => "schema"
  | denyUnknown => "deny-unknown"
  | boolean => "boolean"
  | strictAttributes => "strict-attributes"
  | maxDepth => "max-depth"
  | maxSize => "max-size"
  | extended => "extended"

/-- Whether an option has a value. -/
def hasValue : Opt → Bool
  | denyUnknown | strictAttributes | extended => false
  | _ => true

/-- Whether an option may stand several times. -/
def mayRepeat : Opt → Bool
  | boolean => true
  | _ => false

/-- Whether an option can have a value. -/
def accepts (o : Opt) (value : String) : Bool :=
  match o with
  | format => (Format.ofName? value).isSome
  | logFormat => ["text", "json"].contains value
  | logLevel => ["error", "warn", "info", "debug", "trace"].contains value
  | schema => !value.isEmpty
  | maxDepth => !(value.toList.any Text.isBlank) && (Schema.count? value).isSome
  | maxSize => (size? value).isSome
  | boolean => true
  | denyUnknown | strictAttributes | extended => false

/-- The options for all commands. -/
def common : List Opt := [format, logFormat, logLevel]

end Opt

/-- The commands by name. -/
inductive CommandName where
  | validate
  | check
  | rules
  | version
  deriving Repr, DecidableEq

namespace CommandName

/-- The command with a name. -/
def ofName? : String → Option CommandName
  | "validate" => some validate
  | "check" => some check
  | "rules" => some rules
  | "version" => some version
  | _ => none

/-- The options of a command, besides those for all. -/
def options : CommandName → List Opt
  | validate => [.schema, .denyUnknown, .boolean, .maxDepth, .maxSize]
  | check => [.strictAttributes, .maxDepth, .maxSize]
  | rules => [.schema, .maxDepth, .maxSize]
  | version => [.extended]

/-- Whether a command takes documents. -/
def takesDocuments : CommandName → Bool
  | validate | check => true
  | rules | version => false

end CommandName

/-- What was gathered on one side of the command's name. -/
structure Gathered where
  /-- The options with their values, in order; an option without value has an empty one. -/
  options : List (Opt × String) := []
  documents : List String := []
  deriving Repr, DecidableEq

namespace Gathered

/-- The last value of an option. -/
def value? (g : Gathered) (o : Opt) : Option String := g.options.reverse.lookup o

/-- All values of an option. -/
def values (g : Gathered) (o : Opt) : List String :=
  (g.options.filter (·.1 == o)).map Prod.snd

/-- Whether an option is there. -/
def has (g : Gathered) (o : Opt) : Bool := (g.value? o).isSome

/-- Adds an option, if it may stand here with this value. -/
def addOption? (g : Gathered) (o : Opt) (value : String) : Option Gathered :=
  if g.has o && !o.mayRepeat then none
  else if o.hasValue && !o.accepts value then none
  else some { g with options := g.options ++ [(o, value)] }

/-- Adds a document. -/
def addDocument (g : Gathered) (document : String) : Gathered :=
  { g with documents := g.documents ++ [document] }

end Gathered

/-- One argument by its form. -/
inductive Argument where
  /-- The two hyphens behind which nothing is an option. -/
  | separator
  /-- An option by its name, perhaps with a value behind `=`. -/
  | long (name : String) (value : Option String)
  /-- An option by its letter, and what is written behind the letter. -/
  | short (letter : Char) (rest : List Char)
  | plain (text : String)
  deriving Repr, DecidableEq

/-- The form of an argument. A single hyphen is plain. -/
def Argument.ofString (s : String) : Argument :=
  match s.toList with
  | ['-', '-'] => separator
  | '-' :: '-' :: rest =>
    let name := String.ofList (rest.takeWhile (· != '='))
    match rest.dropWhile (· != '=') with
    | _ :: value => long name (some (String.ofList value))
    | [] => long name none
  | '-' :: letter :: rest => short letter rest
  | _ => plain s

/-- The value written behind the letter of an option. -/
def attachedValue? : List Char → Option String
  | [] => none
  | '=' :: value => some (String.ofList value)
  | value => some (String.ofList value)

/-- What reading the arguments of a level leads to. -/
inductive Level where
  | refused
  | help
  | version
  /-- All arguments were read. -/
  | ended (g : Gathered)
  /-- A plain argument came where no documents may stand: the name of a command. -/
  | command (g : Gathered) (name : String) (rest : List String)

/-- The value of an option and the arguments behind it. A value of its own must not look like an
option. -/
def takeValue? (attached : Option String) (rest : List String) :
    Option (String × List String) :=
  match attached, rest with
  | some value, rest => some (value, rest)
  | none, [] => none
  | none, value :: rest =>
    match Argument.ofString value with
    | .plain value => some (value, rest)
    | _ => none

/-- Reads the arguments of a level: `known` are its options, `atTop` says whether it is the one in
front of the command, and `trailing` that the separator came. Each step takes at least one
argument, so `fuel` is their number. -/
def readLevel (known : List Opt) (atTop takesDocuments : Bool) :
    Nat → Bool → Gathered → List String → Level
  | 0, _, g, _ => .ended g
  | _, _, g, [] => .ended g
  | fuel + 1, trailing, g, s :: rest =>
    let next := readLevel known atTop takesDocuments fuel
    let plain : Level :=
      if takesDocuments then
        if s.isEmpty then .refused else next trailing (g.addDocument s) rest
      else if atTop && !trailing then .command g s rest
      else .refused
    let withOption (o : Opt) (attached : Option String) : Level :=
      if o.hasValue then
        match takeValue? attached rest with
        | none => .refused
        | some (value, rest) =>
          match g.addOption? o value with
          | some g => next trailing g rest
          | none => .refused
      else if attached.isSome then .refused
      else match g.addOption? o "" with
        | some g => next trailing g rest
        | none => .refused
    if trailing then plain
    else match Argument.ofString s with
      | .separator => next true g rest
      | .plain _ => plain
      | .long "help" none => .help
      | .long name attached =>
        if atTop && name == "version" && attached.isNone then .version
        else match known.find? (·.name == name) with
          | some o => withOption o attached
          | none => .refused
      | .short 'h' _ => .help
      | .short letter more =>
        if atTop && letter == 'V' then .version
        else if letter == 's' && known.contains .schema then
          withOption .schema (attachedValue? more)
        else .refused

/-- The variables of the environment that arguments fall back to. -/
structure Environment where
  /-- The schema. -/
  schema : Option String := none
  /-- The level of the log. -/
  logLevel : Option String := none
  deriving Repr, DecidableEq

/-- The limits that options set. -/
def Gathered.limits (g : Gathered) : Limits :=
  { maxDepth := (g.value? .maxDepth).bind Schema.count?
    maxSize := ((g.value? .maxSize).bind size?).getD ({} : Limits).maxSize }

/-- The schema that options or the environment name. -/
def Gathered.schema? (g : Gathered) (env : Environment) : Option String :=
  ((g.value? .schema).or env.schema).filter (!·.isEmpty)

/-- The texts of the type boolean that options name. -/
def Gathered.boolean? (g : Gathered) : Option (List String) :=
  if g.has .boolean then some ((g.values .boolean).flatMap (·.splitOn ",")) else none

/-- The command with the given arguments, if all are there that it needs. -/
def commandOf? (env : Environment) (name : CommandName) (g : Gathered) : Option Command :=
  match name with
  | .validate =>
    (g.schema? env).bind fun schema =>
      if g.documents.isEmpty then none
      else some (.validate schema g.documents (g.has .denyUnknown) g.boolean? g.limits)
  | .check =>
    if g.documents.isEmpty then none
    else some (.check g.documents (g.has .strictAttributes) g.limits)
  | .rules => (g.schema? env).map (.rules · g.limits)
  | .version => some (.version (g.has .extended))

/-- Reads the arguments behind the name of a command. -/
def readCommand (env : Environment) (top : Gathered) (name : CommandName) (args : List String) :
    Request :=
  let known := Opt.common ++ name.options
  match readLevel known false name.takesDocuments args.length false {} args with
  | .refused | .command .. => .refused
  | .help => .help
  | .version => .version
  | .ended g =>
    let logLevel := (g.value? .logLevel).or ((top.value? .logLevel).or env.logLevel)
    if !logLevel.all Opt.logLevel.accepts then .refused
    else match commandOf? env name g with
      | none => .refused
      | some command =>
        .invoke ⟨((g.value? .format).or (top.value? .format)).bind Format.ofName?, command⟩

/-- Reads the arguments. -/
def readArguments (env : Environment) (args : List String) : Request :=
  match readLevel Opt.common true false args.length false {} args with
  | .refused | .ended _ => .refused
  | .help => .help
  | .version => .version
  | .command top name rest =>
    match CommandName.ofName? name with
    | some name => readCommand env top name rest
    | none => if name = "help" then .help else .refused

end MarkupRules.Cli
