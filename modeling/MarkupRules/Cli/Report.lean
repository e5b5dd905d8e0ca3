import MarkupRules.Cli.Arguments
import MarkupRules.Cli.Table
import MarkupRules.Schema.Model
import MarkupRules.Validation.Failure

/-!
What the commands report, and how it is written in each format.
-/
namespace MarkupRules.Cli

/-- A member of a record that may be absent. -/
def optionalMember (name : String) (value : Option Json) : List (String × Json) :=
  (value.map (name, ·)).toList

/-- The text of a value that may be absent. -/
def orEmpty (s : Option String) : String := s.getD ""

/-- The lines of records. -/
def jsonLines (records : List Json) : List String := records.map Json.text

/-- The result of validating one document. -/
structure DocumentReport where
  document : String
  /-- Why the document could not be validated at all. -/
  error : Option String := none
  failures : List Failure := []

namespace DocumentReport

/-- Whether the document is without fault. -/
def isValid (r : DocumentReport) : Bool := r.error.isNone && r.failures.isEmpty

/-- A report as a record. -/
def toJson (r : DocumentReport) : Json :=
  .object ([("document", .string r.document), ("valid", .bool r.isValid)] ++
    optionalMember "error" (r.error.map .string) ++
    [("failures", .array (r.failures.map Failure.toJson))])

/-- The text of a cell: a string without its quotes, or else a value as it is written. -/
def cell (value : Option Json) (fallback : Option String) : String :=
  match value with
  | some (.string s) => s
  | some value => value.text
  | none => orEmpty fallback

/-- The rows of a report. -/
def rows (r : DocumentReport) : List (List String) :=
  let summary := match r.error with
    | some error => [[r.document, "error", "", error, ""]]
    | none => if r.isValid then [[r.document, "ok", "", "", ""]] else []
  summary ++ r.failures.map fun f =>
    [r.document, f.code, f.path, cell f.actual f.value, cell f.expected none]

/-- The lines of a report for readers. -/
def prettyLines (r : DocumentReport) : List String :=
  match r.error, r.failures with
  | some error, _ => [s!"{r.document}: error: {error}"]
  | none, [] => [s!"{r.document}: ok"]
  | none, failures =>
    s!"{r.document}: {failures.length} failure(s)" :: failures.map fun f => s!"  {f.text}"

/-- The lines of a report for programs. -/
def rawLines (r : DocumentReport) : List String :=
  r.failures.map fun f => s!"{r.document}\t{f.path}\t{f.code}"

/-- The lines of reports. -/
def lines (format : Format) (reports : List DocumentReport) : List String :=
  match format with
  | .json => jsonLines (reports.map toJson)
  | .table =>
    Table.lines ["DOCUMENT", "CODE", "PATH", "ACTUAL", "EXPECTED"] (reports.flatMap rows)
  | .pretty => reports.flatMap prettyLines
  | .raw => reports.flatMap rawLines

end DocumentReport

/-- The result of checking one document. -/
structure CheckReport where
  document : String
  /-- Why the document is not well-formed. -/
  error : Option String := none
  /-- The line where that shows. -/
  line : Option Nat := none

namespace CheckReport

/-- Whether the document is well-formed. -/
def isWellFormed (r : CheckReport) : Bool := r.error.isNone

/-- The word for a result. -/
def status (r : CheckReport) : String := if r.isWellFormed then "ok" else "malformed"

/-- A report as a record. -/
def toJson (r : CheckReport) : Json :=
  .object ([("document", .string r.document), ("well_formed", .bool r.isWellFormed)] ++
    optionalMember "error" (r.error.map .string) ++ optionalMember "line" (r.line.map .ofNat))

/-- The lines of reports. -/
def lines (format : Format) (reports : List CheckReport) : List String :=
  match format with
  | .json => jsonLines (reports.map toJson)
  | .table =>
    Table.lines ["DOCUMENT", "STATUS", "LINE", "ERROR"] (reports.map fun r =>
      [r.document, r.status, orEmpty (r.line.map toString), orEmpty r.error])
  | .pretty => reports.map fun r => s!"{r.document}: " ++ r.error.getD "ok"
  | .raw => reports.map fun r => s!"{r.document}\t{r.status}"

end CheckReport

/-- One rule as it is listed. -/
structure RuleReport where
  path : String
  type : String
  required : Bool
  constraints : List String

namespace RuleReport

/-- The listing of a model. -/
def ofModel (m : Schema.Model) : List RuleReport :=
  m.walk.map fun (path, rule) =>
    ⟨path, rule.type.name, rule.isRequired, rule.constraints.describe⟩

/-- A rule as a record. -/
def toJson (r : RuleReport) : Json :=
  .object [("path", .string r.path), ("type", .string r.type), ("required", .bool r.required),
    ("constraints", .array (r.constraints.map .string))]

/-- All constraints in one text. -/
def constraintText (r : RuleReport) : String := " ".intercalate r.constraints

/-- How deep a path lies, by its dots. -/
def depth (r : RuleReport) : Nat := r.path.toList.count '.'

/-- The last step of a path. -/
def lastName (r : RuleReport) : String :=
  String.ofList (r.path.toList.reverse.takeWhile (· != '.')).reverse

/-- The line of a rule for readers, indented by its depth. -/
def prettyLine (r : RuleReport) : String :=
  String.ofList (List.replicate (2 * r.depth) ' ') ++
    s!"{r.lastName}: {r.type} {r.constraintText}"

/-- The lines of a listing. -/
def lines (format : Format) (rules : List RuleReport) : List String :=
  match format with
  | .json => jsonLines (rules.map toJson)
  | .table =>
    Table.lines ["PATH", "TYPE", "REQUIRED", "CONSTRAINTS"] (rules.map fun r =>
      [r.path, r.type, if r.required then "true" else "false", r.constraintText])
  | .pretty => rules.map prettyLine
  | .raw => rules.map (·.path)

end RuleReport

end MarkupRules.Cli
