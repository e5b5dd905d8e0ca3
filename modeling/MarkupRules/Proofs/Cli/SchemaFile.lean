import MarkupRules.Proofs.Cli.Size

/-!
The schema file of a run.

A command that needs a schema reads its file first and goes on with the model in it, or the run ends
there. What a file comes to is settled by its content alone, the same way for all commands.
-/
namespace MarkupRules.Cli

variable {files : String → Except FileError Content}

/-- The outcome of a run that stops at a file that cannot be read. -/
def Outcome.unread (path : String) (e : FileError) : Outcome :=
  { exit := e.exitCode, error := some s!"{path}: {e.message}" }

/-- The outcome of a run that stops at a problem of usage. -/
def Outcome.misused (message : String) : Outcome := { exit := .usage, error := some message }

@[simp] theorem exit_misused (message : String) : (Outcome.misused message).exit = .usage := rfl

/-- The model in the content of a schema file, or the outcome of a run that stops there. -/
def modelIn (schema : String) (limits : Limits) :
    Except FileError Content → Except Outcome Schema.Model
  | .error e => .error (.unread schema e)
  | .ok content =>
    if limits.maxSize < content.bytes.length then
      .error (.misused ("schema " ++ s!"{schema}: larger than {limits.maxSize} bytes"))
    else match Text.decode content.bytes with
      | .error defect => .error (.misused s!"schema {schema}: not a valid string: {defect.message}")
      | .ok text =>
        match Schema.Model.compile text limits.options with
        | .error e => .error (.misused s!"schema {schema}: {e.message}")
        | .ok m => .ok m

/-- The content of a file is a schema: a text within the limit that makes this model. -/
inductive Yields (limits : Limits) (m : Schema.Model) : Except FileError Content → Prop where
  | mk {content : Content} {text : String} (hSize : content.bytes.length ≤ limits.maxSize)
      (hText : Text.decode content.bytes = .ok text)
      (hCompile : Schema.Model.compile text limits.options = .ok m) :
    Yields limits m (.ok content)

/-- A file holds a model just if its content is a schema within the limit. -/
theorem modelIn_eq_ok_iff {schema : String} {limits : Limits} {file : Except FileError Content}
    {m : Schema.Model} : modelIn schema limits file = .ok m ↔ Yields limits m file := by
  constructor
  · intro h
    cases file with
    | error e => cases h
    | ok content =>
      unfold modelIn at h
      dsimp only at h
      split at h
      · cases h
      · next hSize =>
        split at h
        · cases h
        · next text hText =>
          split at h
          · cases h
          · next m' hCompile =>
            obtain rfl := Except.ok.inj h
            exact .mk (Nat.not_lt.mp hSize) hText hCompile
  · intro h
    cases h with
    | mk hSize hText hCompile =>
      rw [modelIn, if_neg (Nat.not_lt.mpr hSize), hText]
      dsimp only
      rw [hCompile]

/-- A run stops at its schema because the file cannot be read, or else at a problem of usage. -/
inductive StopsAt (schema : String) : Except FileError Content → Outcome → Prop where
  | unread (e : FileError) : StopsAt schema (.error e) (.unread schema e)
  | misused (content : Content) (message : String) : StopsAt schema (.ok content) (.misused message)

/-- A file that holds no model ends the run in one of two ways, by whether it could be read. -/
theorem stopsAt_of_modelIn {schema : String} {limits : Limits} {file : Except FileError Content}
    {o : Outcome} (h : modelIn schema limits file = .error o) : StopsAt schema file o := by
  cases file with
  | error e =>
    obtain rfl := Except.error.inj h
    exact .unread e
  | ok content =>
    unfold modelIn at h
    dsimp only at h
    split at h
    · obtain rfl := Except.error.inj h
      exact .misused content _
    · split at h
      · obtain rfl := Except.error.inj h
        exact .misused content _
      · split at h
        · obtain rfl := Except.error.inj h
          exact .misused content _
        · cases h

/-- A run that reads its schema and goes on with the model. -/
def withModel (schema : String) (limits : Limits) (next : Schema.Model → Program) : Program :=
  .read schema fun file =>
    match modelIn schema limits file with
    | .error o => .finished o
    | .ok m => next m

/-- Reading a schema and compiling its text comes to going on with the model in the file. How a text
is used does not matter beyond that. -/
theorem readSchema_eq_withModel {schema : String} {limits : Limits} {next : Schema.Model → Program}
    {use : String → Program}
    (hUse : ∀ text, use text = match Schema.Model.compile text limits.options with
      | .error e => stopAtSchema schema e
      | .ok m => next m) :
    readSchema schema limits.maxSize use = withModel schema limits next := by
  rw [readSchema, readBounded_eq, withModel]
  congr 1
  funext file
  cases file with
  | error e => rfl
  | ok content =>
    rw [modelIn]
    dsimp only
    split
    · rfl
    · cases Text.decode content.bytes with
      | error defect => rfl
      | ok text =>
        dsimp only
        rw [hUse]
        cases Schema.Model.compile text limits.options <;> rfl

theorem rules_eq (format : Format) (schema : String) (limits : Limits) :
    rules format schema limits = withModel schema limits fun m =>
      .finished { exit := .success, lines := RuleReport.lines format (RuleReport.ofModel m) } := by
  apply readSchema_eq_withModel
  intro text
  cases Schema.Model.compile text limits.options <;> rfl

/-- The validator that a model makes with the settings of the command line. -/
def validatorOf (denyUnknown : Bool) (boolean : Option (List String)) (limits : Limits)
    (m : Schema.Model) : Validator where
  model := m
  configuration :=
    { unknownAllow := !denyUnknown
      boolean := boolean.getD ({} : Validation.Configuration).boolean
      markup := limits.options }

/-- So does the validation of documents. A model that asks for a check is turned down before any
document is read. -/
theorem validate_eq (format : Format) (schema : String) (documents : List String)
    (denyUnknown : Bool) (boolean : Option (List String)) (limits : Limits) :
    validate format schema documents denyUnknown boolean limits =
      withModel schema limits fun m =>
        match m.checks with
        | ref :: _ =>
          .finished <| .misused <| s!"schema {schema}: checkBy=" ++
            s!"\"{ref.name}\" at {ref.path} " ++ "needs a custom validator; use the library API"
        | [] =>
          validateDocuments format schema limits.maxSize (validatorOf denyUnknown boolean limits m)
            [] documents := by
  apply readSchema_eq_withModel
  intro text
  dsimp only
  rw [Validator.ofSchema]
  cases Schema.Model.compile text limits.options with
  | error e => rfl
  | ok m =>
    dsimp only [Except.map]
    cases m.checks <;> rfl

section Run

variable {schema : String} {limits : Limits} (next : Schema.Model → Program)

/-- Where the file holds a model, the run is that of what comes behind. The schema file is the first
that it reads. -/
theorem withModel_of_yields {m : Schema.Model} (h : Yields limits m (files schema)) :
    (withModel schema limits next).run files = (next m).run files ∧
      (withModel schema limits next).pathsRead files = schema :: (next m).pathsRead files := by
  rw [withModel, Program.run, Program.pathsRead, modelIn_eq_ok_iff.mpr h]
  exact ⟨rfl, rfl⟩

/-- Where the file holds no model that fits, the run stops and has read nothing else. What fits is
up to the command. -/
theorem withModel_of_unfit {fits : Schema.Model → Prop}
    (hNext : ∀ m, ¬ fits m → ∃ message, next m = .finished (.misused message))
    (h : ¬ ∃ m, Yields limits m (files schema) ∧ fits m) :
    StopsAt schema (files schema) ((withModel schema limits next).run files) ∧
      (withModel schema limits next).pathsRead files = [schema] := by
  cases hModel : modelIn schema limits (files schema) with
  | error o =>
    rw [withModel, Program.run, Program.pathsRead, hModel]
    exact ⟨stopsAt_of_modelIn hModel, rfl⟩
  | ok m =>
    have hYields := modelIn_eq_ok_iff.mp hModel
    obtain ⟨message, hStop⟩ := hNext m fun hFits => h ⟨m, hYields, hFits⟩
    obtain ⟨hRun, hPaths⟩ := withModel_of_yields next hYields
    rw [hRun, hPaths, hStop]
    generalize files schema = file at hYields
    cases hYields with
    | mk => exact ⟨.misused _ message, rfl⟩

end Run

end MarkupRules.Cli
