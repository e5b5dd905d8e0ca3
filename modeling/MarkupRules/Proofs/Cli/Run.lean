import MarkupRules.Proofs.Cli.SchemaFile
import MarkupRules.Proofs.Json.Text
import MarkupRules.Proofs.Validation.Coverage

/-!
What a run of the command line leaves behind.

Documents are worked off one after the other, and nothing is written before the last of them is
read. So a run reports on all of its documents, or it stops with a message and has written nothing.
-/
namespace MarkupRules

/-- Without checks in its model a validator turns down nothing but markup. Whatever else is wrong
with a document is a failure in its report. -/
theorem Validator.exists_markup_of_validateBytes {v : Validator} (hChecks : v.model.checks = [])
    {bytes : List UInt8} {e : Schema.Error} (h : v.validateBytes bytes = .error e) :
    ∃ m, e = .markup m := by
  have hCovers : v.registry.ensureCovers v.model = .ok () := by
    rw [Validation.Registry.ensureCovers, hChecks]
    rfl
  unfold validateBytes at h
  split at h
  · exact ⟨_, (Except.error.inj h).symm⟩
  · unfold validate at h
    split at h
    · exact ⟨_, (Except.error.inj h).symm⟩
    · rw [validateNode, Validation.traverse, hCovers] at h
      cases h

namespace Cli

variable {files : String → Except FileError Content}

/-- The contents of documents, each behind its path, or the first of them that cannot be read. -/
def readAll (files : String → Except FileError Content) (documents : List String) :
    Except (String × FileError) (List (String × Content)) :=
  documents.mapM fun document =>
    match files document with
    | .ok content => .ok (document, content)
    | .error e => .error (document, e)

theorem readAll_cons_of_ok {document : String} {content : Content}
    (h : files document = .ok content) (rest : List String) :
    readAll files (document :: rest) = (readAll files rest).map ((document, content) :: ·) := by
  simp only [readAll, List.mapM_cons, h]
  rfl

theorem readAll_cons_of_error {document : String} {e : FileError} (h : files document = .error e)
    (rest : List String) : readAll files (document :: rest) = .error (document, e) := by
  simp only [readAll, List.mapM_cons, h]
  rfl

/-- The contents that are read are those of the documents, in their order. -/
theorem map_fst_readAll {documents : List String} {contents : List (String × Content)}
    (h : readAll files documents = .ok contents) : contents.map Prod.fst = documents := by
  induction documents generalizing contents with
  | nil =>
    obtain rfl := Except.ok.inj h
    rfl
  | cons document rest ih =>
    cases hFile : files document with
    | error e =>
      rw [readAll_cons_of_error hFile] at h
      cases h
    | ok content =>
      rw [readAll_cons_of_ok hFile] at h
      cases hRest : readAll files rest with
      | error e =>
        rw [hRest] at h
        cases h
      | ok more =>
        rw [hRest] at h
        obtain rfl := Except.ok.inj h
        rw [List.map_cons, ih hRest]

/-- A run that reads documents in order and ends with the reports on all of them; `done` are those
so far, last first. -/
def forEach {ρ : Type} (report : String → Content → ρ) (last : List ρ → Outcome)
    (done : List ρ) : List String → Program
  | [] => .finished (last done.reverse)
  | document :: rest =>
    .read document fun
      | .error e => .stop e.exitCode s!"{document}: {e.message}"
      | .ok content => forEach report last (report document content :: done) rest

/-- Such a run ends with the reports, or stops at the first document that cannot be read. What was
reported until then is lost. -/
theorem run_forEach {ρ : Type} (report : String → Content → ρ) (last : List ρ → Outcome)
    (done : List ρ) (documents : List String) :
    (forEach report last done documents).run files =
      match readAll files documents with
      | .ok contents => last (done.reverse ++ contents.map fun c => report c.1 c.2)
      | .error (document, e) => .unread document e := by
  induction documents generalizing done with
  | nil =>
    show last done.reverse = last (done.reverse ++ [])
    rw [List.append_nil]
  | cons document rest ih =>
    rw [forEach, Program.run]
    cases hFile : files document with
    | error e =>
      rw [readAll_cons_of_error hFile]
      rfl
    | ok content =>
      dsimp only
      rw [ih, readAll_cons_of_ok hFile]
      cases readAll files rest with
      | error e => rfl
      | ok contents => simp [Except.map]

/-- The file at a path is there, but it may not be read. -/
def IsDenied (files : String → Except FileError Content) (path : String) : Prop :=
  ∃ e, files path = .error e ∧ e.isDenied = true

/-- The run stops at the first file that it cannot read, with the exit code of the file error. It
never denies permission of itself, whatever it finds in the files. -/
inductive Program.StopsAtUnread : Program → Prop where
  | finished {o : Outcome} (hExit : o.exit ≠ .permissionDenied) : StopsAtUnread (.finished o)
  | read {path : String} {next : Except FileError Content → Program}
      (hError : ∀ e, next (.error e) = .finished (.unread path e))
      (hContent : ∀ content, StopsAtUnread (next (.ok content))) : StopsAtUnread (.read path next)

/-- Of all errors of files only denied permission has that exit code. -/
theorem exit_unread_eq_permissionDenied_iff {path : String} {e : FileError} :
    (Outcome.unread path e).exit = .permissionDenied ↔ e.isDenied = true := by
  cases e <;> simp [Outcome.unread, FileError.exitCode, FileError.isDenied]

/-- The number of denied permission stands for a denied file. No file that comes later is read, so
there is one among those that are read just if it is the last of them. -/
theorem Program.StopsAtUnread.exit_run_eq_fifty_iff {p : Program} (h : p.StopsAtUnread) :
    (p.run files).exit.toNat = 50 ↔ ∃ path ∈ p.pathsRead files, IsDenied files path := by
  have hNumber : ∀ c : ExitCode, c.toNat = 50 ↔ c = .permissionDenied := by
    intro c
    cases c <;> simp [ExitCode.toNat]
  rw [hNumber]
  induction h with
  | finished hExit => simp [Program.run, Program.pathsRead, hExit]
  | @read path next hError hContent ih =>
    rw [Program.run, Program.pathsRead]
    cases hFile : files path with
    | error e =>
      rw [hError, Program.run, Program.pathsRead, exit_unread_eq_permissionDenied_iff]
      simp [IsDenied, hFile]
    | ok content =>
      have hRead : ¬ IsDenied files path := by
        rintro ⟨e, hError, -⟩
        rw [hFile] at hError
        cases hError
      simpa [hRead] using ih content

/-- A run over documents stops at the first one that cannot be read, if its last step denies
nothing. -/
theorem stopsAtUnread_forEach {ρ : Type} (report : String → Content → ρ)
    {last : List ρ → Outcome} (hLast : ∀ reports, (last reports).exit ≠ .permissionDenied)
    (done : List ρ) (documents : List String) :
    (forEach report last done documents).StopsAtUnread := by
  induction documents generalizing done with
  | nil => exact .finished (hLast _)
  | cons document rest ih => exact .read (fun e => rfl) fun content => ih _

/-- Reports end a run well, or they blame the documents. They never blame a file. -/
theorem exit_reports_ne_permissionDenied {ρ : Type} (good : ρ → Bool) (lines : List ρ → List String)
    (reports : List ρ) :
    Outcome.exit
      { exit := if reports.all good then .success else .dataInvalid, lines := lines reports } ≠
        .permissionDenied := by
  dsimp only
  split <;> simp

/-- Reading the schema first changes nothing about that: its file is read like a document, and a bad
schema is a problem of usage. -/
theorem stopsAtUnread_withModel {schema : String} {limits : Limits}
    {next : Schema.Model → Program} (hNext : ∀ m, (next m).StopsAtUnread) :
    (withModel schema limits next).StopsAtUnread := by
  refine .read (fun e => rfl) fun content => ?_
  cases hModel : modelIn schema limits (.ok content) with
  | error o =>
    cases stopsAt_of_modelIn hModel with
    | misused _ message => exact .finished (by simp)
  | ok m => exact hNext m

/-- The report on the content of a document. -/
def documentReport (limit : Nat) (v : Validator) (document : String) (content : Content) :
    DocumentReport :=
  if limit < content.bytes.length then
    { document, error := some s!"{document}: larger than {limit} bytes" }
  else
    match v.validateBytes content.bytes with
    | .ok failures => { document, failures }
    | .error e => { document, error := some e.message }

/-- The validation of documents is a run over documents, under a model without checks. Any error
that is left for it to handle is one of the markup. -/
theorem validateDocuments_eq {v : Validator} (hChecks : v.model.checks = []) (format : Format)
    (schema : String) (limit : Nat) (done : List DocumentReport) (documents : List String) :
    validateDocuments format schema limit v done documents =
      forEach (documentReport limit v)
        (fun reports =>
          { exit := if reports.all DocumentReport.isValid then .success else .dataInvalid
            lines := DocumentReport.lines format reports })
        done documents := by
  induction documents generalizing done with
  | nil => rfl
  | cons document rest ih =>
    rw [validateDocuments, forEach, readBounded_eq]
    congr 1
    funext file
    cases file with
    | error e => rfl
    | ok content =>
      dsimp only
      rw [documentReport]
      split
      · exact ih _
      · cases hBytes : v.validateBytes content.bytes with
        | ok failures => exact ih _
        | error e =>
          obtain ⟨m, rfl⟩ := Validator.exists_markup_of_validateBytes hChecks hBytes
          exact ih _

/-- The report on the content of a file that should be well-formed. -/
def contentReport (mode : Markup.AttributeMode) (limits : Limits) (document : String)
    (content : Content) : CheckReport :=
  if limits.maxSize < content.bytes.length then
    { document, error := some s!"{document}: larger than {limits.maxSize} bytes" }
  else checkBytes document mode limits.options content.bytes

/-- So is the check of documents, under any limits. -/
theorem checkDocuments_eq (format : Format) (mode : Markup.AttributeMode) (limits : Limits)
    (done : List CheckReport) (documents : List String) :
    checkDocuments format mode limits done documents =
      forEach (contentReport mode limits)
        (fun reports =>
          { exit := if reports.all CheckReport.isWellFormed then .success else .dataInvalid
            lines := CheckReport.lines format reports })
        done documents := by
  induction documents generalizing done with
  | nil => rfl
  | cons document rest ih =>
    rw [checkDocuments, forEach, readBounded_eq]
    congr 1
    funext file
    cases file with
    | error e => rfl
    | ok content =>
      dsimp only
      rw [contentReport]
      split <;> exact ih _

theorem stopsAtUnread_checkDocuments (format : Format) (mode : Markup.AttributeMode)
    (limits : Limits) (done : List CheckReport) (documents : List String) :
    (checkDocuments format mode limits done documents).StopsAtUnread := by
  rw [checkDocuments_eq]
  exact stopsAtUnread_forEach _ (exit_reports_ne_permissionDenied _ _) _ _

/-- `value` is a record on a document with a verdict under the given name. -/
def IsRecord (name document : String) (verdict : Bool) (value : Json) : Prop :=
  ∃ members, value = .object members ∧ members.lookup "document" = some (.string document) ∧
    members.lookup name = some (.bool verdict)

/-- A run wrote a record on each document, in their order and each on a line of its own, and its
exit code is zero just if all verdicts are good. -/
structure Reported (name : String) (documents : List String) (o : Outcome) : Prop where
  exit : o.exit.toNat = 0 ∨ o.exit.toNat = 60
  error : o.error = none
  records : ∃ records : List (Bool × Json),
    List.Forall₂ (fun document r => IsRecord name document r.1 r.2) documents records ∧
    o.stdout = String.join (records.map fun r => r.2.text ++ "\n") ∧
    (∀ r ∈ records, '\n' ∉ r.2.text.toList) ∧
    (o.exit.toNat = 0 ↔ ∀ r ∈ records, r.1 = true)

/-- A run stopped with a message and wrote nothing, however many documents it had read by then. -/
structure Stopped (o : Outcome) : Prop where
  exit : o.exit.toNat ∈ [1, 50, 64, 125]
  stdout : o.stdout = ""
  error : o.error.isSome

/-- A run that stops at a file has one of three exit codes and nothing on its output. -/
theorem stopped_unread (path : String) (e : FileError) : Stopped (.unread path e) where
  exit := by cases e <;> simp [Outcome.unread, FileError.exitCode, ExitCode.toNat]
  stdout := rfl
  error := rfl

/-- So has a run that stops at a problem of usage, with a code of its own. -/
theorem stopped_misused (message : String) : Stopped (.misused message) where
  exit := by simp [ExitCode.toNat]
  stdout := rfl
  error := rfl

/-- A file that cannot be read is no problem of usage or with data. Its exit code tells why it
cannot be read. -/
theorem exit_unread (path : String) (e : FileError) :
    (Outcome.unread path e).exit.toNat ≠ 60 ∧ (Outcome.unread path e).exit.toNat ≠ 64 := by
  cases e <;> simp [Outcome.unread, FileError.exitCode, ExitCode.toNat]

/-- A run that ends with a record for each document has reported on them all. Its exit code tells
whether all of the records are good. -/
theorem reported_of_records {ρ : Type} {name : String} {toJson : ρ → Json} {good : ρ → Bool}
    {report : String → Content → ρ}
    (hRecord : ∀ document content,
      IsRecord name document (good (report document content)) (toJson (report document content)))
    (contents : List (String × Content)) :
    Reported name (contents.map Prod.fst)
      { exit := if (contents.map fun c => report c.1 c.2).all good then .success else .dataInvalid
        lines := jsonLines ((contents.map fun c => report c.1 c.2).map toJson) } where
  exit := by
    dsimp only
    split
    · exact .inl rfl
    · exact .inr rfl
  error := rfl
  records := by
    refine ⟨contents.map fun c => (good (report c.1 c.2), toJson (report c.1 c.2)), ?_, ?_, ?_, ?_⟩
    · rw [List.forall₂_map_left_iff, List.forall₂_map_right_iff]
      exact List.forall₂_same.mpr fun c _ => hRecord c.1 c.2
    · simp [Outcome.stdout, jsonLines, Function.comp_def]
    · intro r _
      exact r.2.newline_notMem_text
    · have hAll : (contents.map fun c => report c.1 c.2).all good = true ↔
          ∀ r ∈ contents.map fun c => (good (report c.1 c.2), toJson (report c.1 c.2)),
            r.1 = true := by
        rw [List.forall_mem_map, List.all_map, List.all_eq_true]
        rfl
      rw [← hAll]
      dsimp only
      split
      · next hGood => simp [ExitCode.toNat, hGood]
      · next hBad => simp [ExitCode.toNat, hBad]

/-- A run over documents reports on all of them, or stops at one that cannot be read. There is no
way between. -/
theorem run_forEach_cases {ρ : Type} {name : String} {toJson : ρ → Json} {good : ρ → Bool}
    {report : String → Content → ρ}
    (hRecord : ∀ document content,
      IsRecord name document (good (report document content)) (toJson (report document content)))
    (documents : List String) {o : Outcome}
    (hRun : (forEach report (fun reports =>
      { exit := if reports.all good then .success else .dataInvalid
        lines := jsonLines (reports.map toJson) }) [] documents).run files = o) :
    Reported name documents o ∨ ∃ path e, o = .unread path e := by
  rw [run_forEach] at hRun
  split at hRun
  · next contents hContents =>
    rw [← hRun, ← map_fst_readAll hContents]
    exact .inl (reported_of_records hRecord contents)
  · next path e hFailed => exact .inr ⟨path, e, hRun.symm⟩

/-- The report of a check names its document, and says whether it is well-formed, with the error if
it is not. -/
theorem isRecord_checkReport (mode : Markup.AttributeMode) (limits : Limits) (document : String)
    (content : Content) :
    IsRecord "well_formed" document (contentReport mode limits document content).isWellFormed
      (contentReport mode limits document content).toJson := by
  have hDocument : (contentReport mode limits document content).document = document := by
    unfold contentReport checkBytes
    split
    · rfl
    · dsimp only
      split <;> rfl
  exact ⟨_, rfl, by rw [hDocument]; rfl, rfl⟩

/-- The same for the report of a validation, which has the failures, or the error if there is no
list of failures. -/
theorem isRecord_documentReport (limit : Nat) (v : Validator) (document : String)
    (content : Content) :
    IsRecord "valid" document (documentReport limit v document content).isValid
      (documentReport limit v document content).toJson := by
  have hDocument : (documentReport limit v document content).document = document := by
    unfold documentReport
    split
    · rfl
    · split <;> rfl
  exact ⟨_, rfl, by rw [hDocument]; rfl, rfl⟩

/-- The content of a schema file is of no use to the command line: it is too large, no text, no
schema, or it asks for a check. -/
inductive Unusable (limits : Limits) (content : Content) : Prop where
  | large (h : limits.maxSize < content.bytes.length)
  | notText {defect : Text.Utf8Defect} (h : Text.decode content.bytes = .error defect)
  | notCompiled {text : String} {e : Schema.Error} (hText : Text.decode content.bytes = .ok text)
      (h : Schema.Model.compile text limits.options = .error e)
  | asksForCheck {text : String} {model : Schema.Model} {entry : String × Schema.Rule}
      {check : String} (hText : Text.decode content.bytes = .ok text)
      (hCompile : Schema.Model.compile text limits.options = .ok model)
      (hWalk : entry ∈ model.walk) (h : entry.2.constraints.checkBy = some check)

theorem checks_eq_nil_iff {text : String} {options : Markup.Options} {model : Schema.Model}
    (hCompile : Schema.Model.compile text options = .ok model) :
    model.checks = [] ↔ ∀ entry ∈ model.walk, entry.2.constraints.checkBy = none := by
  rw [Schema.checks_of_compile hCompile, List.filterMap_eq_nil_iff]
  simp [Schema.checkRef?]

/-- A content is of use just if it makes a model that asks for no check. -/
theorem unusable_iff {limits : Limits} {content : Content} :
    Unusable limits content ↔ ¬ ∃ m, Yields limits m (.ok content) ∧ m.checks = [] := by
  constructor
  · rintro hUnusable ⟨m, hYields, hNone⟩
    cases hYields with
    | mk hSize hText hCompile =>
      cases hUnusable with
      | large hLarge => exact absurd hLarge (Nat.not_lt.mpr hSize)
      | notText hDefect =>
        rw [hText] at hDefect
        cases hDefect
      | notCompiled hText' hError =>
        obtain rfl := Except.ok.inj (hText.symm.trans hText')
        rw [hCompile] at hError
        cases hError
      | asksForCheck hText' hCompile' hWalk hAsks =>
        obtain rfl := Except.ok.inj (hText.symm.trans hText')
        obtain rfl := Except.ok.inj (hCompile.symm.trans hCompile')
        rw [(checks_eq_nil_iff hCompile).mp hNone _ hWalk] at hAsks
        cases hAsks
  · intro hNone
    by_cases hLarge : limits.maxSize < content.bytes.length
    · exact .large hLarge
    cases hText : Text.decode content.bytes with
    | error defect => exact .notText hText
    | ok text =>
      cases hCompile : Schema.Model.compile text limits.options with
      | error e => exact .notCompiled hText hCompile
      | ok m =>
        have hSome : m.checks ≠ [] := fun hChecks =>
          hNone ⟨m, .mk (Nat.not_lt.mp hLarge) hText hCompile, hChecks⟩
        rw [Ne, checks_eq_nil_iff hCompile] at hSome
        simp only [not_forall] at hSome
        obtain ⟨entry, hWalk, hAsks⟩ := hSome
        obtain ⟨check, hCheck⟩ := Option.ne_none_iff_exists'.mp hAsks
        exact .asksForCheck hText hCompile hWalk hCheck

section Validate

variable {schema : String} {limits : Limits} (format : Format) (documents : List String)
  (denyUnknown : Bool) (boolean : Option (List String))

/-- Where the file holds no model without checks, no document is read, and the run ends at the
schema. -/
theorem validate_of_unfit (h : ¬ ∃ m, Yields limits m (files schema) ∧ m.checks = []) :
    StopsAt schema (files schema)
        ((validate format schema documents denyUnknown boolean limits).run files) ∧
      (validate format schema documents denyUnknown boolean limits).pathsRead files = [schema] := by
  rw [validate_eq]
  apply withModel_of_unfit _ _ h
  intro m hSome
  obtain ⟨ref, rest, hChecks⟩ := List.exists_cons_of_ne_nil hSome
  rw [hChecks]
  exact ⟨_, rfl⟩

/-- With a usable schema the documents are worked off, and its file was read before the first of
them. -/
theorem run_validate_of_yields {m : Schema.Model} (h : Yields limits m (files schema))
    (hChecks : m.checks = []) :
    (validate format schema documents denyUnknown boolean limits).run files =
      (validateDocuments format schema limits.maxSize (validatorOf denyUnknown boolean limits m) []
        documents).run files := by
  rw [validate_eq, (withModel_of_yields _ h).1, hChecks]

/-- A validation stops at the first file that it cannot read, be it the schema or a document. -/
theorem stopsAtUnread_validate :
    (validate format schema documents denyUnknown boolean limits).StopsAtUnread := by
  rw [validate_eq]
  apply stopsAtUnread_withModel
  intro m
  cases hChecks : m.checks with
  | nil =>
    dsimp only
    rw [validateDocuments_eq hChecks]
    exact stopsAtUnread_forEach _ (exit_reports_ne_permissionDenied _ _) _ _
  | cons ref rest => exact .finished (by simp)

/-- How a run that validates documents ends, by its schema. -/
theorem run_validate_cases {o : Outcome}
    (hRun : (validate .json schema documents denyUnknown boolean limits).run files = o) :
    (Reported "valid" documents o ∨ Stopped o) ∧
      (o.exit.toNat = 60 → ∃ content, files schema = .ok content ∧ ¬ Unusable limits content) ∧
      (o.exit.toNat = 64 ↔ ∃ content, files schema = .ok content ∧ Unusable limits content) := by
  cases hSchema : files schema with
  | error e =>
    have hNone : ¬ ∃ m, Yields limits m (files schema) ∧ m.checks = [] := by
      rw [hSchema]
      rintro ⟨m, ⟨⟩, -⟩
    have hStop := (validate_of_unfit .json documents denyUnknown boolean hNone).1
    rw [hRun, hSchema] at hStop
    cases hStop with
    | unread =>
      obtain ⟨hData, hUsage⟩ := exit_unread schema e
      simp [hData, hUsage, stopped_unread]
  | ok content =>
    by_cases hUnusable : Unusable limits content
    · have hNone := unusable_iff.mp hUnusable
      rw [← hSchema] at hNone
      have hStop := (validate_of_unfit .json documents denyUnknown boolean hNone).1
      rw [hRun, hSchema] at hStop
      cases hStop with
      | misused _ message => simp [stopped_misused, hUnusable, ExitCode.toNat]
    · obtain ⟨m, hYields, hChecks⟩ := Classical.not_not.mp (mt unusable_iff.mpr hUnusable)
      rw [← hSchema] at hYields
      rw [run_validate_of_yields .json documents denyUnknown boolean hYields hChecks,
        validateDocuments_eq hChecks] at hRun
      rcases run_forEach_cases (isRecord_documentReport limits.maxSize _) documents hRun with
        hReported | ⟨path, e, rfl⟩
      · rcases hReported.exit with hExit | hExit
        · simp [hReported, hExit, hUnusable]
        · simp [hReported, hExit, hUnusable]
      · obtain ⟨hData, hUsage⟩ := exit_unread path e
        simp [hData, hUsage, stopped_unread, hUnusable]

end Validate

/-- A run that writes records for programs has reported on all of its documents, or it has stopped
with a message and without output. The exit code is 50 just if one of the files that it read may not
be read. Only an unusable schema is a problem of usage, and a problem with data never comes from the
schema. -/
theorem run_program_json {onTerminal : Bool} {env : Environment} {args : List String}
    {format : Option Format} {command : Command} {o : Outcome}
    (hInvoke : readArguments env args = .invoke ⟨format, command⟩)
    (hFormat : format.getD (if onTerminal then .table else .json) = .json)
    (hRun : (program onTerminal env args).run files = o) :
    (∀ documents strictAttributes limits, command = .check documents strictAttributes limits →
      (Reported "well_formed" documents o ∨ Stopped o) ∧
      (o.exit.toNat = 50 ↔
        ∃ path ∈ (program onTerminal env args).pathsRead files, IsDenied files path)) ∧
    ∀ schema documents denyUnknown boolean limits,
      command = .validate schema documents denyUnknown boolean limits →
      (Reported "valid" documents o ∨ Stopped o) ∧
      (o.exit.toNat = 50 ↔
        ∃ path ∈ (program onTerminal env args).pathsRead files, IsDenied files path) ∧
      (o.exit.toNat = 60 → ∃ content, files schema = .ok content ∧ ¬ Unusable limits content) ∧
      (o.exit.toNat = 64 ↔ ∃ content, files schema = .ok content ∧ Unusable limits content) := by
  have hProgram : program onTerminal env args = command.program .json := by
    rw [program, hInvoke]
    dsimp only
    rw [hFormat]
  rw [hProgram] at hRun ⊢
  constructor
  · rintro documents strictAttributes limits rfl
    rw [Command.program] at hRun ⊢
    constructor
    · rw [checkDocuments_eq] at hRun
      rcases run_forEach_cases (isRecord_checkReport _ limits) documents hRun with
        hReported | ⟨path, e, rfl⟩
      · exact .inl hReported
      · exact .inr (stopped_unread path e)
    · rw [← hRun]
      exact (stopsAtUnread_checkDocuments ..).exit_run_eq_fifty_iff
  · rintro schema documents denyUnknown boolean limits rfl
    rw [Command.program] at hRun ⊢
    obtain ⟨hEnd, hSchema⟩ := run_validate_cases documents denyUnknown boolean hRun
    refine ⟨hEnd, ?_, hSchema⟩
    rw [← hRun]
    exact (stopsAtUnread_validate ..).exit_run_eq_fifty_iff

/-- The schema `<r/>`, a document cut short, bytes that are no text, and a file that may not be
read. -/
def brokenFiles : String → Except FileError Content
  | "s" => .ok ⟨[60, 114, 47, 62], by decide⟩
  | "a" => .ok ⟨[60, 114, 62], by decide⟩
  | "b" => .ok ⟨[255], by decide⟩
  | "d" => .error .permissionDenied
  | _ => .error .notFound

def brokenReports : List DocumentReport :=
  [{ document := "a", error := some "unclosed tag 'r':1" },
    { document := "b",
      error := some "not a valid string: invalid utf-8 sequence of 1 bytes from index 0" }]

def brokenOutcome : Outcome where
  exit := .dataInvalid
  lines := brokenReports.map fun r => r.toJson.text

/-- A malformed document and one that is no text are reported on like any other, in their order, and
the exit code blames the documents. -/
theorem run_program_broken :
    readArguments {} ["validate", "-s", "s", "a", "b"] =
        .invoke ⟨none, .validate "s" ["a", "b"] false none {}⟩ ∧
      (program false {} ["validate", "-s", "s", "a", "b"]).run brokenFiles = brokenOutcome ∧
      (Reported "valid" ["a", "b"] brokenOutcome ∨ Stopped brokenOutcome) ∧
      ∃ content, brokenFiles "s" = .ok content ∧ ¬ Unusable {} content := by
  have hInvoke : readArguments {} ["validate", "-s", "s", "a", "b"] =
      .invoke ⟨none, .validate "s" ["a", "b"] false none {}⟩ := by decide +kernel
  have hRun : (program false {} ["validate", "-s", "s", "a", "b"]).run brokenFiles =
      brokenOutcome := by decide +kernel
  obtain ⟨-, hValidate⟩ := run_program_json hInvoke rfl hRun
  obtain ⟨hEnd, -, hData, -⟩ := hValidate _ _ _ _ _ rfl
  exact ⟨hInvoke, hRun, hEnd, hData rfl⟩

/-- A file that is there but may not be read has an exit code of its own, beside 1, 64 and 125. The
document in front of it could be read. -/
theorem exit_denied_document :
    readArguments {} ["--format", "json", "check", "a", "d"] =
        .invoke ⟨some .json, .check ["a", "d"] false {}⟩ ∧
      ((program false {} ["--format", "json", "check", "a", "d"]).run brokenFiles).exit.toNat
        ∉ [0, 60, 1, 64, 125] := by
  decide +kernel

end Cli

end MarkupRules
