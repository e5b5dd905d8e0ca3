import MarkupRules.Proofs.Cli.Run

/-!
Schemas that a run cannot use.

Where the file gives no schema that the command can use, the run ends before it has read anything
else, with nothing written. That is a problem of usage, except where the file cannot be read at all:
then the exit code is that of the file error.
-/
namespace MarkupRules.Cli

variable {files : String → Except FileError Content}

/-- `NeedsSchema command schema limits fits`: the command reads the schema in this file under these
limits, and can use the models that `fits` holds of. To validate, no tag may ask for a check. -/
inductive NeedsSchema : Command → String → Limits → (Schema.Model → Prop) → Prop where
  | validate (schema : String) (documents : List String) (denyUnknown : Bool)
      (boolean : Option (List String)) (limits : Limits) :
    NeedsSchema (.validate schema documents denyUnknown boolean limits) schema limits
      fun m => ∀ entry ∈ m.walk, entry.2.constraints.checkBy = none
  | rules (schema : String) (limits : Limits) :
    NeedsSchema (.rules schema limits) schema limits fun _ => True

theorem Yields.checks_eq_nil_iff {limits : Limits} {m : Schema.Model}
    {file : Except FileError Content} (h : Yields limits m file) :
    m.checks = [] ↔ ∀ entry ∈ m.walk, entry.2.constraints.checkBy = none := by
  cases h with
  | mk hSize hText hCompile => exact Cli.checks_eq_nil_iff hCompile

section Command

variable {command : Command} {schema : String} {limits : Limits} {fits : Schema.Model → Prop}
  (format : Format)

/-- A command that finds no fitting schema stops at the file, and has read nothing else. -/
theorem NeedsSchema.stops (h : NeedsSchema command schema limits fits)
    (hNone : ¬ ∃ m, Yields limits m (files schema) ∧ fits m) :
    StopsAt schema (files schema) ((command.program format).run files) ∧
      (command.program format).pathsRead files = [schema] := by
  cases h with
  | validate schema documents denyUnknown boolean limits =>
    apply validate_of_unfit
    rintro ⟨m, hYields, hChecks⟩
    exact hNone ⟨m, hYields, hYields.checks_eq_nil_iff.mp hChecks⟩
  | rules schema limits =>
    rw [Command.program, rules_eq]
    apply withModel_of_unfit _ _ hNone
    intro m hUnfit
    exact absurd trivial hUnfit

/-- Reading documents and writing reports is no problem of usage, whatever the documents are. -/
theorem exit_run_forEach {ρ : Type} (report : String → Content → ρ) (last : List ρ → Outcome)
    (hLast : ∀ reports, (last reports).exit ≠ .usage) (documents : List String) :
    ((forEach report last [] documents).run files).exit ≠ .usage := by
  rw [run_forEach]
  split
  · exact hLast _
  · next path e _ => cases e <;> simp [Outcome.unread, FileError.exitCode]

/-- A command that finds a fitting schema may still end badly, but not with the exit code for usage.
-/
theorem NeedsSchema.goesOn (h : NeedsSchema command schema limits fits) {m : Schema.Model}
    (hYields : Yields limits m (files schema)) (hFits : fits m) :
    ((command.program format).run files).exit ≠ .usage := by
  cases h with
  | validate schema documents denyUnknown boolean limits =>
    have hChecks := hYields.checks_eq_nil_iff.mpr hFits
    rw [Command.program, run_validate_of_yields _ _ _ _ hYields hChecks,
      validateDocuments_eq hChecks]
    apply exit_run_forEach
    intro reports
    dsimp only
    split <;> simp
  | rules schema limits =>
    rw [Command.program, rules_eq, (withModel_of_yields _ hYields).1]
    simp [Program.run]

end Command

/-- Without a schema that it can use a run reads the schema file only and writes nothing, and its
exit code is 64 if the file could be read. With one the exit code is another. -/
theorem exit_of_schema {onTerminal : Bool} {env : Environment} {args : List String}
    {format : Option Format} {command : Command} {schema : String} {limits : Limits}
    {fits : Schema.Model → Prop}
    (hInvoke : readArguments env args = .invoke ⟨format, command⟩)
    (hNeeds : NeedsSchema command schema limits fits) :
    ((¬ ∃ m, Yields limits m (files schema) ∧ fits m) →
      (program onTerminal env args).pathsRead files = [schema] ∧
      ((program onTerminal env args).run files).stdout = "" ∧
      ((program onTerminal env args).run files).exit.toNat = match files schema with
        | .ok _ => 64
        | .error .notFound => 1
        | .error .permissionDenied => 50
        | .error .notPermitted => 50
        | .error _ => 125) ∧
    ((∃ m, Yields limits m (files schema) ∧ fits m) →
      ((program onTerminal env args).run files).exit.toNat ≠ 64) := by
  rw [program, hInvoke]
  dsimp only
  constructor
  · intro hNone
    obtain ⟨hStops, hPaths⟩ :=
      hNeeds.stops (format.getD (if onTerminal then .table else .json)) hNone
    refine ⟨hPaths, ?_⟩
    generalize Program.run files _ = o at hStops
    generalize files schema = file at hStops
    cases hStops with
    | unread e => cases e <;> exact ⟨rfl, rfl⟩
    | misused content message => exact ⟨rfl, rfl⟩
  · rintro ⟨m, hYields, hFits⟩
    have hExit := hNeeds.goesOn (format.getD (if onTerminal then .table else .json)) hYields hFits
    generalize Program.run files _ = o at hExit
    intro h64
    apply hExit
    cases hCode : o.exit with
    | usage => rfl
    | _ => simp [hCode, ExitCode.toNat] at h64

/-- The file `a` holds a schema cut short, so there is no model in it. -/
theorem not_yields_broken (m : Schema.Model) : ¬ Yields {} m (brokenFiles "a") := by
  intro h
  have hFile : brokenFiles "a" = .ok ⟨[60, 114, 62], by decide⟩ := rfl
  rw [hFile] at h
  cases h with
  | @mk _ text hSize hText hCompile =>
    have hDecode : Text.decode [60, 114, 62] = .ok "<r>" := by decide +kernel
    obtain rfl := Except.ok.inj (hDecode.symm.trans hText)
    have hError := (Schema.compile_eq_ok_iff.mp hCompile).1
    revert hError
    decide +kernel

/-- A validation under a broken schema ends with 64. The document is not read and nothing is
printed. -/
theorem exit_of_schema_broken :
    readArguments {} ["validate", "-s", "a", "b"] =
        .invoke ⟨none, .validate "a" ["b"] false none {}⟩ ∧
      (¬ ∃ m, Yields {} m (brokenFiles "a")) ∧
      (program false {} ["validate", "-s", "a", "b"]).pathsRead brokenFiles = ["a"] ∧
      ((program false {} ["validate", "-s", "a", "b"]).run brokenFiles).stdout = "" ∧
      ((program false {} ["validate", "-s", "a", "b"]).run brokenFiles).exit.toNat = 64 := by
  have hInvoke : readArguments {} ["validate", "-s", "a", "b"] =
      .invoke ⟨none, .validate "a" ["b"] false none {}⟩ := by decide +kernel
  obtain ⟨hStops, -⟩ :=
    @exit_of_schema brokenFiles false _ _ _ _ _ _ _ hInvoke (.validate ..)
  refine ⟨hInvoke, ?_, hStops ?_⟩
  · rintro ⟨m, hYields⟩
    exact not_yields_broken m hYields
  · rintro ⟨m, hYields, -⟩
    exact not_yields_broken m hYields

/-- A schema file that is not there is no problem of usage. It has the exit code of an input that is
not found. -/
theorem exit_absent_schema :
    readArguments {} ["rules", "-s", "c"] = .invoke ⟨none, .rules "c" {}⟩ ∧
      (¬ ∃ m, Yields {} m (brokenFiles "c")) ∧
      ((program false {} ["rules", "-s", "c"]).run brokenFiles).exit.toNat = 1 := by
  refine ⟨by decide +kernel, ?_, by decide +kernel⟩
  rintro ⟨m, hYields⟩
  have hFile : brokenFiles "c" = .error .notFound := rfl
  rw [hFile] at hYields
  cases hYields

end MarkupRules.Cli
