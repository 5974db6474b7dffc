import MethodMacros.Proofs.CommandLine.Escaping

/-!
# Exit codes

A command line is meant to end with an exit code whatever happens: 0 if its command did what it
should, 1 with a message if the command failed, and 2 if the command line was not understood.
`Keeps` says this of an exit code.  It does not always hold: a failure may escape from the command,
and then there is no exit code at all.  When this is can be said beforehand, and `exists_keeps_iff`
says it in both directions.

* `exists_refuse_on`, `keeps_of_refusal`: a command line that is refused, or that asks for help.
* `keeps_of_none`: a command line that selects no command.
* `exists_exitCode_on`, `keeps_of_command`: a command from which nothing escapes.
* `on_ne_ok_of_escapes`: a command from which something escapes ends with no exit code.

`run_garbledHost` is a command line of the last kind: the report that it is given is no text.
-/

namespace MethodMacros.CommandLine

open MethodMacros.Action

variable {h : Host}

/-- What an exit code promises.  It is 2 only for a command line that was not understood, and where
a command was selected, it is 0 if the command did what it should, and otherwise 1, after a message
that says why. -/
structure Keeps (args : List String) (h : Host) (code : Nat) (after : Host) : Prop where
  range : code = 0 ∨ code = 1 ∨ code = 2
  usage : code = 2 → ∃ grammar message, readSettings args = .error ⟨grammar, .refused message⟩
  selected : ∀ settings command, readSettings args = .ok settings →
    settings.command = some command →
    (command.run.on h).1 = .ok () ∧ code = 0 ∨
      ∃ f rest, (command.run.on h).1 = .error f ∧ code = 1 ∧
        after.messages = .status ("Error: " ++ f.message ++ "\n") :: rest

/-- A command line that is not carried out ends with an exit code all the same. -/
theorem exists_refuse_on (r : Refusal) (h : Host) : ∃ code after,
    (refuse r).on h = (.ok code, after) ∧
      (code = 0 ∨ code = 2 ∧ ∃ message, r.ending = .refused message) := by
  unfold refuse
  cases r.ending with
  | help => exact ⟨0, _, rfl, .inl rfl⟩
  | refused message => exact ⟨2, _, rfl, .inr ⟨rfl, message, rfl⟩⟩

/-- A failure that is reported becomes an exit code. -/
theorem exists_reportFailure_on (name : CommandName) {f : Failure} (hf : f.isReported = true)
    (h : Host) : ∃ after rest, (reportFailure name f).on h = (.ok 1, after) ∧
      after.messages = .status ("Error: " ++ f.message ++ "\n") :: rest := by
  unfold reportFailure
  rw [if_pos hf]
  exact ⟨_, _, rfl, rfl⟩

/-- A failure that is not reported is passed on, and nothing is said. -/
theorem reportFailure_on_of_not_reported (name : CommandName) {f : Failure}
    (hf : f.isReported = false) (h : Host) : (reportFailure name f).on h = (.error f, h) := by
  unfold reportFailure
  rw [hf]
  rfl

/-- A command that has done what it should has the exit code 0, and else its failure is reported. -/
theorem exitCode_on (command : Command) (h : Host) :
    command.exitCode.on h = match command.run.on h with
      | (.ok (), after) => (.ok 0, after)
      | (.error f, after) => (reportFailure command.name f).on after := by
  unfold Command.exitCode
  rw [on_bind, on_outcome]
  rcases command.run.on h with ⟨f | _, after⟩ <;> rfl

/-- A command that was selected ends with an exit code that keeps what it promises, unless it
escapes. -/
theorem exists_exitCode_on {command : Command} (hescapes : ¬ Escapes (command.run.on h).1) :
    ∃ code after, command.exitCode.on h = (.ok code, after) ∧
      ((command.run.on h).1 = .ok () ∧ code = 0 ∨
        ∃ f rest, (command.run.on h).1 = .error f ∧ code = 1 ∧
          after.messages = .status ("Error: " ++ f.message ++ "\n") :: rest) := by
  rw [exitCode_on]
  rcases hon : command.run.on h with ⟨f | _, after⟩
  · rw [hon] at hescapes
    have hreported : f.isReported = true := by
      cases hf : f.isReported with
      | true => rfl
      | false => exact absurd ((escapes_error f).mpr hf) hescapes
    obtain ⟨last, rest, hon, hmessages⟩ := exists_reportFailure_on command.name hreported after
    exact ⟨1, last, hon, .inr ⟨f, rest, rfl, rfl, hmessages⟩⟩
  · exact ⟨0, after, rfl, .inl ⟨rfl, rfl⟩⟩

section Run

variable {args : List String} {settings : Settings} {command : Command}

/-- A command line that is not understood, or that asks for help. -/
theorem keeps_of_refusal {refusal : Refusal} (hargs : readSettings args = .error refusal)
    (h : Host) : ∃ code after, (run args).on h = (.ok code, after) ∧ Keeps args h code after := by
  obtain ⟨code, after, hon, hcode⟩ := exists_refuse_on refusal h
  have hrun : run args = refuse refusal := by
    unfold run
    rw [hargs]
  refine ⟨code, after, by rw [hrun, hon], ?_, ?_, ?_⟩
  · rcases hcode with rfl | ⟨rfl, -⟩
    · exact .inl rfl
    · exact .inr (.inr rfl)
  · intro htwo
    rcases hcode with hzero | ⟨-, message, hending⟩
    · omega
    · obtain ⟨grammar, ending⟩ := refusal
      obtain rfl := hending
      exact ⟨grammar, message, hargs⟩
  · intro other _ hother
    cases hargs.symm.trans hother

/-- A command line that selects no command. -/
theorem keeps_of_none (hargs : readSettings args = .ok settings)
    (hcommand : settings.command = none) (h : Host) :
    ∃ code after, (run args).on h = (.ok code, after) ∧ Keeps args h code after := by
  have hrun : run args = (do
      say (mainGrammar.helpText (← columns))
      return 1) := by
    unfold run Settings.run
    rw [hargs]
    dsimp only
    rw [hcommand]
  refine ⟨1, _, by rw [hrun]; rfl, .inr (.inl rfl), fun htwo => by omega, ?_⟩
  intro other command hother hselected
  obtain rfl := Except.ok.inj (hargs.symm.trans hother)
  cases hcommand.symm.trans hselected

/-- A command line that selects a command is carried out as the command. -/
theorem run_of_command (hargs : readSettings args = .ok settings)
    (hcommand : settings.command = some command) : run args = command.exitCode := by
  unfold run Settings.run
  rw [hargs]
  dsimp only
  rw [hcommand]

/-- A command line whose command does not escape. -/
theorem keeps_of_command (hargs : readSettings args = .ok settings)
    (hcommand : settings.command = some command) (hescapes : ¬ Escapes (command.run.on h).1) :
    ∃ code after, (run args).on h = (.ok code, after) ∧ Keeps args h code after := by
  obtain ⟨code, after, hon, hcode⟩ := exists_exitCode_on hescapes
  refine ⟨code, after, by rw [run_of_command hargs hcommand, hon], ?_, ?_, ?_⟩
  · rcases hcode with ⟨-, rfl⟩ | ⟨_, _, -, rfl, -⟩
    · exact .inl rfl
    · exact .inr (.inl rfl)
  · intro htwo
    rcases hcode with ⟨-, hzero⟩ | ⟨_, _, -, hone, -⟩
    · omega
    · omega
  · intro other selected hother hselected
    obtain rfl := Except.ok.inj (hargs.symm.trans hother)
    obtain rfl := Option.some.inj (hcommand.symm.trans hselected)
    exact hcode

/-- A command line whose command escapes ends with no exit code. -/
theorem on_ne_ok_of_escapes (hargs : readSettings args = .ok settings)
    (hcommand : settings.command = some command) (hescapes : Escapes (command.run.on h).1)
    (code : Nat) (after : Host) : (run args).on h ≠ (.ok code, after) := by
  obtain ⟨f, hf, hreported⟩ := hescapes
  rw [run_of_command hargs hcommand, exitCode_on]
  rcases hon : command.run.on h with ⟨f' | _, last⟩
  · rw [hon] at hf
    obtain rfl := Except.error.inj hf
    dsimp only
    rw [reportFailure_on_of_not_reported command.name hreported]
    intro heq
    cases heq
  · rw [hon] at hf
    cases hf

end Run

/-- **Exit codes.**  A command line ends with an exit code that keeps what it promises, exactly if
no failure escapes from the command that it selects. -/
theorem exists_keeps_iff (args : List String) (h : Host) :
    (∃ code after, (run args).on h = (.ok code, after) ∧ Keeps args h code after) ↔
      ∀ settings command, readSettings args = .ok settings → settings.command = some command →
        ¬ command.Escapes h := by
  constructor
  · rintro ⟨code, after, hon, -⟩ settings command hargs hcommand hescapes
    exact on_ne_ok_of_escapes hargs hcommand ((escapes_run command).mpr hescapes) code after hon
  · intro hkept
    cases hargs : readSettings args with
    | error refusal => exact keeps_of_refusal hargs h
    | ok settings =>
      cases hcommand : settings.command with
      | none => exact keeps_of_none hargs hcommand h
      | some command =>
        refine keeps_of_command hargs hcommand fun hescapes => ?_
        exact hkept settings command hargs hcommand ((escapes_run command).mp hescapes)

/-- A host with a captured report whose one byte is no text. -/
def garbledHost : Host where
  files := .ofList [(["r.txt"], .file { mode := 0o644, modified := 0, content := [0xff] })]
  folder := []
  clock := 0

/-- Making a header of a report that is no text ends with no exit code. -/
theorem run_garbledHost : ¬ ∃ code after,
    (run ["parse", "a.B", "-o", "o.h", "--input", "r.txt"]).on garbledHost =
      (.ok code, after) := by
  have hfailed : ((run ["parse", "a.B", "-o", "o.h", "--input", "r.txt"]).on
      garbledHost).1.toOption.isNone = true := by
    decide +kernel
  rintro ⟨code, after, hon⟩
  exact ne_ok_of_toOption hfailed code (congrArg Prod.fst hon)

end MethodMacros.CommandLine
