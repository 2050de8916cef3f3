import IntelHex.Cli.Program

/-!
# From a call of the program to a job

A call asks for a job if its words name a command and its parameters stand up to their checks. The
program then does what the job does, so what is proved of jobs holds of the program. Any other call
leaves the files as they are. A job decodes its input first: if it cannot be decoded, every command says
so and does nothing else, and otherwise each one makes its own of what its consumers have been given.
-/

namespace IntelHex.Cli

/-- A call of the program. -/
structure Call where
  /-- The words of the command line. -/
  words : List String
  /-- What can be read from standard input. -/
  standardInput : List UInt8
  /-- The files before the call. -/
  disk : Disk
  /-- The room for blocks of memory. -/
  room : Nat

namespace Call

variable {call : Call} {verbose : Bool} {job : Job}

/-- What comes of a call. -/
def outcome (call : Call) : Outcome :=
  run call.words call.standardInput call.disk call.room

/-- A call asks for a job: not for the version or for help, but for a command with parameters that are
accepted. -/
inductive Asks (call : Call) : (verbose : Bool) → Job → Prop
  | intro {before : Arguments GeneralKey} {name : String} {rest : List String} {verb : Verb}
      {arguments : Arguments Key} {job : Job}
      (hbefore : Arguments.scan generalSpecs false call.words = .ok before)
      (hversion : before.has .version = false) (hhelp : before.has .help = false)
      (hoperands : before.operands = name :: rest) (hname : Verb.ofName? name = some verb)
      (hscan : Arguments.scan verb.specs true rest = .ok arguments)
      (hcommandHelp : arguments.has .help = false)
      (hjob : Job.ofArguments call.disk call.standardInput call.room verb arguments = .ok job) :
    Asks call (before.has .verbose) job

end Call

section Cases

variable {words : List String} {disk : Disk}

/-- Neither the version nor help is asked for. -/
theorem find?_informing_eq_none {arguments : Arguments GeneralKey} :
    (arguments.keys.find? fun key => key = .version ∨ key = .help) = none ↔
      arguments.has .version = false ∧ arguments.has .help = false := by
  simp only [List.find?_eq_none, Arguments.keys, List.mem_eraseDups, Arguments.has,
    decide_eq_true_eq, decide_eq_false_iff_not]
  constructor
  · intro h
    exact ⟨fun hversion => h _ hversion (.inl rfl), fun hhelp => h _ hhelp (.inr rfl)⟩
  · rintro ⟨hversion, hhelp⟩ key hkey (rfl | rfl)
    · exact hversion hkey
    · exact hhelp hkey

/-- A refused command line leaves the files alone. -/
theorem disk_refused (disk : Disk) (refusal : Refusal) : (refused disk refusal).disk = disk := by
  cases refusal <;> rfl

/-- The words before a command leave the files alone, or the program goes on behind them. -/
theorem general_cases (words : List String) (disk : Disk)
    (next : (verbose : Bool) → (rest : List String) → Outcome) :
    (general words disk next).disk = disk ∨ ∃ before,
      Arguments.scan generalSpecs false words = .ok before ∧ before.has .version = false ∧
        before.has .help = false ∧
          general words disk next = next (before.has .verbose) before.operands := by
  unfold general
  split
  · exact .inl (disk_refused disk _)
  · next before hbefore =>
    split
    · exact .inl rfl
    · exact .inl rfl
    · next hnone =>
      obtain ⟨hversion, hhelp⟩ := find?_informing_eq_none.1 hnone
      exact .inr ⟨before, hbefore, hversion, hhelp, rfl⟩

/-- A command leaves the files alone, or does what its job does. -/
theorem Verb.run_cases (verb : Verb) (words : List String) (verbose : Bool)
    (standardInput : List UInt8) (room : Nat) (disk : Disk) :
    (verb.run words verbose standardInput room disk).disk = disk ∨ ∃ arguments job,
      Arguments.scan verb.specs true words = .ok arguments ∧ arguments.has .help = false ∧
        Job.ofArguments disk standardInput room verb arguments = .ok job ∧
          verb.run words verbose standardInput room disk = job.run verbose room disk := by
  unfold Verb.run
  split
  · exact .inl (disk_refused disk _)
  · next arguments hscan =>
    split
    · exact .inl rfl
    · next hhelp =>
      split
      · exact .inl (disk_refused disk _)
      · next job hjob =>
        exact .inr ⟨arguments, job, hscan, Bool.eq_false_iff.2 hhelp, hjob, rfl⟩

end Cases

namespace Call

variable {call : Call} {verbose : Bool} {job : Job}

/-- A call that asks for a job does what the job does. -/
theorem Asks.outcome_eq (h : call.Asks verbose job) :
    call.outcome = job.run verbose call.room call.disk := by
  obtain ⟨hbefore, hversion, hhelp, hoperands, hname, hscan, hcommandHelp, hjob⟩ := h
  have hwords : ¬call.words.isEmpty := by
    intro hempty
    rw [List.isEmpty_iff.1 hempty] at hbefore
    cases hbefore
    cases hoperands
  have hnone := find?_informing_eq_none.2 ⟨hversion, hhelp⟩
  rw [outcome, run, if_neg hwords, general, hbefore]
  simp only [hnone, hoperands, hname, Verb.run, hscan, hcommandHelp, Bool.false_eq_true, if_false,
    hjob]

/-- A call asks for a job of a command if its words are the name of the command and its parameters. -/
theorem asks_of_words {verb : Verb} {rest : List String} {arguments : Arguments Key}
    (hwords : call.words = verb.name :: rest)
    (hscan : Arguments.scan verb.specs true rest = .ok arguments) (hhelp : arguments.has .help = false)
    (hjob : Job.ofArguments call.disk call.standardInput call.room verb arguments = .ok job) :
    call.Asks false job := by
  have hbefore : Arguments.scan generalSpecs false call.words =
      .ok { operands := verb.name :: rest } := by
    rw [hwords]
    cases verb <;> rfl
  have hname : Verb.ofName? verb.name = some verb := by cases verb <;> rfl
  exact .intro hbefore rfl rfl rfl hname hscan hhelp hjob

/-- A call asks for a job, or leaves the files as they are. -/
theorem asks_or_disk_eq (call : Call) :
    (∃ verbose job, call.Asks verbose job) ∨ call.outcome.disk = call.disk := by
  unfold outcome run
  split
  · exact .inr rfl
  · rcases general_cases call.words call.disk _ with hdisk | ⟨before, hbefore, hversion, hhelp, hnext⟩
    · exact .inr hdisk
    · rw [hnext]
      cases hoperands : before.operands with
      | nil => exact .inr (disk_refused call.disk _)
      | cons name rest =>
        dsimp only
        split
        · next verb hname =>
          rcases verb.run_cases rest (before.has .verbose) call.standardInput call.room call.disk with
            hdisk | ⟨arguments, job, hscan, hcommandHelp, hjob, -⟩
          · exact .inr hdisk
          · exact .inl ⟨_, job, hbefore, hversion, hhelp, hoperands, hname, hscan, hcommandHelp, hjob⟩
        · rcases general_cases (name :: rest) call.disk _ with hdisk | ⟨_, _, _, _, hrefused⟩
          · exact .inr hdisk
          · exact .inr ((congrArg Outcome.disk hrefused).trans (disk_refused call.disk _))

end Call

/-! ### Jobs decode their input -/

section Jobs

variable {σ : Type} {job : Job} {disk : Disk} {next : Run Unit σ → Outcome}
  {decoded : Except FileError Unit × Run Unit σ}

/-- What is made of an input once it is decoded, or what is said of it if it is not. -/
def afterDecoding (disk : Disk) (decoded : Except FileError Unit × Run Unit σ)
    (next : Run Unit σ → Outcome) : Outcome :=
  match decoded with
  | (.error error, run) => undecoded disk run.trace error
  | (.ok (), run) => next run

/-- An input that is not decoded leaves the files alone. -/
theorem disk_undecoded (disk : Disk) (trace : List Event) (error : FileError) :
    (undecoded disk trace error).disk = disk := by
  cases error <;> rfl

/-- Where nothing that is made of an input touches the files, they are left alone. -/
theorem disk_afterDecoding (hnext : ∀ run, (next run).disk = disk) :
    (afterDecoding disk decoded next).disk = disk := by
  obtain ⟨error | ⟨⟩, run⟩ := decoded
  · exact disk_undecoded disk run.trace error
  · exact hnext run

variable (verbose : Bool) (room : Nat) (disk)

/-- Validating makes nothing of the input. -/
theorem Job.run_of_validate (hverb : job.verb = .validate) :
    job.run verbose room disk =
      afterDecoding disk (decodeWhole listHost none {} verbose job.settings.chunkSize job.input)
        fun run => { errors := logLines run.trace, disk := disk } := by
  simp only [Job.run, hverb]
  rcases decodeWhole listHost none {} verbose job.settings.chunkSize job.input with
    ⟨_ | ⟨⟩, run⟩ <;> rfl

/-- Listing prints the blocks. -/
theorem Job.run_of_dump (hverb : job.verb = .dump) :
    job.run verbose room disk =
      afterDecoding disk (decodeWhole listHost (some ()) {} verbose job.settings.chunkSize job.input)
        fun run =>
          { output := textBytes (String.ofList (Listing.lines job.settings.letters run.world.blocks))
            errors := logLines run.trace
            disk := disk } := by
  simp only [Job.run, hverb]
  rcases decodeWhole listHost (some ()) {} verbose job.settings.chunkSize job.input with
    ⟨_ | ⟨⟩, run⟩ <;> rfl

/-- Checking prints the check value of the image, if there is one. -/
theorem Job.run_of_crc32 (hverb : job.verb = .crc32) :
    job.run verbose room disk =
      afterDecoding disk (decodeWhole memoryHost (some ()) {} verbose job.settings.chunkSize job.input)
        fun run => match run.world.memory.imageCrc job.settings.extent room with
          | .ok value =>
            { output := textBytes (Text.Hex.marked 8 value ++ "\n")
              errors := logLines run.trace
              disk := disk }
          | .error error =>
            { status := .crashed (.image error), errors := logLines run.trace, disk := disk } := by
  simp only [Job.run, hverb]
  rcases decodeWhole memoryHost (some ()) {} verbose job.settings.chunkSize job.input with
    ⟨_ | ⟨⟩, run⟩ <;> rfl

/-- Saving writes the image. -/
theorem Job.run_of_tobin (hverb : job.verb = .tobin) :
    job.run verbose room disk =
      afterDecoding disk (decodeWhole memoryHost (some ()) {} verbose job.settings.chunkSize job.input)
        fun run => writeImage disk (logLines run.trace) run.world.memory job.settings.extent room
          job.output := by
  simp only [Job.run, hverb]
  rcases decodeWhole memoryHost (some ()) {} verbose job.settings.chunkSize job.input with
    ⟨_ | ⟨⟩, run⟩ <;> rfl

end Jobs

end IntelHex.Cli
