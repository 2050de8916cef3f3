import IntelHex.Cli.Command
import IntelHex.Collector
import IntelHex.Image.Crc
import IntelHex.Listing
import IntelHex.Text.ControlSequence
import IntelHex.WholeFile

/-!
# The program

What a command line does to the files, prints, and answers to the caller. Nothing is printed and no
file is touched before the whole input has been decoded.
-/

namespace IntelHex.Cli

/-- The version of the program. -/
def version : String := "0.1.0"

/-- The name under which events are logged. -/
def logName : String := "ihexfeed.decoder"

/-- Why the program broke off. -/
inductive Crash
  /-- There is no image of the data. -/
  | image (error : ImageError)
  /-- The decoder did not return. -/
  | decoding (abort : Abort)
  /-- A file name holds a null character. -/
  | nullInName
deriving DecidableEq, Repr

/-- The wording of a crash. -/
def Crash.message : Crash → String
  | .image error => error.message
  | .decoding abort => abort.message
  | .nullInName => OpenError.nullInName.message

/-- How the program ended. -/
inductive Status
  /-- With an exit code. -/
  | exit (code : Nat)
  /-- By breaking off. -/
  | crashed (crash : Crash)
deriving DecidableEq, Repr

/-- All that the program did. -/
structure Outcome where
  /-- How it ended. -/
  status : Status := .exit 0
  /-- What it wrote to standard output. -/
  output : List UInt8 := []
  /-- What it wrote to standard error, line by line. -/
  errors : List String := []
  /-- The files after it. -/
  disk : Disk
deriving DecidableEq, Repr

/-- The bytes of a text. -/
def textBytes (text : String) : List UInt8 :=
  text.toUTF8.toList

/-- The line for an error. It is not meant for a terminal. -/
def errorLine (message : String) : String :=
  "Error: " ++ String.ofList (Text.ControlSequence.remove message.toList)

/-- The log lines of some events. -/
def logLines (trace : List Event) : List String :=
  trace.map fun event => logName ++ ": " ++ event.message

/-- A help text. -/
def helpText : String :=
  "Usage: ihexfeed [-V] [-v] COMMAND [OPTIONS] INFILE [OUTFILE]\n\n"
    ++ "Commands: " ++ ", ".intercalate (Verb.all.map Verb.name) ++ "\n"

/-- The outcome of a refused command line. -/
def refused (disk : Disk) : Refusal → Outcome
  | .usage e => { status := .exit 2, errors := [errorLine e.message], disk := disk }
  | .nullInName => { status := .crashed .nullInName, disk := disk }

/-- The outcome of an input that was not decoded. -/
def undecoded (disk : Disk) (trace : List Event) : FileError → Outcome
  | .aborted abort => { status := .crashed (.decoding abort), errors := logLines trace, disk := disk }
  | e =>
    { status := .exit 1, errors := logLines trace ++ [errorLine e.message], disk := disk }

/-- Writes an image. A file is opened, and so emptied, before the image is taken. -/
def writeImage (disk : Disk) (log : List String) (memory : Memory) (extent : Extent) (room : Nat) :
    Channel → Outcome
  | .standard =>
    match memory.image extent room with
    | .ok data => { output := data, errors := log, disk := disk }
    | .error e => { status := .crashed (.image e), errors := log, disk := disk }
  | .file name =>
    match disk.create name with
    | .error .nullInName => { status := .crashed .nullInName, errors := log, disk := disk }
    | .error e =>
      { status := .exit 1
        errors := log ++ [errorLine ("Could not open file " ++ quoted name ++ ": " ++ e.message)]
        disk := disk }
    | .ok (place, disk) =>
      match memory.image extent room with
      | .ok data => { errors := log, disk := disk.put place data }
      | .error e => { status := .crashed (.image e), errors := log, disk := disk }

/-- The list of blocks as the only consumer. -/
def listHost : Host Unit BlockList := fun _ block list => list.receive block

/-- The memory as the only consumer. -/
def memoryHost : Host Unit MemoryImage := fun _ block image => image.receive block

/-- The outcome of a job. -/
def Job.run (job : Job) (verbose : Bool) (room : Nat) (disk : Disk) : Outcome :=
  let size := job.settings.chunkSize
  match job.verb with
  | .validate =>
    match decodeWhole listHost none {} verbose size job.input with
    | (.error e, run) => undecoded disk run.trace e
    | (.ok (), run) => { errors := logLines run.trace, disk := disk }
  | .dump =>
    match decodeWhole listHost (some ()) {} verbose size job.input with
    | (.error e, run) => undecoded disk run.trace e
    | (.ok (), run) =>
      { output := textBytes (String.ofList (Listing.lines job.settings.letters run.world.blocks))
        errors := logLines run.trace
        disk := disk }
  | .crc32 =>
    match decodeWhole memoryHost (some ()) {} verbose size job.input with
    | (.error e, run) => undecoded disk run.trace e
    | (.ok (), run) =>
      match run.world.memory.imageCrc job.settings.extent room with
      | .ok value =>
        { output := textBytes (Text.Hex.marked 8 value ++ "\n")
          errors := logLines run.trace
          disk := disk }
      | .error e =>
        { status := .crashed (.image e), errors := logLines run.trace, disk := disk }
  | .tobin =>
    match decodeWhole memoryHost (some ()) {} verbose size job.input with
    | (.error e, run) => undecoded disk run.trace e
    | (.ok (), run) =>
      writeImage disk (logLines run.trace) run.world.memory job.settings.extent room job.output

/-- Runs a command with the words after its name. -/
def Verb.run (verb : Verb) (words : List String) (verbose : Bool) (standardInput : List UInt8)
    (room : Nat) (disk : Disk) : Outcome :=
  match Arguments.scan verb.specs true words with
  | .error e => refused disk (.usage e)
  | .ok arguments =>
    if arguments.has .help then { output := textBytes helpText, disk := disk }
    else match Job.ofArguments disk standardInput room verb arguments with
      | .error refusal => refused disk refusal
      | .ok job => job.run verbose room disk

/-- Runs what comes before the command, and then goes on with the rest of the words. -/
def general (words : List String) (disk : Disk)
    (next : (verbose : Bool) → (rest : List String) → Outcome) : Outcome :=
  match Arguments.scan generalSpecs false words with
  | .error e => refused disk (.usage e)
  | .ok arguments =>
    match arguments.keys.find? fun key => key = .version ∨ key = .help with
    | some .version => { output := textBytes (version ++ "\n"), disk := disk }
    | some _ => { output := textBytes helpText, disk := disk }
    | none => next (arguments.has .verbose) arguments.operands

/-- Runs a command line. What follows the end of the options and is no command is looked at as an
option once more before it is refused. -/
def run (words : List String) (standardInput : List UInt8) (disk : Disk)
    (room : Nat := Allocation.usualRoom) : Outcome :=
  if words.isEmpty then { status := .exit 2, errors := [helpText], disk := disk }
  else general words disk fun verbose rest =>
    match rest with
    | [] => refused disk (.usage .missingCommand)
    | name :: words =>
      match Verb.ofName? name with
      | some verb => verb.run words verbose standardInput room disk
      | none => general rest disk fun _ _ => refused disk (.usage (.noSuchCommand name))

end IntelHex.Cli
