import IntelHex.Cli.Disk
import IntelHex.Cli.Options
import IntelHex.Image
import IntelHex.Numeral.Convert
import IntelHex.Source

/-!
# Commands and their parameters

Four commands work on a file of records. The values of their parameters are checked one after the
other: first those of the options, in the order in which these were first given, then the input
file, which is opened at once, and then the name of the output file.
-/

namespace IntelHex.Cli

/-- The commands. -/
inductive Verb
  /-- Checks a file. -/
  | validate
  /-- Lists the data blocks of a file. -/
  | dump
  /-- Prints the check value of the image of a file. -/
  | crc32
  /-- Writes the image of a file. -/
  | tobin
deriving DecidableEq, Repr

/-- All commands. -/
def Verb.all : List Verb :=
  [.validate, .dump, .crc32, .tobin]

/-- The name of a command. -/
def Verb.name : Verb → String
  | .validate => "validate"
  | .dump => "dump"
  | .crc32 => "crc32"
  | .tobin => "tobin"

/-- The command with a name. -/
def Verb.ofName? (name : String) : Option Verb :=
  all.find? fun verb => verb.name = name

/-- The options before the command. -/
inductive GeneralKey
  | version
  | verbose
  | help
deriving DecidableEq, Repr

/-- The options before the command. -/
def generalSpecs : List (OptionSpec GeneralKey) :=
  [⟨.version, some 'V', "version", false⟩, ⟨.verbose, some 'v', "verbose", false⟩,
    ⟨.help, none, "help", false⟩]

/-- The options of the commands. -/
inductive Key
  | chunkSize
  | lower
  | start
  | endex
  | fill
  | help
deriving DecidableEq, Repr

/-- The chunk size option. -/
def chunkSizeSpec : OptionSpec Key := ⟨.chunkSize, some 'c', "chunk-size", true⟩

/-- The options that choose an extent of the image. -/
def extentSpecs : List (OptionSpec Key) :=
  [⟨.start, some 's', "start", true⟩, ⟨.endex, some 'e', "endex", true⟩,
    ⟨.fill, some 'f', "fill", true⟩]

/-- The option that asks for help. -/
def helpSpec : OptionSpec Key := ⟨.help, none, "help", false⟩

/-- The options of a command. -/
def Verb.specs : Verb → List (OptionSpec Key)
  | .validate => [chunkSizeSpec, helpSpec]
  | .dump => [chunkSizeSpec, ⟨.lower, some 'u', "lower", false⟩, helpSpec]
  | .crc32 | .tobin => chunkSizeSpec :: extentSpecs ++ [helpSpec]

/-- The values of the options of a command. -/
structure Settings where
  /-- The chunk size for reading. -/
  chunkSize : Int := Run.defaultChunk
  /-- The letters for listed digits. -/
  letters : LetterCase := .upper
  /-- The part of the memory that is shown. -/
  extent : Extent := {}
deriving DecidableEq, Repr

/-- The integer that a value stands for. -/
def integer? (value : String) : Option Int :=
  (Numeral.ofText value.toList).toOption

/-- Sets the option with a key to a value, or refuses the value. -/
def Settings.set (settings : Settings) (key : Key) (value : String) : Except UsageError Settings :=
  match key with
  | .chunkSize =>
    match integer? value with
    | some size =>
      if 0 < size then .ok { settings with chunkSize := size }
      else .error (.invalidValue "'-c' / '--chunk-size'" ("invalid chunk size: " ++ quoted value))
    | none =>
      .error (.invalidValue "'-c' / '--chunk-size'" ("invalid chunk size: " ++ quoted value))
  | .start =>
    match integer? value with
    | some i => .ok { settings with extent := { settings.extent with start := some i } }
    | none => .error (.invalidValue "'-s' / '--start'" ("invalid integer: " ++ quoted value))
  | .endex =>
    match integer? value with
    | some i => .ok { settings with extent := { settings.extent with endex := some i } }
    | none => .error (.invalidValue "'-e' / '--endex'" ("invalid integer: " ++ quoted value))
  | .fill =>
    match integer? value with
    | some i =>
      if 0 ≤ i ∧ i ≤ 255 then .ok { settings with extent := { settings.extent with fill := i } }
      else .error (.invalidValue "'-f' / '--fill'" ("invalid byte: " ++ quoted value))
    | none => .error (.invalidValue "'-f' / '--fill'" ("invalid byte: " ++ quoted value))
  | .lower => .ok { settings with letters := .lower }
  | .help => .ok settings

/-- Sets the given options one after the other, each to the last value given for it. -/
def Settings.setAll (arguments : Arguments Key) (settings : Settings) :
    List Key → Except UsageError Settings
  | [] => .ok settings
  | key :: rest =>
    match settings.set key ((arguments.value? key).getD "") with
    | .ok settings => settings.setAll arguments rest
    | .error e => .error e

/-- A file or a standard channel. -/
inductive Channel
  /-- Standard input or output, written as a hyphen. -/
  | standard
  /-- The file with a name. -/
  | file (name : String)
deriving DecidableEq, Repr

/-- The channel that an operand stands for. -/
def Channel.ofOperand (operand : String) : Channel :=
  if operand = "-" then .standard else .file operand

/-- What a command line asks for once its parameters have been checked. -/
structure Job where
  /-- The command. -/
  verb : Verb
  /-- The values of its options. -/
  settings : Settings
  /-- The input file. -/
  input : Source
  /-- Where the output goes; only one command has a choice. -/
  output : Channel
deriving DecidableEq, Repr

/-- Why a command line leads to no job. -/
inductive Refusal
  /-- It is not well formed. -/
  | usage (error : UsageError)
  /-- The name of the input file cannot even be looked up. -/
  | nullInName
deriving DecidableEq, Repr

/-- Opens the input file. -/
def openInput (disk : Disk) (standardInput : List UInt8) (room : Nat) (operand : String) :
    Except Refusal Source :=
  match Channel.ofOperand operand with
  | .standard => .ok (.ofBytes standardInput)
  | .file name =>
    match disk.read name with
    | .ok content => .ok (.ofFile room content)
    | .error .nullInName => .error .nullInName
    | .error e =>
      .error (.usage (.invalidValue "'INFILE'" ("'" ++ name ++ "': " ++ e.message)))

/-- Checks the parameters of a command. -/
def Job.ofArguments (disk : Disk) (standardInput : List UInt8) (room : Nat) (verb : Verb)
    (arguments : Arguments Key) : Except Refusal Job :=
  match Settings.setAll arguments {} arguments.keys with
  | .error e => .error (.usage e)
  | .ok settings =>
    match arguments.operands with
    | [] => .error (.usage (.missingArgument "INFILE"))
    | infile :: others =>
      match openInput disk standardInput room infile with
      | .error e => .error e
      | .ok input =>
        match verb, others with
        | .tobin, [] => .error (.usage (.missingArgument "OUTFILE"))
        | .tobin, [outfile] => .ok ⟨verb, settings, input, .ofOperand outfile⟩
        | .tobin, _ :: extra => .error (.usage (.extraArguments extra))
        | _, [] => .ok ⟨verb, settings, input, .standard⟩
        | _, extra => .error (.usage (.extraArguments extra))

end IntelHex.Cli
