import IntelHex.Cli.Usage

/-!
# Options and operands

The words of a command line are told apart into options and operands. A long option is a word with two
hyphens, its value attached with an equals sign or given as the next word. Short options may be
written in one word; the value of one is the rest of the word, or the next word. A word of two hyphens
ends the options.
-/

namespace IntelHex.Cli

/-- An option that a command has, known to it as a key in `α`. -/
structure OptionSpec (α : Type) where
  /-- The key. -/
  key : α
  /-- The letter after a single hyphen, if there is one. -/
  short? : Option Char
  /-- The word after two hyphens. -/
  long : String
  /-- Whether the option has a value. -/
  hasValue : Bool

/-- An option as it was given, with its value if it has one. -/
structure Given (α : Type) where
  /-- The key of the option. -/
  key : α
  /-- The value. -/
  value? : Option String
deriving DecidableEq, Repr

/-- What one word means. -/
inductive Word (α : Type)
  /-- An operand. -/
  | operand
  /-- The end of the options. -/
  | lastOption
  /-- Some options that are complete, and perhaps one that takes the next word as its value. -/
  | options (complete : List (Given α)) (awaiting : Option (String × α))

namespace Word

variable {α : Type}

/-- The text before the first equals sign and the text after it. -/
def splitValue (word : List Char) : List Char × Option (List Char) :=
  match word.dropWhile (· != '=') with
  | [] => (word, none)
  | _ :: value => (word.takeWhile (· != '='), some value)

/-- A word that begins with two hyphens. -/
def ofLong (specs : List (OptionSpec α)) (word : List Char) : Except UsageError (Word α) :=
  let (name, value?) := splitValue word
  let shown := String.ofList name
  match specs.find? fun spec => "--" ++ spec.long = shown with
  | none => .error (.noSuchOption shown)
  | some spec =>
    match spec.hasValue, value? with
    | true, some value => .ok (.options [⟨spec.key, some (String.ofList value)⟩] none)
    | true, none => .ok (.options [] (some (shown, spec.key)))
    | false, some _ => .error (.unexpectedValue shown)
    | false, none => .ok (.options [⟨spec.key, none⟩] none)

/-- The letters after a single hyphen. -/
def ofShort (specs : List (OptionSpec α)) : List Char → Except UsageError (Word α)
  | [] => .ok (.options [] none)
  | letter :: rest =>
    let shown := String.ofList ['-', letter]
    match specs.find? fun spec => spec.short? = some letter with
    | none => .error (.noSuchOption shown)
    | some spec =>
      if spec.hasValue then
        match rest with
        | [] => .ok (.options [] (some (shown, spec.key)))
        | _ :: _ => .ok (.options [⟨spec.key, some (String.ofList rest)⟩] none)
      else
        match ofShort specs rest with
        | .ok (.options complete awaiting) => .ok (.options (⟨spec.key, none⟩ :: complete) awaiting)
        | other => other

/-- The meaning of a word. A single hyphen is an operand. -/
def ofText (specs : List (OptionSpec α)) (word : List Char) : Except UsageError (Word α) :=
  match word with
  | ['-', '-'] => .ok .lastOption
  | '-' :: '-' :: _ :: _ => ofLong specs word
  | '-' :: letter :: rest => ofShort specs (letter :: rest)
  | _ => .ok .operand

end Word

/-- A command line told apart. -/
structure Arguments (α : Type) where
  /-- The options in the order in which they were given. -/
  given : List (Given α) := []
  /-- The operands in order. -/
  operands : List String := []
deriving DecidableEq, Repr

namespace Arguments

variable {α : Type}

/-- Tells words apart. If options and operands do not mix, the first operand ends the options. -/
def scan (specs : List (OptionSpec α)) (mixed : Bool) :
    List String → Except UsageError (Arguments α)
  | [] => .ok {}
  | word :: rest =>
    match Word.ofText specs word.toList with
    | .error e => .error e
    | .ok .lastOption => .ok { operands := rest }
    | .ok .operand =>
      if mixed then
        match scan specs mixed rest with
        | .ok after => .ok { after with operands := word :: after.operands }
        | .error e => .error e
      else .ok { operands := word :: rest }
    | .ok (.options complete none) =>
      match scan specs mixed rest with
      | .ok after => .ok { after with given := complete ++ after.given }
      | .error e => .error e
    | .ok (.options complete (some (shown, key))) =>
      match rest with
      | [] => .error (.missingValue shown)
      | value :: rest =>
        match scan specs mixed rest with
        | .ok after => .ok { after with given := complete ++ ⟨key, some value⟩ :: after.given }
        | .error e => .error e

/-- The options that were given, each once, in the order of first appearance. -/
def keys [DecidableEq α] (arguments : Arguments α) : List α :=
  (arguments.given.map (·.key)).eraseDups

/-- Whether an option was given. -/
def has [DecidableEq α] (arguments : Arguments α) (key : α) : Bool :=
  decide (key ∈ arguments.given.map (·.key))

/-- The last value given for an option. -/
def value? [DecidableEq α] (arguments : Arguments α) (key : α) : Option String :=
  (arguments.given.reverse.find? fun given => given.key = key).bind (·.value?)

end Arguments

end IntelHex.Cli
