import IntelHex.Text.Quoted

/-!
# Usage errors

What can be wrong with a command line.
-/

namespace IntelHex.Cli

/-- Why a command line is refused. -/
inductive UsageError
  /-- There is no such option. -/
  | noSuchOption (name : String)
  /-- An option stands at the end without its value. -/
  | missingValue (name : String)
  /-- A value is attached to an option that has none. -/
  | unexpectedValue (name : String)
  /-- There is no such command. -/
  | noSuchCommand (name : String)
  /-- No command is given. -/
  | missingCommand
  /-- An argument is missing. -/
  | missingArgument (name : String)
  /-- More arguments are given than the command has. -/
  | extraArguments (values : List String)
  /-- The value of a parameter is refused. -/
  | invalidValue (parameter reason : String)
deriving DecidableEq, Repr

/-- A text between quotation marks. -/
def quoted (text : String) : String :=
  String.ofList (Text.Quoted.text text.toList)

/-- The wording of a usage error. -/
def UsageError.message : UsageError → String
  | .noSuchOption name => "No such option " ++ quoted name ++ "."
  | .missingValue name => "Option " ++ quoted name ++ " requires an argument."
  | .unexpectedValue name => "Option " ++ quoted name ++ " does not take a value."
  | .noSuchCommand name => "No such command " ++ quoted name ++ "."
  | .missingCommand => "Missing command."
  | .missingArgument name => "Missing argument '" ++ name ++ "'."
  | .extraArguments [value] => "Got unexpected extra argument (" ++ value ++ ")"
  | .extraArguments values =>
    "Got unexpected extra arguments (" ++ " ".intercalate values ++ ")"
  | .invalidValue parameter reason => "Invalid value for " ++ parameter ++ ": " ++ reason

end IntelHex.Cli
