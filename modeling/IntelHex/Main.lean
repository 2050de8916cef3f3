import IntelHex.Cli.Program

/-!
# The command line program

The program proper is a function of its arguments, of standard input and of the files that the
arguments name. Here these are read beforehand, and what it has done is carried out afterwards.
-/

namespace IntelHex.Cli

/-- Everything up to each slash of a name, and the name itself. -/
def namePrefixes (name : String) : List String :=
  let steps := (splitSteps name.toList).map String.ofList
  (List.range steps.length).map fun n => "/".intercalate (steps.take (n + 1))

/-- Adds what stands under a name to the known files and directories. -/
def inspect (disk : Disk) (name : String) : IO Disk := do
  if name.isEmpty then return disk
  match disk.locate name with
  | .error _ => return disk
  | .ok place =>
    try
      let content ← IO.FS.readBinFile name
      return disk.put place.name content.toList
    catch
      | .noFileOrDirectory .. => return disk
      | .inappropriateType .. => return { disk with directories := place.name :: disk.directories }
      | _ => return disk

end IntelHex.Cli

/-- Runs the command line. -/
def main (arguments : List String) : IO UInt32 := do
  let names := arguments.flatMap IntelHex.Cli.namePrefixes
  let before ← names.foldlM IntelHex.Cli.inspect {}
  let standardInput ←
    if arguments.contains "-" then (← IO.getStdin).readBinToEnd else pure ByteArray.empty
  let outcome := IntelHex.Cli.run arguments standardInput.toList before
  for (name, content) in before.changes outcome.disk do
    IO.FS.writeBinFile name (ByteArray.mk content.toArray)
  (← IO.getStdout).write (ByteArray.mk outcome.output.toArray)
  for line in outcome.errors do
    IO.eprintln line
  match outcome.status with
  | .exit code => return UInt32.ofNat code
  | .crashed crash =>
    IO.eprintln crash.message
    return 1
