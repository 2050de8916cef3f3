/-!
# Files by name

The files and directories that a command line can name. A name is followed from the working directory
or, if it begins with a slash, from the root; every step but the last has to be a directory.
-/

namespace IntelHex.Cli

/-- Why a file cannot be opened. -/
inductive OpenError
  /-- There is no such file. -/
  | notFound
  /-- The name is that of a directory. -/
  | isDirectory
  /-- A step of the name is a file. -/
  | notDirectory
  /-- The name or a step of it is too long. -/
  | nameTooLong
  /-- The name holds a null character. -/
  | nullInName
deriving DecidableEq, Repr

/-- The wording of an open error. -/
def OpenError.message : OpenError → String
  | .notFound => "No such file or directory"
  | .isDirectory => "Is a directory"
  | .notDirectory => "Not a directory"
  | .nameTooLong => "File name too long"
  | .nullInName => "embedded null byte"

/-- Files and directories by their shortest names. -/
structure Disk where
  /-- The files with their content. -/
  files : List (String × List UInt8) := []
  /-- Directories, besides those that files stand in. -/
  directories : List String := []
deriving DecidableEq, Repr

/-- Where a name leads: some steps from the root or from the working directory. -/
structure Place where
  /-- Whether the first step is from the root. -/
  absolute : Bool
  /-- The steps. -/
  steps : List String
deriving DecidableEq, Repr

namespace Place

/-- The shortest name of a place. -/
def name (p : Place) : String :=
  (if p.absolute then "/" else "") ++ "/".intercalate p.steps

/-- The place above. Above the root there is the root again. -/
def above (p : Place) : Place :=
  match p.steps.getLast? with
  | none => if p.absolute then p else { p with steps := [".."] }
  | some ".." => { p with steps := p.steps ++ [".."] }
  | some _ => { p with steps := p.steps.dropLast }

/-- The place one step down. -/
def below (p : Place) (step : String) : Place :=
  { p with steps := p.steps ++ [step] }

/-- Whether a place is the root, the working directory or above it. -/
def isOrigin (p : Place) : Bool :=
  p.steps.all (· == "..")

end Place

/-- What stands between the slashes of a name. -/
def splitSteps : List Char → List (List Char)
  | [] => [[]]
  | c :: rest =>
    if c = '/' then [] :: splitSteps rest
    else match splitSteps rest with
      | [] => [[c]]
      | step :: more => (c :: step) :: more

namespace Disk

/-- The content of the file at a place. -/
def fileAt (disk : Disk) (p : Place) : Option (List UInt8) :=
  disk.files.lookup p.name

/-- Whether a place is a directory. -/
def hasDirectory (disk : Disk) (p : Place) : Bool :=
  p.isOrigin || disk.directories.contains p.name
    || (disk.files.map Prod.fst ++ disk.directories).any fun name =>
      (p.name ++ "/").toList.isPrefixOf name.toList

/-- The longest name of a step, in bytes. -/
def stepLimit : Nat := 255

/-- The longest name, in bytes. -/
def nameLimit : Nat := 4095

/-- Why nothing can be looked up at a place that is no directory. -/
def obstacle (disk : Disk) (p : Place) : OpenError :=
  if (disk.fileAt p).isSome then .notDirectory else .notFound

/-- Follows some steps from a place. -/
def follow (disk : Disk) (p : Place) : List String → Except OpenError Place
  | [] => .ok p
  | step :: rest =>
    if !disk.hasDirectory p then .error (disk.obstacle p)
    else if stepLimit < step.utf8ByteSize then .error .nameTooLong
    else if step = "" ∨ step = "." then disk.follow p rest
    else if step = ".." then disk.follow p.above rest
    else disk.follow (p.below step) rest

/-- The steps of a name, leaving slashes at its end aside. -/
def nameSteps (name : String) : List String :=
  (((splitSteps name.toList).reverse.dropWhile List.isEmpty).reverse).map String.ofList

/-- The place that some of the first steps of a name lead to. -/
def locateSteps (disk : Disk) (name : String) (steps : List String) : Except OpenError Place :=
  if Char.ofNat 0 ∈ name.toList then .error .nullInName
  else if name = "" then .error .notFound
  else if nameLimit < name.utf8ByteSize then .error .nameTooLong
  else disk.follow ⟨name.startsWith "/", []⟩ steps

/-- The place that a name leads to, leaving a slash at its end aside. -/
def locate (disk : Disk) (name : String) : Except OpenError Place :=
  disk.locateSteps name (nameSteps name)

/-- Opens a file for reading. A slash at the end of the name asks for a directory. -/
def read (disk : Disk) (name : String) : Except OpenError (List UInt8) :=
  match disk.locate name with
  | .error e => .error e
  | .ok place =>
    match disk.fileAt place with
    | some content => if name.endsWith "/" then .error .notDirectory else .ok content
    | none => .error (if disk.hasDirectory place then .isDirectory else .notFound)

/-- Puts a file in its place. -/
def put (disk : Disk) (name : String) (content : List UInt8) : Disk :=
  if (disk.files.lookup name).isSome then
    { disk with
      files := disk.files.map fun file => if file.1 = name then (name, content) else file }
  else { disk with files := disk.files ++ [(name, content)] }

/-- Opens a file for writing, under its shortest name; it is empty from then on. A slash at the end of
the name asks for a directory, whatever the last step is. -/
def create (disk : Disk) (name : String) : Except OpenError (String × Disk) :=
  if name.endsWith "/" then
    match disk.locateSteps name (nameSteps name).dropLast with
    | .error e => .error e
    | .ok above => .error (if disk.hasDirectory above then .isDirectory else disk.obstacle above)
  else
    match disk.locate name with
    | .error e => .error e
    | .ok place =>
      if disk.hasDirectory place then .error .isDirectory
      else .ok (place.name, disk.put place.name [])

/-- The files that were not there before, or had another content. -/
def changes (earlier later : Disk) : List (String × List UInt8) :=
  later.files.filter fun (name, content) => earlier.files.lookup name != some content

end Disk

end IntelHex.Cli
