import DimLang.Command.Run

/-!
# The command line

The command is `runArguments` on the disk of the machine, whose operations are those of its file
system. What the run tells its caller is printed.
-/

open DimLang

/-- The error of a file system that an error of the machine's file system is, if it is one. -/
def fileError? : IO.Error → Option FileError
  | .noFileOrDirectory .. => some .notFound
  | .alreadyExists .. => some .alreadyExists
  | .inappropriateType _ code _ => some (if code = 20 then .notDirectory else .isDirectory)
  | .invalidArgument _ code _ => if code = 36 then some .nameTooLong else none
  | _ => none

/-- The text of an error of the machine's file system. -/
def causeText (error : IO.Error) : String :=
  match fileError? error with
  | some known => known.message
  | none => toString error

/-- The result of an action, or the text of its error. -/
def attempt {α : Type} (action : IO α) : IO (Except String α) := do
  try return .ok (← action)
  catch error => return .error (causeText error)

/-- Makes a directory and those above it, where they are missing. -/
def makeDirectories (directory : String) : IO Unit := do
  try IO.FS.createDir directory
  catch error =>
    match fileError? error with
    | some .notFound => IO.FS.createDirAll directory
    | some .alreadyExists => IO.FS.createDirAll directory
    | _ => throw error

/-- The disk of the machine. -/
def machine : Disk IO where
  currentDir := attempt (toString <$> IO.currentDir)
  read path := attempt (IO.FS.readBinFile path)
  makeDirectories path := attempt (makeDirectories path)
  write path content := attempt (IO.FS.writeBinFile path content)

/-- The entry point of the command. -/
def main (arguments : List String) : IO UInt32 := do
  let outcome ← runArguments machine .standard arguments
  IO.print outcome.stdout
  IO.eprint outcome.stderr
  return UInt32.ofNat outcome.exit
