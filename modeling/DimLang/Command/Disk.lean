import DimLang.FileSystem

/-!
# Disks

A disk is what a run uses of the machine: the path of the working directory and the operations on
files, each of which may fail with the text of a cause. The operations are those of a monad, so
that a run has its effects on the machine or on a state, whichever disk it is given.

- `FileSystem.disk` is the disk whose state is a file system
-/

namespace DimLang

/-- The operations of a run on the machine. -/
structure Disk (m : Type → Type) where
  /-- The path of the working directory. -/
  currentDir : m (Except String String)
  /-- The content of a file. -/
  read (path : String) : m (Except String ByteArray)
  /-- Makes a directory and those above it, where they are missing. -/
  makeDirectories (path : String) : m (Except String Unit)
  /-- Writes a file; one that is there is replaced. -/
  write (path : String) (content : ByteArray) : m (Except String Unit)

/-- The operations on a file system in a working directory. There is no path of a working
directory that does not stand any more. -/
def FileSystem.disk (workDir : Location) : Disk (StateM FileSystem) where
  currentDir := fun fs =>
    (if fs.holdsDirectory workDir then .ok workDir.text else .error FileError.notFound.message, fs)
  read path := fun fs =>
    match fs.read workDir path with
    | .ok content => (.ok content, fs)
    | .error error => (.error error.message, fs)
  makeDirectories path := fun fs =>
    match fs.createDirectories workDir path with
    | (made, .ok _) => (.ok (), made)
    | (made, .error error) => (.error error.message, made)
  write path content := fun fs =>
    match fs.write workDir path content with
    | .ok written => (.ok (), written)
    | .error error => (.error error.message, fs)

end DimLang
