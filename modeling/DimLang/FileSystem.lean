/-!
# File systems

A file system is a tree of named directories and files below a root. A path names an entry from
the root or from the working directory; `.` is the directory itself and `..` the one above, and
every name that is passed on the way must be that of a directory.

- `FileSystem.walk` finds the entry of a path
- `FileSystem.read`, `FileSystem.write`, `FileSystem.makeDirectory` and
  `FileSystem.createDirectories` are the operations on it
-/

namespace DimLang

/-- Why an operation on the file system fails. -/
inductive FileError
  | notFound
  | alreadyExists
  | notDirectory
  | isDirectory
  | nameTooLong
deriving DecidableEq, Repr

namespace FileError

/-- The number of the error. -/
def code : FileError → Nat
  | notFound => 2
  | alreadyExists => 17
  | notDirectory => 20
  | isDirectory => 21
  | nameTooLong => 36

/-- The description of the error. -/
def description : FileError → String
  | notFound => "No such file or directory"
  | alreadyExists => "File exists"
  | notDirectory => "Not a directory"
  | isDirectory => "Is a directory"
  | nameTooLong => "File name too long"

/-- The text of the error. -/
def message (error : FileError) : String :=
  error.description ++ " (os error " ++ toString error.code ++ ")"

end FileError

/-- What a name stands for. -/
inductive Entry
  | directory
  | file (content : ByteArray)

/-- The names that lead to a place, the innermost first; the root has none. -/
abbrev Location := List String

/-- The path from the root to a place. -/
def Location.text (location : Location) : String :=
  if location.isEmpty then "/" else String.join (location.reverse.map fun name => "/" ++ name)

/-- A place and those above it, without the root. -/
def Location.chain : Location → List Location
  | [] => []
  | name :: above => (name :: above) :: Location.chain above

/-- A path as it is written: whether it begins at the root, its names without empty ones, and
whether a slash follows the last name. -/
structure Path where
  rooted : Bool
  names : List String
  slashed : Bool
deriving DecidableEq, Repr

namespace Path

/-- The path that a text writes. -/
def ofText (text : String) : Path where
  rooted := text.toList.head? = some '/'
  names := ((text.toList.splitOn '/').filter fun name => !name.isEmpty).map String.ofList
  slashed := text.toList.getLast? = some '/'

/-- The place where the path begins. -/
def origin (workDir : Location) (path : Path) : Location :=
  if path.rooted then [] else workDir

/-- The path of an entry in the directory that a text writes; the empty text is the directory
where paths begin. -/
def join (directory name : String) : String :=
  if directory.isEmpty ∨ directory.toList.getLast? = some '/' then directory ++ name
  else directory ++ "/" ++ name

/-- The names of the directory that contains the entry of the path, the innermost first; names
for the directory itself count only at the beginning of the path. -/
def above (path : Path) : List String :=
  let kept := path.names.zipIdx.filterMap fun entry =>
    if entry.1 = "." ∧ (path.rooted ∨ entry.2 ≠ 0) then none else some entry.1
  kept.dropLast.reverse

end Path

/-- Files and directories by their places; of two entries for a place the earlier one counts. -/
structure FileSystem where
  entries : List (Location × Entry)

namespace FileSystem

/-- A file system without files, whose only directories are the root and those on the way to the
given place. -/
def empty (workDir : Location) : FileSystem :=
  ⟨workDir.chain.map fun location => (location, .directory)⟩

/-- What stands at a place. -/
def find? (fs : FileSystem) (location : Location) : Option Entry :=
  if location.isEmpty then some .directory else fs.entries.lookup location

/-- The file system with an entry at a place. -/
def put (fs : FileSystem) (location : Location) (entry : Entry) : FileSystem :=
  ⟨(location, entry) :: fs.entries⟩

/-- An entry that is put at a place stands there, and every other place keeps what it has. -/
theorem find?_put (fs : FileSystem) {location : Location} (entry : Entry) (other : Location)
    (below : location ≠ []) :
    (fs.put location entry).find? other =
      if other = location then some entry else fs.find? other := by
  by_cases same : other = location
  · subst same
    cases other with
    | nil => exact absurd rfl below
    | cons name above => simp [find?, put]
  · rw [if_neg same]
    cases other with
    | nil => rfl
    | cons name above =>
      simp only [find?, put, List.lookup_cons, beq_eq_false_iff_ne.mpr same]

/-- Whether a name is longer than the 255 bytes that a name may have. -/
def isLong (name : String) : Bool :=
  255 < name.utf8ByteSize

/-- The place that names lead to from another one. -/
def walk (fs : FileSystem) (location : Location) : List String → Except FileError Location
  | [] => .ok location
  | name :: rest =>
    match fs.find? location with
    | none => .error .notFound
    | some (.file _) => .error .notDirectory
    | some .directory =>
      if name = "." then fs.walk location rest
      else if name = ".." then fs.walk location.tail rest
      else if isLong name then .error .nameTooLong
      else if (fs.find? (name :: location)).isNone then .error .notFound
      else fs.walk (name :: location) rest

/-- Whether a directory stands at a place. -/
def holdsDirectory (fs : FileSystem) (location : Location) : Bool :=
  match fs.find? location with
  | some .directory => true
  | _ => false

/-- Whether names lead to a directory. -/
def isDirectory (fs : FileSystem) (location : Location) (names : List String) : Bool :=
  match fs.walk location names with
  | .ok place => fs.holdsDirectory place
  | .error _ => false

/-- The content of the file that a path names. -/
def read (fs : FileSystem) (workDir : Location) (text : String) : Except FileError ByteArray :=
  let path := Path.ofText text
  if text.isEmpty then .error .notFound
  else
    match fs.walk (path.origin workDir) (path.names ++ if path.slashed then ["."] else []) with
    | .error error => .error error
    | .ok place =>
      match fs.find? place with
      | none => .error .notFound
      | some .directory => .error .isDirectory
      | some (.file content) => .ok content

/-- Writes a file at a path; a file that is there is replaced. -/
def write (fs : FileSystem) (workDir : Location) (text : String) (content : ByteArray) :
    Except FileError FileSystem :=
  let path := Path.ofText text
  match path.names.getLast? with
  | none => .error (if path.rooted then .isDirectory else .notFound)
  | some last =>
    match fs.walk (path.origin workDir) path.names.dropLast with
    | .error error => .error error
    | .ok place =>
      if !fs.holdsDirectory place then .error .notDirectory
      else if last = "." ∨ last = ".." ∨ path.slashed then .error .isDirectory
      else if isLong last then .error .nameTooLong
      else
        match fs.find? (last :: place) with
        | some .directory => .error .isDirectory
        | _ => .ok (fs.put (last :: place) (.file content))

/-- Makes the directory that names lead to; the one above must exist. -/
def makeDirectory (fs : FileSystem) (location : Location) (names : List String) :
    Except FileError FileSystem :=
  match names.getLast? with
  | none => .error .alreadyExists
  | some last =>
    match fs.walk location names.dropLast with
    | .error error => .error error
    | .ok place =>
      if !fs.holdsDirectory place then .error .notDirectory
      else if last = "." ∨ last = ".." then .error .alreadyExists
      else if isLong last then .error .nameTooLong
      else if (fs.find? (last :: place)).isSome then .error .alreadyExists
      else .ok (fs.put (last :: place) .directory)

/-- Makes the directory that names lead to, unless it is there already. -/
def ensureDirectory (fs : FileSystem) (location : Location) (names : List String) :
    Except FileError FileSystem :=
  match fs.makeDirectory location names with
  | .ok made => .ok made
  | .error error => if fs.isDirectory location names then .ok fs else .error error

/-- Makes a directory and, where they are missing, those above it; names are given with the
innermost first. What was made before a failure stays. -/
def ensureAll (fs : FileSystem) (location : Location) :
    List String → FileSystem × Except FileError Unit
  | [] => (fs, .ok ())
  | name :: above =>
    match fs.ensureDirectory location (name :: above).reverse with
    | .ok made => (made, .ok ())
    | .error .notFound =>
      match fs.ensureAll location above with
      | (made, .error error) => (made, .error error)
      | (made, .ok _) =>
        match made.ensureDirectory location (name :: above).reverse with
        | .ok made => (made, .ok ())
        | .error error => (made, .error error)
    | .error error => (fs, .error error)

/-- Makes the directory of a path and, where they are missing, those above it. -/
def createDirectories (fs : FileSystem) (workDir : Location) (text : String) :
    FileSystem × Except FileError Unit :=
  let path := Path.ofText text
  let origin := path.origin workDir
  match fs.ensureDirectory origin path.names with
  | .ok made => (made, .ok ())
  | .error .notFound =>
    match fs.ensureAll origin path.above with
    | (made, .error error) => (made, .error error)
    | (made, .ok _) =>
      match made.ensureDirectory origin path.names with
      | .ok made => (made, .ok ())
      | .error error => (made, .error error)
  | .error error => (fs, .error error)

end FileSystem

end DimLang
