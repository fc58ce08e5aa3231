import DimLang.Command.Disk
import DimLang.Command.Request
import DimLang.Diagnostic.Report
import DimLang.Syntax.Dump
import DimLang.Syntax.Encoding

/-!
# Running requests

A request is run on a disk. The tokens of a source file are listed. A check writes three artifacts
into the output directory: the tokens, the dump of the typed program, and the program. A source
file that cannot be read or is rejected changes nothing and is reported.

- `tokensOutcome` is the outcome of listing tokens
- `checkedFiles` are the artifacts of a source file, or the outcome when it is rejected
- `Request.run` runs a request, and `runCommand` runs the command on a file system
-/

namespace DimLang

/-- How a run shows diagnostics and writes JSON values. -/
structure Printers where
  renderer : Renderer
  /-- Whether errors are shown on a terminal with colours. -/
  colored : Bool
  json : Json → String

/-- Diagnostics in the layout, and JSON values on several lines. -/
def Printers.standard : Printers where
  renderer := Report.layout
  colored := false
  json := Json.pretty

/-- What a run tells its caller. -/
structure Outcome where
  exit : Nat
  stdout : String
  stderr : String
deriving DecidableEq, Repr

namespace Outcome

/-- The outcome of a failure that a diagnostic describes. -/
def reported (printers : Printers) (diagnostic : Diagnostic) : Outcome :=
  ⟨1, "", diagnostic.renderWith printers.renderer printers.colored ++ "\n"⟩

/-- The outcome without a working directory. -/
def displaced (cause : String) : Outcome :=
  ⟨1, "", "Error: " ++ cause ++ "\n"⟩

/-- The outcome of a failure to write, with what was tried and why it failed. -/
def failed (context cause : String) : Outcome :=
  ⟨1, "", "Error: " ++ context ++ "\n\nCaused by:\n    " ++ cause ++ "\n"⟩

/-- The outcome of arguments that are not a request. -/
def misused (error : UsageError) : Outcome :=
  ⟨2, "", "error: " ++ error.message ++ "\n\nFor more information, try '--help'.\n"⟩

/-- The text of the help. -/
def helpText : String :=
  "Checks programs written in the dim model language.\n\nUsage: mlc <COMMAND>\n\nCommands:\n"
    ++ "  tokens  Print the token stream of a source file\n"
    ++ "  check   Parse and type-check a source file\n"
    ++ "  help    Print this message or the help of the given subcommand(s)\n\n"
    ++ "Options:\n  -h, --help  Print help\n"

/-- The outcome of a request for help. -/
def helped : Outcome :=
  ⟨0, helpText, ""⟩

/-- The outcome of a check that wrote all its artifacts. -/
def accepted (path : String) : Outcome :=
  ⟨0, path ++ ": ok\n", ""⟩

end Outcome

/-- A text filled with spaces up to a number of characters. -/
def padded (count : Nat) (text : String) : String :=
  text ++ String.ofList (List.replicate (count - text.length) ' ')

/-- The line of a token in a listing. -/
def Token.listing (token : Token) : String :=
  padded 24 token.kind.describe ++ " " ++ padded 12 (Text.quoted token.text) ++ " "
    ++ toString token.line ++ "\n"

section Printers

variable (printers : Printers)

/-- The outcome of a source file that cannot be read. -/
def Outcome.unreadable (path cause : String) : Outcome :=
  .reported printers (.ofCauses .io "MLC-IO-001" "cannot read source"
    ["failed to read " ++ path, cause] (some path))

/-- The text of a source file, or the outcome when it cannot be read. -/
def sourceText (path : String) : Except String ByteArray → Except Outcome String
  | .error cause => .error (.unreadable printers path cause)
  | .ok content =>
    match String.fromUTF8? content with
    | some text => .ok text
    | none => .error (.unreadable printers path "stream did not contain valid UTF-8")

/-- The names and texts of the files for tokens and a typed program. -/
def checkFiles (tokens : List Token) (program : Program) : List (String × String) :=
  [("tokens.json", printers.json (.array (tokens.map Token.toJson))),
   ("ast.txt", dump (.program program) ++ "\n"),
   ("ast.json", printers.json program.toJson)]

/-- The outcome of listing the tokens of a source file with the given content. -/
def tokensOutcome (path : String) (content : Except String ByteArray) : Outcome :=
  match sourceText printers path content with
  | .error outcome => outcome
  | .ok source =>
    match tokenize source with
    | .error error => .reported printers (.ofError source (some path) (.lex error))
    | .ok tokens => ⟨0, String.join (tokens.map Token.listing), ""⟩

/-- The artifacts of a source file with the given content, or the outcome when it is rejected. -/
def checkedFiles (path : String) (content : Except String ByteArray) :
    Except Outcome (List (String × String)) :=
  match sourceText printers path content with
  | .error outcome => .error outcome
  | .ok source =>
    match checkWithTokens source with
    | .error error => .error (.reported printers (.ofError source (some path) error))
    | .ok (tokens, program) => .ok (checkFiles printers tokens program)

end Printers

/-- The output directory that is used when none is asked for. -/
def defaultOutDir (workDir : String) : String :=
  Path.join (Path.join workDir "target") "mlc"

section Disk

variable {m : Type → Type} [Monad m] (disk : Disk m)

/-- Writes files into a directory one by one until one fails. -/
def writeFiles (directory : String) : List (String × String) → m (Except Outcome Unit)
  | [] => return .ok ()
  | (name, text) :: rest => do
    match ← disk.write (Path.join directory name) text.toUTF8 with
    | .error cause =>
      return .error (.failed ("failed to write " ++ Path.join directory name) cause)
    | .ok _ => writeFiles directory rest

/-- Writes the artifacts of a check into the output directory. -/
def writeArtifacts (directory : String) (files : List (String × String)) :
    m (Except Outcome Unit) := do
  match ← disk.makeDirectories directory with
  | .error cause => return .error (.failed ("failed to create " ++ directory) cause)
  | .ok _ => writeFiles disk directory files

/-- Runs a request. -/
def Request.run (printers : Printers) : Request → m Outcome
  | help => return .helped
  | tokens path => do
    let content ← disk.read path
    return tokensOutcome printers path content
  | check path outDir => do
    match ← disk.currentDir with
    | .error cause => return .displaced cause
    | .ok workDir =>
      let content ← disk.read path
      match checkedFiles printers path content with
      | .error outcome => return outcome
      | .ok files =>
        match ← writeArtifacts disk (outDir.getD (defaultOutDir workDir)) files with
        | .error outcome => return outcome
        | .ok _ => return .accepted path

/-- Runs the command with its arguments. -/
def runArguments (printers : Printers) (arguments : List String) : m Outcome :=
  match Request.ofArguments arguments with
  | .error error => return .misused error
  | .ok request => request.run disk printers

end Disk

/-- Runs the command with its arguments on a file system. -/
def runCommand (workDir : Location) (fs : FileSystem) (arguments : List String) :
    Outcome × FileSystem :=
  runArguments (FileSystem.disk workDir) .standard arguments fs

end DimLang
