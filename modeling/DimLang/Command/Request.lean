/-!
# Requests

The arguments of the command line ask for the tokens of a source file, for the check of one, or
for help. Options may stand before and behind the source, and everything behind `--` is a plain
argument.

- `Argument.ofText` is the form of an argument
- `Request.ofArguments` is what the arguments ask for
-/

namespace DimLang

/-- What the command is asked to do. -/
inductive Request
  | help
  | tokens (source : String)
  | check (source : String) (outDir : Option String)
deriving DecidableEq, Repr

/-- Why arguments are not a request. -/
inductive UsageError
  | missingCommand
  | unknownCommand (name : String)
  | unexpectedArgument (text : String)
  | missingSource
  | missingValue
  | repeatedOption
deriving DecidableEq, Repr

namespace UsageError

/-- The text of the error. -/
def message : UsageError → String
  | missingCommand => "a command is required: tokens or check"
  | unknownCommand name => "unrecognized command " ++ name
  | unexpectedArgument text => "unexpected argument " ++ text
  | missingSource => "a source file is required"
  | missingValue => "--out-dir requires a directory"
  | repeatedOption => "--out-dir cannot be used more than once"

end UsageError

/-- The form of an argument. -/
inductive Argument
  /-- Two dashes: what follows has no options. -/
  | separator
  /-- Two dashes and a name, perhaps with a value behind an equality sign. -/
  | long (name : String) (value : Option String)
  /-- A dash and a letter, with what is attached to it. -/
  | short (letter : Char) (attached : List Char)
  /-- Any other text. -/
  | plain (text : String)
deriving DecidableEq, Repr

/-- The form of an argument. -/
def Argument.ofText (text : String) : Argument :=
  match text.toList with
  | ['-', '-'] => separator
  | '-' :: '-' :: cs =>
    let name := String.ofList (cs.takeWhile (· ≠ '='))
    match cs.dropWhile (· ≠ '=') with
    | [] => long name none
    | _ :: value => long name (some (String.ofList value))
  | '-' :: letter :: attached => short letter attached
  | _ => plain text

/-- The source and the options found so far. -/
structure Found where
  source : Option String
  outDir : Option String
deriving DecidableEq, Repr

namespace Found

/-- A plain argument is the source; there is only one. -/
def addSource (found : Found) (text : String) : Except UsageError Found :=
  match found.source with
  | none => .ok ⟨some text, found.outDir⟩
  | some _ => .error (.unexpectedArgument text)

/-- The output directory is given once and is not empty. -/
def addOutDir (found : Found) (text : String) : Except UsageError Found :=
  if text.isEmpty then .error .missingValue
  else
    match found.outDir with
    | none => .ok ⟨found.source, some text⟩
    | some _ => .error .repeatedOption

/-- Adds arguments without options. -/
def addPlain (found : Found) : List String → Except UsageError Found
  | [] => .ok found
  | text :: rest =>
    match found.addSource text with
    | .error error => .error error
    | .ok found => found.addPlain rest

/-- Adds the arguments of a command, which has an option for the output directory or not. The
result is nothing when they ask for help. -/
def addAll (hasOutDir : Bool) (found : Found) :
    List String → Except UsageError (Option Found)
  | [] => .ok (some found)
  | text :: rest =>
    match Argument.ofText text with
    | .separator => (found.addPlain rest).map some
    | .plain text =>
      match found.addSource text with
      | .error error => .error error
      | .ok found => found.addAll hasOutDir rest
    | .long name value =>
      if name = "help" ∧ value = none then .ok none
      else if hasOutDir ∧ name = "out-dir" then
        match value, rest with
        | some value, rest =>
          match found.addOutDir value with
          | .error error => .error error
          | .ok found => found.addAll hasOutDir rest
        | none, [] => .error .missingValue
        | none, next :: rest =>
          match Argument.ofText next with
          | .plain value =>
            match found.addOutDir value with
            | .error error => .error error
            | .ok found => found.addAll hasOutDir rest
          | _ => .error .missingValue
      else .error (.unexpectedArgument text)
    | .short letter attached =>
      if letter = 'h' then .ok none
      else if hasOutDir ∧ letter = 'o' then
        match attached, rest with
        | [], [] => .error .missingValue
        | [], next :: rest =>
          match Argument.ofText next with
          | .plain value =>
            match found.addOutDir value with
            | .error error => .error error
            | .ok found => found.addAll hasOutDir rest
          | _ => .error .missingValue
        | c :: cs, rest =>
          match found.addOutDir (String.ofList (if c = '=' then cs else c :: cs)) with
          | .error error => .error error
          | .ok found => found.addAll hasOutDir rest
      else .error (.unexpectedArgument text)

end Found

namespace Request

/-- The names of the commands. -/
def commands : List String :=
  ["tokens", "check", "help"]

/-- The request for a command with the given arguments. -/
def ofCommand (name : String) (arguments : List String) : Except UsageError Request :=
  if name = "help" then
    match arguments with
    | [] => .ok help
    | [topic] => if topic ∈ commands then .ok help else .error (.unknownCommand topic)
    | _ :: text :: _ => .error (.unknownCommand text)
  else if name = "tokens" then
    match Found.addAll false ⟨none, none⟩ arguments with
    | .error error => .error error
    | .ok none => .ok help
    | .ok (some ⟨none, _⟩) => .error .missingSource
    | .ok (some ⟨some source, _⟩) => .ok (tokens source)
  else if name = "check" then
    match Found.addAll true ⟨none, none⟩ arguments with
    | .error error => .error error
    | .ok none => .ok help
    | .ok (some ⟨none, _⟩) => .error .missingSource
    | .ok (some ⟨some source, outDir⟩) => .ok (check source outDir)
  else .error (.unknownCommand name)

/-- What the arguments ask for. -/
def ofArguments : List String → Except UsageError Request
  | [] => .error .missingCommand
  | first :: rest =>
    match Argument.ofText first with
    | .plain name => ofCommand name rest
    | .long "help" none => .ok help
    | .short 'h' _ => .ok help
    | _ => .error (.unexpectedArgument first)

end Request

end DimLang
