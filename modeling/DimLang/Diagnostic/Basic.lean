import DimLang.Diagnostic.Span
import DimLang.Frontend

/-!
# Diagnostics

A diagnostic describes a failure for a reader: its code and stage, a message, labels on ranges of
source texts, notes, and perhaps a piece of advice.

- `Diagnostic.ofError` describes a rejected source text and marks the offending lexeme
- `Diagnostic.ofCauses` describes a failure outside the source text by the chain of its causes
-/

namespace DimLang

/-- Where a failure arose. -/
inductive Stage
  | tokenize
  | parse
  | analyze
  | io
deriving DecidableEq, Repr

/-- The name of a stage. -/
def Stage.name : Stage → String
  | tokenize => "tokenize"
  | parse => "parse"
  | analyze => "analyze"
  | io => "io"

/-- A message for a range of a source text. -/
structure Label where
  file : String
  span : Span
  message : String
deriving DecidableEq, Repr

/-- The description of a failure. -/
structure Diagnostic where
  code : String
  stage : Stage
  message : String
  labels : List Label
  notes : List String
  help : Option String
  /-- Source texts by the name of their file. -/
  sources : List (String × String)
deriving DecidableEq, Repr

/-- How diagnostics name the file of a source text. -/
def fileName (path : Option String) : String :=
  path.getD "<memory>"

namespace FrontendError

/-- The code of the error. -/
def code : FrontendError → String
  | lex _ => "MLC-LEX-001"
  | parse (.malformed ..) => "MLC-PARSE-002"
  | parse _ => "MLC-PARSE-001"
  | semantic _ => "MLC-SEMANTIC-001"

/-- The stage that failed. -/
def stage : FrontendError → Stage
  | lex _ => .tokenize
  | parse _ => .parse
  | semantic _ => .analyze

/-- What failed, in a few words. -/
def summary : FrontendError → String
  | lex _ => "tokenization failed"
  | parse _ => "parse failed"
  | semantic _ => "semantic analysis failed"

/-- The lexeme to look for on the line of the error; a syntax error marks the whole line. -/
def needle : FrontendError → Option String
  | lex (.unterminatedComment _) => some "\x7b"
  | lex (.invalidToken lexeme _) => some lexeme
  | parse _ => none
  | semantic (.redeclared name _) => some name
  | semantic (.undeclared name _) => some name
  | semantic (.incompatibleOperands _ operator _ _) => some operator
  | semantic (.incompatibleAssignment name _ _ _) => some name
  | semantic (.undefinedUnary operator _ _) => some operator
  | semantic (.unknownType name _) => some name

/-- Advice on how to mend the error. -/
def help : FrontendError → Option String
  | semantic (.undeclared name _) => some ("declare it first, e.g. `dim " ++ name ++ " integer`")
  | _ => none

end FrontendError

namespace Diagnostic

/-- The description of the error that a source text is rejected with. -/
def ofError (source : String) (path : Option String) (error : FrontendError) : Diagnostic where
  code := error.code
  stage := error.stage
  message := error.summary
  labels :=
    [⟨fileName path, lineSpan source.toList error.line (error.needle.map String.toList),
      error.message⟩]
  notes := ["at line " ++ toString error.line]
  help := error.help
  sources := [(fileName path, source)]

/-- The description of a failure with its causes, the outermost first: the first one belongs to
the message, and the others and the path that was read become notes. -/
def ofCauses (stage : Stage) (code message : String) (causes : List String)
    (path : Option String) : Diagnostic where
  code := code
  stage := stage
  message :=
    match causes with
    | [] => message
    | first :: _ => message ++ ": " ++ first
  labels := []
  notes :=
    (causes.tail.map fun cause => "caused by: " ++ cause)
      ++ (path.map fun path => "while reading " ++ path).toList
  help := none
  sources := []

end Diagnostic

end DimLang
