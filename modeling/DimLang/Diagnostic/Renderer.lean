import DimLang.Diagnostic.Basic

/-!
# Renderers

A diagnostic is shown by a renderer, which draws a report: a headline, a primary range with labels
on ranges of source texts, notes and advice. What a renderer draws is a sequence of pieces, among
which the places it names and the lines of its notes are marked (`Piece`).

- `Diagnostic.toReport` is the report of a diagnostic
- `Diagnostic.renderWith` is the text that a renderer makes of a diagnostic, and
  `Diagnostic.renderPlain` the text without colours
-/

namespace DimLang

open Text

/-- What a renderer is asked to draw. The place that it names is that of the primary range. -/
structure Report where
  file : String
  span : Span
  code : String
  message : String
  /-- Whether the terminal shows colours. -/
  colored : Bool
  labels : List Label
  notes : List String
  help : Option String
  /-- Source texts by the name of their file. -/
  sources : List (String × String)
deriving DecidableEq, Repr

/-- A part of what a renderer draws. -/
inductive Piece
  /-- The place of the report: a file, the number of a line and that of a column. -/
  | header (file : String) (number column : Nat)
  /-- A line of a note. -/
  | noteLine (text : List Char)
  /-- Anything else. -/
  | plain (text : List Char)
deriving DecidableEq, Repr

/-- The beginning of a header for a line of a file. -/
def linePlace (file : String) (number : Nat) : List Char :=
  "[ ".toList ++ file.toList ++ [':'] ++ (toString number).toList ++ [':']

/-- The text of a piece. -/
def Piece.text : Piece → List Char
  | header file number column =>
    linePlace file number ++ ((toString column).toList ++ " ]".toList)
  | noteLine text => text
  | plain text => text

/-- Draws reports, unless it cannot write what it draws. -/
abbrev Renderer :=
  Report → Option (List Piece)

namespace Diagnostic

/-- The range that a report is about: the first label, or else the first character of a source
text. -/
def primary (diagnostic : Diagnostic) : String × Span :=
  match diagnostic.labels with
  | label :: _ => (label.file, label.span.widened)
  | [] =>
    match diagnostic.sources with
    | (file, source) :: _ => (file, ⟨0, (nextBoundary? source.toList 0).getD 1⟩)
    | [] => ("<unknown>", ⟨0, 1⟩)

/-- The stage, the code and the message. -/
def headline (diagnostic : Diagnostic) : String :=
  "error[" ++ diagnostic.stage.name ++ ":" ++ diagnostic.code ++ "]: " ++ diagnostic.message

/-- The report of a diagnostic. A file without a source text has the empty one. -/
def toReport (diagnostic : Diagnostic) (colored : Bool) : Report where
  file := diagnostic.primary.1
  span := diagnostic.primary.2
  code := diagnostic.code
  message := diagnostic.headline
  colored := colored
  labels := diagnostic.labels.map fun label => ⟨label.file, label.span.widened, label.message⟩
  notes := diagnostic.notes
  help := diagnostic.help
  sources :=
    if diagnostic.sources.any fun source => source.1 = diagnostic.primary.1 then
      diagnostic.sources
    else diagnostic.sources ++ [(diagnostic.primary.1, "")]

/-- What is shown instead of a report that cannot be written. -/
def fallback (diagnostic : Diagnostic) : String :=
  diagnostic.headline ++ String.join (diagnostic.notes.map fun note => "\nnote: " ++ note)
    ++ (diagnostic.help.map fun help => "\nhelp: " ++ help).getD ""

/-- The text that a renderer makes of a diagnostic, without blanks at its end. -/
def renderWith (renderer : Renderer) (colored : Bool) (diagnostic : Diagnostic) : String :=
  match renderer (diagnostic.toReport colored) with
  | some pieces => String.ofList (trimEnd (pieces.flatMap Piece.text))
  | none => diagnostic.fallback

/-- The text that a renderer makes of a diagnostic without colours. -/
def renderPlain (renderer : Renderer) (diagnostic : Diagnostic) : String :=
  diagnostic.renderWith renderer false

end Diagnostic

end DimLang
