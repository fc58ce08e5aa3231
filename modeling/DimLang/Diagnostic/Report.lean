import DimLang.Diagnostic.Renderer
import DimLang.Text.Width

/-!
# The layout of a report

The layout is a renderer that draws a headline, the place of the first label, the line of the
source text with a marker under the label, the label's message, and the advice and notes below.
It has no colours.

A label's range counts bytes, but the layout takes it as a range of characters; so a place behind
characters of several bytes appears further to the right, and for a range that leaves the text
there is the headline only.

- `reportLines` splits a text into lines that keep their terminators
- `Report.layout` is the renderer, and `Diagnostic.report` the text that it makes of a diagnostic
-/

namespace DimLang

open Text

/-- Whether the character alone ends a line. -/
def isLineEnd (c : Char) : Bool :=
  c == '\n' || c == '\r' || c.toNat == 0x0B || c.toNat == 0x0C || c.toNat == 0x85
    || c.toNat == 0x2028 || c.toNat == 0x2029

/-- Splits a text behind its line ends; a carriage return and a newline behind it are one end.
The lines found so far and the current one are given in reverse. -/
def splitLines (found : List (List Char)) (current : List Char) : List Char → List (List Char)
  | [] => (if current.isEmpty then found else current.reverse :: found).reverse
  | '\r' :: '\n' :: cs => splitLines (('\n' :: '\r' :: current).reverse :: found) [] cs
  | c :: cs =>
    if isLineEnd c then splitLines ((c :: current).reverse :: found) [] cs
    else splitLines found (c :: current) cs

/-- The lines of a text with their terminators; the empty text is one empty line. -/
def reportLines (text : List Char) : List (List Char) :=
  match splitLines [] [] text with
  | [] => [[]]
  | lines => lines

/-- A line of a text: its number, the characters before it, and its own characters. -/
structure ReportLine where
  number : Nat
  offset : Nat
  chars : List Char
deriving DecidableEq, Repr

/-- The last line, from the given one on, that begins at or before a place. -/
def ReportLine.containing (place : Nat) (line : ReportLine) : List (List Char) → ReportLine
  | [] => line
  | next :: rest =>
    if line.offset + line.chars.length ≤ place then
      containing place ⟨line.number + 1, line.offset + line.chars.length, next⟩ rest
    else line

/-- The line of a place in a text, which counts characters. -/
def lineAt (place : Nat) (text : List Char) : ReportLine :=
  match reportLines text with
  | [] => ⟨1, 0, []⟩
  | first :: rest => ReportLine.containing place ⟨1, 0, first⟩ rest

/-- Blanks in a row. -/
def blanks (count : Nat) : List Char :=
  List.replicate count ' '

/-- The characters of a source line as the report shows them, from a column on: every blank is a
space, and a tab is as many as reach the next tab stop. -/
def shownChars (column : Nat) : List Char → List Char
  | [] => []
  | c :: cs => (if isBlank c then blanks (cellsAt column c) else [c]) ++ shownChars (column + 1) cs

/-- The width of each column up to `count`; behind the text a column takes one cell. -/
def columnWidths (column : Nat) (text : List Char) : Nat → List Nat
  | 0 => []
  | count + 1 =>
    match text with
    | [] => 1 :: columnWidths (column + 1) [] count
    | c :: cs => cellsAt column c :: columnWidths (column + 1) cs count

/-- A character and, for the remaining cells of its column, another one. -/
def cellText (width : Nat) (first others : Char) : List Char :=
  match width with
  | 0 => []
  | rest + 1 => first :: List.replicate rest others

/-- Draws columns one by one. -/
def drawColumns (draw : Nat → Nat → List Char) (widths : List Nat) : List Char :=
  (widths.zipIdx.map fun entry => draw entry.2 entry.1).flatten

/-- The marker in one column of the line under the source line: an underline for the range, which
is joined to the arrow in its middle. -/
def markerCell (first middle last column width : Nat) : List Char :=
  if column = middle then cellText width '┬' '─'
  else if first ≤ column ∧ column < last then cellText width '─' '─'
  else cellText width ' ' ' '

/-- The arrow in one column of the line that leads to the label's message. -/
def arrowCell (middle column width : Nat) : List Char :=
  if column < middle then cellText width ' ' ' '
  else if column = middle then cellText width '╰' '─'
  else cellText width '─' '─'

/-- Splits a text at its newlines; a carriage return before a newline belongs to it, and behind
the last newline there is a line only if there is text. The lines found so far and the current one
are given in reverse. -/
def plainLines (found : List (List Char)) (current : List Char) : List Char → List (List Char)
  | [] => (if current.isEmpty then found else current.reverse :: found).reverse
  | c :: cs =>
    if c = '\n' then
      let line := if current.head? = some '\r' then current.tail else current
      plainLines (line.reverse :: found) [] cs
    else plainLines found (c :: current) cs

/-- A titled remark below the source line; its further lines stand under the first one. The lines
of the text become pieces of the given form. -/
def remarkLines (piece : List Char → Piece) (margin title : List Char) (text : String) :
    List (List Piece) :=
  [.plain margin] :: (plainLines [] [] text.toList).zipIdx.map fun entry =>
    [.plain (margin ++ if entry.2 = 0 then title else blanks title.length), piece entry.1]

/-- The title of a note among several. -/
def noteTitle (count index : Nat) : List Char :=
  if count = 1 then "Note: ".toList
  else "Note ".toList ++ (toString (index + 1)).toList ++ ": ".toList

/-- The source line of a label with the marker and the message, or nothing but the margin when
the range leaves the line. -/
def labelLines (margin : List Char) (line : ReportLine) (first last : Nat)
    (message : List Char) : List (List Char) :=
  if line.offset + line.chars.length < last then [margin]
  else
    let shown := trimEnd line.chars
    let middle := (first + last) / 2 - line.offset
    let widths := columnWidths 0 shown (last - line.offset + 2)
    [[' '] ++ (toString line.number).toList ++ " │ ".toList ++ shownChars 0 shown,
     margin ++ drawColumns
      (markerCell (first - line.offset) middle (last - line.offset)) widths,
     margin ++ drawColumns (arrowCell middle) widths ++ ' ' :: message]

namespace Report

/-- The first line of a report. The code fills at least two columns. -/
def headline (report : Report) : List Char :=
  let code := report.code.toList
  ['['] ++ code ++ blanks (2 - code.length) ++ "] Error: ".toList ++ report.message.toList

/-- The source text of a file, empty for an unknown file. -/
def sourceOf (report : Report) (file : String) : List Char :=
  match report.sources.lookup file with
  | some source => source.toList
  | none => []

/-- The lines of a report below its headline, for a label whose range is within the text. -/
def bodyLines (report : Report) (label : Label) (text : List Char) : List (List Piece) :=
  let line := lineAt label.span.start text
  let indent := (toString line.number).length + 2
  let margin := blanks indent ++ "│ ".toList
  let count := report.notes.length
  [[.plain (blanks indent ++ "╭─".toList),
    .header label.file line.number (label.span.start - line.offset + 1)],
   [.plain (blanks indent ++ ['│'])]]
    ++ ((labelLines margin line label.span.start label.span.stop label.message.toList).map
        fun shown => [.plain shown])
    ++ (match report.help with
        | some help => remarkLines .plain margin "Help: ".toList help
        | none => [])
    ++ (report.notes.zipIdx.map fun entry =>
        remarkLines .noteLine margin (noteTitle count entry.2) entry.1).flatten
    ++ [[.plain (List.replicate indent '─' ++ ['╯'])]]

/-- The lines of a report below its headline. -/
def shownLines (report : Report) : List (List Piece) :=
  match report.labels with
  | [] => []
  | label :: _ =>
    let text := report.sourceOf label.file
    if text.length < label.span.start ∨ text.length < label.span.stop - 1 then []
    else report.bodyLines label text

/-- The renderer that draws one line below the other. -/
def layout : Renderer := fun report =>
  some (.plain report.headline :: report.shownLines.flatMap fun line => .plain ['\n'] :: line)

end Report

/-- The report of a diagnostic in the layout. -/
def Diagnostic.report (diagnostic : Diagnostic) : String :=
  diagnostic.renderPlain Report.layout

end DimLang
