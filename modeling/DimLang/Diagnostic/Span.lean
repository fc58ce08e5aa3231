import DimLang.Text.Blank
import DimLang.Text.Utf8

/-!
# Spans

A span is a range of byte offsets in a source text. Offsets are 64-bit numbers, and the successor
of the largest one is that number itself.

- `lineStart` is the offset of a line, and `lineSpan` the range of a lexeme on it
- `Span.widened` makes an empty range cover one byte
- `nextBoundary?` is the offset behind the character at an offset
-/

namespace DimLang

open Text

/-- The largest offset. -/
def maxOffset : Nat :=
  UInt64.size - 1

/-- The offset behind the given one. -/
def nextOffset (offset : Nat) : Nat :=
  min (offset + 1) maxOffset

/-- A range of byte offsets, the end excluded. -/
structure Span where
  start : Nat
  stop : Nat
deriving DecidableEq, Repr

/-- The span itself, or one byte from its start when it is empty. -/
def Span.widened (span : Span) : Span :=
  if span.stop ≤ span.start then ⟨span.start, nextOffset span.start⟩ else span

/-- A byte offset and the text from there on. -/
structure Suffix where
  offset : Nat
  text : List Char
deriving DecidableEq, Repr

/-- Passes over newlines, up to the end of the text if there are fewer. -/
def passNewlines (count offset : Nat) : List Char → Suffix
  | [] => ⟨offset, []⟩
  | c :: cs =>
    if count = 0 then ⟨offset, c :: cs⟩
    else passNewlines (if c = '\n' then count - 1 else count) (offset + c.utf8Size) cs

/-- The source text from a line on. Lines count from one; line zero is the first one, too, and a
line that the text does not have is its end. -/
def fromLine (source : List Char) (line : Nat) : Suffix :=
  passNewlines (line - 1) 0 source

/-- The byte offset of the beginning of a line. -/
def lineStart (source : List Char) (line : Nat) : Nat :=
  (fromLine source line).offset

/-- The range of the text at an offset without the blanks around it, or one byte if it is blank. -/
def trimmedSpan (start : Nat) (text : List Char) : Span :=
  let leading := byteLength (text.takeWhile isBlank)
  let trimmed := trim text
  if trimmed.isEmpty then (Span.mk start start).widened
  else ⟨start + leading, start + leading + byteLength trimmed⟩

/-- The range of the first occurrence of `needle` on a line; without a needle, or when the line
does not have it, the range of the line without the blanks around it. -/
def lineSpan (source : List Char) (line : Nat) (needle : Option (List Char)) : Span :=
  let suffix := fromLine source line
  let text := suffix.text.takeWhile (· ≠ '\n')
  match needle with
  | none => trimmedSpan suffix.offset text
  | some needle =>
    if needle.isEmpty then trimmedSpan suffix.offset text
    else
      match offsetOf? needle text with
      | some offset =>
        ⟨suffix.offset + offset, suffix.offset + offset + byteLength needle⟩
      | none => trimmedSpan suffix.offset text

/-- The offset behind the character at an offset, or behind the offset itself when it is not in
the text; inside a character there is none. -/
def nextBoundary? (source : List Char) (start : Nat) : Option Nat :=
  if byteLength source ≤ start then some (nextOffset start)
  else
    match fromOffset? start source with
    | some (c :: _) => some (start + c.utf8Size)
    | _ => none

end DimLang
