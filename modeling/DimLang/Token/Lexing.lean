import DimLang.Text.Blank
import DimLang.Token.Class

/-!
# Lexing

A source text is a sequence of lexemes with gaps between them. A gap consists of blanks other than
the newline and of comments in braces, which do not nest. A newline and a parenthesis are lexemes
of their own; every other lexeme is the longest run that the scan mode of its first character
admits.

- `skipGap` passes over a gap and counts its lines
- `cutLexeme` takes the lexeme at the beginning of a text
- `lex` is everything that a source text consists of, errors included
- `tokenize` is the token list of a source text without errors
-/

namespace DimLang

open Text

/-- A piece of source text and the line of its first character. -/
structure Lexeme where
  text : String
  line : Nat
deriving DecidableEq, Repr

/-- A place in a source text: what is left to read and the line of its first character. -/
structure Cursor where
  line : Nat
  rest : List Char
deriving DecidableEq, Repr

/-- How a lexeme continues, which its first character decides. -/
inductive ScanMode
  | numeric
  | alphanumeric
  | symbolic
deriving DecidableEq, Repr

namespace ScanMode

/-- The mode of a lexeme that begins with the character. -/
def ofFirst (c : Char) : ScanMode :=
  if c.isDigit || c == '.' then numeric
  else if c.isAlphanum then alphanumeric
  else symbolic

/-- Whether a lexeme of this mode may continue with `c` after the character `previous`. A number
takes a sign only behind its exponent mark. -/
def accepts (mode : ScanMode) (previous : Option Char) (c : Char) : Bool :=
  match mode with
  | numeric =>
    c.isAlphanum || c == '.'
      || ((c == '+' || c == '-') && (previous == some 'e' || previous == some 'E'))
  | alphanumeric => c.isAlphanum
  | symbolic => !isBlank c && !c.isAlphanum

end ScanMode

/-- Characters that end a lexeme of any mode. -/
def endsLexeme (c : Char) : Bool :=
  isBlank c || c == '(' || c == ')' || c == '\x7b'

/-- Extends a lexeme, given in reverse, as far as its mode admits; returns the whole lexeme and
the text behind it. -/
def ScanMode.extend (mode : ScanMode) (taken : List Char) : List Char → List Char × List Char
  | [] => (taken.reverse, [])
  | c :: cs =>
    if endsLexeme c || !mode.accepts taken.head? c then (taken.reverse, c :: cs)
    else mode.extend (c :: taken) cs

/-- Passes over blanks and comments. Inside a comment, `opened` is the line of its brace. -/
def skipGap (opened : Option Nat) (line : Nat) : List Char → Except LexError Cursor
  | [] =>
    match opened with
    | none => .ok ⟨line, []⟩
    | some start => .error (.unterminatedComment start)
  | c :: cs =>
    match opened with
    | none =>
      if c = '\x7b' then skipGap (some line) line cs
      else if c ≠ '\n' ∧ isBlank c then skipGap none line cs
      else .ok ⟨line, c :: cs⟩
    | some start =>
      if c = '\x7d' then skipGap none line cs
      else if c = '\n' then skipGap (some start) (line + 1) cs
      else skipGap (some start) line cs

/-- The lexeme that begins with `c`, and the place behind it. -/
def cutLexeme (line : Nat) (c : Char) (cs : List Char) : Lexeme × Cursor :=
  if c = '\n' then (⟨"\n", line⟩, ⟨line + 1, cs⟩)
  else if c = '(' ∨ c = ')' then (⟨String.ofList [c], line⟩, ⟨line, cs⟩)
  else
    let run := (ScanMode.ofFirst c).extend [c] cs
    (⟨String.ofList run.1, line⟩, ⟨line, run.2⟩)

/-- Extending a lexeme leaves no more than there was. -/
theorem length_extend_le (mode : ScanMode) (taken cs : List Char) :
    (mode.extend taken cs).2.length ≤ cs.length := by
  induction cs generalizing taken with
  | nil => simp [ScanMode.extend]
  | cons c cs ih =>
    rw [ScanMode.extend]
    split
    · exact Nat.le_refl _
    · exact Nat.le_succ_of_le (ih _)

/-- Passing over a gap leaves no more than there was. -/
theorem length_skipGap_le {opened : Option Nat} {line : Nat} {cs : List Char} {place : Cursor}
    (h : skipGap opened line cs = .ok place) : place.rest.length ≤ cs.length := by
  induction cs generalizing opened line with
  | nil =>
    cases opened with
    | none => cases h; exact Nat.le_refl _
    | some start => cases h
  | cons c cs ih =>
    cases opened with
    | none =>
      rw [skipGap] at h
      split at h
      · exact Nat.le_succ_of_le (ih h)
      · split at h
        · exact Nat.le_succ_of_le (ih h)
        · cases h; exact Nat.le_refl _
    | some start =>
      rw [skipGap] at h
      split at h
      · exact Nat.le_succ_of_le (ih h)
      · split at h <;> exact Nat.le_succ_of_le (ih h)

/-- Cutting off a lexeme leaves no more than there was. -/
theorem length_cutLexeme_le (line : Nat) (c : Char) (cs : List Char) :
    (cutLexeme line c cs).2.rest.length ≤ cs.length := by
  rw [cutLexeme]
  split
  · exact Nat.le_refl _
  · split
    · exact Nat.le_refl _
    · exact length_extend_le _ _ _

/-- Appends to the items found so far, given in reverse, those from a place on. -/
def lexFrom (found : List (Except LexError Token)) (place : Cursor) :
    List (Except LexError Token) :=
  match _ : skipGap none place.line place.rest with
  | .error error => (.error error :: found).reverse
  | .ok ⟨_, []⟩ => found.reverse
  | .ok ⟨line, c :: cs⟩ =>
    let cut := cutLexeme line c cs
    lexFrom (classify cut.1.text cut.1.line :: found) cut.2
termination_by place.rest.length
decreasing_by
  have shorter := length_skipGap_le (by assumption)
  exact Nat.lt_of_lt_of_le (Nat.lt_succ_of_le (length_cutLexeme_le line c cs)) shorter

/-- Everything that the source text consists of, in order: its tokens, its invalid lexemes and,
only as the last item, a comment left open. -/
def lex (source : String) : List (Except LexError Token) :=
  lexFrom [] ⟨1, source.toList⟩

/-- The tokens of the source text, or its first error. -/
def tokenize (source : String) : Except LexError (List Token) :=
  (lex source).mapM id

end DimLang
