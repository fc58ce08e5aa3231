import DimLang.Pattern
import DimLang.Token.Basic

/-!
# Classification of lexemes

A lexeme is classified by trying one pattern for each lexical kind, and the whole lexeme has to
match. The order of the trials makes `or` an operator and `begin` a keyword, though both also look
like identifiers.

- `TokenKind.pattern?` is the pattern of a kind
- `classify` finds the kind of a lexeme
-/

namespace DimLang

/-- Why a source text is not a sequence of tokens. -/
inductive LexError
  /-- A comment is opened on the line and never closed. -/
  | unterminatedComment (line : Nat)
  /-- A lexeme matches no pattern. -/
  | invalidToken (lexeme : String) (line : Nat)
deriving DecidableEq, Repr

namespace LexError

/-- The line that the error is reported for. -/
def line : LexError → Nat
  | unterminatedComment line => line
  | invalidToken _ line => line

/-- The text of the error. -/
def message : LexError → String
  | unterminatedComment line => s!"comment opened on line {line} is not finished"
  | invalidToken lexeme line => s!"{lexeme} is not a valid token (line {line})"

end LexError

namespace TokenKind

open Pattern

/-- Any of the ten digits. -/
def digit : Pattern :=
  oneOf [('0', '9')]

/-- A binary number with its mark, an octal one, a hexadecimal one, or a decimal number with an
optional mark. -/
def intPattern : Pattern :=
  alt (seq (plus (oneOf [('0', '0'), ('1', '1')])) (oneOf [('b', 'b'), ('B', 'B')]))
    (alt (seq (plus (oneOf [('0', '7')])) (oneOf [('o', 'o'), ('O', 'O')]))
      (alt (seq digit (seq (star (oneOf [('0', '9'), ('A', 'F'), ('a', 'f')]))
          (oneOf [('h', 'h'), ('H', 'H')])))
        (seq (plus digit) (opt (oneOf [('d', 'd'), ('D', 'D')])))))

/-- An exponent mark, an optional sign and digits. -/
def exponent : Pattern :=
  seq (oneOf [('e', 'e'), ('E', 'E')])
    (seq (opt (oneOf [('+', '+'), ('-', '-')])) (plus digit))

/-- Digits with an exponent, or a fraction with an optional exponent. -/
def floatPattern : Pattern :=
  alt (seq (plus digit) exponent)
    (seq (star digit) (seq (word ['.']) (seq (plus digit) (opt exponent))))

/-- A letter followed by letters and digits. -/
def namePattern : Pattern :=
  seq (oneOf [('A', 'Z'), ('a', 'z')]) (star (oneOf [('A', 'Z'), ('a', 'z'), ('0', '9')]))

/-- The pattern of a lexical kind; the end of the input and the wildcard have none. -/
def pattern? : TokenKind → Option Pattern
  | relationOp => some (words ["<>", "<=", ">=", "=", "<", ">"])
  | addOp => some (words ["or", "+", "-"])
  | mulOp => some (words ["and", "*", "/"])
  | unaryOp => some (words ["not"])
  | boolConst => some (words ["true", "false"])
  | identifier => some namePattern
  | intNumber => some intPattern
  | floatNumber => some floatPattern
  | dimWord => some (words ["dim", "var"])
  | typeName => some (words ["integer", "float", "bool"])
  | ifWord => some (words ["if"])
  | thenWord => some (words ["then"])
  | elseWord => some (words ["else"])
  | forWord => some (words ["for"])
  | toWord => some (words ["to"])
  | doWord => some (words ["do"])
  | whileWord => some (words ["while"])
  | readWord => some (words ["read"])
  | writeWord => some (words ["write"])
  | asWord => some (words ["as"])
  | comma => some (words [","])
  | colon => some (words [":"])
  | separator => some (words [";", "\n"])
  | openParen => some (words ["("])
  | closeParen => some (words [")"])
  | beginWord => some (words ["begin"])
  | endWord => some (words ["end"])
  | eof => none
  | any => none

/-- Whether the whole text matches the pattern of the kind. -/
def recognises (kind : TokenKind) (cs : List Char) : Bool :=
  match kind.pattern? with
  | some pattern => pattern.accepts cs
  | none => false

/-- The lexical kinds in the order in which they are tried. -/
def priority : List TokenKind :=
  [beginWord, endWord, openParen, closeParen, separator, boolConst, ifWord, thenWord, elseWord,
   forWord, toWord, doWord, dimWord, whileWord, readWord, writeWord, asWord, unaryOp, typeName,
   comma, colon, relationOp, addOp, mulOp, intNumber, floatNumber, identifier]

/-- The first kind of the list whose pattern matches the whole text. -/
def kindAmong? (kinds : List TokenKind) (cs : List Char) : Option TokenKind :=
  kinds.find? fun kind => kind.recognises cs

end TokenKind

/-- The token of a lexeme that begins on the given line. -/
def classify (lexeme : String) (line : Nat) : Except LexError Token :=
  match TokenKind.kindAmong? TokenKind.priority lexeme.toList with
  | some kind => .ok ⟨kind, lexeme, line⟩
  | none => .error (.invalidToken lexeme line)

end DimLang
