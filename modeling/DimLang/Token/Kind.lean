/-!
# Token kinds

The lexical categories of the language, the mark for the end of the input and the wildcard of the
grammar's look-ahead.

- `TokenKind.name` is the name of a kind in tree dumps
- `TokenKind.describe` is its description in messages and listings
-/

namespace DimLang

/-- What a token is for the grammar. -/
inductive TokenKind
  | relationOp | addOp | mulOp | unaryOp | boolConst | identifier | intNumber | floatNumber
  | dimWord | typeName | ifWord | thenWord | elseWord | forWord | toWord | doWord | whileWord
  | readWord | writeWord | asWord | comma | colon | separator | openParen | closeParen
  | beginWord | endWord
  /-- The end of the input. -/
  | eof
  /-- Any kind at all; no token of a source text has it. -/
  | any
deriving DecidableEq, Repr

namespace TokenKind

/-- All kinds in their order of declaration. -/
def all : List TokenKind :=
  [relationOp, addOp, mulOp, unaryOp, boolConst, identifier, intNumber, floatNumber,
   dimWord, typeName, ifWord, thenWord, elseWord, forWord, toWord, doWord, whileWord,
   readWord, writeWord, asWord, comma, colon, separator, openParen, closeParen,
   beginWord, endWord, eof, any]

/-- Name of the leaves of this kind in tree dumps. -/
def name : TokenKind → String
  | relationOp => "RelationOp"
  | addOp => "AddOp"
  | mulOp => "MulOp"
  | unaryOp => "UnaryOp"
  | boolConst => "BoolConst"
  | identifier => "Identifier"
  | intNumber => "IntNumber"
  | floatNumber => "FloatNumber"
  | dimWord => "Dim"
  | typeName => "Type"
  | ifWord => "If"
  | thenWord => "Then"
  | elseWord => "Else"
  | forWord => "For"
  | toWord => "To"
  | doWord => "Do"
  | whileWord => "While"
  | readWord => "Read"
  | writeWord => "Write"
  | asWord => "As"
  | comma => "Comma"
  | colon => "Colon"
  | separator => "Separator"
  | openParen => "OpenParen"
  | closeParen => "CloseParen"
  | beginWord => "Begin"
  | endWord => "End"
  | eof => "Eof"
  | any => "Any"

/-- Description of the kind in messages and token listings. -/
def describe : TokenKind → String
  | relationOp => "relation operator"
  | addOp => "addition operator"
  | mulOp => "multiplication operator"
  | unaryOp => "not"
  | boolConst => "bool const"
  | identifier => "identifier"
  | intNumber => "integral number"
  | floatNumber => "float number"
  | dimWord => "dim"
  | typeName => "type"
  | ifWord => "if"
  | thenWord => "then"
  | elseWord => "else"
  | forWord => "for"
  | toWord => "to"
  | doWord => "do"
  | whileWord => "while"
  | readWord => "read"
  | writeWord => "write"
  | asWord => "as"
  | comma => "comma"
  | colon => "colon"
  | separator => "operation separator"
  | openParen => "("
  | closeParen => ")"
  | beginWord => "begin"
  | endWord => "end"
  | eof => "end of input"
  | any => "any token"

/-- The kind with the given name. -/
def ofName? (text : String) : Option TokenKind :=
  all.find? fun kind => kind.name == text

/-- The list of kinds is complete. -/
theorem mem_all (kind : TokenKind) : kind ∈ all := by
  cases kind <;> decide

/-- Kinds have different names. -/
theorem eq_of_name {kind kind' : TokenKind} (same : kind.name = kind'.name) : kind = kind' := by
  have distinct : ∀ kind ∈ all, ∀ kind' ∈ all, kind.name = kind'.name → kind = kind' := by
    decide +kernel
  exact distinct kind kind.mem_all kind' kind'.mem_all same

end TokenKind

end DimLang
