import DimLang.Grammar.Symbol
import DimLang.Token.Basic

/-!
# Rules

A rule says how a symbol reacts to the tokens under the cursor: a leaf consumes one token, and the
other rules choose the production that the symbol expands into.

- `Rule.feed` is the reaction of a rule
- `Symbol.rule` is the rule of each symbol of the grammar
- `ParseError` is why a token list is not derived from a symbol
-/

namespace DimLang

/-- Why a token list is rejected. -/
inductive ParseError
  /-- A leaf of the grammar meets a token of another kind. -/
  | unexpectedToken (expected : TokenKind) (found : String) (line : Nat)
  /-- No production of the symbol starts with the token. -/
  | noAlternative (symbol : Symbol) (expected : List TokenKind) (found : String) (line : Nat)
  /-- Tokens follow the parsed symbol. -/
  | trailingInput (found : String) (line : Nat)
  /-- Finished children do not fit the production that they belong to. -/
  | malformed (production : Production) (found : String) (line : Nat)
deriving DecidableEq, Repr

namespace ParseError

/-- The line that the error is reported for. -/
def line : ParseError → Nat
  | unexpectedToken _ _ line => line
  | noAlternative _ _ _ line => line
  | trailingInput _ line => line
  | malformed _ _ line => line

/-- The descriptions of the kinds, as an enumeration in prose. -/
def kindList : List TokenKind → String
  | [] => ""
  | [kind] => kind.describe
  | [first, last] => first.describe ++ " or " ++ last.describe
  | kind :: rest => kind.describe ++ ", " ++ kindList rest

/-- The text of the error. -/
def message : ParseError → String
  | unexpectedToken expected found line =>
    s!"{expected.describe} expected, found {found} (line {line})"
  | noAlternative symbol expected found line =>
    s!"{symbol.display} cannot start with {found}, expected {kindList expected} (line {line})"
  | trailingInput found line => s!"end of input expected, found {found} (line {line})"
  | malformed production found line =>
    s!"{production.name} assembled from unexpected {found} (line {line})"

end ParseError

/-- The token under the cursor and the one behind it. -/
structure Window where
  current : Token
  next : Token
deriving DecidableEq, Repr

/-- When an entry of a choice applies. -/
inductive Lookahead
  /-- The current token has the kind; the wildcard kind stands for every token. -/
  | kind (kind : TokenKind)
  /-- The current token has the kind and the next token has one of the others. -/
  | followed (kind : TokenKind) (next : List TokenKind)
deriving DecidableEq, Repr

namespace Lookahead

/-- Whether the entry applies to every token. -/
def isWildcard (lookahead : Lookahead) : Bool :=
  lookahead = .kind .any

/-- The kind that the current token must have. -/
def leading : Lookahead → TokenKind
  | .kind wanted => wanted
  | .followed wanted _ => wanted

/-- Whether the entry applies to the tokens under the cursor. -/
def applies (window : Window) : Lookahead → Bool
  | .kind wanted => wanted = .any || wanted = window.current.kind
  | .followed wanted next => wanted = window.current.kind && next.contains window.next.kind

end Lookahead

/-- How a symbol reacts to the tokens under the cursor. -/
inductive Rule
  /-- It consumes one token of the kind. -/
  | leaf (kind : TokenKind)
  /-- It chooses a production by look-ahead; exact entries precede the wildcard. -/
  | choice (table : List (Lookahead × Production))
  /-- It always expands into the same production. -/
  | expand (production : Production)
  /-- It continues if the current token has one of the kinds, and stops otherwise. -/
  | tail (accepts : List TokenKind) (more stop : Production)
deriving DecidableEq, Repr

/-- What a rule does with the current token. -/
inductive Feed
  | consumed
  /-- The token is left to the children of the production. -/
  | expand (production : Production)
deriving DecidableEq, Repr

/-- The entry of the table that decides: the first exact one that applies, or else the first
wildcard. -/
def chosen? (table : List (Lookahead × Production)) (window : Window) :
    Option (Lookahead × Production) :=
  (table.find? fun entry => !entry.1.isWildcard && entry.1.applies window).or
    (table.find? fun entry => entry.1.isWildcard)

/-- The kinds that the entries of the table start with, each once, in order. -/
def leadingKinds (table : List (Lookahead × Production)) : List TokenKind :=
  table.foldl (fun kinds entry =>
    if kinds.contains entry.1.leading then kinds else kinds ++ [entry.1.leading]) []

namespace Rule

/-- The reaction of the rule, as that of `symbol`, to the tokens under the cursor. -/
def feed (symbol : Symbol) (window : Window) : Rule → Except ParseError Feed
  | leaf kind =>
    if kind = window.current.kind then .ok .consumed
    else .error (.unexpectedToken kind window.current.shown window.current.line)
  | choice table =>
    match chosen? table window with
    | some entry => .ok (.expand entry.2)
    | none =>
      .error (.noAlternative symbol (leadingKinds table) window.current.shown window.current.line)
  | expand production => .ok (.expand production)
  | tail accepts more stop =>
    if accepts.contains window.current.kind then .ok (.expand more) else .ok (.expand stop)

/-- The productions that the rule may choose. -/
def productions : Rule → List Production
  | leaf _ => []
  | choice table => table.map Prod.snd
  | expand production => [production]
  | tail _ more stop => [more, stop]

/-- A rule only answers with productions of its own. -/
theorem mem_productions_of_feed {symbol : Symbol} {window : Window} {rule : Rule}
    {production : Production} (h : rule.feed symbol window = .ok (.expand production)) :
    production ∈ rule.productions := by
  cases rule with
  | leaf kind =>
    rw [feed] at h
    split at h <;> cases h
  | choice table =>
    rw [feed] at h
    split at h
    · rename_i entry chosen
      cases h
      rw [chosen?, Option.or_eq_some_iff] at chosen
      rcases chosen with exact | ⟨_, wildcard⟩
      · exact List.mem_map_of_mem (List.mem_of_find?_eq_some exact)
      · exact List.mem_map_of_mem (List.mem_of_find?_eq_some wildcard)
    · cases h
  | expand only => cases h; exact List.mem_singleton.mpr rfl
  | tail accepts more stop =>
    rw [feed] at h
    split at h
    · cases h; exact List.mem_cons_self
    · cases h; exact List.mem_cons_of_mem _ List.mem_cons_self

/-- Only a leaf consumes a token, and only one of its kind. -/
theorem eq_leaf_of_feed_consumed {symbol : Symbol} {window : Window} {rule : Rule}
    (h : rule.feed symbol window = .ok .consumed) : rule = leaf window.current.kind := by
  cases rule with
  | leaf kind =>
    rw [feed] at h
    split at h
    · rename_i same
      rw [same]
    · cases h
  | choice table => rw [feed] at h; split at h <;> cases h
  | expand only => cases h
  | tail accepts more stop => rw [feed] at h; split at h <;> cases h

end Rule

/-! ## The rules of the grammar -/

/-- An item is a declaration at a keyword or at a name with a comma or a colon behind it, empty
at a separator, and a statement otherwise. -/
def programItemTable : List (Lookahead × Production) :=
  [(.kind .dimWord, .programItemDeclaration),
   (.followed .identifier [.comma, .colon], .programItemDeclaration),
   (.kind .separator, .programItemEmpty),
   (.kind .any, .programItemStatement)]

/-- A declaration begins with its keyword or with its names. -/
def declarationTable : List (Lookahead × Production) :=
  [(.kind .dimWord, .declarationKeyword), (.kind .identifier, .declarationColon)]

/-- The first token decides the form of a statement. -/
def statementTable : List (Lookahead × Production) :=
  [(.kind .identifier, .statementAssignment), (.kind .beginWord, .statementBlock),
   (.kind .ifWord, .statementCondition), (.kind .forWord, .statementFor),
   (.kind .whileWord, .statementWhile), (.kind .readWord, .statementRead),
   (.kind .writeWord, .statementWrite), (.kind .separator, .statementSkip),
   (.kind .eof, .statementEmpty), (.kind .endWord, .statementEmpty)]

/-- The first token decides the form of a factor. -/
def factorTable : List (Lookahead × Production) :=
  [(.kind .identifier, .factorIdentifier), (.kind .intNumber, .factorNumber),
   (.kind .floatNumber, .factorNumber), (.kind .boolConst, .factorBool),
   (.kind .unaryOp, .factorNot), (.kind .openParen, .factorGroup)]

/-- A number is an integer or a float. -/
def numberTable : List (Lookahead × Production) :=
  [(.kind .intNumber, .numberInt), (.kind .floatNumber, .numberFloat)]

/-- The rule of each symbol. -/
def Symbol.rule : Symbol → Rule
  | leaf kind => .leaf kind
  | program => .expand .program
  | programItem => .choice programItemTable
  | programTail => .tail [.separator] .programTailMore .programTailEnd
  | declaration => .choice declarationTable
  | identifierList => .expand .identifierList
  | identifierListTail => .tail [.comma] .identifierListMore .identifierListEnd
  | statement => .choice statementTable
  | statementList => .expand .statementList
  | statementListTail => .tail [.separator] .statementListMore .statementListEnd
  | assignment => .expand .assignment
  | condition => .expand .condition
  | conditionTail => .tail [.elseWord] .conditionElse .conditionEnd
  | forLoop => .expand .forLoop
  | whileLoop => .expand .whileLoop
  | nestedBlock => .expand .nestedBlock
  | reading => .expand .reading
  | writing => .expand .writing
  | expressionList => .expand .expressionList
  | expressionListTail => .tail [.comma] .expressionListMore .expressionListEnd
  | expression => .expand .expression
  | expressionTail => .tail [.relationOp] .expressionComparison .expressionTailEnd
  | operand => .expand .operand
  | operandTail => .tail [.addOp] .operandMore .operandEnd
  | addend => .expand .addend
  | addendTail => .tail [.mulOp] .addendMore .addendEnd
  | factor => .choice factorTable
  | number => .choice numberTable

end DimLang
