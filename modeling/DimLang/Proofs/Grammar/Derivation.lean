import DimLang.Grammar.Symbol
import DimLang.Syntax.Node

/-!
# The grammar

The grammar of the language as a relation between token lists and trees, one constructor for each
alternative of a notion. `Derives endLine symbol input node rest` says that `input` begins with a
phrase of the symbol, that `node` is its tree, not yet analysed, and that `rest` follows it. What
follows matters only where an alternative is chosen by the next tokens:

- an item of a program is a declaration at its keyword or at a name with a comma or a colon behind
  it, empty at a separator, and a statement otherwise
- a statement is empty only in front of `end` or of the end of the input
- a tail stops only where the next token cannot continue it
- separators in front of a statement are kept together, in one node with the statement

No table of the parser occurs here.
-/

namespace DimLang

/-- The kind of the next token; behind the last token stands the end of the input. -/
def nextKind : List Token → TokenKind
  | [] => .eof
  | token :: _ => token.kind

/-- A declaration starts with its keyword, or with a name that a comma or a colon follows. -/
def StartsDeclaration (input : List Token) : Prop :=
  nextKind input = .dimWord ∨
    nextKind input = .identifier ∧
      (nextKind input.tail = .comma ∨ nextKind input.tail = .colon)

/-- The kinds of constants. -/
def TokenKind.IsConstant (kind : TokenKind) : Prop :=
  kind = .intNumber ∨ kind = .floatNumber ∨ kind = .boolConst

instance (kind : TokenKind) : Decidable kind.IsConstant :=
  inferInstanceAs (Decidable (_ ∨ _))

/-- The symbol derives the front of the first token list, with the node as its tree, if the second
list follows. The line is that of the end of the input. -/
inductive Derives (endLine : Nat) : Symbol → List Token → Node → List Token → Prop
  -- A leaf is one token of its kind; only the end of the input is no token of the list.
  | name {token : Token} {rest : List Token} (kind : token.kind = .identifier) :
      Derives endLine (.leaf .identifier) (token :: rest) (.identifier ⟨token, .invalid⟩) rest
  | constant {kind : TokenKind} {token : Token} {rest : List Token} (same : token.kind = kind)
      (isConstant : kind.IsConstant) :
      Derives endLine (.leaf kind) (token :: rest) (.literal ⟨token, .invalid⟩) rest
  | mark {kind : TokenKind} {token : Token} {rest : List Token} (same : token.kind = kind)
      (notName : kind ≠ .identifier) (notConstant : ¬ kind.IsConstant) :
      Derives endLine (.leaf kind) (token :: rest) (.leaf ⟨token⟩) rest
  | inputEnd : Derives endLine (.leaf .eof) [] (.leaf ⟨.atEnd endLine⟩) []
  -- Programs: an item, then perhaps a separator and a program.
  | program {input middle rest : List Token} {item : ProgramItem} {tail : ProgramTail}
      (first : Derives endLine .programItem input (.programItem item) middle)
      (more : Derives endLine .programTail middle (.programTail tail) rest) :
      Derives endLine .program input (.program ⟨item, tail⟩) rest
  | programMore {separator : Token} {input rest : List Token} {program : Program}
      (kind : separator.kind = .separator)
      (part : Derives endLine .program input (.program program) rest) :
      Derives endLine .programTail (separator :: input)
        (.programTail (.more ⟨separator⟩ program)) rest
  | programStop {rest : List Token} (stops : nextKind rest ≠ .separator) :
      Derives endLine .programTail rest (.programTail .stop) rest
  | itemDeclaration {input rest : List Token} {declaration : Declaration}
      (starts : StartsDeclaration input)
      (declares : Derives endLine .declaration input (.declaration declaration) rest) :
      Derives endLine .programItem input (.programItem (.declaration declaration)) rest
  | itemEmpty {rest : List Token} (blank : nextKind rest = .separator) :
      Derives endLine .programItem rest (.programItem (.statement .empty)) rest
  | itemStatement {input rest : List Token} {statement : Statement}
      (noDeclaration : ¬ StartsDeclaration input) (notBlank : nextKind input ≠ .separator)
      (states : Derives endLine .statement input (.statement statement) rest) :
      Derives endLine .programItem input (.programItem (.statement statement)) rest
  -- Declarations and lists of names.
  | declarationKeyword {word typeName : Token} {input rest : List Token} {names : IdentifierList}
      (wordKind : word.kind = .dimWord)
      (list : Derives endLine .identifierList input (.identifierList names) (typeName :: rest))
      (typeKind : typeName.kind = .typeName) :
      Derives endLine .declaration (word :: input)
        (.declaration ⟨some ⟨word⟩, names, none, ⟨typeName⟩⟩) rest
  | declarationColon {mark typeName : Token} {input rest : List Token} {names : IdentifierList}
      (list : Derives endLine .identifierList input (.identifierList names)
        (mark :: typeName :: rest))
      (markKind : mark.kind = .colon) (typeKind : typeName.kind = .typeName) :
      Derives endLine .declaration input (.declaration ⟨none, names, some ⟨mark⟩, ⟨typeName⟩⟩) rest
  | identifierList {head : Token} {input rest : List Token} {tail : IdentifierListTail}
      (kind : head.kind = .identifier)
      (more : Derives endLine .identifierListTail input (.identifierListTail tail) rest) :
      Derives endLine .identifierList (head :: input)
        (.identifierList ⟨⟨head, .invalid⟩, tail⟩) rest
  | identifierMore {comma : Token} {input rest : List Token} {names : IdentifierList}
      (kind : comma.kind = .comma)
      (list : Derives endLine .identifierList input (.identifierList names) rest) :
      Derives endLine .identifierListTail (comma :: input)
        (.identifierListTail (.more ⟨comma⟩ names)) rest
  | identifierStop {rest : List Token} (stops : nextKind rest ≠ .comma) :
      Derives endLine .identifierListTail rest (.identifierListTail .stop) rest
  -- Statements.
  | statementAssignment {input rest : List Token} {tree : Assignment}
      (part : Derives endLine .assignment input (.assignment tree) rest) :
      Derives endLine .statement input (.statement (.assignment tree)) rest
  | statementBlock {input rest : List Token} {tree : NestedBlock}
      (part : Derives endLine .nestedBlock input (.nestedBlock tree) rest) :
      Derives endLine .statement input (.statement (.nestedBlock tree)) rest
  | statementCondition {input rest : List Token} {tree : Condition}
      (part : Derives endLine .condition input (.condition tree) rest) :
      Derives endLine .statement input (.statement (.condition tree)) rest
  | statementFor {input rest : List Token} {tree : ForLoop}
      (part : Derives endLine .forLoop input (.forLoop tree) rest) :
      Derives endLine .statement input (.statement (.forLoop tree)) rest
  | statementWhile {input rest : List Token} {tree : WhileLoop}
      (part : Derives endLine .whileLoop input (.whileLoop tree) rest) :
      Derives endLine .statement input (.statement (.whileLoop tree)) rest
  | statementRead {input rest : List Token} {tree : Reading}
      (part : Derives endLine .reading input (.reading tree) rest) :
      Derives endLine .statement input (.statement (.reading tree)) rest
  | statementWrite {input rest : List Token} {tree : Writing}
      (part : Derives endLine .writing input (.writing tree) rest) :
      Derives endLine .statement input (.statement (.writing tree)) rest
  | statementSkip {separators input rest : List Token} {inner : Statement}
      (nonempty : separators ≠ [])
      (kinds : ∀ separator ∈ separators, separator.kind = .separator)
      (behind : nextKind input ≠ .separator)
      (part : Derives endLine .statement input (.statement inner) rest) :
      Derives endLine .statement (separators ++ input)
        (.statement (.skip (separators.map Leaf.mk) inner)) rest
  | statementEmpty {rest : List Token}
      (ends : nextKind rest = .endWord ∨ nextKind rest = .eof) :
      Derives endLine .statement rest (.statement .empty) rest
  | assignment {target asWord : Token} {input rest : List Token} {value : Expression}
      (targetKind : target.kind = .identifier) (asKind : asWord.kind = .asWord)
      (part : Derives endLine .expression input (.expression value) rest) :
      Derives endLine .assignment (target :: asWord :: input)
        (.assignment ⟨⟨target, .invalid⟩, ⟨asWord⟩, value⟩) rest
  | condition {ifWord thenWord : Token} {input middle later rest : List Token}
      {test : Expression} {branch : Statement} {tail : ConditionTail}
      (ifKind : ifWord.kind = .ifWord)
      (tests : Derives endLine .expression input (.expression test) (thenWord :: middle))
      (thenKind : thenWord.kind = .thenWord)
      (states : Derives endLine .statement middle (.statement branch) later)
      (more : Derives endLine .conditionTail later (.conditionTail tail) rest) :
      Derives endLine .condition (ifWord :: input)
        (.condition ⟨⟨ifWord⟩, test, ⟨thenWord⟩, branch, tail⟩) rest
  | conditionElse {elseWord : Token} {input rest : List Token} {branch : Statement}
      (kind : elseWord.kind = .elseWord)
      (part : Derives endLine .statement input (.statement branch) rest) :
      Derives endLine .conditionTail (elseWord :: input)
        (.conditionTail (.more ⟨elseWord⟩ branch)) rest
  | conditionStop {rest : List Token} (stops : nextKind rest ≠ .elseWord) :
      Derives endLine .conditionTail rest (.conditionTail .stop) rest
  | forLoop {forWord toWord doWord : Token} {input middle later rest : List Token}
      {start : Assignment} {limit : Expression} {body : Statement}
      (forKind : forWord.kind = .forWord)
      (starts : Derives endLine .assignment input (.assignment start) (toWord :: middle))
      (toKind : toWord.kind = .toWord)
      (limits : Derives endLine .expression middle (.expression limit) (doWord :: later))
      (doKind : doWord.kind = .doWord)
      (states : Derives endLine .statement later (.statement body) rest) :
      Derives endLine .forLoop (forWord :: input)
        (.forLoop ⟨⟨forWord⟩, start, ⟨toWord⟩, limit, ⟨doWord⟩, body⟩) rest
  | whileLoop {whileWord doWord : Token} {input later rest : List Token} {test : Expression}
      {body : Statement} (whileKind : whileWord.kind = .whileWord)
      (tests : Derives endLine .expression input (.expression test) (doWord :: later))
      (doKind : doWord.kind = .doWord)
      (states : Derives endLine .statement later (.statement body) rest) :
      Derives endLine .whileLoop (whileWord :: input)
        (.whileLoop ⟨⟨whileWord⟩, test, ⟨doWord⟩, body⟩) rest
  | nestedBlock {beginWord endWord : Token} {input rest : List Token}
      {statements : StatementList} (beginKind : beginWord.kind = .beginWord)
      (list : Derives endLine .statementList input (.statementList statements) (endWord :: rest))
      (endKind : endWord.kind = .endWord) :
      Derives endLine .nestedBlock (beginWord :: input)
        (.nestedBlock ⟨⟨beginWord⟩, statements, ⟨endWord⟩⟩) rest
  | statementList {input middle rest : List Token} {head : Statement} {tail : StatementListTail}
      (states : Derives endLine .statement input (.statement head) middle)
      (more : Derives endLine .statementListTail middle (.statementListTail tail) rest) :
      Derives endLine .statementList input (.statementList ⟨head, tail⟩) rest
  | statementMore {separator : Token} {input rest : List Token} {statements : StatementList}
      (kind : separator.kind = .separator)
      (list : Derives endLine .statementList input (.statementList statements) rest) :
      Derives endLine .statementListTail (separator :: input)
        (.statementListTail (.more ⟨separator⟩ statements)) rest
  | statementStop {rest : List Token} (stops : nextKind rest ≠ .separator) :
      Derives endLine .statementListTail rest (.statementListTail .stop) rest
  | reading {readWord opening closing : Token} {input rest : List Token}
      {names : IdentifierList} (readKind : readWord.kind = .readWord)
      (openKind : opening.kind = .openParen)
      (list : Derives endLine .identifierList input (.identifierList names) (closing :: rest))
      (closeKind : closing.kind = .closeParen) :
      Derives endLine .reading (readWord :: opening :: input)
        (.reading ⟨⟨readWord⟩, ⟨opening⟩, names, ⟨closing⟩⟩) rest
  | writing {writeWord opening closing : Token} {input rest : List Token}
      {expressions : ExpressionList} (writeKind : writeWord.kind = .writeWord)
      (openKind : opening.kind = .openParen)
      (list : Derives endLine .expressionList input (.expressionList expressions)
        (closing :: rest))
      (closeKind : closing.kind = .closeParen) :
      Derives endLine .writing (writeWord :: opening :: input)
        (.writing ⟨⟨writeWord⟩, ⟨opening⟩, expressions, ⟨closing⟩⟩) rest
  -- Expressions: lists, comparisons, sums, products and their factors.
  | expressionList {input middle rest : List Token} {head : Expression}
      {tail : ExpressionListTail}
      (first : Derives endLine .expression input (.expression head) middle)
      (more : Derives endLine .expressionListTail middle (.expressionListTail tail) rest) :
      Derives endLine .expressionList input (.expressionList ⟨head, tail⟩) rest
  | expressionMore {comma : Token} {input rest : List Token} {expressions : ExpressionList}
      (kind : comma.kind = .comma)
      (list : Derives endLine .expressionList input (.expressionList expressions) rest) :
      Derives endLine .expressionListTail (comma :: input)
        (.expressionListTail (.more ⟨comma⟩ expressions)) rest
  | expressionStop {rest : List Token} (stops : nextKind rest ≠ .comma) :
      Derives endLine .expressionListTail rest (.expressionListTail .stop) rest
  | expression {input middle rest : List Token} {left : Operand} {tail : ExpressionTail}
      (first : Derives endLine .operand input (.operand left) middle)
      (more : Derives endLine .expressionTail middle (.expressionTail tail) rest) :
      Derives endLine .expression input (.expression ⟨left, tail, .invalid⟩) rest
  | comparison {operator : Token} {input rest : List Token} {right : Operand}
      (kind : operator.kind = .relationOp)
      (part : Derives endLine .operand input (.operand right) rest) :
      Derives endLine .expressionTail (operator :: input)
        (.expressionTail (.more ⟨operator⟩ right .invalid)) rest
  | comparisonStop {rest : List Token} (stops : nextKind rest ≠ .relationOp) :
      Derives endLine .expressionTail rest (.expressionTail (.stop .invalid)) rest
  | operand {input middle rest : List Token} {head : Addend} {tail : OperandTail}
      (first : Derives endLine .addend input (.addend head) middle)
      (more : Derives endLine .operandTail middle (.operandTail tail) rest) :
      Derives endLine .operand input (.operand ⟨head, tail, .invalid⟩) rest
  | operandMore {operator : Token} {input rest : List Token} {operand : Operand}
      (kind : operator.kind = .addOp)
      (part : Derives endLine .operand input (.operand operand) rest) :
      Derives endLine .operandTail (operator :: input)
        (.operandTail (.more ⟨operator⟩ operand .invalid)) rest
  | operandStop {rest : List Token} (stops : nextKind rest ≠ .addOp) :
      Derives endLine .operandTail rest (.operandTail (.stop .invalid)) rest
  | addend {input middle rest : List Token} {head : Factor} {tail : AddendTail}
      (first : Derives endLine .factor input (.factor head) middle)
      (more : Derives endLine .addendTail middle (.addendTail tail) rest) :
      Derives endLine .addend input (.addend ⟨head, tail, .invalid⟩) rest
  | addendMore {operator : Token} {input rest : List Token} {addend : Addend}
      (kind : operator.kind = .mulOp)
      (part : Derives endLine .addend input (.addend addend) rest) :
      Derives endLine .addendTail (operator :: input)
        (.addendTail (.more ⟨operator⟩ addend .invalid)) rest
  | addendStop {rest : List Token} (stops : nextKind rest ≠ .mulOp) :
      Derives endLine .addendTail rest (.addendTail (.stop .invalid)) rest
  | factorIdentifier {token : Token} {rest : List Token} (kind : token.kind = .identifier) :
      Derives endLine .factor (token :: rest)
        (.factor ⟨.identifier ⟨token, .invalid⟩, .invalid⟩) rest
  | factorNumber {input rest : List Token} {number : Number}
      (part : Derives endLine .number input (.number number) rest) :
      Derives endLine .factor input (.factor ⟨.number number, .invalid⟩) rest
  | factorBool {token : Token} {rest : List Token} (kind : token.kind = .boolConst) :
      Derives endLine .factor (token :: rest) (.factor ⟨.bool ⟨token, .invalid⟩, .invalid⟩) rest
  | factorNot {operator : Token} {input rest : List Token} {operand : Factor}
      (kind : operator.kind = .unaryOp)
      (part : Derives endLine .factor input (.factor operand) rest) :
      Derives endLine .factor (operator :: input)
        (.factor ⟨.not ⟨operator⟩ operand, .invalid⟩) rest
  | factorGroup {opening closing : Token} {input rest : List Token} {inner : Expression}
      (openKind : opening.kind = .openParen)
      (part : Derives endLine .expression input (.expression inner) (closing :: rest))
      (closeKind : closing.kind = .closeParen) :
      Derives endLine .factor (opening :: input)
        (.factor ⟨.group ⟨opening⟩ inner ⟨closing⟩, .invalid⟩) rest
  | number {token : Token} {rest : List Token}
      (kind : token.kind = .intNumber ∨ token.kind = .floatNumber) :
      Derives endLine .number (token :: rest) (.number ⟨⟨token, .invalid⟩, .invalid⟩) rest

variable {endLine : Nat} {input rest : List Token}

/-! ## Phrases and their first tokens -/

/-- The kind that every phrase of the symbol begins with, for symbols that have one. -/
def Symbol.first? : Symbol → Option TokenKind
  | assignment => some .identifier
  | identifierList => some .identifier
  | nestedBlock => some .beginWord
  | condition => some .ifWord
  | forLoop => some .forWord
  | whileLoop => some .whileWord
  | reading => some .readWord
  | writing => some .writeWord
  | _ => none

/-- A notion with a first kind begins with a token of this kind. -/
theorem Derives.nextKind_eq {symbol : Symbol} {node : Node} {kind : TokenKind}
    (derives : Derives endLine symbol input node rest) (first : symbol.first? = some kind) :
    nextKind input = kind := by
  cases derives <;> cases first <;> assumption

/-- A mark is one token, unless it is the end of the input. -/
theorem Derives.exists_mark {kind : TokenKind} {tree : Leaf}
    (derives : Derives endLine (.leaf kind) input (.leaf tree) rest) (notEnd : kind ≠ .eof) :
    ∃ token, token.kind = kind ∧ tree = ⟨token⟩ ∧ input = token :: rest := by
  cases derives with
  | mark same _ _ => exact ⟨_, same, rfl, rfl⟩
  | inputEnd => exact absurd rfl notEnd

/-- An identifier is derived from a single name. -/
theorem Derives.exists_name {kind : TokenKind} {tree : Identifier}
    (derives : Derives endLine (.leaf kind) input (.identifier tree) rest) :
    ∃ token, token.kind = .identifier ∧ tree = ⟨token, .invalid⟩ ∧ input = token :: rest := by
  cases derives with
  | name same => exact ⟨_, same, rfl, rfl⟩

/-- A literal is derived from a single constant. -/
theorem Derives.exists_constant {kind : TokenKind} {tree : Literal}
    (derives : Derives endLine (.leaf kind) input (.literal tree) rest) :
    ∃ token, token.kind = kind ∧ tree = ⟨token, .invalid⟩ ∧ input = token :: rest := by
  cases derives with
  | constant same _ => exact ⟨_, same, rfl, rfl⟩

/-- The separators of a skipping statement are a run of separators in the input. -/
theorem Derives.exists_separators {leaves : List Leaf} {inner : Statement}
    (derives : Derives endLine .statement input (.statement (.skip leaves inner)) rest) :
    ∃ separators middle, input = separators ++ middle ∧ leaves = separators.map Leaf.mk ∧
      separators ≠ [] ∧ (∀ separator ∈ separators, separator.kind = .separator) ∧
        nextKind middle ≠ .separator ∧
          Derives endLine .statement middle (.statement inner) rest := by
  generalize tree : Node.statement (.skip leaves inner) = node at derives
  cases derives with
  | statementSkip nonempty kinds behind part =>
    cases tree
    exact ⟨_, _, rfl, rfl, nonempty, kinds, behind, part⟩
  | _ => cases tree

/-- Separators begin with a separator. -/
theorem nextKind_separators {separators : List Token} (nonempty : separators ≠ [])
    (kinds : ∀ separator ∈ separators, separator.kind = .separator) :
    nextKind (separators ++ input) = .separator := by
  cases separators with
  | nil => exact absurd rfl nonempty
  | cons separator separators => exact kinds separator List.mem_cons_self

/-- A statement skips separators exactly if it begins with one. -/
theorem Derives.nextKind_eq_separator_iff {statement : Statement}
    (derives : Derives endLine .statement input (.statement statement) rest) :
    nextKind input = .separator ↔ ∃ leaves inner, statement = .skip leaves inner := by
  constructor
  · intro separator
    cases derives with
    | statementAssignment part | statementBlock part | statementCondition part
    | statementFor part | statementWhile part | statementRead part | statementWrite part =>
      rw [part.nextKind_eq rfl] at separator
      cases separator
    | statementSkip nonempty kinds behind part => exact ⟨_, _, rfl⟩
    | statementEmpty ends =>
      rcases ends with ends | ends <;> rw [ends] at separator <;> cases separator
  · rintro ⟨leaves, inner, rfl⟩
    obtain ⟨separators, middle, rfl, _, nonempty, kinds, _, _⟩ := derives.exists_separators
    exact nextKind_separators nonempty kinds

end DimLang
