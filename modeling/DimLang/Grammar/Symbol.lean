import DimLang.Token.Kind

/-!
# Symbols and productions

The grammar's symbols are the token kinds, as leaves, and the notions of the syntax tree. A
production is one way to expand a notion; `Production.rhs` is the sequence of symbols that it
expands into.
-/

namespace DimLang

/-- A symbol of the grammar. -/
inductive Symbol
  | leaf (kind : TokenKind)
  | program | programItem | programTail
  | declaration | identifierList | identifierListTail
  | statement | statementList | statementListTail
  | assignment | condition | conditionTail | forLoop | whileLoop | nestedBlock | reading | writing
  | expressionList | expressionListTail | expression | expressionTail
  | operand | operandTail | addend | addendTail | factor | number
deriving DecidableEq, Repr

namespace Symbol

/-- The symbols that are not leaves. -/
def notions : List Symbol :=
  [program, programItem, programTail, declaration, identifierList, identifierListTail,
   statement, statementList, statementListTail, assignment, condition, conditionTail, forLoop,
   whileLoop, nestedBlock, reading, writing, expressionList, expressionListTail, expression,
   expressionTail, operand, operandTail, addend, addendTail, factor, number]

/-- The name of a symbol in messages; a leaf is described by its kind. -/
def display : Symbol → String
  | leaf kind => kind.describe
  | program => "Program"
  | programItem => "ProgramItem"
  | programTail => "ProgramTail"
  | declaration => "Declaration"
  | identifierList => "IdentifierList"
  | identifierListTail => "IdentifierListTail"
  | statement => "Statement"
  | statementList => "StatementList"
  | statementListTail => "StatementListTail"
  | assignment => "Assignment"
  | condition => "Condition"
  | conditionTail => "ConditionTail"
  | forLoop => "ForLoop"
  | whileLoop => "WhileLoop"
  | nestedBlock => "NestedBlock"
  | reading => "Reading"
  | writing => "Writing"
  | expressionList => "ExpressionList"
  | expressionListTail => "ExpressionListTail"
  | expression => "Expression"
  | expressionTail => "ExpressionTail"
  | operand => "Operand"
  | operandTail => "OperandTail"
  | addend => "Addend"
  | addendTail => "AddendTail"
  | factor => "Factor"
  | number => "Number"

/-- The name of a symbol that tells leaves and notions apart. -/
def fullName : Symbol → String
  | leaf kind => "Leaf(" ++ kind.name ++ ")"
  | notion => notion.display

/-- The notion with the given name. -/
def ofName? (text : String) : Option Symbol :=
  notions.find? fun notion => notion.display == text

/-- Every symbol that is no leaf is one of the notions. -/
theorem mem_notions (symbol : Symbol) (notion : ∀ kind, symbol ≠ leaf kind) :
    symbol ∈ notions := by
  cases symbol with
  | leaf kind => exact absurd rfl (notion kind)
  | _ => decide

/-- Notions are displayed in different ways. -/
theorem eq_of_display {symbol symbol' : Symbol} (notion : symbol ∈ notions)
    (notion' : symbol' ∈ notions) (same : symbol.display = symbol'.display) :
    symbol = symbol' := by
  have distinct : ∀ symbol ∈ notions, ∀ symbol' ∈ notions,
      symbol.display = symbol'.display → symbol = symbol' := by
    decide +kernel
  exact distinct symbol notion symbol' notion' same

end Symbol

/-- A way to expand a notion of the grammar. -/
inductive Production
  | program
  | programItemDeclaration | programItemStatement | programItemEmpty
  | programTailMore | programTailEnd
  | declarationKeyword | declarationColon
  | identifierList | identifierListMore | identifierListEnd
  | statementAssignment | statementBlock | statementCondition | statementFor | statementWhile
  | statementRead | statementWrite | statementSkip | statementEmpty
  | assignment | condition | conditionElse | conditionEnd | forLoop | whileLoop | nestedBlock
  | statementList | statementListMore | statementListEnd
  | reading | writing
  | expressionList | expressionListMore | expressionListEnd
  | expression | expressionComparison | expressionTailEnd
  | operand | operandMore | operandEnd
  | addend | addendMore | addendEnd
  | factorIdentifier | factorNumber | factorBool | factorNot | factorGroup
  | numberInt | numberFloat
deriving DecidableEq, Repr

namespace Production

/-- All productions. -/
def all : List Production :=
  [program, programItemDeclaration, programItemStatement, programItemEmpty,
   programTailMore, programTailEnd, declarationKeyword, declarationColon,
   identifierList, identifierListMore, identifierListEnd,
   statementAssignment, statementBlock, statementCondition, statementFor, statementWhile,
   statementRead, statementWrite, statementSkip, statementEmpty,
   assignment, condition, conditionElse, conditionEnd, forLoop, whileLoop, nestedBlock,
   statementList, statementListMore, statementListEnd, reading, writing,
   expressionList, expressionListMore, expressionListEnd,
   expression, expressionComparison, expressionTailEnd, operand, operandMore, operandEnd,
   addend, addendMore, addendEnd,
   factorIdentifier, factorNumber, factorBool, factorNot, factorGroup, numberInt, numberFloat]

/-- The name of a production. -/
def name : Production → String
  | program => "Program"
  | programItemDeclaration => "ProgramItemDeclaration"
  | programItemStatement => "ProgramItemStatement"
  | programItemEmpty => "ProgramItemEmpty"
  | programTailMore => "ProgramTailMore"
  | programTailEnd => "ProgramTailEnd"
  | declarationKeyword => "DeclarationKeyword"
  | declarationColon => "DeclarationColon"
  | identifierList => "IdentifierList"
  | identifierListMore => "IdentifierListMore"
  | identifierListEnd => "IdentifierListEnd"
  | statementAssignment => "StatementAssignment"
  | statementBlock => "StatementBlock"
  | statementCondition => "StatementCondition"
  | statementFor => "StatementFor"
  | statementWhile => "StatementWhile"
  | statementRead => "StatementRead"
  | statementWrite => "StatementWrite"
  | statementSkip => "StatementSkip"
  | statementEmpty => "StatementEmpty"
  | assignment => "Assignment"
  | condition => "Condition"
  | conditionElse => "ConditionElse"
  | conditionEnd => "ConditionEnd"
  | forLoop => "ForLoop"
  | whileLoop => "WhileLoop"
  | nestedBlock => "NestedBlock"
  | statementList => "StatementList"
  | statementListMore => "StatementListMore"
  | statementListEnd => "StatementListEnd"
  | reading => "Reading"
  | writing => "Writing"
  | expressionList => "ExpressionList"
  | expressionListMore => "ExpressionListMore"
  | expressionListEnd => "ExpressionListEnd"
  | expression => "Expression"
  | expressionComparison => "ExpressionComparison"
  | expressionTailEnd => "ExpressionTailEnd"
  | operand => "Operand"
  | operandMore => "OperandMore"
  | operandEnd => "OperandEnd"
  | addend => "Addend"
  | addendMore => "AddendMore"
  | addendEnd => "AddendEnd"
  | factorIdentifier => "FactorIdentifier"
  | factorNumber => "FactorNumber"
  | factorBool => "FactorBool"
  | factorNot => "FactorNot"
  | factorGroup => "FactorGroup"
  | numberInt => "NumberInt"
  | numberFloat => "NumberFloat"

/-- The production with the given name. -/
def ofName? (text : String) : Option Production :=
  all.find? fun production => production.name == text

/-- The symbols that the production expands into, in source order. -/
def rhs : Production → List Symbol
  | program => [.programItem, .programTail]
  | programItemDeclaration => [.declaration]
  | programItemStatement => [.statement]
  | programItemEmpty => []
  | programTailMore => [.leaf .separator, .program]
  | programTailEnd => []
  | declarationKeyword => [.leaf .dimWord, .identifierList, .leaf .typeName]
  | declarationColon => [.identifierList, .leaf .colon, .leaf .typeName]
  | identifierList => [.leaf .identifier, .identifierListTail]
  | identifierListMore => [.leaf .comma, .identifierList]
  | identifierListEnd => []
  | statementAssignment => [.assignment]
  | statementBlock => [.nestedBlock]
  | statementCondition => [.condition]
  | statementFor => [.forLoop]
  | statementWhile => [.whileLoop]
  | statementRead => [.reading]
  | statementWrite => [.writing]
  | statementSkip => [.leaf .separator, .statement]
  | statementEmpty => []
  | assignment => [.leaf .identifier, .leaf .asWord, .expression]
  | condition => [.leaf .ifWord, .expression, .leaf .thenWord, .statement, .conditionTail]
  | conditionElse => [.leaf .elseWord, .statement]
  | conditionEnd => []
  | forLoop =>
    [.leaf .forWord, .assignment, .leaf .toWord, .expression, .leaf .doWord, .statement]
  | whileLoop => [.leaf .whileWord, .expression, .leaf .doWord, .statement]
  | nestedBlock => [.leaf .beginWord, .statementList, .leaf .endWord]
  | statementList => [.statement, .statementListTail]
  | statementListMore => [.leaf .separator, .statementList]
  | statementListEnd => []
  | reading => [.leaf .readWord, .leaf .openParen, .identifierList, .leaf .closeParen]
  | writing => [.leaf .writeWord, .leaf .openParen, .expressionList, .leaf .closeParen]
  | expressionList => [.expression, .expressionListTail]
  | expressionListMore => [.leaf .comma, .expressionList]
  | expressionListEnd => []
  | expression => [.operand, .expressionTail]
  | expressionComparison => [.leaf .relationOp, .operand]
  | expressionTailEnd => []
  | operand => [.addend, .operandTail]
  | operandMore => [.leaf .addOp, .operand]
  | operandEnd => []
  | addend => [.factor, .addendTail]
  | addendMore => [.leaf .mulOp, .addend]
  | addendEnd => []
  | factorIdentifier => [.leaf .identifier]
  | factorNumber => [.number]
  | factorBool => [.leaf .boolConst]
  | factorNot => [.leaf .unaryOp, .factor]
  | factorGroup => [.leaf .openParen, .expression, .leaf .closeParen]
  | numberInt => [.leaf .intNumber]
  | numberFloat => [.leaf .floatNumber]

/-- The list of productions is complete. -/
theorem mem_all (production : Production) : production ∈ all := by
  cases production <;> decide

end Production

end DimLang
