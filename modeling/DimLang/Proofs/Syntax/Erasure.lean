import DimLang.Syntax.Node

/-!
# Trees without types

`erase` marks every type annotation of a tree as not analysed and keeps all else: the nodes, their
tokens, the separators and the lengths of lists and chains. Two trees whose erasures are equal
differ in annotations only.
-/

namespace DimLang

def Identifier.erase (name : Identifier) : Identifier :=
  ⟨name.token, .invalid⟩

def Literal.erase (literal : Literal) : Literal :=
  ⟨literal.token, .invalid⟩

def Number.erase (number : Number) : Number :=
  ⟨number.literal.erase, .invalid⟩

mutual

def Factor.erase : Factor → Factor
  | ⟨primary, _⟩ => ⟨primary.erase, .invalid⟩

def Primary.erase : Primary → Primary
  | .identifier name => .identifier name.erase
  | .number number => .number number.erase
  | .bool literal => .bool literal.erase
  | .not operator operand => .not operator operand.erase
  | .group opening expression closing => .group opening expression.erase closing

def Addend.erase : Addend → Addend
  | ⟨factor, tail, _⟩ => ⟨factor.erase, tail.erase, .invalid⟩

def AddendTail.erase : AddendTail → AddendTail
  | .stop _ => .stop .invalid
  | .more operator rest _ => .more operator rest.erase .invalid

def Operand.erase : Operand → Operand
  | ⟨addend, tail, _⟩ => ⟨addend.erase, tail.erase, .invalid⟩

def OperandTail.erase : OperandTail → OperandTail
  | .stop _ => .stop .invalid
  | .more operator rest _ => .more operator rest.erase .invalid

def Expression.erase : Expression → Expression
  | ⟨operand, tail, _⟩ => ⟨operand.erase, tail.erase, .invalid⟩

def ExpressionTail.erase : ExpressionTail → ExpressionTail
  | .stop _ => .stop .invalid
  | .more operator right _ => .more operator right.erase .invalid

end

mutual

def ExpressionList.erase : ExpressionList → ExpressionList
  | ⟨head, tail⟩ => ⟨head.erase, tail.erase⟩

def ExpressionListTail.erase : ExpressionListTail → ExpressionListTail
  | .stop => .stop
  | .more comma rest => .more comma rest.erase

end

mutual

def IdentifierList.erase : IdentifierList → IdentifierList
  | ⟨head, tail⟩ => ⟨head.erase, tail.erase⟩

def IdentifierListTail.erase : IdentifierListTail → IdentifierListTail
  | .stop => .stop
  | .more comma rest => .more comma rest.erase

end

def Declaration.erase (tree : Declaration) : Declaration :=
  { tree with identifiers := tree.identifiers.erase }

def Assignment.erase : Assignment → Assignment
  | ⟨target, asWord, value⟩ => ⟨target.erase, asWord, value.erase⟩

def Reading.erase : Reading → Reading
  | ⟨word, opening, names, closing⟩ => ⟨word, opening, names.erase, closing⟩

def Writing.erase : Writing → Writing
  | ⟨word, opening, expressions, closing⟩ => ⟨word, opening, expressions.erase, closing⟩

mutual

def Statement.erase : Statement → Statement
  | .assignment tree => .assignment tree.erase
  | .nestedBlock tree => .nestedBlock tree.erase
  | .condition tree => .condition tree.erase
  | .forLoop tree => .forLoop tree.erase
  | .whileLoop tree => .whileLoop tree.erase
  | .reading tree => .reading tree.erase
  | .writing tree => .writing tree.erase
  | .skip separators inner => .skip separators inner.erase
  | .empty => .empty

def NestedBlock.erase : NestedBlock → NestedBlock
  | ⟨beginWord, statements, endWord⟩ => ⟨beginWord, statements.erase, endWord⟩

def StatementList.erase : StatementList → StatementList
  | ⟨head, tail⟩ => ⟨head.erase, tail.erase⟩

def StatementListTail.erase : StatementListTail → StatementListTail
  | .stop => .stop
  | .more separator rest => .more separator rest.erase

def Condition.erase : Condition → Condition
  | ⟨ifWord, test, thenWord, branch, tail⟩ =>
    ⟨ifWord, test.erase, thenWord, branch.erase, tail.erase⟩

def ConditionTail.erase : ConditionTail → ConditionTail
  | .stop => .stop
  | .more elseWord branch => .more elseWord branch.erase

def ForLoop.erase : ForLoop → ForLoop
  | ⟨forWord, start, toWord, limit, doWord, body⟩ =>
    ⟨forWord, start.erase, toWord, limit.erase, doWord, body.erase⟩

def WhileLoop.erase : WhileLoop → WhileLoop
  | ⟨whileWord, test, doWord, body⟩ => ⟨whileWord, test.erase, doWord, body.erase⟩

end

def ProgramItem.erase : ProgramItem → ProgramItem
  | .declaration tree => .declaration tree.erase
  | .statement tree => .statement tree.erase

mutual

/-- The program with all annotations marked as not analysed. -/
def Program.erase : Program → Program
  | ⟨item, tail⟩ => ⟨item.erase, tail.erase⟩

def ProgramTail.erase : ProgramTail → ProgramTail
  | .stop => .stop
  | .more separator rest => .more separator rest.erase

end

/-- The tree with all annotations marked as not analysed. -/
def Node.erase : Node → Node
  | leaf tree => leaf tree
  | identifier tree => identifier tree.erase
  | literal tree => literal tree.erase
  | number tree => number tree.erase
  | factor tree => factor tree.erase
  | addend tree => addend tree.erase
  | addendTail tree => addendTail tree.erase
  | operand tree => operand tree.erase
  | operandTail tree => operandTail tree.erase
  | expression tree => expression tree.erase
  | expressionTail tree => expressionTail tree.erase
  | expressionList tree => expressionList tree.erase
  | expressionListTail tree => expressionListTail tree.erase
  | identifierList tree => identifierList tree.erase
  | identifierListTail tree => identifierListTail tree.erase
  | declaration tree => declaration tree.erase
  | assignment tree => assignment tree.erase
  | condition tree => condition tree.erase
  | conditionTail tree => conditionTail tree.erase
  | forLoop tree => forLoop tree.erase
  | whileLoop tree => whileLoop tree.erase
  | nestedBlock tree => nestedBlock tree.erase
  | statementList tree => statementList tree.erase
  | statementListTail tree => statementListTail tree.erase
  | reading tree => reading tree.erase
  | writing tree => writing tree.erase
  | statement tree => statement tree.erase
  | programItem tree => programItem tree.erase
  | program tree => program tree.erase
  | programTail tree => programTail tree.erase

end DimLang
