import DimLang.Json
import DimLang.Syntax.Node

/-!
# Trees as JSON

A node becomes an object with a member for each of its parts, and a form among several becomes an
object whose only member is named for the form. The tails of chains and lists can be long, so they
become flat arrays: each link holds the token of a step and the head behind it, and in the chains
of an expression also the types of the rest and of the tail.
-/

namespace DimLang

/-- A token as an object of kind, text and line. -/
def Token.toJson (token : Token) : Json :=
  .object [("kind", .string token.kind.name), ("text", .string token.text),
    ("line", .number token.line)]

/-- A type annotation as its name. -/
def DataType.toJson (ty : DataType) : Json :=
  .string ty.name

/-- A leaf as an object with its token. -/
def Leaf.toJson (leaf : Leaf) : Json :=
  .object [("token", leaf.token.toJson)]

/-- A leaf that may be absent. -/
def Leaf.toJson? : Option Leaf → Json
  | some leaf => leaf.toJson
  | none => .null

/-- A name as an object of its token and type. -/
def Identifier.toJson (identifier : Identifier) : Json :=
  .object [("token", identifier.token.toJson), ("ty", identifier.ty.toJson)]

/-- A constant as an object of its token and type. -/
def Literal.toJson (literal : Literal) : Json :=
  .object [("token", literal.token.toJson), ("ty", literal.ty.toJson)]

/-- A number as an object of its constant and type. -/
def Number.toJson (number : Number) : Json :=
  .object [("literal", number.literal.toJson), ("ty", number.ty.toJson)]

/-- A step of a list: its token and the head behind it. -/
def Json.link (leaf : Leaf) (head : Json) : Json :=
  .object [("leaf", leaf.toJson), ("node", head)]

/-- A step of an operator chain, with the types of the rest of the chain and of the tail. -/
def Json.typedLink (leaf : Leaf) (head : Json) (ty tailTy : DataType) : Json :=
  .object [("leaf", leaf.toJson), ("node", head), ("ty", ty.toJson), ("tail_ty", tailTy.toJson)]

mutual

/-- A factor as an object of its form and type. -/
def Factor.toJson : Factor → Json
  | ⟨primary, ty⟩ => .object [("kind", primary.toJson), ("ty", ty.toJson)]

/-- A form of factor. -/
def Primary.toJson : Primary → Json
  | .identifier name => .object [("Identifier", name.toJson)]
  | .number number => .object [("Number", number.toJson)]
  | .bool literal => .object [("Bool", literal.toJson)]
  | .not operator operand =>
    .object [("Not", .object [("operator", operator.toJson), ("operand", operand.toJson)])]
  | .group opening expression closing =>
    .object [("Group", .object [("open", opening.toJson), ("expression", expression.toJson),
      ("close", closing.toJson)])]

/-- A chain of factors. -/
def Addend.toJson : Addend → Json
  | ⟨factor, tail, ty⟩ =>
    .object [("factor", factor.toJson), ("tail", .array tail.links), ("ty", ty.toJson)]

/-- The links of a chain of factors. -/
def AddendTail.links : AddendTail → List Json
  | .stop _ => []
  | .more operator ⟨factor, tail, ty⟩ tailTy =>
    .typedLink operator factor.toJson ty tailTy :: tail.links

/-- A chain of addends. -/
def Operand.toJson : Operand → Json
  | ⟨addend, tail, ty⟩ =>
    .object [("addend", addend.toJson), ("tail", .array tail.links), ("ty", ty.toJson)]

/-- The links of a chain of addends. -/
def OperandTail.links : OperandTail → List Json
  | .stop _ => []
  | .more operator ⟨addend, tail, ty⟩ tailTy =>
    .typedLink operator addend.toJson ty tailTy :: tail.links

/-- An operand or a comparison. -/
def Expression.toJson : Expression → Json
  | ⟨operand, tail, ty⟩ =>
    .object [("operand", operand.toJson), ("tail", tail.toJson), ("ty", ty.toJson)]

/-- The right side of a comparison, if there is one. -/
def ExpressionTail.toJson : ExpressionTail → Json
  | .stop ty => .object [("rest", .null), ("ty", ty.toJson)]
  | .more operator right ty =>
    .object [("rest", .array [operator.toJson, right.toJson]), ("ty", ty.toJson)]

end

mutual

/-- A list of expressions. -/
def ExpressionList.toJson : ExpressionList → Json
  | ⟨head, tail⟩ => .object [("head", head.toJson), ("tail", .array tail.links)]

/-- The links of a list of expressions. -/
def ExpressionListTail.links : ExpressionListTail → List Json
  | .stop => []
  | .more comma ⟨head, tail⟩ => .link comma head.toJson :: tail.links

end

mutual

/-- A list of names. -/
def IdentifierList.toJson : IdentifierList → Json
  | ⟨head, tail⟩ => .object [("head", head.toJson), ("tail", .array tail.links)]

/-- The links of a list of names. -/
def IdentifierListTail.links : IdentifierListTail → List Json
  | .stop => []
  | .more comma ⟨head, tail⟩ => .link comma head.toJson :: tail.links

end

/-- A declaration; a keyword or a colon that is missing is null. -/
def Declaration.toJson (declaration : Declaration) : Json :=
  .object [("keyword", Leaf.toJson? declaration.keyword?),
    ("identifiers", declaration.identifiers.toJson),
    ("colon", Leaf.toJson? declaration.colon?),
    ("type_name", declaration.typeName.toJson)]

/-- An assignment. -/
def Assignment.toJson (assignment : Assignment) : Json :=
  .object [("target", assignment.target.toJson), ("as_keyword", assignment.asWord.toJson),
    ("value", assignment.value.toJson)]

/-- A reading statement. -/
def Reading.toJson (reading : Reading) : Json :=
  .object [("read_keyword", reading.readWord.toJson), ("open", reading.opening.toJson),
    ("identifiers", reading.identifiers.toJson), ("close", reading.closing.toJson)]

/-- A writing statement. -/
def Writing.toJson (writing : Writing) : Json :=
  .object [("write_keyword", writing.writeWord.toJson), ("open", writing.opening.toJson),
    ("expressions", writing.expressions.toJson), ("close", writing.closing.toJson)]

mutual

/-- A statement, under the name of its form. -/
def Statement.toJson : Statement → Json
  | .assignment tree => .object [("Assignment", tree.toJson)]
  | .nestedBlock tree => .object [("NestedBlock", tree.toJson)]
  | .condition tree => .object [("Condition", tree.toJson)]
  | .forLoop tree => .object [("ForLoop", tree.toJson)]
  | .whileLoop tree => .object [("WhileLoop", tree.toJson)]
  | .reading tree => .object [("Reading", tree.toJson)]
  | .writing tree => .object [("Writing", tree.toJson)]
  | .skip separators statement =>
    .object [("Skip", .object [("separators", .array (separators.map Leaf.toJson)),
      ("statement", statement.toJson)])]
  | .empty => .string "Empty"

/-- A block of statements. -/
def NestedBlock.toJson : NestedBlock → Json
  | ⟨beginWord, statements, endWord⟩ =>
    .object [("begin", beginWord.toJson), ("statements", statements.toJson),
      ("end", endWord.toJson)]

/-- A list of statements. -/
def StatementList.toJson : StatementList → Json
  | ⟨head, tail⟩ => .object [("head", head.toJson), ("tail", .array tail.links)]

/-- The links of a list of statements. -/
def StatementListTail.links : StatementListTail → List Json
  | .stop => []
  | .more separator ⟨head, tail⟩ => .link separator head.toJson :: tail.links

/-- A conditional statement. -/
def Condition.toJson : Condition → Json
  | ⟨ifWord, condition, thenWord, branch, tail⟩ =>
    .object [("if_keyword", ifWord.toJson), ("condition", condition.toJson),
      ("then_keyword", thenWord.toJson), ("then_branch", branch.toJson), ("tail", tail.toJson)]

/-- The other branch, if there is one. -/
def ConditionTail.toJson : ConditionTail → Json
  | .stop => .object [("rest", .null)]
  | .more elseWord branch => .object [("rest", .array [elseWord.toJson, branch.toJson])]

/-- A counting loop. -/
def ForLoop.toJson : ForLoop → Json
  | ⟨forWord, start, toWord, limit, doWord, body⟩ =>
    .object [("for_keyword", forWord.toJson), ("init", start.toJson),
      ("to_keyword", toWord.toJson), ("limit", limit.toJson), ("do_keyword", doWord.toJson),
      ("body", body.toJson)]

/-- A loop under a condition. -/
def WhileLoop.toJson : WhileLoop → Json
  | ⟨whileWord, condition, doWord, body⟩ =>
    .object [("while_keyword", whileWord.toJson), ("condition", condition.toJson),
      ("do_keyword", doWord.toJson), ("body", body.toJson)]

end

/-- An item of a program, under the name of its form. -/
def ProgramItem.toJson : ProgramItem → Json
  | .declaration tree => .object [("Declaration", tree.toJson)]
  | .statement tree => .object [("Statement", tree.toJson)]

mutual

/-- A program. -/
def Program.toJson : Program → Json
  | ⟨item, tail⟩ => .object [("item", item.toJson), ("tail", .array tail.links)]

/-- The links of a program. -/
def ProgramTail.links : ProgramTail → List Json
  | .stop => []
  | .more separator ⟨item, tail⟩ => .link separator item.toJson :: tail.links

end

/-- A node of any notion, under the name of its type. -/
def Node.toJson : Node → Json
  | leaf tree => .object [("Leaf", tree.toJson)]
  | identifier tree => .object [("Identifier", tree.toJson)]
  | literal tree => .object [("Literal", tree.toJson)]
  | number tree => .object [("Number", tree.toJson)]
  | factor tree => .object [("Factor", tree.toJson)]
  | addend tree => .object [("Addend", tree.toJson)]
  | addendTail tree => .object [("AddendTail", .array tree.links)]
  | operand tree => .object [("Operand", tree.toJson)]
  | operandTail tree => .object [("OperandTail", .array tree.links)]
  | expression tree => .object [("Expression", tree.toJson)]
  | expressionTail tree => .object [("ExpressionTail", tree.toJson)]
  | expressionList tree => .object [("ExpressionList", tree.toJson)]
  | expressionListTail tree => .object [("ExpressionListTail", .array tree.links)]
  | identifierList tree => .object [("IdentifierList", tree.toJson)]
  | identifierListTail tree => .object [("IdentifierListTail", .array tree.links)]
  | declaration tree => .object [("Declaration", tree.toJson)]
  | assignment tree => .object [("Assignment", tree.toJson)]
  | condition tree => .object [("Condition", tree.toJson)]
  | conditionTail tree => .object [("ConditionTail", tree.toJson)]
  | forLoop tree => .object [("ForLoop", tree.toJson)]
  | whileLoop tree => .object [("WhileLoop", tree.toJson)]
  | nestedBlock tree => .object [("NestedBlock", tree.toJson)]
  | statementList tree => .object [("StatementList", tree.toJson)]
  | statementListTail tree => .object [("StatementListTail", .array tree.links)]
  | reading tree => .object [("Reading", tree.toJson)]
  | writing tree => .object [("Writing", tree.toJson)]
  | statement tree => .object [("Statement", tree.toJson)]
  | programItem tree => .object [("ProgramItem", tree.toJson)]
  | program tree => .object [("Program", tree.toJson)]
  | programTail tree => .object [("ProgramTail", .array tree.links)]

end DimLang
