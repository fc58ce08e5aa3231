import DimLang.Syntax.DataType
import DimLang.Token.Basic

/-!
# Syntax trees

Every notion of the grammar has its own type of nodes, and every node owns its children and its
tokens. Lists and operator chains are right-recursive: a node consists of a head and a tail, and a
tail either stops or continues, behind a token, with a node of the same notion.

Names, constants and the nodes of expressions carry a type annotation, which is
`DataType.invalid` until the tree is analysed.
-/

namespace DimLang

/-- A single token without a type: a keyword, a mark, an operator or a type name. -/
structure Leaf where
  token : Token
deriving DecidableEq

/-- An occurrence of a name. -/
structure Identifier where
  token : Token
  ty : DataType
deriving DecidableEq

/-- The name that occurs. -/
def Identifier.name (identifier : Identifier) : String :=
  identifier.token.text

/-- An integer, float or truth constant. -/
structure Literal where
  token : Token
  ty : DataType
deriving DecidableEq

/-- The type that the kind of the constant implies. -/
def Literal.lexicalType (literal : Literal) : DataType :=
  match literal.token.kind with
  | .intNumber => .int
  | .floatNumber => .float
  | .boolConst => .bool
  | _ => .invalid

/-- A numeric constant. -/
structure Number where
  literal : Literal
  ty : DataType
deriving DecidableEq

/-! ## Expressions -/

mutual

/-- An operand of a product, with its type. -/
structure Factor where
  primary : Primary
  ty : DataType

/-- What a factor consists of. -/
inductive Primary
  | identifier (identifier : Identifier)
  | number (number : Number)
  | bool (literal : Literal)
  | not (operator : Leaf) (operand : Factor)
  | group (opening : Leaf) (expression : Expression) (closing : Leaf)

/-- A chain of factors. -/
structure Addend where
  factor : Factor
  tail : AddendTail
  ty : DataType

/-- Nothing, or a multiplication operator and the rest of the chain. -/
inductive AddendTail
  | stop (ty : DataType)
  | more (operator : Leaf) (rest : Addend) (ty : DataType)

/-- A chain of addends. -/
structure Operand where
  addend : Addend
  tail : OperandTail
  ty : DataType

/-- Nothing, or an addition operator and the rest of the chain. -/
inductive OperandTail
  | stop (ty : DataType)
  | more (operator : Leaf) (rest : Operand) (ty : DataType)

/-- An operand or a comparison of two. -/
structure Expression where
  operand : Operand
  tail : ExpressionTail
  ty : DataType

/-- Nothing, or a relation operator and the right operand. -/
inductive ExpressionTail
  | stop (ty : DataType)
  | more (operator : Leaf) (right : Operand) (ty : DataType)

end

deriving instance DecidableEq for Factor, Primary, Addend, AddendTail, Operand, OperandTail,
  Expression, ExpressionTail

/-- The annotation of a tail. -/
def AddendTail.ty : AddendTail → DataType
  | stop ty => ty
  | more _ _ ty => ty

/-- The annotation of a tail. -/
def OperandTail.ty : OperandTail → DataType
  | stop ty => ty
  | more _ _ ty => ty

/-- The annotation of a tail. -/
def ExpressionTail.ty : ExpressionTail → DataType
  | stop ty => ty
  | more _ _ ty => ty

/-! ## Lists -/

mutual

/-- Expressions separated by commas, at least one. -/
structure ExpressionList where
  head : Expression
  tail : ExpressionListTail

/-- Nothing, or a comma and the rest of the list. -/
inductive ExpressionListTail
  | stop
  | more (comma : Leaf) (rest : ExpressionList)

end

deriving instance DecidableEq for ExpressionList, ExpressionListTail

mutual

/-- Names separated by commas, at least one. -/
structure IdentifierList where
  head : Identifier
  tail : IdentifierListTail

/-- Nothing, or a comma and the rest of the list. -/
inductive IdentifierListTail
  | stop
  | more (comma : Leaf) (rest : IdentifierList)

end

deriving instance DecidableEq for IdentifierList, IdentifierListTail

/-- The names of the list in reverse order, before those collected so far. -/
def IdentifierList.collect (found : List Identifier) : IdentifierList → List Identifier
  | ⟨head, .stop⟩ => head :: found
  | ⟨head, .more _ rest⟩ => rest.collect (head :: found)

/-- The names of the list in order. -/
def IdentifierList.toList (names : IdentifierList) : List Identifier :=
  (names.collect []).reverse

/-- Names that were collected before stand behind those of the list. -/
theorem IdentifierList.collect_eq :
    (names : IdentifierList) → (found : List Identifier) →
      names.collect found = names.collect [] ++ found
  | ⟨_, .stop⟩, _ => rfl
  | ⟨head, .more _ rest⟩, found => by
    rw [collect, collect, collect_eq rest (head :: found), collect_eq rest [head],
      List.append_assoc, List.singleton_append]

/-- A list without a tail has one name. -/
@[simp] theorem IdentifierList.toList_stop (head : Identifier) :
    toList ⟨head, .stop⟩ = [head] :=
  rfl

/-- The names of a tail stand behind the head. -/
@[simp] theorem IdentifierList.toList_more (head : Identifier) (comma : Leaf)
    (rest : IdentifierList) : toList ⟨head, .more comma rest⟩ = head :: rest.toList := by
  rw [toList, collect, collect_eq, List.reverse_append]
  rfl

/-! ## Statements -/

/-- A declaration of names with a type. With a keyword in front of the names there is no colon
behind them, and the other way round; trees that are built by hand may have neither or both. -/
structure Declaration where
  keyword? : Option Leaf
  identifiers : IdentifierList
  colon? : Option Leaf
  typeName : Leaf
deriving DecidableEq

/-- The value of an expression is stored under a name. -/
structure Assignment where
  target : Identifier
  asWord : Leaf
  value : Expression
deriving DecidableEq

/-- Values are read into the names of a list. -/
structure Reading where
  readWord : Leaf
  opening : Leaf
  identifiers : IdentifierList
  closing : Leaf
deriving DecidableEq

/-- The values of a list of expressions are written. -/
structure Writing where
  writeWord : Leaf
  opening : Leaf
  expressions : ExpressionList
  closing : Leaf
deriving DecidableEq

mutual

/-- A statement. -/
inductive Statement
  | assignment (assignment : Assignment)
  | nestedBlock (block : NestedBlock)
  | condition (condition : Condition)
  | forLoop (loop : ForLoop)
  | whileLoop (loop : WhileLoop)
  | reading (reading : Reading)
  | writing (writing : Writing)
  /-- Separators where a statement is expected, and the statement behind them. -/
  | skip (separators : List Leaf) (statement : Statement)
  /-- Nothing, before the end of a block or of the input. -/
  | empty

/-- Statements between `begin` and `end`. -/
structure NestedBlock where
  beginWord : Leaf
  statements : StatementList
  endWord : Leaf

/-- Statements with separators between them, at least one. -/
structure StatementList where
  head : Statement
  tail : StatementListTail

/-- Nothing, or a separator and the rest of the list. -/
inductive StatementListTail
  | stop
  | more (separator : Leaf) (rest : StatementList)

/-- A statement under a condition. -/
structure Condition where
  ifWord : Leaf
  condition : Expression
  thenWord : Leaf
  branch : Statement
  tail : ConditionTail

/-- Nothing, or the other branch. -/
inductive ConditionTail
  | stop
  | more (elseWord : Leaf) (branch : Statement)

/-- A counting loop. -/
structure ForLoop where
  forWord : Leaf
  start : Assignment
  toWord : Leaf
  limit : Expression
  doWord : Leaf
  body : Statement

/-- A loop under a condition. -/
structure WhileLoop where
  whileWord : Leaf
  condition : Expression
  doWord : Leaf
  body : Statement

end

deriving instance DecidableEq for Statement, NestedBlock, StatementList, StatementListTail,
  Condition, ConditionTail, ForLoop, WhileLoop

/-! ## Programs -/

/-- A declaration or a statement at the top level. -/
inductive ProgramItem
  | declaration (declaration : Declaration)
  | statement (statement : Statement)
deriving DecidableEq

mutual

/-- Items with separators between them, at least one. -/
structure Program where
  item : ProgramItem
  tail : ProgramTail

/-- Nothing, or a separator and the rest of the program. -/
inductive ProgramTail
  | stop
  | more (separator : Leaf) (rest : Program)

end

deriving instance DecidableEq for Program, ProgramTail

/-- The items of the program in reverse order, before those collected so far. -/
def Program.collect (found : List ProgramItem) : Program → List ProgramItem
  | ⟨item, .stop⟩ => item :: found
  | ⟨item, .more _ rest⟩ => rest.collect (item :: found)

/-- The items of the program in order. -/
def Program.items (program : Program) : List ProgramItem :=
  (program.collect []).reverse

/-- Items that were collected before stand behind those of the program. -/
theorem Program.collect_eq :
    (program : Program) → (found : List ProgramItem) →
      program.collect found = program.collect [] ++ found
  | ⟨_, .stop⟩, _ => rfl
  | ⟨item, .more _ rest⟩, found => by
    rw [collect, collect, collect_eq rest (item :: found), collect_eq rest [item],
      List.append_assoc, List.singleton_append]

/-- A program without a tail has one item. -/
@[simp] theorem Program.items_stop (item : ProgramItem) : items ⟨item, .stop⟩ = [item] :=
  rfl

/-- The items of a tail stand behind the first item. -/
@[simp] theorem Program.items_more (item : ProgramItem) (separator : Leaf) (rest : Program) :
    items ⟨item, .more separator rest⟩ = item :: rest.items := by
  rw [items, collect, collect_eq, List.reverse_append]
  rfl

end DimLang
