import DimLang.Syntax.Tree

/-!
# Nodes

A node is a syntax tree of any notion. Walks over trees see only nodes: each has a name, perhaps a
token, perhaps a type annotation, and children in source order.

- `IsNode` relates a type of trees to the nodes
- `Node.ofToken` wraps a token in the kind of leaf that it calls for
- `Node.weight` bounds the nodes of a tree, and `sum_weight_children_lt` says that the children
  together weigh less than their parent
-/

namespace DimLang

/-- A syntax tree of any notion. -/
inductive Node
  | leaf (tree : Leaf)
  | identifier (tree : Identifier)
  | literal (tree : Literal)
  | number (tree : Number)
  | factor (tree : Factor)
  | addend (tree : Addend)
  | addendTail (tree : AddendTail)
  | operand (tree : Operand)
  | operandTail (tree : OperandTail)
  | expression (tree : Expression)
  | expressionTail (tree : ExpressionTail)
  | expressionList (tree : ExpressionList)
  | expressionListTail (tree : ExpressionListTail)
  | identifierList (tree : IdentifierList)
  | identifierListTail (tree : IdentifierListTail)
  | declaration (tree : Declaration)
  | assignment (tree : Assignment)
  | condition (tree : Condition)
  | conditionTail (tree : ConditionTail)
  | forLoop (tree : ForLoop)
  | whileLoop (tree : WhileLoop)
  | nestedBlock (tree : NestedBlock)
  | statementList (tree : StatementList)
  | statementListTail (tree : StatementListTail)
  | reading (tree : Reading)
  | writing (tree : Writing)
  | statement (tree : Statement)
  | programItem (tree : ProgramItem)
  | program (tree : Program)
  | programTail (tree : ProgramTail)
deriving DecidableEq

/-- A type of trees: each is a node, and a node may be a tree of this type. -/
class IsNode (α : Type) where
  /-- The tree as a node. -/
  toNode : α → Node
  /-- The tree of this type that the node is, if it is one. -/
  ofNode? : Node → Option α

instance : IsNode Leaf := ⟨.leaf, fun | .leaf tree => some tree | _ => none⟩

instance : IsNode Identifier := ⟨.identifier, fun | .identifier tree => some tree | _ => none⟩

instance : IsNode Literal := ⟨.literal, fun | .literal tree => some tree | _ => none⟩

instance : IsNode Number := ⟨.number, fun | .number tree => some tree | _ => none⟩

instance : IsNode Factor := ⟨.factor, fun | .factor tree => some tree | _ => none⟩

instance : IsNode Addend := ⟨.addend, fun | .addend tree => some tree | _ => none⟩

instance : IsNode AddendTail := ⟨.addendTail, fun | .addendTail tree => some tree | _ => none⟩

instance : IsNode Operand := ⟨.operand, fun | .operand tree => some tree | _ => none⟩

instance : IsNode OperandTail := ⟨.operandTail, fun | .operandTail tree => some tree | _ => none⟩

instance : IsNode Expression := ⟨.expression, fun | .expression tree => some tree | _ => none⟩

instance : IsNode ExpressionTail :=
  ⟨.expressionTail, fun | .expressionTail tree => some tree | _ => none⟩

instance : IsNode ExpressionList :=
  ⟨.expressionList, fun | .expressionList tree => some tree | _ => none⟩

instance : IsNode ExpressionListTail :=
  ⟨.expressionListTail, fun | .expressionListTail tree => some tree | _ => none⟩

instance : IsNode IdentifierList :=
  ⟨.identifierList, fun | .identifierList tree => some tree | _ => none⟩

instance : IsNode IdentifierListTail :=
  ⟨.identifierListTail, fun | .identifierListTail tree => some tree | _ => none⟩

instance : IsNode Declaration := ⟨.declaration, fun | .declaration tree => some tree | _ => none⟩

instance : IsNode Assignment := ⟨.assignment, fun | .assignment tree => some tree | _ => none⟩

instance : IsNode Condition := ⟨.condition, fun | .condition tree => some tree | _ => none⟩

instance : IsNode ConditionTail :=
  ⟨.conditionTail, fun | .conditionTail tree => some tree | _ => none⟩

instance : IsNode ForLoop := ⟨.forLoop, fun | .forLoop tree => some tree | _ => none⟩

instance : IsNode WhileLoop := ⟨.whileLoop, fun | .whileLoop tree => some tree | _ => none⟩

instance : IsNode NestedBlock := ⟨.nestedBlock, fun | .nestedBlock tree => some tree | _ => none⟩

instance : IsNode StatementList :=
  ⟨.statementList, fun | .statementList tree => some tree | _ => none⟩

instance : IsNode StatementListTail :=
  ⟨.statementListTail, fun | .statementListTail tree => some tree | _ => none⟩

instance : IsNode Reading := ⟨.reading, fun | .reading tree => some tree | _ => none⟩

instance : IsNode Writing := ⟨.writing, fun | .writing tree => some tree | _ => none⟩

instance : IsNode Statement := ⟨.statement, fun | .statement tree => some tree | _ => none⟩

instance : IsNode ProgramItem := ⟨.programItem, fun | .programItem tree => some tree | _ => none⟩

instance : IsNode Program := ⟨.program, fun | .program tree => some tree | _ => none⟩

instance : IsNode ProgramTail := ⟨.programTail, fun | .programTail tree => some tree | _ => none⟩

namespace Node

/-- The leaf of a token: a name, a constant or a plain leaf, as its kind demands. -/
def ofToken (token : Token) : Node :=
  match token.kind with
  | .identifier => identifier ⟨token, .invalid⟩
  | .intNumber => literal ⟨token, .invalid⟩
  | .floatNumber => literal ⟨token, .invalid⟩
  | .boolConst => literal ⟨token, .invalid⟩
  | _ => leaf ⟨token⟩

/-- The name of the node: its notion, or the kind of its token. -/
def name : Node → String
  | leaf tree => tree.token.kind.name
  | identifier _ => "Identifier"
  | literal tree => tree.token.kind.name
  | number _ => "Number"
  | factor _ => "Factor"
  | addend _ => "Addend"
  | addendTail _ => "AddendTail"
  | operand _ => "Operand"
  | operandTail _ => "OperandTail"
  | expression _ => "Expression"
  | expressionTail _ => "ExpressionTail"
  | expressionList _ => "ExpressionList"
  | expressionListTail _ => "ExpressionListTail"
  | identifierList _ => "IdentifierList"
  | identifierListTail _ => "IdentifierListTail"
  | declaration _ => "Declaration"
  | assignment _ => "Assignment"
  | condition _ => "Condition"
  | conditionTail _ => "ConditionTail"
  | forLoop _ => "ForLoop"
  | whileLoop _ => "WhileLoop"
  | nestedBlock _ => "NestedBlock"
  | statementList _ => "StatementList"
  | statementListTail _ => "StatementListTail"
  | reading _ => "Reading"
  | writing _ => "Writing"
  | statement _ => "Statement"
  | programItem _ => "ProgramItem"
  | program _ => "Program"
  | programTail _ => "ProgramTail"

/-- The token of a node that is a single token. -/
def token? : Node → Option Token
  | leaf tree => some tree.token
  | identifier tree => some tree.token
  | literal tree => some tree.token
  | _ => none

/-- The type annotation of a node that carries one. -/
def ty? : Node → Option DataType
  | identifier tree => some tree.ty
  | literal tree => some tree.ty
  | number tree => some tree.ty
  | factor tree => some tree.ty
  | addend tree => some tree.ty
  | addendTail tree => some tree.ty
  | operand tree => some tree.ty
  | operandTail tree => some tree.ty
  | expression tree => some tree.ty
  | expressionTail tree => some tree.ty
  | _ => none

end Node

/-- The parts of a factor in source order. -/
def Primary.children : Primary → List Node
  | identifier tree => [.identifier tree]
  | number tree => [.number tree]
  | bool tree => [.literal tree]
  | not operator operand => [.leaf operator, .factor operand]
  | group opening expression closing => [.leaf opening, .expression expression, .leaf closing]

/-- The parts of a statement in source order. -/
def Statement.children : Statement → List Node
  | assignment tree => [.assignment tree]
  | nestedBlock tree => [.nestedBlock tree]
  | condition tree => [.condition tree]
  | forLoop tree => [.forLoop tree]
  | whileLoop tree => [.whileLoop tree]
  | reading tree => [.reading tree]
  | writing tree => [.writing tree]
  | skip separators statement => separators.map Node.leaf ++ [.statement statement]
  | empty => []

namespace Node

/-- The children of a node in source order. -/
def children : Node → List Node
  | leaf _ => []
  | identifier _ => []
  | literal _ => []
  | number tree => [literal tree.literal]
  | factor tree => tree.primary.children
  | addend tree => [factor tree.factor, addendTail tree.tail]
  | addendTail (.stop _) => []
  | addendTail (.more operator rest _) => [leaf operator, addend rest]
  | operand tree => [addend tree.addend, operandTail tree.tail]
  | operandTail (.stop _) => []
  | operandTail (.more operator rest _) => [leaf operator, operand rest]
  | expression tree => [operand tree.operand, expressionTail tree.tail]
  | expressionTail (.stop _) => []
  | expressionTail (.more operator right _) => [leaf operator, operand right]
  | expressionList tree => [expression tree.head, expressionListTail tree.tail]
  | expressionListTail .stop => []
  | expressionListTail (.more comma rest) => [leaf comma, expressionList rest]
  | identifierList tree => [identifier tree.head, identifierListTail tree.tail]
  | identifierListTail .stop => []
  | identifierListTail (.more comma rest) => [leaf comma, identifierList rest]
  | declaration tree =>
    (tree.keyword?.map leaf).toList ++ identifierList tree.identifiers ::
      ((tree.colon?.map leaf).toList ++ [leaf tree.typeName])
  | assignment tree => [identifier tree.target, leaf tree.asWord, expression tree.value]
  | condition tree =>
    [leaf tree.ifWord, expression tree.condition, leaf tree.thenWord, statement tree.branch,
     conditionTail tree.tail]
  | conditionTail .stop => []
  | conditionTail (.more elseWord branch) => [leaf elseWord, statement branch]
  | forLoop tree =>
    [leaf tree.forWord, assignment tree.start, leaf tree.toWord, expression tree.limit,
     leaf tree.doWord, statement tree.body]
  | whileLoop tree =>
    [leaf tree.whileWord, expression tree.condition, leaf tree.doWord, statement tree.body]
  | nestedBlock tree => [leaf tree.beginWord, statementList tree.statements, leaf tree.endWord]
  | statementList tree => [statement tree.head, statementListTail tree.tail]
  | statementListTail .stop => []
  | statementListTail (.more separator rest) => [leaf separator, statementList rest]
  | reading tree =>
    [leaf tree.readWord, leaf tree.opening, identifierList tree.identifiers, leaf tree.closing]
  | writing tree =>
    [leaf tree.writeWord, leaf tree.opening, expressionList tree.expressions, leaf tree.closing]
  | statement tree => tree.children
  | programItem (.declaration tree) => [declaration tree]
  | programItem (.statement tree) => [statement tree]
  | program tree => [programItem tree.item, programTail tree.tail]
  | programTail .stop => []
  | programTail (.more separator rest) => [leaf separator, program rest]

/-- The size of the tree that the node is. -/
noncomputable def weight (node : Node) : Nat :=
  sizeOf node - 1

/-- The size of the trees together. -/
noncomputable def totalWeight : List Node → Nat
  | [] => 0
  | node :: nodes => node.weight + totalWeight nodes

/-- The weight of two lists of nodes is the sum of their weights. -/
theorem totalWeight_append (front back : List Node) :
    totalWeight (front ++ back) = totalWeight front + totalWeight back := by
  induction front with
  | nil => simp [totalWeight]
  | cons node front ih => simp [totalWeight, ih, Nat.add_assoc]

/-- Leaves do not outweigh their list. -/
theorem totalWeight_leaves_le (leaves : List Leaf) :
    totalWeight (leaves.map Node.leaf) ≤ sizeOf leaves := by
  induction leaves with
  | nil => simp [totalWeight]
  | cons head rest ih =>
    simp only [List.map_cons, totalWeight, weight, Node.leaf.sizeOf_spec, List.cons.sizeOf_spec]
    omega

end Node

/-- The parts of a factor weigh less than what it consists of. -/
theorem Primary.totalWeight_children_lt (primary : Primary) :
    Node.totalWeight primary.children < sizeOf primary := by
  cases primary with
  | group opening expression closing =>
    simp [Primary.children, Node.totalWeight, Node.weight]
    omega
  | _ => simp [Primary.children, Node.totalWeight, Node.weight]

/-- The parts of a declaration weigh less than it. -/
theorem Declaration.totalWeight_children_lt (declaration : Declaration) :
    Node.totalWeight (Node.declaration declaration).children < sizeOf declaration := by
  obtain ⟨keyword?, identifiers, colon?, typeName⟩ := declaration
  cases keyword? <;> cases colon? <;> simp [Node.children, Node.totalWeight, Node.weight] <;> omega

/-- The parts of a statement weigh less than it. -/
theorem Statement.totalWeight_children_lt (statement : Statement) :
    Node.totalWeight statement.children < sizeOf statement := by
  cases statement with
  | skip separators inner =>
    have bound := Node.totalWeight_leaves_le separators
    simp only [Statement.children, Node.totalWeight_append, Node.totalWeight, Node.weight,
      Node.statement.sizeOf_spec, Statement.skip.sizeOf_spec]
    omega
  | _ => simp [Statement.children, Node.totalWeight, Node.weight]

/-- The children of a node are smaller than the node, also together. -/
theorem Node.totalWeight_children_lt (node : Node) :
    totalWeight node.children < node.weight := by
  cases node with
  | factor tree =>
    have bound := tree.primary.totalWeight_children_lt
    cases tree
    simp only [children, weight, Node.factor.sizeOf_spec, Factor.mk.sizeOf_spec] at bound ⊢
    omega
  | declaration tree =>
    have bound := tree.totalWeight_children_lt
    rw [weight, Node.declaration.sizeOf_spec]
    omega
  | statement tree =>
    have bound := tree.totalWeight_children_lt
    simp only [children, weight, Node.statement.sizeOf_spec] at bound ⊢
    omega
  | _ tree => cases tree <;> simp [children, totalWeight, weight] <;> omega

end DimLang
