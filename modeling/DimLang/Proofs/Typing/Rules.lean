import DimLang.Typing.Programs

/-!
# Typing rules

The rules of names and types, read recursively: the parts of a tree come before the tree, from
left to right, and the right operand of an operator is all that follows it. A rule yields the tree
with its types, or the first violation.

- `Expression.infer` has the rules of expressions and `Statement.infer` those of statements
- `Program.infer` also yields the names that are declared behind the program
-/

namespace DimLang

/-! ## Expressions -/

/-- A name has the type that it is declared with. -/
def Identifier.infer (context : TypingContext) (name : Identifier) :
    Except SemanticError Identifier :=
  match context.symbols.get? name.token.text with
  | some ty => .ok ⟨name.token, ty⟩
  | none => .error (.undeclared name.token.text name.token.line)

/-- A constant has the type of its kind. -/
def Literal.infer (literal : Literal) : Literal :=
  ⟨literal.token, literal.lexicalType⟩

/-- The type of an operation is looked up under the types of its operands and the text of its
operator. -/
def operationType (operators : OperatorTable) (left : DataType) (operator : Token)
    (right : DataType) : Except SemanticError DataType :=
  match operators.result? left operator.text right with
  | some ty => .ok ty
  | none => .error (.incompatibleOperands left operator.text right operator.line)

mutual

/-- The rules of factors: a negation has the type of its operand, which must not be a float. -/
def Factor.infer (context : TypingContext) : Factor → Except SemanticError Factor
  | ⟨.identifier name, _⟩ => do
    let name ← name.infer context
    return ⟨.identifier name, name.ty⟩
  | ⟨.number number, _⟩ =>
    return ⟨.number ⟨number.literal.infer, number.literal.infer.ty⟩, number.literal.infer.ty⟩
  | ⟨.bool literal, _⟩ => return ⟨.bool literal.infer, literal.infer.ty⟩
  | ⟨.not operator operand, _⟩ => do
    let operand ← operand.infer context
    if operand.ty = .float then
      throw (.undefinedUnary operator.token.text .float operator.token.line)
    return ⟨.not operator operand, operand.ty⟩
  | ⟨.group opening expression closing, _⟩ => do
    let expression ← expression.infer context
    return ⟨.group opening expression closing, expression.ty⟩

/-- A factor alone has its own type; in front of an operator it is the left operand, and the rest
of the chain is the right one. -/
def Addend.infer (context : TypingContext) : Addend → Except SemanticError Addend
  | ⟨factor, .stop _, _⟩ => do
    let factor ← factor.infer context
    return ⟨factor, .stop .none, factor.ty⟩
  | ⟨factor, .more operator rest _, _⟩ => do
    let factor ← factor.infer context
    let rest ← rest.infer context
    let ty ← operationType context.operators factor.ty operator.token rest.ty
    return ⟨factor, .more operator rest rest.ty, ty⟩

/-- An addend alone has its own type; in front of an operator it is the left operand, and the rest
of the chain is the right one. -/
def Operand.infer (context : TypingContext) : Operand → Except SemanticError Operand
  | ⟨addend, .stop _, _⟩ => do
    let addend ← addend.infer context
    return ⟨addend, .stop .none, addend.ty⟩
  | ⟨addend, .more operator rest _, _⟩ => do
    let addend ← addend.infer context
    let rest ← rest.infer context
    let ty ← operationType context.operators addend.ty operator.token rest.ty
    return ⟨addend, .more operator rest rest.ty, ty⟩

/-- An operand alone has its own type; in front of an operator it is the left one of two. -/
def Expression.infer (context : TypingContext) : Expression → Except SemanticError Expression
  | ⟨left, .stop _, _⟩ => do
    let left ← left.infer context
    return ⟨left, .stop .none, left.ty⟩
  | ⟨left, .more operator right _, _⟩ => do
    let left ← left.infer context
    let right ← right.infer context
    let ty ← operationType context.operators left.ty operator.token right.ty
    return ⟨left, .more operator right right.ty, ty⟩

end

/-! ## Statements -/

/-- Every name of a list is typed. -/
def IdentifierList.infer (context : TypingContext) :
    IdentifierList → Except SemanticError IdentifierList
  | ⟨head, .stop⟩ => do
    let head ← head.infer context
    return ⟨head, .stop⟩
  | ⟨head, .more comma rest⟩ => do
    let head ← head.infer context
    let rest ← rest.infer context
    return ⟨head, .more comma rest⟩

/-- Every expression of a list is typed. -/
def ExpressionList.infer (context : TypingContext) :
    ExpressionList → Except SemanticError ExpressionList
  | ⟨head, .stop⟩ => do
    let head ← head.infer context
    return ⟨head, .stop⟩
  | ⟨head, .more comma rest⟩ => do
    let head ← head.infer context
    let rest ← rest.infer context
    return ⟨head, .more comma rest⟩

/-- A value has the type of its target, or is an integer for a float. -/
def Assignment.infer (context : TypingContext) (assignment : Assignment) :
    Except SemanticError Assignment := do
  let target ← assignment.target.infer context
  let value ← assignment.value.infer context
  if target.ty = value.ty ∨ target.ty = .float ∧ value.ty = .int then
    return ⟨target, assignment.asWord, value⟩
  else
    throw (.incompatibleAssignment target.token.text target.ty value.ty
      assignment.asWord.token.line)

mutual

/-- The rules of statements. The type of a condition does not matter. -/
def Statement.infer (context : TypingContext) : Statement → Except SemanticError Statement
  | .assignment tree => return .assignment (← tree.infer context)
  | .nestedBlock ⟨beginWord, statements, endWord⟩ =>
    return .nestedBlock ⟨beginWord, ← statements.infer context, endWord⟩
  | .condition ⟨ifWord, test, thenWord, branch, tail⟩ => do
    let test ← test.infer context
    let branch ← branch.infer context
    let tail ← tail.infer context
    return .condition ⟨ifWord, test, thenWord, branch, tail⟩
  | .forLoop ⟨forWord, start, toWord, limit, doWord, body⟩ => do
    let start ← start.infer context
    let limit ← limit.infer context
    let body ← body.infer context
    return .forLoop ⟨forWord, start, toWord, limit, doWord, body⟩
  | .whileLoop ⟨whileWord, test, doWord, body⟩ => do
    let test ← test.infer context
    let body ← body.infer context
    return .whileLoop ⟨whileWord, test, doWord, body⟩
  | .reading ⟨word, opening, names, closing⟩ =>
    return .reading ⟨word, opening, ← names.infer context, closing⟩
  | .writing ⟨word, opening, expressions, closing⟩ =>
    return .writing ⟨word, opening, ← expressions.infer context, closing⟩
  | .skip separators inner => return .skip separators (← inner.infer context)
  | .empty => return .empty

/-- Every statement of a list is typed. -/
def StatementList.infer (context : TypingContext) :
    StatementList → Except SemanticError StatementList
  | ⟨head, .stop⟩ => do
    let head ← head.infer context
    return ⟨head, .stop⟩
  | ⟨head, .more separator rest⟩ => do
    let head ← head.infer context
    let rest ← rest.infer context
    return ⟨head, .more separator rest⟩

/-- The other branch is typed, if there is one. -/
def ConditionTail.infer (context : TypingContext) :
    ConditionTail → Except SemanticError ConditionTail
  | .stop => return .stop
  | .more elseWord branch => return .more elseWord (← branch.infer context)

end

/-! ## Programs -/

/-- A name is declared only once. -/
def Identifier.declared (ty : DataType) (symbols : SymbolTable) (name : Identifier) :
    Except SemanticError (Identifier × SymbolTable) :=
  match fresh : symbols.get? name.token.text with
  | some _ => .error (.redeclared name.token.text name.token.line)
  | none =>
    .ok (⟨name.token, ty⟩,
      symbols.insert name.token.text ty (symbols.get?_eq_none_iff.mp fresh))

/-- The names of a list are declared one after the other. -/
def IdentifierList.declared (ty : DataType) (symbols : SymbolTable) :
    IdentifierList → Except SemanticError (IdentifierList × SymbolTable)
  | ⟨head, .stop⟩ => do
    let (head, symbols) ← head.declared ty symbols
    return (⟨head, .stop⟩, symbols)
  | ⟨head, .more comma rest⟩ => do
    let (head, symbols) ← head.declared ty symbols
    let (rest, symbols) ← rest.declared ty symbols
    return (⟨head, .more comma rest⟩, symbols)

/-- The names of a declaration have the type that is named in it. -/
def Declaration.infer (symbols : SymbolTable) (declaration : Declaration) :
    Except SemanticError (Declaration × SymbolTable) :=
  match DataType.ofTypeName? declaration.typeName.token.text with
  | some ty => do
    let (names, symbols) ← declaration.identifiers.declared ty symbols
    return ({ declaration with identifiers := names }, symbols)
  | none =>
    .error (.unknownType declaration.typeName.token.text declaration.typeName.token.line)

/-- A declaration adds names, a statement is typed under the names declared before it. -/
def ProgramItem.infer (context : TypingContext) :
    ProgramItem → Except SemanticError (ProgramItem × SymbolTable)
  | .declaration tree => do
    let (tree, symbols) ← tree.infer context.symbols
    return (.declaration tree, symbols)
  | .statement tree => return (.statement (← tree.infer context), context.symbols)

/-- The items of a program are typed one after the other, each under the names declared before
it. -/
def Program.infer (operators : OperatorTable) (symbols : SymbolTable) :
    Program → Except SemanticError (Program × SymbolTable)
  | ⟨item, .stop⟩ => do
    let (item, symbols) ← item.infer ⟨operators, symbols⟩
    return (⟨item, .stop⟩, symbols)
  | ⟨item, .more separator rest⟩ => do
    let (item, symbols) ← item.infer ⟨operators, symbols⟩
    let (rest, symbols) ← rest.infer operators symbols
    return (⟨item, .more separator rest⟩, symbols)

end DimLang
