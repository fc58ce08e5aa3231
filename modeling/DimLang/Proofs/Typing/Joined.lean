import DimLang.Proofs.Grammar.Joined
import DimLang.Proofs.Typing.Agreement

/-!
# Typing of joined programs

The items behind a program are typed under the names that it declares (`Program.infer_append`).
The rules of types look at the kinds and texts of tokens, and at their lines only to report them:
the types of a tree some lines later are the same, and so is its error, some lines later
(`Program.infer_shift`).
-/

namespace DimLang

/-- The error, some lines later. -/
def SemanticError.shift (lines : Nat) : SemanticError → SemanticError
  | redeclared name line => redeclared name (line + lines)
  | undeclared name line => undeclared name (line + lines)
  | incompatibleOperands left operator right line =>
    incompatibleOperands left operator right (line + lines)
  | incompatibleAssignment name target value line =>
    incompatibleAssignment name target value (line + lines)
  | undefinedUnary operator operand line => undefinedUnary operator operand (line + lines)
  | unknownType name line => unknownType name (line + lines)

/-- What a rule yields some lines later: the result is moved along, or the error is. -/
def relocate {α β : Type} (lines : Nat) (move : α → β) (rule : Except SemanticError α) :
    Except SemanticError β :=
  (rule.map move).mapError (SemanticError.shift lines)

/-- Steps that are moved one by one are moved as a whole. -/
theorem relocate_bind {α α' β β' : Type} {lines : Nat} {move : α → α'} {move' : β → β'}
    (rule : Except SemanticError α) {next : α → Except SemanticError β}
    {next' : α' → Except SemanticError β'}
    (step : ∀ result, next' (move result) = relocate lines move' (next result)) :
    (relocate lines move rule >>= next') = relocate lines move' (rule >>= next) := by
  cases rule with
  | ok result => exact step result
  | error error => rfl

variable (lines : Nat) (context : TypingContext)

/-! ## Expressions -/

/-- A name moved down has its type or its error moved down. -/
theorem Identifier.infer_shift (name : Identifier) :
    (name.mapTokens (Token.shift lines)).infer context =
      relocate lines (Identifier.mapTokens (Token.shift lines)) (name.infer context) := by
  have text : (name.mapTokens (Token.shift lines)).token.text = name.token.text := rfl
  rw [infer, infer, text]
  cases context.symbols.get? name.token.text <;> rfl

/-- An operation has the same type on another line, or its error there. -/
theorem operationType_shift (operators : OperatorTable) (left : DataType) (operator : Token)
    (right : DataType) :
    operationType operators left (operator.shift lines) right =
      relocate lines id (operationType operators left operator right) := by
  have text : (operator.shift lines).text = operator.text := rfl
  rw [operationType, operationType, text]
  cases operators.result? left operator.text right <;> rfl

/-- Other tokens leave a factor's type as it is. -/
@[simp] theorem Factor.ty_mapTokens {f : Token → Token} (factor : Factor) :
    (factor.mapTokens f).ty = factor.ty := by
  cases factor
  rfl

/-- Other tokens leave an addend's type as it is. -/
@[simp] theorem Addend.ty_mapTokens {f : Token → Token} (addend : Addend) :
    (addend.mapTokens f).ty = addend.ty := by
  cases addend
  rfl

/-- Other tokens leave an operand's type as it is. -/
@[simp] theorem Operand.ty_mapTokens {f : Token → Token} (operand : Operand) :
    (operand.mapTokens f).ty = operand.ty := by
  cases operand
  rfl

/-- Other tokens leave an expression's type as it is. -/
@[simp] theorem Expression.ty_mapTokens {f : Token → Token} (expression : Expression) :
    (expression.mapTokens f).ty = expression.ty := by
  cases expression
  rfl

mutual

/-- A factor moved down is typed as before, down there; so are the nodes that hold one. -/
theorem Factor.infer_shift : (factor : Factor) →
    (factor.mapTokens (Token.shift lines)).infer context =
      relocate lines (Factor.mapTokens (Token.shift lines)) (factor.infer context)
  | ⟨.identifier name, _⟩ => by
    rw [Factor.mapTokens, Primary.mapTokens, Factor.infer, Factor.infer, name.infer_shift]
    exact relocate_bind _ fun name => rfl
  | ⟨.number number, _⟩ => by
    rw [Factor.mapTokens, Primary.mapTokens, Factor.infer, Factor.infer]
    rfl
  | ⟨.bool literal, _⟩ => by
    rw [Factor.mapTokens, Primary.mapTokens, Factor.infer, Factor.infer]
    rfl
  | ⟨.not operator operand, _⟩ => by
    rw [Factor.mapTokens, Primary.mapTokens, Factor.infer, Factor.infer, operand.infer_shift]
    refine relocate_bind _ fun operand => ?_
    rw [Factor.ty_mapTokens]
    split <;> rfl
  | ⟨.group opening expression closing, _⟩ => by
    rw [Factor.mapTokens, Primary.mapTokens, Factor.infer, Factor.infer, expression.infer_shift]
    refine relocate_bind _ fun expression => ?_
    rw [Expression.ty_mapTokens]
    rfl

/-- An addend moved down is typed as before, down there. -/
theorem Addend.infer_shift : (addend : Addend) →
    (addend.mapTokens (Token.shift lines)).infer context =
      relocate lines (Addend.mapTokens (Token.shift lines)) (addend.infer context)
  | ⟨factor, .stop _, _⟩ => by
    rw [Addend.mapTokens, AddendTail.mapTokens, Addend.infer, Addend.infer, factor.infer_shift]
    refine relocate_bind _ fun factor => ?_
    rw [Factor.ty_mapTokens]
    rfl
  | ⟨factor, .more operator rest _, _⟩ => by
    rw [Addend.mapTokens, AddendTail.mapTokens, Addend.infer, Addend.infer, factor.infer_shift]
    refine relocate_bind _ fun factor => ?_
    rw [rest.infer_shift]
    refine relocate_bind _ fun rest => ?_
    rw [Factor.ty_mapTokens, Addend.ty_mapTokens, Leaf.mapTokens, operationType_shift]
    exact relocate_bind _ fun ty => rfl

/-- An operand moved down is typed as before, down there. -/
theorem Operand.infer_shift : (operand : Operand) →
    (operand.mapTokens (Token.shift lines)).infer context =
      relocate lines (Operand.mapTokens (Token.shift lines)) (operand.infer context)
  | ⟨addend, .stop _, _⟩ => by
    rw [Operand.mapTokens, OperandTail.mapTokens, Operand.infer, Operand.infer, addend.infer_shift]
    refine relocate_bind _ fun addend => ?_
    rw [Addend.ty_mapTokens]
    rfl
  | ⟨addend, .more operator rest _, _⟩ => by
    rw [Operand.mapTokens, OperandTail.mapTokens, Operand.infer, Operand.infer, addend.infer_shift]
    refine relocate_bind _ fun addend => ?_
    rw [rest.infer_shift]
    refine relocate_bind _ fun rest => ?_
    rw [Addend.ty_mapTokens, Operand.ty_mapTokens, Leaf.mapTokens, operationType_shift]
    exact relocate_bind _ fun ty => rfl

/-- An expression moved down is typed as before, down there. -/
theorem Expression.infer_shift : (expression : Expression) →
    (expression.mapTokens (Token.shift lines)).infer context =
      relocate lines (Expression.mapTokens (Token.shift lines)) (expression.infer context)
  | ⟨left, .stop _, _⟩ => by
    rw [Expression.mapTokens, ExpressionTail.mapTokens, Expression.infer, Expression.infer,
      left.infer_shift]
    refine relocate_bind _ fun left => ?_
    rw [Operand.ty_mapTokens]
    rfl
  | ⟨left, .more operator right _, _⟩ => by
    rw [Expression.mapTokens, ExpressionTail.mapTokens, Expression.infer, Expression.infer,
      left.infer_shift]
    refine relocate_bind _ fun left => ?_
    rw [right.infer_shift]
    refine relocate_bind _ fun right => ?_
    rw [Operand.ty_mapTokens, Operand.ty_mapTokens, Leaf.mapTokens, operationType_shift]
    exact relocate_bind _ fun ty => rfl

end

/-! ## Statements -/

/-- A list of names moved down is typed as before, down there. -/
theorem IdentifierList.infer_shift : (names : IdentifierList) →
    (names.mapTokens (Token.shift lines)).infer context =
      relocate lines (IdentifierList.mapTokens (Token.shift lines)) (names.infer context)
  | ⟨head, .stop⟩ => by
    rw [mapTokens, IdentifierListTail.mapTokens, infer, infer, head.infer_shift]
    exact relocate_bind _ fun head => rfl
  | ⟨head, .more comma rest⟩ => by
    rw [mapTokens, IdentifierListTail.mapTokens, infer, infer, head.infer_shift]
    refine relocate_bind _ fun head => ?_
    rw [rest.infer_shift]
    exact relocate_bind _ fun rest => rfl

/-- An expression list moved down is typed as before, down there. -/
theorem ExpressionList.infer_shift : (expressions : ExpressionList) →
    (expressions.mapTokens (Token.shift lines)).infer context =
      relocate lines (ExpressionList.mapTokens (Token.shift lines)) (expressions.infer context)
  | ⟨head, .stop⟩ => by
    rw [mapTokens, ExpressionListTail.mapTokens, infer, infer, head.infer_shift]
    exact relocate_bind _ fun head => rfl
  | ⟨head, .more comma rest⟩ => by
    rw [mapTokens, ExpressionListTail.mapTokens, infer, infer, head.infer_shift]
    refine relocate_bind _ fun head => ?_
    rw [rest.infer_shift]
    exact relocate_bind _ fun rest => rfl

/-- An assignment moved down is typed as before, down there. -/
theorem Assignment.infer_shift (assignment : Assignment) :
    (assignment.mapTokens (Token.shift lines)).infer context =
      relocate lines (Assignment.mapTokens (Token.shift lines)) (assignment.infer context) := by
  obtain ⟨target, asWord, value⟩ := assignment
  rw [mapTokens, infer, infer, target.infer_shift]
  refine relocate_bind _ fun target => ?_
  rw [value.infer_shift]
  refine relocate_bind _ fun value => ?_
  rw [Expression.ty_mapTokens, Identifier.mapTokens]
  dsimp only
  split <;> rfl

mutual

/-- A statement moved down is typed as before, down there, however deep it nests. -/
theorem Statement.infer_shift : (statement : Statement) →
    (statement.mapTokens (Token.shift lines)).infer context =
      relocate lines (Statement.mapTokens (Token.shift lines)) (statement.infer context)
  | .assignment tree => by
    rw [Statement.mapTokens, Statement.infer, Statement.infer, tree.infer_shift]
    exact relocate_bind _ fun tree => rfl
  | .nestedBlock ⟨beginWord, statements, endWord⟩ => by
    rw [Statement.mapTokens, NestedBlock.mapTokens, Statement.infer, Statement.infer,
      statements.infer_shift]
    exact relocate_bind _ fun statements => rfl
  | .condition ⟨ifWord, test, thenWord, branch, tail⟩ => by
    rw [Statement.mapTokens, Condition.mapTokens, Statement.infer, Statement.infer,
      test.infer_shift]
    refine relocate_bind _ fun test => ?_
    rw [branch.infer_shift]
    refine relocate_bind _ fun branch => ?_
    rw [tail.infer_shift]
    exact relocate_bind _ fun tail => rfl
  | .forLoop ⟨forWord, start, toWord, limit, doWord, body⟩ => by
    rw [Statement.mapTokens, ForLoop.mapTokens, Statement.infer, Statement.infer,
      start.infer_shift]
    refine relocate_bind _ fun start => ?_
    rw [limit.infer_shift]
    refine relocate_bind _ fun limit => ?_
    rw [body.infer_shift]
    exact relocate_bind _ fun body => rfl
  | .whileLoop ⟨whileWord, test, doWord, body⟩ => by
    rw [Statement.mapTokens, WhileLoop.mapTokens, Statement.infer, Statement.infer,
      test.infer_shift]
    refine relocate_bind _ fun test => ?_
    rw [body.infer_shift]
    exact relocate_bind _ fun body => rfl
  | .reading ⟨word, opening, names, closing⟩ => by
    rw [Statement.mapTokens, Reading.mapTokens, Statement.infer, Statement.infer,
      names.infer_shift]
    exact relocate_bind _ fun names => rfl
  | .writing ⟨word, opening, expressions, closing⟩ => by
    rw [Statement.mapTokens, Writing.mapTokens, Statement.infer, Statement.infer,
      expressions.infer_shift]
    exact relocate_bind _ fun expressions => rfl
  | .skip separators inner => by
    rw [Statement.mapTokens, Statement.infer, Statement.infer, inner.infer_shift]
    exact relocate_bind _ fun inner => rfl
  | .empty => rfl

/-- A statement list moved down is typed as before, down there. -/
theorem StatementList.infer_shift : (statements : StatementList) →
    (statements.mapTokens (Token.shift lines)).infer context =
      relocate lines (StatementList.mapTokens (Token.shift lines)) (statements.infer context)
  | ⟨head, .stop⟩ => by
    rw [StatementList.mapTokens, StatementListTail.mapTokens, StatementList.infer,
      StatementList.infer, head.infer_shift]
    exact relocate_bind _ fun head => rfl
  | ⟨head, .more separator rest⟩ => by
    rw [StatementList.mapTokens, StatementListTail.mapTokens, StatementList.infer,
      StatementList.infer, head.infer_shift]
    refine relocate_bind _ fun head => ?_
    rw [rest.infer_shift]
    exact relocate_bind _ fun rest => rfl

/-- An `else` branch moved down is typed as before, down there. -/
theorem ConditionTail.infer_shift : (tail : ConditionTail) →
    (tail.mapTokens (Token.shift lines)).infer context =
      relocate lines (ConditionTail.mapTokens (Token.shift lines)) (tail.infer context)
  | .stop => rfl
  | .more elseWord branch => by
    rw [ConditionTail.mapTokens, ConditionTail.infer, ConditionTail.infer, branch.infer_shift]
    exact relocate_bind _ fun branch => rfl

end

/-! ## Programs -/

/-- A name declared further down is entered the same way, or is an error there. -/
theorem Identifier.declared_shift (ty : DataType) (symbols : SymbolTable) (name : Identifier) :
    (name.mapTokens (Token.shift lines)).declared ty symbols =
      relocate lines (Prod.map (Identifier.mapTokens (Token.shift lines)) id)
        (name.declared ty symbols) := by
  rw [declared_eq, declared_eq, SymbolTable.declare, SymbolTable.declare]
  by_cases known : name.name ∈ symbols.entries.map Prod.fst
  · have known' : (name.mapTokens (Token.shift lines)).name ∈ symbols.entries.map Prod.fst := known
    rw [dif_pos known, dif_pos known']
    rfl
  · have fresh' : (name.mapTokens (Token.shift lines)).name ∉ symbols.entries.map Prod.fst := known
    rw [dif_neg known, dif_neg fresh']
    rfl

/-- Names declared further down are entered the same way, or are an error there. -/
theorem IdentifierList.declared_shift (ty : DataType) :
    (names : IdentifierList) → (symbols : SymbolTable) →
      (names.mapTokens (Token.shift lines)).declared ty symbols =
        relocate lines (Prod.map (IdentifierList.mapTokens (Token.shift lines)) id)
          (names.declared ty symbols)
  | ⟨head, .stop⟩, symbols => by
    rw [mapTokens, IdentifierListTail.mapTokens, declared, declared, head.declared_shift]
    exact relocate_bind _ fun result => rfl
  | ⟨head, .more comma rest⟩, symbols => by
    rw [mapTokens, IdentifierListTail.mapTokens, declared, declared, head.declared_shift]
    refine relocate_bind _ ?_
    rintro ⟨head, middle⟩
    change (rest.mapTokens (Token.shift lines)).declared ty middle >>= _ = _
    rw [rest.declared_shift]
    exact relocate_bind _ fun result => rfl

/-- A declaration moved down is typed as before, down there. -/
theorem Declaration.infer_shift (symbols : SymbolTable) (declaration : Declaration) :
    (declaration.mapTokens (Token.shift lines)).infer symbols =
      relocate lines (Prod.map (Declaration.mapTokens (Token.shift lines)) id)
        (declaration.infer symbols) := by
  have text : (declaration.mapTokens (Token.shift lines)).typeName.token.text =
      declaration.typeName.token.text := rfl
  have identifiers : (declaration.mapTokens (Token.shift lines)).identifiers =
      declaration.identifiers.mapTokens (Token.shift lines) := rfl
  rw [infer, infer, identifiers, text]
  cases DataType.ofTypeName? declaration.typeName.token.text with
  | none => rfl
  | some ty =>
    change (declaration.identifiers.mapTokens (Token.shift lines)).declared ty symbols >>= _ = _
    rw [declaration.identifiers.declared_shift]
    exact relocate_bind _ fun result => rfl

/-- An item moved down is typed as before, down there. -/
theorem ProgramItem.infer_shift (item : ProgramItem) :
    (item.mapTokens (Token.shift lines)).infer context =
      relocate lines (Prod.map (ProgramItem.mapTokens (Token.shift lines)) id)
        (item.infer context) := by
  cases item with
  | declaration tree =>
    rw [mapTokens, infer, infer, tree.infer_shift]
    exact relocate_bind _ fun result => rfl
  | statement tree =>
    rw [mapTokens, infer, infer, tree.infer_shift]
    exact relocate_bind _ fun tree => rfl

/-- Some lines later a program has the same types, or the same error some lines later. -/
theorem Program.infer_shift (operators : OperatorTable) :
    (program : Program) → (symbols : SymbolTable) →
      (program.mapTokens (Token.shift lines)).infer operators symbols =
        relocate lines (Prod.map (Program.mapTokens (Token.shift lines)) id)
          (program.infer operators symbols)
  | ⟨item, .stop⟩, symbols => by
    rw [mapTokens, ProgramTail.mapTokens, infer, infer, item.infer_shift]
    exact relocate_bind _ fun result => rfl
  | ⟨item, .more separator rest⟩, symbols => by
    rw [mapTokens, ProgramTail.mapTokens, infer, infer, item.infer_shift]
    refine relocate_bind _ ?_
    rintro ⟨item, middle⟩
    change (rest.mapTokens (Token.shift lines)).infer operators middle >>= _ = _
    rw [rest.infer_shift]
    exact relocate_bind _ fun result => rfl

/-- What stands behind a program is typed under the names that the program declares. -/
theorem Program.infer_append (operators : OperatorTable) (separator : Leaf) (later : Program) :
    (program : Program) → (symbols : SymbolTable) →
      (program.append separator later).infer operators symbols = (do
        let (typed, middle) ← program.infer operators symbols
        let (typed', final) ← later.infer operators middle
        return (typed.append separator typed', final))
  | ⟨item, .stop⟩, symbols => by
    rw [append, infer, infer, bind_assoc]
    rfl
  | ⟨item, .more own rest⟩, symbols => by
    rw [append, infer, infer, bind_assoc]
    refine bind_congr ?_
    rintro ⟨item, middle⟩
    change (rest.append separator later).infer operators middle >>= _ = _
    rw [infer_append operators separator later rest]
    simp only [bind_assoc, pure_bind]
    rfl

end DimLang
