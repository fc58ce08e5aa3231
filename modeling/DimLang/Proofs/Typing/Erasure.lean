import DimLang.Proofs.Syntax.Erasure
import DimLang.Proofs.Typing.Declarations
import DimLang.Proofs.Typing.Shape

/-!
# Typing of trees without types

The rules of types read no annotation: what they yield depends on the tree without its types only
(`Program.infer_erase`). So does the analysis (`analyze_of_erase_eq`): it overwrites what was noted
before, and it may be done again. An analysed program is therefore determined by its shape
(`eq_of_analyze`), and a parsed one has no types yet (`erase_of_parse`).
-/

namespace DimLang

/-! ## Expressions -/

section Expressions

variable (context : TypingContext)

mutual

/-- Types written at a factor are not read, nor those at the nodes below that hold one. -/
theorem Factor.infer_erase : (factor : Factor) →
    factor.erase.infer context = factor.infer context
  | ⟨.identifier _, _⟩ | ⟨.number _, _⟩ | ⟨.bool _, _⟩ => by
    rw [Factor.erase, Primary.erase, Factor.infer, Factor.infer]
    rfl
  | ⟨.not _ operand, _⟩ => by
    rw [Factor.erase, Primary.erase, Factor.infer, Factor.infer, operand.infer_erase]
  | ⟨.group _ expression _, _⟩ => by
    rw [Factor.erase, Primary.erase, Factor.infer, Factor.infer, expression.infer_erase]

/-- Types written at an addend are not read. -/
theorem Addend.infer_erase : (addend : Addend) →
    addend.erase.infer context = addend.infer context
  | ⟨factor, .stop _, _⟩ => by
    rw [Addend.erase, AddendTail.erase, Addend.infer, Addend.infer, factor.infer_erase]
  | ⟨factor, .more _ rest _, _⟩ => by
    rw [Addend.erase, AddendTail.erase, Addend.infer, Addend.infer, factor.infer_erase,
      rest.infer_erase]

/-- Types written at an operand are not read. -/
theorem Operand.infer_erase : (operand : Operand) →
    operand.erase.infer context = operand.infer context
  | ⟨addend, .stop _, _⟩ => by
    rw [Operand.erase, OperandTail.erase, Operand.infer, Operand.infer, addend.infer_erase]
  | ⟨addend, .more _ rest _, _⟩ => by
    rw [Operand.erase, OperandTail.erase, Operand.infer, Operand.infer, addend.infer_erase,
      rest.infer_erase]

/-- Types written at an expression are not read. -/
theorem Expression.infer_erase : (expression : Expression) →
    expression.erase.infer context = expression.infer context
  | ⟨left, .stop _, _⟩ => by
    rw [Expression.erase, ExpressionTail.erase, Expression.infer, Expression.infer,
      left.infer_erase]
  | ⟨left, .more _ right _, _⟩ => by
    rw [Expression.erase, ExpressionTail.erase, Expression.infer, Expression.infer,
      left.infer_erase, right.infer_erase]

end

end Expressions

/-! ## Statements -/

section Statements

variable (context : TypingContext)

/-- A type written at a name is not read. -/
theorem Identifier.infer_erase (name : Identifier) :
    name.erase.infer context = name.infer context :=
  rfl

/-- Types written at a list of names are not read. -/
theorem IdentifierList.infer_erase : (names : IdentifierList) →
    names.erase.infer context = names.infer context
  | ⟨head, .stop⟩ => by
    rw [erase, IdentifierListTail.erase, infer, infer, head.infer_erase]
  | ⟨head, .more _ rest⟩ => by
    rw [erase, IdentifierListTail.erase, infer, infer, head.infer_erase, rest.infer_erase]

/-- Types written at an expression list are not read. -/
theorem ExpressionList.infer_erase : (expressions : ExpressionList) →
    expressions.erase.infer context = expressions.infer context
  | ⟨head, .stop⟩ => by
    rw [erase, ExpressionListTail.erase, infer, infer, head.infer_erase]
  | ⟨head, .more _ rest⟩ => by
    rw [erase, ExpressionListTail.erase, infer, infer, head.infer_erase, rest.infer_erase]

/-- Types written at an assignment are not read. -/
theorem Assignment.infer_erase (tree : Assignment) :
    tree.erase.infer context = tree.infer context := by
  obtain ⟨target, asWord, value⟩ := tree
  simp only [erase, infer, target.infer_erase, value.infer_erase]

mutual

/-- Types written in a statement are not read, however deep. -/
theorem Statement.infer_erase : (statement : Statement) →
    statement.erase.infer context = statement.infer context
  | .assignment tree => by
    rw [Statement.erase, Statement.infer, Statement.infer, tree.infer_erase]
  | .nestedBlock ⟨_, statements, _⟩ => by
    rw [Statement.erase, NestedBlock.erase, Statement.infer, Statement.infer,
      statements.infer_erase]
  | .condition ⟨_, test, _, branch, tail⟩ => by
    rw [Statement.erase, Condition.erase, Statement.infer, Statement.infer, test.infer_erase,
      branch.infer_erase, tail.infer_erase]
  | .forLoop ⟨_, start, _, limit, _, body⟩ => by
    rw [Statement.erase, ForLoop.erase, Statement.infer, Statement.infer, start.infer_erase,
      limit.infer_erase, body.infer_erase]
  | .whileLoop ⟨_, test, _, body⟩ => by
    rw [Statement.erase, WhileLoop.erase, Statement.infer, Statement.infer, test.infer_erase,
      body.infer_erase]
  | .reading ⟨_, _, names, _⟩ => by
    rw [Statement.erase, Reading.erase, Statement.infer, Statement.infer, names.infer_erase]
  | .writing ⟨_, _, expressions, _⟩ => by
    rw [Statement.erase, Writing.erase, Statement.infer, Statement.infer,
      expressions.infer_erase]
  | .skip _ inner => by
    rw [Statement.erase, Statement.infer, Statement.infer, inner.infer_erase]
  | .empty => rfl

/-- Types written in a statement list are not read. -/
theorem StatementList.infer_erase : (statements : StatementList) →
    statements.erase.infer context = statements.infer context
  | ⟨head, .stop⟩ => by
    rw [StatementList.erase, StatementListTail.erase, StatementList.infer, StatementList.infer,
      head.infer_erase]
  | ⟨head, .more _ rest⟩ => by
    rw [StatementList.erase, StatementListTail.erase, StatementList.infer, StatementList.infer,
      head.infer_erase, rest.infer_erase]

/-- Types written in an `else` branch are not read. -/
theorem ConditionTail.infer_erase : (tail : ConditionTail) →
    tail.erase.infer context = tail.infer context
  | .stop => rfl
  | .more _ branch => by
    rw [ConditionTail.erase, ConditionTail.infer, ConditionTail.infer, branch.infer_erase]

end

end Statements

/-! ## Programs -/

/-- Types written at declared names are not read. -/
theorem IdentifierList.declared_erase (ty : DataType) : (names : IdentifierList) →
    (symbols : SymbolTable) → names.erase.declared ty symbols = names.declared ty symbols
  | ⟨head, .stop⟩, symbols => by
    rw [erase, IdentifierListTail.erase, declared, declared]
    rfl
  | ⟨head, .more _ rest⟩, symbols => by
    have first : head.erase.declared ty symbols = head.declared ty symbols := rfl
    rw [erase, IdentifierListTail.erase, declared, declared, first]
    refine bind_congr ?_
    rintro ⟨head, middle⟩
    simp only [rest.declared_erase ty middle]

/-- Types written in a declaration, other than its type name, are not read. -/
theorem Declaration.infer_erase (symbols : SymbolTable) (declaration : Declaration) :
    declaration.erase.infer symbols = declaration.infer symbols := by
  simp only [erase, infer, declaration.identifiers.declared_erase]

/-- Types written in an item are not read. -/
theorem ProgramItem.infer_erase (context : TypingContext) (item : ProgramItem) :
    item.erase.infer context = item.infer context := by
  cases item with
  | declaration tree => rw [erase, infer, infer, tree.infer_erase]
  | statement tree => rw [erase, infer, infer, tree.infer_erase]

/-- Typing depends on the tree without its types only. -/
theorem Program.infer_erase (operators : OperatorTable) : (program : Program) →
    (symbols : SymbolTable) →
      program.erase.infer operators symbols = program.infer operators symbols
  | ⟨item, .stop⟩, symbols => by
    rw [erase, ProgramTail.erase, infer, infer, item.infer_erase]
  | ⟨item, .more _ rest⟩, symbols => by
    rw [erase, ProgramTail.erase, infer, infer, item.infer_erase]
    refine bind_congr ?_
    rintro ⟨item, middle⟩
    simp only [rest.infer_erase operators middle]

/-- The analysis does not read the types written in a program. -/
theorem analyze_erase (program : Program) : analyze program.erase = analyze program := by
  rw [analyze_eq_infer, analyze_eq_infer, program.infer_erase]

/-- An analysed program has the shape of the given one. -/
theorem erase_of_analyze {program typed : Program} (analyzed : analyze program = .ok typed) :
    typed.erase = program.erase := by
  have shape : (program.check ⟨.standard, .empty⟩).tree.erase = program.erase :=
    program.erase_checkFrom .standard .empty []
  rw [analyze] at analyzed
  generalize program.check ⟨.standard, .empty⟩ = checked at shape analyzed
  rcases checked with ⟨tree, later, _ | _⟩
  · cases analyzed
  · cases analyzed
    exact shape

/-- Programs of the same shape are equal once they are analysed. -/
theorem eq_of_analyze {program program' typed typed' : Program}
    (analyzed : analyze program = .ok typed) (analyzed' : analyze program' = .ok typed')
    (same : typed.erase = typed'.erase) : typed = typed' := by
  rw [erase_of_analyze analyzed, erase_of_analyze analyzed'] at same
  rw [← analyze_erase, same, analyze_erase, analyzed'] at analyzed
  exact (Except.ok.inj analyzed).symm

/-- A program that writes a sum, with one type noted everywhere. -/
def Program.writtenSum (noted : DataType) : Program :=
  ⟨.statement (.writing ⟨⟨⟨.writeWord, "write", 1⟩⟩, ⟨⟨.openParen, "(", 1⟩⟩,
    ⟨⟨⟨⟨⟨.number ⟨⟨⟨.intNumber, "1", 1⟩, noted⟩, noted⟩, noted⟩, .stop noted, noted⟩,
        .more ⟨⟨.addOp, "+", 1⟩⟩
          ⟨⟨⟨.number ⟨⟨⟨.floatNumber, "2.5", 1⟩, noted⟩, noted⟩, noted⟩, .stop noted, noted⟩,
            .stop noted, noted⟩ noted, noted⟩, .stop noted, noted⟩, .stop⟩,
    ⟨⟨.closeParen, ")", 1⟩⟩⟩), .stop⟩

/-- Programs that differ in annotations only are accepted with the same types, or rejected with the
same error; and to analyse an analysed program again changes nothing. -/
theorem analyze_of_erase_eq {program program' : Program} (same : program.erase = program'.erase) :
    analyze program = analyze program' ∧
    ∀ typed, analyze program = .ok typed → analyze typed = .ok typed := by
  refine ⟨?_, fun typed analyzed => ?_⟩
  · rw [← analyze_erase program, same, analyze_erase]
  · calc analyze typed
      _ = analyze typed.erase := (analyze_erase typed).symm
      _ = analyze program.erase := by rw [erase_of_analyze analyzed]
      _ = analyze program := analyze_erase program
      _ = .ok typed := analyzed

/-- A sum is typed alike whatever type is noted at its numbers and all around them. -/
theorem analyze_of_erase_eq_sum :
    ∃ typed : Program, Program.writtenSum .bool ≠ .writtenSum .float ∧
      (Program.writtenSum .bool).erase = (Program.writtenSum .float).erase ∧
      analyze (.writtenSum .bool) = analyze (.writtenSum .float) ∧
      analyze (.writtenSum .bool) = .ok typed ∧ analyze typed = .ok typed := by
  have same : (Program.writtenSum .bool).erase = (Program.writtenSum .float).erase := rfl
  have accepted : analyze (.writtenSum .bool) = .ok _ := rfl
  have alike := analyze_of_erase_eq same
  exact ⟨_, by simp [Program.writtenSum], same, alike.1, accepted, alike.2 _ accepted⟩

/-- The trees of the grammar have no types. -/
theorem Derives.erase_eq {endLine : Nat} {symbol : Symbol} {input rest : List Token} {node : Node}
    (derives : Derives endLine symbol input node rest) : node.erase = node := by
  induction derives with
  | name | constant | mark | inputEnd | number | programStop | identifierStop | statementStop
  | conditionStop | expressionStop | comparisonStop | operandStop | addendStop | itemEmpty
  | statementEmpty | factorIdentifier | factorBool => rfl
  | _ =>
    -- The parts have no types, and neither has the node that is built of them.
    simp_all [Node.erase, Program.erase, ProgramItem.erase, ProgramTail.erase, Declaration.erase,
      IdentifierList.erase, IdentifierListTail.erase, Identifier.erase, Statement.erase,
      StatementList.erase, StatementListTail.erase, Assignment.erase, Condition.erase,
      ConditionTail.erase, ForLoop.erase, WhileLoop.erase, NestedBlock.erase, Reading.erase,
      Writing.erase, ExpressionList.erase, ExpressionListTail.erase, Expression.erase,
      ExpressionTail.erase, Operand.erase, OperandTail.erase, Addend.erase, AddendTail.erase,
      Factor.erase, Primary.erase]

/-- A parsed program has no types written in it. -/
theorem erase_of_parse {tokens : List Token} {program : Program}
    (parsed : parse tokens = .ok program) : program.erase = program := by
  obtain ⟨rest, reads, _⟩ := parseAs_eq_ok_iff.mp (parse_eq_ok_iff.mp parsed)
  exact Node.program.inj (derives_of_reads reads).erase_eq

end DimLang
