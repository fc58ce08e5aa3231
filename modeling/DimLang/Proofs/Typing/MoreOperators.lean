import DimLang.Proofs.Typing.Agreement

/-!
# More operators

An operator table may be given more rules. If these are for operands and operators for which the
table has none, they cannot redirect what was typed before: whatever the rules of types yield under
the table, they yield with the added rules, too (`Program.infer_more`).

The added rules may be for the same operands and replace each other; what counts is that they
replace none of the given table.

- `OperatorTable.Extends` says that a table has all results of another one
- `Preserved` says that an outcome survives
- `Program.check_eq_of_new_rules`: a program that is accepted stays accepted, with the same types
-/

namespace DimLang

variable {operators more : OperatorTable} {symbols : SymbolTable}

/-! ## Operator tables -/

namespace OperatorTable

/-- The other table yields all that the table yields. -/
def Extends (operators more : OperatorTable) : Prop :=
  ∀ left operator right ty,
    operators.result? left operator right = some ty → more.result? left operator right = some ty

/-- Every table extends itself. -/
theorem Extends.refl (operators : OperatorTable) : operators.Extends operators :=
  fun _ _ _ _ known => known

/-- A rule is added that the smaller table knows nothing of. -/
theorem Extends.insert {rule : OperatorRule} (grows : operators.Extends more)
    (new : operators.result? rule.left rule.operator rule.right = none) :
    operators.Extends (more.insert rule) := by
  intro left operator right ty known
  rw [result?_insert]
  by_cases same : rule.left = left ∧ rule.right = right ∧ rule.operator = operator
  · obtain ⟨rfl, rfl, rfl⟩ := same
    rw [new] at known
    cases known
  · rw [if_neg same]
    exact grows left operator right ty known

/-- Rules are added one after the other of which the smaller table knows none. -/
theorem Extends.insertAll {rules : List OperatorRule} (grows : operators.Extends more)
    (new : ∀ rule ∈ rules, operators.result? rule.left rule.operator rule.right = none) :
    operators.Extends (rules.foldl OperatorTable.insert more) := by
  induction rules generalizing more with
  | nil => exact grows
  | cons rule rules ih =>
    rw [List.forall_mem_cons] at new
    exact ih (grows.insert new.1) new.2

end OperatorTable

/-! ## Preserved outcomes -/

/-- What the first rule yields, the second one yields, too. -/
def Preserved {α : Type} (rule rule' : Except SemanticError α) : Prop :=
  ∀ result, rule = .ok result → rule' = .ok result

section Preserved

variable {α β : Type} {rule rule' : Except SemanticError α}
  {next next' : α → Except SemanticError β}

/-- A result is preserved by itself. -/
theorem Preserved.refl (rule : Except SemanticError α) : Preserved rule rule :=
  fun _ yields => yields

/-- Steps that are preserved one by one are preserved as a whole. -/
theorem Preserved.bind (first : Preserved rule rule')
    (step : ∀ result, Preserved (next result) (next' result)) :
    Preserved (rule >>= next) (rule' >>= next') := by
  cases outcome : rule with
  | error error =>
    intro _ yields
    cases yields
  | ok result =>
    rw [first result outcome]
    exact step result

end Preserved

/-- An operation that has a type keeps it under more rules. -/
theorem operationType_more (grows : operators.Extends more) (left : DataType) (operator : Token)
    (right : DataType) :
    Preserved (operationType operators left operator right)
      (operationType more left operator right) := by
  unfold operationType
  cases known : operators.result? left operator.text right with
  | none =>
    intro _ yields
    cases yields
  | some ty =>
    rw [grows left operator.text right ty known]
    exact .refl _

/-! ## Expressions -/

mutual

/-- A factor that has a type keeps it under more rules, and so do the nodes below. -/
theorem Factor.infer_more (grows : operators.Extends more) : (factor : Factor) →
    Preserved (factor.infer ⟨operators, symbols⟩) (factor.infer ⟨more, symbols⟩)
  | ⟨.identifier _, _⟩ | ⟨.number _, _⟩ | ⟨.bool _, _⟩ => by
    rw [Factor.infer, Factor.infer]
    exact .refl _
  | ⟨.not _ operand, _⟩ => by
    rw [Factor.infer, Factor.infer]
    exact (operand.infer_more grows).bind fun _ => .refl _
  | ⟨.group _ expression _, _⟩ => by
    rw [Factor.infer, Factor.infer]
    exact (expression.infer_more grows).bind fun _ => .refl _

/-- An addend that has a type keeps it under more rules. -/
theorem Addend.infer_more (grows : operators.Extends more) : (addend : Addend) →
    Preserved (addend.infer ⟨operators, symbols⟩) (addend.infer ⟨more, symbols⟩)
  | ⟨factor, .stop _, _⟩ => by
    rw [Addend.infer, Addend.infer]
    exact (factor.infer_more grows).bind fun _ => .refl _
  | ⟨factor, .more operator rest _, _⟩ => by
    rw [Addend.infer, Addend.infer]
    refine (factor.infer_more grows).bind fun left => (rest.infer_more grows).bind fun right => ?_
    exact (operationType_more grows left.ty operator.token right.ty).bind fun _ => .refl _

/-- An operand that has a type keeps it under more rules. -/
theorem Operand.infer_more (grows : operators.Extends more) : (operand : Operand) →
    Preserved (operand.infer ⟨operators, symbols⟩) (operand.infer ⟨more, symbols⟩)
  | ⟨addend, .stop _, _⟩ => by
    rw [Operand.infer, Operand.infer]
    exact (addend.infer_more grows).bind fun _ => .refl _
  | ⟨addend, .more operator rest _, _⟩ => by
    rw [Operand.infer, Operand.infer]
    refine (addend.infer_more grows).bind fun left => (rest.infer_more grows).bind fun right => ?_
    exact (operationType_more grows left.ty operator.token right.ty).bind fun _ => .refl _

/-- An expression that has a type keeps it under more rules. -/
theorem Expression.infer_more (grows : operators.Extends more) : (expression : Expression) →
    Preserved (expression.infer ⟨operators, symbols⟩) (expression.infer ⟨more, symbols⟩)
  | ⟨left, .stop _, _⟩ => by
    rw [Expression.infer, Expression.infer]
    exact (left.infer_more grows).bind fun _ => .refl _
  | ⟨left, .more operator right _, _⟩ => by
    rw [Expression.infer, Expression.infer]
    refine (left.infer_more grows).bind fun left => (right.infer_more grows).bind fun right => ?_
    exact (operationType_more grows left.ty operator.token right.ty).bind fun _ => .refl _

end

/-! ## Statements -/

/-- The names of a list are typed without operators. -/
theorem IdentifierList.infer_operators : (names : IdentifierList) →
    names.infer ⟨operators, symbols⟩ = names.infer ⟨more, symbols⟩
  | ⟨head, .stop⟩ => rfl
  | ⟨head, .more _ rest⟩ => by
    rw [infer, infer, rest.infer_operators]
    rfl

/-- An expression list that is typed stays so under more rules. -/
theorem ExpressionList.infer_more (grows : operators.Extends more) :
    (expressions : ExpressionList) →
      Preserved (expressions.infer ⟨operators, symbols⟩) (expressions.infer ⟨more, symbols⟩)
  | ⟨head, .stop⟩ => by
    rw [infer, infer]
    exact (head.infer_more grows).bind fun _ => .refl _
  | ⟨head, .more _ rest⟩ => by
    rw [infer, infer]
    exact (head.infer_more grows).bind fun _ => (rest.infer_more grows).bind fun _ => .refl _

/-- An assignment that is typed stays so under more rules. -/
theorem Assignment.infer_more (grows : operators.Extends more) (tree : Assignment) :
    Preserved (tree.infer ⟨operators, symbols⟩) (tree.infer ⟨more, symbols⟩) := by
  rw [infer, infer]
  exact (Preserved.refl _).bind fun _ => (tree.value.infer_more grows).bind fun _ => .refl _

mutual

/-- A statement that is typed stays so under more rules, however deep it nests. -/
theorem Statement.infer_more (grows : operators.Extends more) : (statement : Statement) →
    Preserved (statement.infer ⟨operators, symbols⟩) (statement.infer ⟨more, symbols⟩)
  | .assignment tree => by
    rw [Statement.infer, Statement.infer]
    exact (tree.infer_more grows).bind fun _ => .refl _
  | .nestedBlock ⟨_, statements, _⟩ => by
    rw [Statement.infer, Statement.infer]
    exact (statements.infer_more grows).bind fun _ => .refl _
  | .condition ⟨_, test, _, branch, tail⟩ => by
    rw [Statement.infer, Statement.infer]
    exact (test.infer_more grows).bind fun _ => (branch.infer_more grows).bind fun _ =>
      (tail.infer_more grows).bind fun _ => .refl _
  | .forLoop ⟨_, start, _, limit, _, body⟩ => by
    rw [Statement.infer, Statement.infer]
    exact (start.infer_more grows).bind fun _ => (limit.infer_more grows).bind fun _ =>
      (body.infer_more grows).bind fun _ => .refl _
  | .whileLoop ⟨_, test, _, body⟩ => by
    rw [Statement.infer, Statement.infer]
    exact (test.infer_more grows).bind fun _ => (body.infer_more grows).bind fun _ => .refl _
  | .reading ⟨_, _, names, _⟩ => by
    rw [Statement.infer, Statement.infer, names.infer_operators]
    exact .refl _
  | .writing ⟨_, _, expressions, _⟩ => by
    rw [Statement.infer, Statement.infer]
    exact (expressions.infer_more grows).bind fun _ => .refl _
  | .skip _ inner => by
    rw [Statement.infer, Statement.infer]
    exact (inner.infer_more grows).bind fun _ => .refl _
  | .empty => by
    rw [Statement.infer, Statement.infer]
    exact .refl _

/-- A statement list that is typed stays so under more rules. -/
theorem StatementList.infer_more (grows : operators.Extends more) : (statements : StatementList) →
    Preserved (statements.infer ⟨operators, symbols⟩) (statements.infer ⟨more, symbols⟩)
  | ⟨head, .stop⟩ => by
    rw [StatementList.infer, StatementList.infer]
    exact (head.infer_more grows).bind fun _ => .refl _
  | ⟨head, .more _ rest⟩ => by
    rw [StatementList.infer, StatementList.infer]
    exact (head.infer_more grows).bind fun _ => (rest.infer_more grows).bind fun _ => .refl _

/-- An `else` branch that is typed stays so under more rules. -/
theorem ConditionTail.infer_more (grows : operators.Extends more) : (tail : ConditionTail) →
    Preserved (tail.infer ⟨operators, symbols⟩) (tail.infer ⟨more, symbols⟩)
  | .stop => by
    rw [ConditionTail.infer, ConditionTail.infer]
    exact .refl _
  | .more _ branch => by
    rw [ConditionTail.infer, ConditionTail.infer]
    exact (branch.infer_more grows).bind fun _ => .refl _

end

/-! ## Programs -/

/-- An item that is typed stays so under more rules, with the same table behind it. -/
theorem ProgramItem.infer_more (grows : operators.Extends more) (item : ProgramItem) :
    Preserved (item.infer ⟨operators, symbols⟩) (item.infer ⟨more, symbols⟩) := by
  cases item with
  | declaration tree => exact .refl _
  | statement tree =>
    rw [infer, infer]
    exact (tree.infer_more grows).bind fun _ => .refl _

/-- What the rules yield for a program they yield under a table with more operators, too. -/
theorem Program.infer_more (grows : operators.Extends more) :
    (program : Program) → (symbols : SymbolTable) →
      Preserved (program.infer operators symbols) (program.infer more symbols)
  | ⟨item, .stop⟩, symbols => by
    rw [infer, infer]
    exact (item.infer_more grows).bind fun _ => .refl _
  | ⟨item, .more _ rest⟩, symbols => by
    rw [infer, infer]
    refine (item.infer_more grows).bind ?_
    rintro ⟨typed, middle⟩
    exact (rest.infer_more grows middle).bind fun _ => .refl _

/-- A program that is accepted under an operator table is accepted with the same types and the same
names if rules are added, whatever they are and in whatever order, for which the table has no
result. -/
theorem Program.check_eq_of_new_rules {rules : List OperatorRule}
    (new : ∀ rule ∈ rules, operators.result? rule.left rule.operator rule.right = none)
    {program typed : Program} {later : SymbolTable}
    (accepted : program.check ⟨operators, symbols⟩ = ⟨typed, later, .ok ()⟩) :
    program.check ⟨rules.foldl OperatorTable.insert operators, symbols⟩ =
      ⟨typed, later, .ok ()⟩ := by
  have grows := (OperatorTable.Extends.refl operators).insertAll new
  have typed := (program.check_agrees ⟨operators, symbols⟩).eq_ok_iff.mp accepted
  apply (program.check_agrees ⟨rules.foldl OperatorTable.insert operators, symbols⟩).eq_ok_iff.mpr
  exact program.infer_more grows symbols _ typed

/-- A sum of truth values gets a meaning, and that of integers keeps its own. -/
theorem Program.check_eq_of_new_bool_sum :
    (∀ rule ∈ ([⟨.bool, "+", .bool, .int⟩, ⟨.bool, "+", .bool, .bool⟩] : List OperatorRule),
      OperatorTable.standard.result? rule.left rule.operator rule.right = none) ∧
    ∃ (program typed : Program),
      program.check ⟨.standard, .empty⟩ = ⟨typed, .empty, .ok ()⟩ ∧
      program.check ⟨[⟨.bool, "+", .bool, .int⟩, ⟨.bool, "+", .bool, .bool⟩].foldl
        OperatorTable.insert .standard, .empty⟩ = ⟨typed, .empty, .ok ()⟩ := by
  have new : ∀ rule ∈ ([⟨.bool, "+", .bool, .int⟩, ⟨.bool, "+", .bool, .bool⟩] :
      List OperatorRule),
      OperatorTable.standard.result? rule.left rule.operator rule.right = none := by decide
  have accepted : Program.check ⟨.standard, .empty⟩
      ⟨.statement (.writing ⟨⟨⟨.writeWord, "write", 1⟩⟩, ⟨⟨.openParen, "(", 1⟩⟩,
        ⟨⟨⟨⟨⟨.number ⟨⟨⟨.intNumber, "1", 1⟩, .invalid⟩, .invalid⟩, .invalid⟩, .stop .invalid,
            .invalid⟩, .more ⟨⟨.addOp, "+", 1⟩⟩
          ⟨⟨⟨.number ⟨⟨⟨.intNumber, "2", 1⟩, .invalid⟩, .invalid⟩, .invalid⟩, .stop .invalid,
            .invalid⟩, .stop .invalid, .invalid⟩ .invalid, .invalid⟩, .stop .invalid, .invalid⟩,
          .stop⟩,
        ⟨⟨.closeParen, ")", 1⟩⟩⟩), .stop⟩ = ⟨_, .empty, .ok ()⟩ := rfl
  exact ⟨new, _, _, accepted, check_eq_of_new_rules new accepted⟩

end DimLang
