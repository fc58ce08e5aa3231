import DimLang.Proofs.Typing.Chains

/-!
# The analysis and the typing rules

The analysis types the heads of a chain before its operators, keeps what is passed of a list on a
stack, and leaves a tree behind even where it fails. Its outcome is that of the recursive rules
all the same: for every tree, the typing agrees with the rule of the tree, and for a program the
verdict, the types and the declared names are those of the rules
(`Program.check_eq_iff_infer`).
-/

namespace DimLang

/-- A result is handed on to the next step. -/
theorem ok_bind {ε α β : Type} (value : α) (f : α → Except ε β) :
    (Except.ok value >>= f) = f value :=
  rfl

/-! ## Expressions -/

/-- A name is checked by its rule. -/
theorem Identifier.check_agrees (context : TypingContext) (name : Identifier) :
    (name.check context).Agrees Identifier.ty (name.infer context) := by
  rw [check, SymbolTable.find, infer, Identifier.name]
  cases context.symbols.get? name.token.text with
  | some ty => exact .ok (⟨name.token, ty⟩ : Identifier)
  | none => exact .error _ _

/-- A link in front of an addend makes an addend of the type it is annotated with. -/
theorem annotates_addend : Annotates Link.addend Addend.ty :=
  fun _ _ _ _ => rfl

/-- A link in front of an operand makes an operand of the type it is annotated with. -/
theorem annotates_operand : Annotates Link.operand Operand.ty :=
  fun _ _ _ _ => rfl

/-- Without links a chain is typed by its last part. -/
theorem bind_typeLinks_nil {α β : Type} {table : OperatorTable}
    {node : Link α → β → DataType → DataType → β} {ty : β → DataType}
    (rule : Except SemanticError β) :
    (rule >>= fun typed => typeLinks table node ty typed []) = rule := by
  cases rule <;> rfl

mutual

/-- A factor is checked by its rule, and so are the nodes below that hold one another. -/
theorem Factor.check_agrees (context : TypingContext) :
    (factor : Factor) → (factor.check context).Agrees Factor.ty (factor.infer context)
  | ⟨.identifier name, ty⟩ => by
    have typing := name.check_agrees context
    rw [Factor.check, Factor.infer]
    generalize name.check context = checked, name.infer context = rule at typing
    cases typing with
    | ok typed => exact .ok _
    | error => exact .error _ _
  | ⟨.number number, _⟩ => .ok _
  | ⟨.bool literal, _⟩ => .ok _
  | ⟨.not operator operand, ty⟩ => by
    have typing := operand.check_agrees context
    rw [Factor.check, Factor.infer]
    generalize operand.check context = checked, operand.infer context = rule at typing
    cases typing with
    | ok typed =>
      by_cases float : typed.ty = .float
      · simp only [bind, Except.bind, float, ↓reduceIte]
        exact .error _ _
      · simp only [bind, Except.bind, float, ↓reduceIte]
        exact .ok _
    | error => exact .error _ _
  | ⟨.group opening expression closing, ty⟩ => by
    have typing := expression.check_agrees context
    rw [Factor.check, Factor.infer]
    generalize expression.check context = checked, expression.infer context = rule at typing
    cases typing with
    | ok typed => exact .ok _
    | error => exact .error _ _

/-- Behind steps that are passed, a chain has the outcome of its rule and then that of the
steps. -/
theorem Addend.check_agrees (context : TypingContext) :
    (addend : Addend) → (links : List (Link Factor)) → (addend.check context links).Agrees Addend.ty
      (addend.infer context >>= fun typed =>
        typeLinks context.operators Link.addend Addend.ty typed links)
  | ⟨factor, .stop tailTy, ty⟩, links => by
    have typing := factor.check_agrees context
    rw [Addend.check, Addend.infer]
    generalize factor.check context = checked, factor.infer context = rule at typing
    cases typing with
    | ok typed => exact closeChain_agrees annotates_addend links ⟨typed, .stop .none, typed.ty⟩ _
    | error => exact .error _ _
  | ⟨factor, .more operator rest tailTy, ty⟩, links => by
    have typing := factor.check_agrees context
    rw [Addend.check, Addend.infer]
    generalize factor.check context = checked, factor.infer context = rule at typing
    cases typing with
    | ok typed =>
      -- The head becomes the innermost of the passed steps; its operator is applied with theirs.
      have behind := rest.check_agrees context (⟨typed, typed.ty, operator, ty, tailTy⟩ :: links)
      simpa only [typeLinks, Link.addend, ok_bind, bind_assoc, pure_bind] using behind
    | error => exact .error _ _

/-- An operand behind some links is checked by its rule and the rule of chains. -/
theorem Operand.check_agrees (context : TypingContext) :
    (operand : Operand) → (links : List (Link Addend)) →
      (operand.check context links).Agrees Operand.ty
        (operand.infer context >>= fun typed =>
          typeLinks context.operators Link.operand Operand.ty typed links)
  | ⟨addend, .stop tailTy, ty⟩, links => by
    have typing := addend.check_agrees context []
    rw [bind_typeLinks_nil] at typing
    rw [Operand.check, Operand.infer]
    generalize addend.check context [] = checked, addend.infer context = rule at typing
    cases typing with
    | ok typed => exact closeChain_agrees annotates_operand links ⟨typed, .stop .none, typed.ty⟩ _
    | error => exact .error _ _
  | ⟨addend, .more operator rest tailTy, ty⟩, links => by
    have typing := addend.check_agrees context []
    rw [bind_typeLinks_nil] at typing
    rw [Operand.check, Operand.infer]
    generalize addend.check context [] = checked, addend.infer context = rule at typing
    cases typing with
    | ok typed =>
      have behind := rest.check_agrees context (⟨typed, typed.ty, operator, ty, tailTy⟩ :: links)
      simpa only [typeLinks, Link.operand, ok_bind, bind_assoc, pure_bind] using behind
    | error => exact .error _ _

/-- An expression is checked by its rule. -/
theorem Expression.check_agrees (context : TypingContext) :
    (expression : Expression) →
      (expression.check context).Agrees Expression.ty (expression.infer context)
  | ⟨left, .stop tailTy, ty⟩ => by
    have typing := left.check_agrees context []
    rw [bind_typeLinks_nil] at typing
    rw [Expression.check, Expression.infer]
    generalize left.check context [] = checked, left.infer context = rule at typing
    cases typing with
    | ok typed => exact .ok _
    | error => exact .error _ _
  | ⟨left, .more operator right tailTy, ty⟩ => by
    have typingLeft := left.check_agrees context []
    have typingRight := right.check_agrees context []
    rw [bind_typeLinks_nil] at typingLeft typingRight
    rw [Expression.check, Expression.infer]
    generalize left.check context [] = checkedLeft, left.infer context = ruleLeft at typingLeft
    generalize right.check context [] = checkedRight, right.infer context = ruleRight
      at typingRight
    cases typingLeft with
    | error => exact .error _ _
    | ok left =>
      cases typingRight with
      | error => exact .error _ _
      | ok right =>
        simp only [OperatorTable.combine_eq, ok_bind]
        cases operationType context.operators left.ty operator.token right.ty with
        | error error => exact .error _ _
        | ok ty => exact .ok _

end

/-! ## Statements -/

/-- A list of names is checked by its rule, whatever names were passed before. -/
theorem IdentifierList.check_agrees (context : TypingContext) :
    (names : IdentifierList) → (passed : List (Identifier × Leaf)) →
      (names.check context passed).Agrees (fun _ => ())
        (names.infer context >>= fun typed => pure (behind passed typed))
  | ⟨head, .stop⟩, passed => by
    have typing := head.check_agrees context
    rw [check, infer]
    generalize head.check context = checked, head.infer context = rule at typing
    cases typing with
    | ok typed => exact .ok _
    | error => exact .error _ _
  | ⟨head, .more comma rest⟩, passed => by
    have typing := head.check_agrees context
    rw [check, infer]
    generalize head.check context = checked, head.infer context = rule at typing
    cases typing with
    | ok typed =>
      have behind := rest.check_agrees context ((typed, comma) :: passed)
      simp only [ok_bind, bind_assoc, pure_bind]
      exact behind
    | error => exact .error _ _

/-- An expression list is checked by its rule, whatever was passed before. -/
theorem ExpressionList.check_agrees (context : TypingContext) :
    (expressions : ExpressionList) → (passed : List (Expression × Leaf)) →
      (expressions.check context passed).Agrees (fun _ => ())
        (expressions.infer context >>= fun typed => pure (behind passed typed))
  | ⟨head, .stop⟩, passed => by
    have typing := head.check_agrees context
    rw [check, infer]
    generalize head.check context = checked, head.infer context = rule at typing
    cases typing with
    | ok typed => exact .ok _
    | error => exact .error _ _
  | ⟨head, .more comma rest⟩, passed => by
    have typing := head.check_agrees context
    rw [check, infer]
    generalize head.check context = checked, head.infer context = rule at typing
    cases typing with
    | ok typed =>
      have behind := rest.check_agrees context ((typed, comma) :: passed)
      simp only [ok_bind, bind_assoc, pure_bind]
      exact behind
    | error => exact .error _ _

/-- A value is assignable to its own type, and an `int` value to `float` as well. -/
theorem assignable_iff {target value : DataType} :
    assignable target value = true ↔ target = value ∨ target = .float ∧ value = .int := by
  simp [assignable]

/-- An assignment is checked by its rule. -/
theorem Assignment.check_agrees (context : TypingContext) (assignment : Assignment) :
    (assignment.check context).Agrees (fun _ => ()) (assignment.infer context) := by
  have typingTarget := assignment.target.check_agrees context
  have typingValue := assignment.value.check_agrees context
  rw [check, infer]
  generalize assignment.target.check context = checkedTarget,
    assignment.target.infer context = ruleTarget at typingTarget
  generalize assignment.value.check context = checkedValue,
    assignment.value.infer context = ruleValue at typingValue
  cases typingTarget with
  | error => exact .error _ _
  | ok target =>
    cases typingValue with
    | error => exact .error _ _
    | ok value =>
      simp only [ok_bind, assignable_iff]
      split
      · exact .ok _
      · exact .error _ _

mutual

/-- A statement is checked by its rule, and so are the nodes it is nested in. -/
theorem Statement.check_agrees (context : TypingContext) :
    (statement : Statement) →
      (statement.check context).Agrees (fun _ => ()) (statement.infer context)
  | .assignment tree => by
    have typing := tree.check_agrees context
    rw [Statement.check, Statement.infer]
    generalize tree.check context = checked, tree.infer context = rule at typing
    cases typing with
    | ok typed => exact .ok _
    | error => exact .error _ _
  | .nestedBlock ⟨beginWord, statements, endWord⟩ => by
    have typing := statements.check_agrees context []
    simp only [StatementList.behind, List.foldl_nil, bind_pure] at typing
    rw [Statement.check, NestedBlock.check, Statement.infer]
    generalize statements.check context [] = checked, statements.infer context = rule at typing
    cases typing with
    | ok typed => exact .ok _
    | error => exact .error _ _
  | .condition ⟨ifWord, test, thenWord, branch, tail⟩ => by
    have typingTest := test.check_agrees context
    have typingBranch := branch.check_agrees context
    have typingTail := tail.check_agrees context
    rw [Statement.check, Condition.check, Statement.infer]
    generalize test.check context = checkedTest, test.infer context = ruleTest at typingTest
    generalize branch.check context = checkedBranch, branch.infer context = ruleBranch
      at typingBranch
    generalize tail.check context = checkedTail, tail.infer context = ruleTail at typingTail
    cases typingTest with
    | error => exact .error _ _
    | ok test =>
      cases typingBranch with
      | error => exact .error _ _
      | ok branch =>
        cases typingTail with
        | error => exact .error _ _
        | ok tail => exact .ok _
  | .forLoop ⟨forWord, start, toWord, limit, doWord, body⟩ => by
    have typingStart := start.check_agrees context
    have typingLimit := limit.check_agrees context
    have typingBody := body.check_agrees context
    rw [Statement.check, ForLoop.check, Statement.infer]
    generalize start.check context = checkedStart, start.infer context = ruleStart at typingStart
    generalize limit.check context = checkedLimit, limit.infer context = ruleLimit at typingLimit
    generalize body.check context = checkedBody, body.infer context = ruleBody at typingBody
    cases typingStart with
    | error => exact .error _ _
    | ok start =>
      cases typingLimit with
      | error => exact .error _ _
      | ok limit =>
        cases typingBody with
        | error => exact .error _ _
        | ok body => exact .ok _
  | .whileLoop ⟨whileWord, test, doWord, body⟩ => by
    have typingTest := test.check_agrees context
    have typingBody := body.check_agrees context
    rw [Statement.check, WhileLoop.check, Statement.infer]
    generalize test.check context = checkedTest, test.infer context = ruleTest at typingTest
    generalize body.check context = checkedBody, body.infer context = ruleBody at typingBody
    cases typingTest with
    | error => exact .error _ _
    | ok test =>
      cases typingBody with
      | error => exact .error _ _
      | ok body => exact .ok _
  | .reading ⟨word, opening, names, closing⟩ => by
    have typing := names.check_agrees context []
    simp only [IdentifierList.behind, List.foldl_nil, bind_pure] at typing
    rw [Statement.check, Reading.check, Statement.infer]
    generalize names.check context [] = checked, names.infer context = rule at typing
    cases typing with
    | ok typed => exact .ok _
    | error => exact .error _ _
  | .writing ⟨word, opening, expressions, closing⟩ => by
    have typing := expressions.check_agrees context []
    simp only [ExpressionList.behind, List.foldl_nil, bind_pure] at typing
    rw [Statement.check, Writing.check, Statement.infer]
    generalize expressions.check context [] = checked, expressions.infer context = rule at typing
    cases typing with
    | ok typed => exact .ok _
    | error => exact .error _ _
  | .skip separators inner => by
    have typing := inner.check_agrees context
    rw [Statement.check, Statement.infer]
    generalize inner.check context = checked, inner.infer context = rule at typing
    cases typing with
    | ok typed => exact .ok _
    | error => exact .error _ _
  | .empty => .ok _

/-- A statement list is checked by its rule, whatever was passed before. -/
theorem StatementList.check_agrees (context : TypingContext) :
    (statements : StatementList) → (passed : List (Statement × Leaf)) →
      (statements.check context passed).Agrees (fun _ => ())
        (statements.infer context >>= fun typed => pure (StatementList.behind passed typed))
  | ⟨head, .stop⟩, passed => by
    have typing := head.check_agrees context
    rw [StatementList.check, StatementList.infer]
    generalize head.check context = checked, head.infer context = rule at typing
    cases typing with
    | ok typed => exact .ok _
    | error => exact .error _ _
  | ⟨head, .more separator rest⟩, passed => by
    have typing := head.check_agrees context
    have behind := fun typed => rest.check_agrees context ((typed, separator) :: passed)
    rw [StatementList.check, StatementList.infer]
    generalize head.check context = checked, head.infer context = rule at typing
    cases typing with
    | ok typed =>
      simp only [ok_bind, bind_assoc, pure_bind]
      exact behind typed
    | error => exact .error _ _

/-- The `else` branch is checked by its rule. -/
theorem ConditionTail.check_agrees (context : TypingContext) :
    (tail : ConditionTail) → (tail.check context).Agrees (fun _ => ()) (tail.infer context)
  | .stop => .ok _
  | .more elseWord branch => by
    have typing := branch.check_agrees context
    rw [ConditionTail.check, ConditionTail.infer]
    generalize branch.check context = checked, branch.infer context = rule at typing
    cases typing with
    | ok typed => exact .ok _
    | error => exact .error _ _

end

/-! ## Programs -/

/-- The analysis of a tree has the outcome of a rule: the typed tree and the names that are declared
behind it, or the same error. -/
inductive Analysis.Agrees {α : Type} :
    Analysis α → Except SemanticError (α × SymbolTable) → Prop
  | ok (typed : α) (symbols : SymbolTable) : Agrees ⟨typed, symbols, .ok ()⟩ (.ok (typed, symbols))
  | error (tree : α) (symbols : SymbolTable) (error : SemanticError) :
      Agrees ⟨tree, symbols, .error error⟩ (.error error)

/-- An analysis accepts exactly what its rule types. -/
theorem Analysis.Agrees.eq_ok_iff {α : Type} {analysis : Analysis α}
    {rule : Except SemanticError (α × SymbolTable)} (agrees : analysis.Agrees rule) {typed : α}
    {later : SymbolTable} : analysis = ⟨typed, later, .ok ()⟩ ↔ rule = .ok (typed, later) := by
  cases agrees with
  | ok typed symbols => simp
  | error => simp

/-- A name is declared as its rule says. -/
theorem Identifier.declared_eq (ty : DataType) (symbols : SymbolTable) (name : Identifier) :
    name.declared ty symbols =
      (symbols.declare name ty).map fun symbols => (⟨name.token, ty⟩, symbols) := by
  rw [declared, SymbolTable.declare]
  by_cases known : name.name ∈ symbols.entries.map Prod.fst
  · rw [dif_pos known]
    split
    · rfl
    · rename_i fresh
      exact absurd known (symbols.get?_eq_none_iff.mp fresh)
  · have fresh : symbols.get? name.token.text = none := symbols.get?_eq_none_iff.mpr known
    rw [dif_neg known]
    split
    · rename_i found
      rw [fresh] at found
      cases found
    · rfl

/-- The names of a declaration are entered one by one, as its rule says. -/
theorem IdentifierList.declare_agrees (ty : DataType) :
    (names : IdentifierList) → (symbols : SymbolTable) → (passed : List (Identifier × Leaf)) →
      (names.declare ty symbols passed).Agrees
        (names.declared ty symbols >>= fun typed => pure (behind passed typed.1, typed.2))
  | ⟨head, .stop⟩, symbols, passed => by
    rw [declare, declared, head.declared_eq]
    cases symbols.declare head ty with
    | ok symbols => exact .ok _ _
    | error => exact .error _ _ _
  | ⟨head, .more comma rest⟩, symbols, passed => by
    rw [declare, declared, head.declared_eq]
    cases symbols.declare head ty with
    | ok symbols =>
      have behind := rest.declare_agrees ty symbols ((⟨head.token, ty⟩, comma) :: passed)
      simp only [Except.map, ok_bind, bind_assoc, pure_bind]
      exact behind
    | error => exact .error _ _ _

/-- A declaration is checked by its rule, which also gives the table behind it. -/
theorem Declaration.check_agrees (symbols : SymbolTable) (declaration : Declaration) :
    (declaration.check symbols).Agrees (declaration.infer symbols) := by
  rw [check, infer]
  cases DataType.ofTypeName? declaration.typeName.token.text with
  | none => exact .error _ _ _
  | some ty =>
    have typing := declaration.identifiers.declare_agrees ty symbols []
    simp only [IdentifierList.behind, List.foldl_nil, Prod.eta, bind_pure] at typing
    simp only
    generalize declaration.identifiers.declare ty symbols [] = checked,
      declaration.identifiers.declared ty symbols = rule at typing
    cases typing with
    | ok typed symbols => exact .ok _ _
    | error => exact .error _ _ _

/-- An item is checked by its rule, which also gives the table behind it. -/
theorem ProgramItem.check_agrees (context : TypingContext) (item : ProgramItem) :
    (item.check context).Agrees (item.infer context) := by
  cases item with
  | declaration tree =>
    have typing := tree.check_agrees context.symbols
    rw [check, infer]
    generalize tree.check context.symbols = checked, tree.infer context.symbols = rule at typing
    cases typing with
    | ok typed symbols => exact .ok _ _
    | error => exact .error _ _ _
  | statement tree =>
    have typing := tree.check_agrees context
    rw [check, infer]
    generalize tree.check context = checked, tree.infer context = rule at typing
    cases typing with
    | ok typed => exact .ok _ _
    | error => exact .error _ _ _

/-- A program is checked by its rule behind any items that were passed before. -/
theorem Program.checkFrom_agrees (operators : OperatorTable) :
    (program : Program) → (symbols : SymbolTable) → (passed : List (ProgramItem × Leaf)) →
      (program.checkFrom operators symbols passed).Agrees
        (program.infer operators symbols >>= fun typed => pure (behind passed typed.1, typed.2))
  | ⟨item, .stop⟩, symbols, passed => by
    have typing := item.check_agrees ⟨operators, symbols⟩
    rw [checkFrom, infer]
    generalize item.check ⟨operators, symbols⟩ = checked, item.infer ⟨operators, symbols⟩ = rule
      at typing
    cases typing with
    | ok typed symbols => exact .ok _ _
    | error => exact .error _ _ _
  | ⟨item, .more separator rest⟩, symbols, passed => by
    have typing := item.check_agrees ⟨operators, symbols⟩
    rw [checkFrom, infer]
    generalize item.check ⟨operators, symbols⟩ = checked, item.infer ⟨operators, symbols⟩ = rule
      at typing
    cases typing with
    | ok typed symbols =>
      have behind := rest.checkFrom_agrees operators symbols ((typed, separator) :: passed)
      simp only [ok_bind, bind_assoc, pure_bind]
      exact behind
    | error => exact .error _ _ _

/-- A program is checked by its rule. -/
theorem Program.check_agrees (context : TypingContext) (program : Program) :
    (program.check context).Agrees (program.infer context.operators context.symbols) := by
  have typing := program.checkFrom_agrees context.operators context.symbols []
  simp only [behind, List.foldl_nil, Prod.eta, bind_pure] at typing
  exact typing

/-- The analysis of a program succeeds exactly with the typed tree and the names that the rules
yield, and fails exactly with the first violation of the rules. -/
theorem Program.check_eq_iff_infer {program : Program} {context : TypingContext} :
    (∀ typed symbols, program.check context = ⟨typed, symbols, .ok ()⟩ ↔
      program.infer context.operators context.symbols = .ok (typed, symbols)) ∧
    (∀ error, (program.check context).verdict = .error error ↔
      program.infer context.operators context.symbols = .error error) := by
  have agrees := program.check_agrees context
  generalize program.check context = checked,
    program.infer context.operators context.symbols = rule at agrees
  cases agrees with
  | ok typed symbols => simp
  | error => simp

end DimLang
