import DimLang.Proofs.Syntax.Erasure
import DimLang.Typing.Programs

/-!
# The analysis keeps the shape of trees

Whether it succeeds or fails, the analysis changes nothing of a tree but its annotations
(`Program.erase_tree_check`). This holds of every tree, also of one that no parser yields.

What is passed of a chain or of a list lies on a stack while the rest is typed. So the shape of a
chain is that of its passed steps in front of the rest: `restoreLinks` and `behind` put the whole
together, and the shape of the whole depends on the shape of the rest only.
-/

namespace DimLang

section Chains

variable {α β : Type} {size : Nat} {erase : β → β}
  {node : Link α → β → DataType → DataType → β}

/-- Putting things in front of trees of the same shape yields trees of the same shape. -/
theorem erase_foldl_congr {step : β → α → β}
    (keeps : ∀ thing {rest rest'}, erase rest = erase rest' →
      erase (step rest thing) = erase (step rest' thing))
    (things : List α) {rest rest' : β} (same : erase rest = erase rest') :
    erase (things.foldl step rest) = erase (things.foldl step rest') := by
  induction things generalizing rest rest' with
  | nil => exact same
  | cons thing things ih => exact ih (keeps thing same)

/-- The shape of a step in front of the rest of its chain depends on the shape of the rest and not
on the annotations. -/
def KeepsShape (erase : β → β) (node : Link α → β → DataType → DataType → β) : Prop :=
  ∀ link {rest rest'} ty ty' tailTy tailTy', erase rest = erase rest' →
    erase (node link rest ty tailTy) = erase (node link rest' ty' tailTy')

/-- Links in front keep equal shapes equal. -/
theorem erase_restoreLinks_congr (keeps : KeepsShape erase node) (links : List (Link α))
    {rest rest' : β} (same : erase rest = erase rest') :
    erase (restoreLinks node rest links) = erase (restoreLinks node rest' links) :=
  erase_foldl_congr (fun link _ _ same => keeps link _ _ _ _ same) links same

/-- New annotations do not change the shape of a chain. -/
theorem erase_annotateLinks (keeps : KeepsShape erase node)
    (types : Vector DataType (size + 1)) {links : List (Link α)} {position : Nat}
    (length : links.length = position) (inside : position ≤ size) {rest rest' : β}
    (same : erase rest = erase rest') :
    erase (annotateLinks node types rest links position length inside) =
      erase (restoreLinks node rest' links) := by
  induction links generalizing position rest rest' with
  | nil =>
    subst length
    exact same
  | cons link links ih =>
    subst length
    exact ih rfl _ (keeps link _ _ _ _ same)

/-- Closing a chain keeps its shape, typed or restored. -/
theorem erase_closeChain (keeps : KeepsShape erase node) (table : OperatorTable)
    (links : List (Link α)) (ty : DataType) {typed restored rest : β}
    (sameTyped : erase typed = erase rest) (sameRestored : erase restored = erase rest) :
    erase (closeChain table node links typed restored ty).tree =
      erase (restoreLinks node rest links) := by
  rw [closeChain]
  split
  · exact erase_annotateLinks keeps _ _ _ sameTyped
  · exact erase_restoreLinks_congr keeps links sameRestored

end Chains

/-! ## Expressions -/

variable (context : TypingContext)

/-- Checking a name keeps its shape. -/
theorem Identifier.erase_check (name : Identifier) :
    (name.check context).tree.erase = name.erase := by
  rw [check]
  split <;> rfl

/-- The shape of an addend is that of its parts. -/
theorem keepsShape_addend : KeepsShape Addend.erase Link.addend := by
  intro link rest rest' ty ty' tailTy tailTy' same
  simp only [Link.addend, Addend.erase, AddendTail.erase, same]

/-- The shape of an operand is that of its parts. -/
theorem keepsShape_operand : KeepsShape Operand.erase Link.operand := by
  intro link rest rest' ty ty' tailTy tailTy' same
  simp only [Link.operand, Operand.erase, OperandTail.erase, same]

mutual

/-- Checking a factor keeps its shape, and so for the nodes below that hold one. -/
theorem Factor.erase_check : (factor : Factor) → (factor.check context).tree.erase = factor.erase
  | ⟨.identifier name, _⟩ => by
    have same := name.erase_check context
    rw [Factor.check]
    generalize name.check context = checked at same ⊢
    rcases checked with ⟨name', _ | _⟩ <;> simp only [Factor.erase, Primary.erase, same]
  | ⟨.number number, _⟩ => rfl
  | ⟨.bool literal, _⟩ => rfl
  | ⟨.not operator operand, _⟩ => by
    have same := operand.erase_check
    rw [Factor.check]
    generalize operand.check context = checked at same ⊢
    rcases checked with ⟨operand', _ | operandTy⟩
    · simp only [Factor.erase, Primary.erase, same]
    · dsimp only
      split <;> simp only [Factor.erase, Primary.erase, same]
  | ⟨.group opening expression closing, _⟩ => by
    have same := expression.erase_check
    rw [Factor.check]
    generalize expression.check context = checked at same ⊢
    rcases checked with ⟨expression', _ | _⟩ <;> simp only [Factor.erase, Primary.erase, same]

/-- Behind steps that are passed, the shape is that of the chain with its steps. -/
theorem Addend.erase_check : (addend : Addend) → (links : List (Link Factor)) →
    (addend.check context links).tree.erase = (restoreLinks Link.addend addend links).erase
  | ⟨factor, .stop tailTy, ty⟩, links => by
    have same := factor.erase_check
    rw [Addend.check]
    generalize factor.check context = checked at same ⊢
    rcases checked with ⟨factor', _ | factorTy⟩
    · exact erase_restoreLinks_congr keepsShape_addend links (by simp only [Addend.erase, same])
    · exact erase_closeChain keepsShape_addend _ links _
        (by simp only [Addend.erase, AddendTail.erase, same]) (by simp only [Addend.erase, same])
  | ⟨factor, .more operator rest tailTy, ty⟩, links => by
    have same := factor.erase_check
    have behind := fun link => rest.erase_check (link :: links)
    rw [Addend.check]
    generalize factor.check context = checked at same ⊢
    rcases checked with ⟨factor', _ | factorTy⟩
    · exact erase_restoreLinks_congr keepsShape_addend links (by simp only [Addend.erase, same])
    · refine (behind _).trans (erase_restoreLinks_congr keepsShape_addend links ?_)
      simp only [Link.addend, Addend.erase, same]

/-- Checking an operand keeps its shape and that of the links in front. -/
theorem Operand.erase_check : (operand : Operand) → (links : List (Link Addend)) →
    (operand.check context links).tree.erase = (restoreLinks Link.operand operand links).erase
  | ⟨addend, .stop tailTy, ty⟩, links => by
    have same : (addend.check context []).tree.erase = addend.erase := addend.erase_check []
    rw [Operand.check]
    generalize addend.check context [] = checked at same ⊢
    rcases checked with ⟨addend', _ | addendTy⟩
    · exact erase_restoreLinks_congr keepsShape_operand links (by simp only [Operand.erase, same])
    · exact erase_closeChain keepsShape_operand _ links _
        (by simp only [Operand.erase, OperandTail.erase, same])
        (by simp only [Operand.erase, same])
  | ⟨addend, .more operator rest tailTy, ty⟩, links => by
    have same : (addend.check context []).tree.erase = addend.erase := addend.erase_check []
    have behind := fun link => rest.erase_check (link :: links)
    rw [Operand.check]
    generalize addend.check context [] = checked at same ⊢
    rcases checked with ⟨addend', _ | addendTy⟩
    · exact erase_restoreLinks_congr keepsShape_operand links (by simp only [Operand.erase, same])
    · refine (behind _).trans (erase_restoreLinks_congr keepsShape_operand links ?_)
      simp only [Link.operand, Operand.erase, same]

/-- Checking an expression keeps its shape. -/
theorem Expression.erase_check : (expression : Expression) →
    (expression.check context).tree.erase = expression.erase
  | ⟨left, .stop _, _⟩ => by
    have same : (left.check context []).tree.erase = left.erase := left.erase_check []
    rw [Expression.check]
    generalize left.check context [] = checked at same ⊢
    rcases checked with ⟨left', _ | _⟩ <;>
      simp only [Expression.erase, ExpressionTail.erase, same]
  | ⟨left, .more operator right _, _⟩ => by
    have sameLeft : (left.check context []).tree.erase = left.erase := left.erase_check []
    have sameRight : (right.check context []).tree.erase = right.erase := right.erase_check []
    rw [Expression.check]
    generalize left.check context [] = checkedLeft at sameLeft ⊢
    generalize right.check context [] = checkedRight at sameRight ⊢
    rcases checkedLeft with ⟨left', _ | leftTy⟩
    · simp only [Expression.erase, sameLeft]
    · rcases checkedRight with ⟨right', _ | rightTy⟩
      · simp only [Expression.erase, ExpressionTail.erase, sameLeft, sameRight]
      · dsimp only
        split <;> simp only [Expression.erase, ExpressionTail.erase, sameLeft, sameRight]

end

/-! ## Statements -/

/-- Names in front keep equal shapes equal. -/
theorem IdentifierList.erase_behind_congr (passed : List (Identifier × Leaf))
    {rest rest' : IdentifierList} (same : rest.erase = rest'.erase) :
    (behind passed rest).erase = (behind passed rest').erase := by
  refine erase_foldl_congr (fun step rest rest' same => ?_) passed same
  simp only [erase, IdentifierListTail.erase, same]

/-- Expressions in front keep equal shapes equal. -/
theorem ExpressionList.erase_behind_congr (passed : List (Expression × Leaf))
    {rest rest' : ExpressionList} (same : rest.erase = rest'.erase) :
    (behind passed rest).erase = (behind passed rest').erase := by
  refine erase_foldl_congr (fun step rest rest' same => ?_) passed same
  simp only [erase, ExpressionListTail.erase, same]

/-- Statements in front keep equal shapes equal. -/
theorem StatementList.erase_behind_congr (passed : List (Statement × Leaf))
    {rest rest' : StatementList} (same : rest.erase = rest'.erase) :
    (behind passed rest).erase = (behind passed rest').erase := by
  refine erase_foldl_congr (fun step rest rest' same => ?_) passed same
  simp only [erase, StatementListTail.erase, same]

/-- Checking a list of names keeps its shape. -/
theorem IdentifierList.erase_check :
    (names : IdentifierList) → (passed : List (Identifier × Leaf)) →
      (names.check context passed).tree.erase = (behind passed names).erase
  | ⟨head, .stop⟩, passed => by
    have same := head.erase_check context
    rw [check]
    generalize head.check context = checked at same ⊢
    rcases checked with ⟨head', _ | _⟩ <;>
      exact erase_behind_congr passed (by simp only [erase, same])
  | ⟨head, .more comma rest⟩, passed => by
    have same := head.erase_check context
    rw [check]
    generalize head.check context = checked at same ⊢
    rcases checked with ⟨head', _ | _⟩
    · exact erase_behind_congr passed (by simp only [erase, same])
    · exact (erase_check rest _).trans (erase_behind_congr passed (by simp only [erase, same]))

/-- Checking an expression list keeps its shape. -/
theorem ExpressionList.erase_check :
    (expressions : ExpressionList) → (passed : List (Expression × Leaf)) →
      (expressions.check context passed).tree.erase = (behind passed expressions).erase
  | ⟨head, .stop⟩, passed => by
    have same := head.erase_check context
    rw [check]
    generalize head.check context = checked at same ⊢
    rcases checked with ⟨head', _ | _⟩ <;>
      exact erase_behind_congr passed (by simp only [erase, same])
  | ⟨head, .more comma rest⟩, passed => by
    have same := head.erase_check context
    rw [check]
    generalize head.check context = checked at same ⊢
    rcases checked with ⟨head', _ | _⟩
    · exact erase_behind_congr passed (by simp only [erase, same])
    · exact (erase_check rest _).trans (erase_behind_congr passed (by simp only [erase, same]))

/-- Checking an assignment keeps its shape. -/
theorem Assignment.erase_check (assignment : Assignment) :
    (assignment.check context).tree.erase = assignment.erase := by
  obtain ⟨target, asWord, value⟩ := assignment
  have sameTarget := target.erase_check context
  have sameValue := value.erase_check context
  rw [check]
  dsimp only
  generalize target.check context = checkedTarget at sameTarget ⊢
  generalize value.check context = checkedValue at sameValue ⊢
  rcases checkedTarget with ⟨target', _ | targetTy⟩
  · simp only [erase, sameTarget]
  · rcases checkedValue with ⟨value', _ | valueTy⟩
    · simp only [erase, sameTarget, sameValue]
    · dsimp only
      split <;> simp only [erase, sameTarget, sameValue]

mutual

/-- Checking a statement keeps its shape, however deep it nests. -/
theorem Statement.erase_check : (statement : Statement) →
    (statement.check context).tree.erase = statement.erase
  | .assignment tree => by
    simp only [Statement.check, Statement.erase, tree.erase_check]
  | .nestedBlock ⟨beginWord, statements, endWord⟩ => by
    have same : (statements.check context []).tree.erase = statements.erase :=
      statements.erase_check []
    simp only [Statement.check, NestedBlock.check, Statement.erase, NestedBlock.erase, same]
  | .condition ⟨ifWord, test, thenWord, branch, tail⟩ => by
    have sameTest := test.erase_check context
    have sameBranch := branch.erase_check
    have sameTail := tail.erase_check
    rw [Statement.check, Condition.check]
    generalize test.check context = checkedTest at sameTest ⊢
    generalize branch.check context = checkedBranch at sameBranch ⊢
    rcases checkedTest with ⟨test', _ | _⟩
    · simp only [Statement.erase, Condition.erase, sameTest]
    · rcases checkedBranch with ⟨branch', _ | _⟩ <;>
        simp only [Statement.erase, Condition.erase, sameTest, sameBranch, sameTail]
  | .forLoop ⟨forWord, start, toWord, limit, doWord, body⟩ => by
    have sameStart := start.erase_check context
    have sameLimit := limit.erase_check context
    have sameBody := body.erase_check
    rw [Statement.check, ForLoop.check]
    generalize start.check context = checkedStart at sameStart ⊢
    generalize limit.check context = checkedLimit at sameLimit ⊢
    rcases checkedStart with ⟨start', _ | _⟩
    · simp only [Statement.erase, ForLoop.erase, sameStart]
    · rcases checkedLimit with ⟨limit', _ | _⟩ <;>
        simp only [Statement.erase, ForLoop.erase, sameStart, sameLimit, sameBody]
  | .whileLoop ⟨whileWord, test, doWord, body⟩ => by
    have sameTest := test.erase_check context
    have sameBody := body.erase_check
    rw [Statement.check, WhileLoop.check]
    generalize test.check context = checkedTest at sameTest ⊢
    rcases checkedTest with ⟨test', _ | _⟩ <;>
      simp only [Statement.erase, WhileLoop.erase, sameTest, sameBody]
  | .reading ⟨word, opening, names, closing⟩ => by
    have same : (names.check context []).tree.erase = names.erase := names.erase_check context []
    simp only [Statement.check, Reading.check, Statement.erase, Reading.erase, same]
  | .writing ⟨word, opening, expressions, closing⟩ => by
    have same : (expressions.check context []).tree.erase = expressions.erase :=
      expressions.erase_check context []
    simp only [Statement.check, Writing.check, Statement.erase, Writing.erase, same]
  | .skip separators inner => by
    simp only [Statement.check, Statement.erase, inner.erase_check]
  | .empty => rfl

/-- Checking a statement list keeps its shape. -/
theorem StatementList.erase_check :
    (statements : StatementList) → (passed : List (Statement × Leaf)) →
      (statements.check context passed).tree.erase = (StatementList.behind passed statements).erase
  | ⟨head, .stop⟩, passed => by
    rw [StatementList.check]
    refine StatementList.erase_behind_congr passed ?_
    simp only [StatementList.erase, head.erase_check]
  | ⟨head, .more separator rest⟩, passed => by
    have same := head.erase_check
    have behind := fun step => rest.erase_check (step :: passed)
    rw [StatementList.check]
    generalize head.check context = checked at same ⊢
    rcases checked with ⟨head', _ | _⟩
    · exact StatementList.erase_behind_congr passed (by simp only [StatementList.erase, same])
    · refine (behind _).trans (StatementList.erase_behind_congr passed ?_)
      simp only [StatementList.erase, same]

/-- Checking an `else` branch keeps its shape. -/
theorem ConditionTail.erase_check : (tail : ConditionTail) →
    (tail.check context).tree.erase = tail.erase
  | .stop => rfl
  | .more elseWord branch => by
    simp only [ConditionTail.check, ConditionTail.erase, branch.erase_check]

end

/-! ## Programs -/

/-- Declaring names keeps the shape of their list. -/
theorem IdentifierList.erase_declare (ty : DataType) :
    (names : IdentifierList) → (symbols : SymbolTable) → (passed : List (Identifier × Leaf)) →
      (names.declare ty symbols passed).tree.erase = (behind passed names).erase
  | ⟨head, .stop⟩, symbols, passed => by
    rw [declare]
    split
    · rfl
    · exact erase_behind_congr passed rfl
  | ⟨head, .more comma rest⟩, symbols, passed => by
    rw [declare]
    split
    · rfl
    · exact (erase_declare ty rest _ _).trans (erase_behind_congr passed rfl)

/-- Checking a declaration keeps its shape. -/
theorem Declaration.erase_check (symbols : SymbolTable) (declaration : Declaration) :
    (declaration.check symbols).tree.erase = declaration.erase := by
  rw [check]
  dsimp only
  split
  · rfl
  · rename_i ty _
    have same : (declaration.identifiers.declare ty symbols []).tree.erase =
        declaration.identifiers.erase :=
      declaration.identifiers.erase_declare ty symbols []
    simp only [erase, same]

/-- Checking an item keeps its shape. -/
theorem ProgramItem.erase_check (item : ProgramItem) :
    (item.check context).tree.erase = item.erase := by
  cases item with
  | declaration tree => exact congrArg ProgramItem.declaration (tree.erase_check context.symbols)
  | statement tree => exact congrArg ProgramItem.statement (tree.erase_check context)

/-- Items in front keep equal shapes equal. -/
theorem Program.erase_behind_congr (passed : List (ProgramItem × Leaf)) {rest rest' : Program}
    (same : rest.erase = rest'.erase) :
    (behind passed rest).erase = (behind passed rest').erase := by
  refine erase_foldl_congr (fun step rest rest' same => ?_) passed same
  simp only [erase, ProgramTail.erase, same]

/-- Checking a program keeps its shape, behind any items passed before. -/
theorem Program.erase_checkFrom (operators : OperatorTable) :
    (program : Program) → (symbols : SymbolTable) → (passed : List (ProgramItem × Leaf)) →
      (program.checkFrom operators symbols passed).tree.erase = (behind passed program).erase
  | ⟨item, .stop⟩, symbols, passed => by
    rw [checkFrom]
    refine erase_behind_congr passed ?_
    simp only [erase, item.erase_check]
  | ⟨item, .more separator rest⟩, symbols, passed => by
    have same := item.erase_check ⟨operators, symbols⟩
    rw [checkFrom]
    generalize item.check ⟨operators, symbols⟩ = checked at same ⊢
    rcases checked with ⟨item', later, _ | _⟩
    · exact erase_behind_congr passed (by simp only [erase, same])
    · exact (erase_checkFrom operators rest _ _).trans
        (erase_behind_congr passed (by simp only [erase, same]))

/-- The analysis changes nothing of a program but its annotations, be it accepted or rejected. -/
theorem Program.erase_tree_check (program : Program) :
    (program.check context).tree.erase = program.erase :=
  erase_checkFrom context.operators program context.symbols []

end DimLang
