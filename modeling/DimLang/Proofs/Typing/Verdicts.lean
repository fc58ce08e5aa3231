import DimLang.Proofs.Typing.Agreement
import DimLang.Proofs.Typing.Annotations
import DimLang.Proofs.Typing.Violations

/-!
# Verdicts of the rules

The rules of names and types report the first violation. A rule judges a tree if it yields a result
for a sound tree and the error of the first violation for any other (`Node.Judged`). A node is
judged by judging its parts from left to right and then, if there is a rule about it, the node
itself.

- `Statement.infer_judged`: the rules judge statements, and with them expressions
- `Program.exists_firstViolation`: a program that is rejected has a first violation with this error
-/

namespace DimLang

/-! ## Expressions -/

namespace Node

variable {context : TypingContext} {node child : Node} {before after : List Node} {α β : Type}

/-- The error is that of the first violation in the tree. -/
def Fails (context : TypingContext) (node : Node) (error : SemanticError) : Prop :=
  ∃ front token, node.FirstViolation context error front token

/-- The rule judges the tree: it yields a result if the tree is sound, or else the error of the
first violation. -/
def Judged (context : TypingContext) (node : Node) (rule : Except SemanticError α) : Prop :=
  Delivers (node.Fails context) (fun _ => node.Sound context) rule

/-- A tree is sound if it is clean here and its children are sound. -/
theorem sound_iff :
    node.Sound context ↔ node.Clean context ∧ ∀ child ∈ node.children, child.Sound context :=
  everywhere_iff

/-- An error judges a tree if it is that of the first violation. -/
theorem FirstViolation.judged {error : SemanticError} {front : List Token} {token : Token}
    (first : node.FirstViolation context error front token) :
    node.Judged context (.error error : Except SemanticError α) :=
  Exists.intro front ⟨token, first⟩

/-- A node is judged by judging one part after the other. What follows knows the result of the
part, since the types of the parts decide about the node. -/
theorem Judged.bind {rule : Except SemanticError α} {next : α → Except SemanticError β}
    (judged : child.Judged context rule) (before : List Node)
    (split : node.children = before ++ child :: after)
    (sound : ∀ sibling ∈ before, sibling.Sound context)
    (step : ∀ result, rule = .ok result → child.Sound context →
      node.Judged context (next result)) : node.Judged context (rule >>= next) := by
  cases rule with
  | ok result => exact step result rfl judged
  | error error =>
    obtain ⟨front, token, first⟩ := judged
    exact (FirstViolation.inside split sound first).judged

/-- What is made of the result does not matter. -/
theorem Judged.map {rule : Except SemanticError α} (judged : node.Judged context rule)
    (finish : α → β) : node.Judged context (rule >>= fun result => pure (finish result)) := by
  cases rule with
  | ok result => exact judged
  | error error => exact judged

/-- There is a rule about the node itself. -/
def Ruled : Node → Prop
  | identifier _ => True
  | factor ⟨.not _ _, _⟩ => True
  | addend ⟨_, .more _ _ _, _⟩ => True
  | operand ⟨_, .more _ _ _, _⟩ => True
  | expression ⟨_, .more _ _ _, _⟩ => True
  | assignment _ => True
  | _ => False

/-- A node without a rule is clean. -/
theorem clean_of_not_ruled (free : ¬ node.Ruled) : node.Clean context := by
  intro error front token violates
  apply free
  cases violates with
  | operands operation => cases operation <;> exact trivial
  | _ => exact trivial

/-- A node that no rule is about is judged by its only part that may. -/
theorem Judged.wrap {rule : Except SemanticError α} (judged : child.Judged context rule)
    (before : List Node) (split : node.children = before ++ child :: after)
    (sound : ∀ sibling ∈ before ++ after, sibling.Sound context) (free : ¬ node.Ruled) :
    node.Judged context rule := by
  cases rule with
  | ok result =>
    refine sound_iff.mpr ⟨clean_of_not_ruled free, ?_⟩
    rw [split]
    intro part member
    rcases List.mem_append.mp member with earlier | later
    · exact sound part (List.mem_append_left after earlier)
    · rcases List.mem_cons.mp later with rfl | later
      · exact judged
      · exact sound part (List.mem_append_right before later)
  | error error =>
    obtain ⟨front, token, first⟩ := judged
    have earlier : ∀ sibling ∈ before, sibling.Sound context :=
      fun sibling member => sound sibling (List.mem_append_left after member)
    exact (FirstViolation.inside split earlier first).judged

/-- A single node without a rule is sound. -/
theorem sound_of_children_nil (free : ¬ node.Ruled) (single : node.children = []) :
    node.Sound context :=
  (everywhere_iff_of_children single).mpr (clean_of_not_ruled free)

/-- A leaf is sound. -/
@[simp] theorem sound_leaf (tree : Leaf) : (leaf tree).Sound context :=
  sound_of_children_nil id rfl

/-- The operands of an operation have one type each. -/
theorem Operation.unique {left left' : Node} {leftTy leftTy' rightTy rightTy' : DataType}
    {operator operator' : Token} (operation : node.Operation context left leftTy operator rightTy)
    (operation' : node.Operation context left' leftTy' operator' rightTy') :
    leftTy = leftTy' ∧ operator = operator' ∧ rightTy = rightTy' := by
  cases operation
  all_goals
    rename_i left right
    cases operation'
    rename_i left' right'
    rw [left] at left'
    rw [right] at right'
    cases left'
    cases right'
    exact ⟨rfl, rfl, rfl⟩

/-- Behind its operands, an operation is judged by the operators. -/
theorem Operation.judged {left : Node} {leftTy rightTy : DataType} {operator : Token}
    (operation : node.Operation context left leftTy operator rightTy)
    (sound : ∀ child ∈ node.children, child.Sound context) (finish : DataType → α) :
    node.Judged context
      (operationType context.operators leftTy operator rightTy >>= fun ty => pure (finish ty)) := by
  rw [operationType]
  cases found : context.operators.result? leftTy operator.text rightTy with
  | none =>
    exact (FirstViolation.here sound (.operands operation found)).judged
  | some ty =>
    refine sound_iff.mpr ⟨?_, sound⟩
    intro error front token violates
    cases violates with
    | operands operation' undefined =>
      obtain ⟨rfl, rfl, rfl⟩ := operation.unique operation'
      rw [found] at undefined
      cases undefined
    | _ => cases operation

end Node

variable {context : TypingContext}

/-- A name is judged by whether it is declared. -/
theorem Identifier.infer_judged (name : Identifier) :
    (Node.identifier name).Judged context (name.infer context) := by
  rw [infer]
  cases found : context.symbols.get? name.token.text with
  | none =>
    exact (Node.FirstViolation.here (List.forall_mem_nil _) (.undeclared found)).judged
  | some ty =>
    refine Node.sound_iff.mpr ⟨?_, List.forall_mem_nil _⟩
    intro error front token violates
    cases violates with
    | undeclared unknown =>
      rw [found] at unknown
      cases unknown
    | operands operation => cases operation

mutual

/-- A factor's result is its judgement, and so for the nodes below that hold one. -/
theorem Factor.infer_judged :
    (factor : Factor) → (Node.factor factor).Judged context (factor.infer context)
  | ⟨.identifier name, ty⟩ => by
    rw [Factor.infer]
    exact (name.infer_judged.wrap [] rfl (by simp) id).map _
  | ⟨.number number, ty⟩ => by
    rw [Factor.infer]
    have literal : (Node.literal number.literal).Sound context :=
      Node.sound_of_children_nil id rfl
    have inner : (Node.number number).Sound context :=
      Node.sound_iff.mpr ⟨Node.clean_of_not_ruled id, by simpa [Node.children] using literal⟩
    exact Node.sound_iff.mpr ⟨Node.clean_of_not_ruled id, by
      simpa [Node.children, Primary.children] using inner⟩
  | ⟨.bool literal, ty⟩ => by
    rw [Factor.infer]
    have inner : (Node.literal literal).Sound context := Node.sound_of_children_nil id rfl
    exact Node.sound_iff.mpr ⟨Node.clean_of_not_ruled id, by
      simpa [Node.children, Primary.children] using inner⟩
  | ⟨.not operator operand, ty⟩ => by
    rw [Factor.infer]
    refine operand.infer_judged.bind [.leaf operator] rfl (by simp) fun typed inferred sound => ?_
    have below : ∀ child ∈ (Node.factor ⟨.not operator operand, ty⟩).children,
        child.Sound context := by simp [Node.children, Primary.children, sound]
    split
    · rename_i float
      exact (Node.FirstViolation.here below (.negation inferred float)).judged
    · rename_i notFloat
      refine Node.sound_iff.mpr ⟨?_, below⟩
      intro error front token violates
      cases violates with
      | negation inferred' float =>
        rw [inferred] at inferred'
        cases inferred'
        exact notFloat float
      | operands operation => cases operation
  | ⟨.group opening expression closing, ty⟩ => by
    rw [Factor.infer]
    exact (expression.infer_judged.wrap [.leaf opening] rfl (by simp) id).map _

/-- An addend's result is its judgement. -/
theorem Addend.infer_judged :
    (addend : Addend) → (Node.addend addend).Judged context (addend.infer context)
  | ⟨factor, .stop tailTy, ty⟩ => by
    rw [Addend.infer]
    have tail : (Node.addendTail (.stop tailTy)).Sound context :=
      Node.sound_of_children_nil id rfl
    exact (factor.infer_judged.wrap [] rfl (by simpa using tail) id).map _
  | ⟨factor, .more operator rest tailTy, ty⟩ => by
    rw [Addend.infer]
    have behind : (Node.addendTail (.more operator rest tailTy)).Judged context
        (rest.infer context) :=
      rest.infer_judged.wrap [.leaf operator] rfl (by simp) id
    refine factor.infer_judged.bind [] rfl (by simp) fun typed left soundLeft => ?_
    refine behind.bind [.factor factor] rfl (by simpa using soundLeft)
      fun typedRest right soundTail => ?_
    exact (Node.Operation.product left right).judged
      (by simp [Node.children, soundLeft, soundTail]) _

/-- An operand's result is its judgement. -/
theorem Operand.infer_judged :
    (operand : Operand) → (Node.operand operand).Judged context (operand.infer context)
  | ⟨addend, .stop tailTy, ty⟩ => by
    rw [Operand.infer]
    have tail : (Node.operandTail (.stop tailTy)).Sound context :=
      Node.sound_of_children_nil id rfl
    exact (addend.infer_judged.wrap [] rfl (by simpa using tail) id).map _
  | ⟨addend, .more operator rest tailTy, ty⟩ => by
    rw [Operand.infer]
    have behind : (Node.operandTail (.more operator rest tailTy)).Judged context
        (rest.infer context) :=
      rest.infer_judged.wrap [.leaf operator] rfl (by simp) id
    refine addend.infer_judged.bind [] rfl (by simp) fun typed left soundLeft => ?_
    refine behind.bind [.addend addend] rfl (by simpa using soundLeft)
      fun typedRest right soundTail => ?_
    exact (Node.Operation.sum left right).judged
      (by simp [Node.children, soundLeft, soundTail]) _

/-- An expression's result is its judgement. -/
theorem Expression.infer_judged :
    (expression : Expression) →
      (Node.expression expression).Judged context (expression.infer context)
  | ⟨operand, .stop tailTy, ty⟩ => by
    rw [Expression.infer]
    have tail : (Node.expressionTail (.stop tailTy)).Sound context :=
      Node.sound_of_children_nil id rfl
    exact (operand.infer_judged.wrap [] rfl (by simpa using tail) id).map _
  | ⟨operand, .more operator other tailTy, ty⟩ => by
    rw [Expression.infer]
    have behind : (Node.expressionTail (.more operator other tailTy)).Judged context
        (other.infer context) :=
      other.infer_judged.wrap [.leaf operator] rfl (by simp) id
    refine operand.infer_judged.bind [] rfl (by simp) fun typed left soundLeft => ?_
    refine behind.bind [.operand operand] rfl (by simpa using soundLeft)
      fun typedOther right soundTail => ?_
    exact (Node.Operation.comparison left right).judged
      (by simp [Node.children, soundLeft, soundTail]) _

end

/-! ## Statements -/

/-- The result on a list of names is its judgement. -/
theorem IdentifierList.infer_judged :
    (names : IdentifierList) → (Node.identifierList names).Judged context (names.infer context)
  | ⟨head, .stop⟩ => by
    rw [IdentifierList.infer]
    have tail : (Node.identifierListTail .stop).Sound context := Node.sound_of_children_nil id rfl
    exact (head.infer_judged.wrap [] rfl (by simpa using tail) id).map _
  | ⟨head, .more comma rest⟩ => by
    rw [IdentifierList.infer]
    have behind : (Node.identifierListTail (.more comma rest)).Judged context
        (rest.infer context) :=
      rest.infer_judged.wrap [.leaf comma] rfl (by simp) id
    refine head.infer_judged.bind [] rfl (by simp) fun typed _ sound => ?_
    exact (behind.wrap [.identifier head] rfl (by simpa using sound) id).map _

/-- The result on an expression list is its judgement. -/
theorem ExpressionList.infer_judged :
    (expressions : ExpressionList) →
      (Node.expressionList expressions).Judged context (expressions.infer context)
  | ⟨head, .stop⟩ => by
    rw [ExpressionList.infer]
    have tail : (Node.expressionListTail .stop).Sound context := Node.sound_of_children_nil id rfl
    exact (head.infer_judged.wrap [] rfl (by simpa using tail) id).map _
  | ⟨head, .more comma rest⟩ => by
    rw [ExpressionList.infer]
    have behind : (Node.expressionListTail (.more comma rest)).Judged context
        (rest.infer context) :=
      rest.infer_judged.wrap [.leaf comma] rfl (by simp) id
    refine head.infer_judged.bind [] rfl (by simp) fun typed _ sound => ?_
    exact (behind.wrap [.expression head] rfl (by simpa using sound) id).map _

/-- An assignment's result is its judgement. -/
theorem Assignment.infer_judged (tree : Assignment) :
    (Node.assignment tree).Judged context (tree.infer context) := by
  rw [infer]
  refine tree.target.infer_judged.bind [] rfl (by simp) fun target left soundTarget => ?_
  refine tree.value.infer_judged.bind [.identifier tree.target, .leaf tree.asWord] rfl
    (by simpa using soundTarget) fun value right soundValue => ?_
  have below : ∀ child ∈ (Node.assignment tree).children, child.Sound context := by
    simp [Node.children, soundTarget, soundValue]
  split
  · rename_i fits
    refine Node.sound_iff.mpr ⟨?_, below⟩
    intro error front token violates
    cases violates with
    | assignment left' right' misfit =>
      rw [left] at left'
      rw [right] at right'
      cases left'
      cases right'
      exact misfit fits
    | operands operation => cases operation
  · rename_i misfit
    exact (Node.FirstViolation.here below (.assignment left right misfit)).judged

mutual

/-- A statement is sound, or the error is that of its first violation. -/
theorem Statement.infer_judged :
    (statement : Statement) → (Node.statement statement).Judged context (statement.infer context)
  | .assignment tree => by
    rw [Statement.infer]
    exact (tree.infer_judged.wrap [] rfl (by simp) id).map _
  | .nestedBlock ⟨beginWord, statements, endWord⟩ => by
    rw [Statement.infer]
    have block : (Node.nestedBlock ⟨beginWord, statements, endWord⟩).Judged context
        (statements.infer context) :=
      statements.infer_judged.wrap [.leaf beginWord] rfl (by simp) id
    exact (block.wrap [] rfl (by simp) id).map _
  | .condition ⟨ifWord, test, thenWord, branch, tail⟩ => by
    rw [Statement.infer]
    refine Node.Judged.wrap ?_ [] rfl (by simp) id
    refine test.infer_judged.bind [.leaf ifWord] rfl (by simp) fun _ _ soundTest => ?_
    refine branch.infer_judged.bind [.leaf ifWord, .expression test, .leaf thenWord] rfl
      (by simpa using soundTest) fun _ _ soundBranch => ?_
    exact (tail.infer_judged.wrap
      [.leaf ifWord, .expression test, .leaf thenWord, .statement branch] rfl
      (by simp [soundTest, soundBranch]) id).map _
  | .forLoop ⟨forWord, start, toWord, limit, doWord, body⟩ => by
    rw [Statement.infer]
    refine Node.Judged.wrap ?_ [] rfl (by simp) id
    refine start.infer_judged.bind [.leaf forWord] rfl (by simp) fun _ _ soundStart => ?_
    refine limit.infer_judged.bind [.leaf forWord, .assignment start, .leaf toWord] rfl
      (by simpa using soundStart) fun _ _ soundLimit => ?_
    exact (body.infer_judged.wrap
      [.leaf forWord, .assignment start, .leaf toWord, .expression limit, .leaf doWord] rfl
      (by simp [soundStart, soundLimit]) id).map _
  | .whileLoop ⟨whileWord, test, doWord, body⟩ => by
    rw [Statement.infer]
    refine Node.Judged.wrap ?_ [] rfl (by simp) id
    refine test.infer_judged.bind [.leaf whileWord] rfl (by simp) fun _ _ soundTest => ?_
    exact (body.infer_judged.wrap [.leaf whileWord, .expression test, .leaf doWord] rfl
      (by simpa using soundTest) id).map _
  | .reading ⟨word, opening, names, closing⟩ => by
    rw [Statement.infer]
    have reading : (Node.reading ⟨word, opening, names, closing⟩).Judged context
        (names.infer context) :=
      names.infer_judged.wrap [.leaf word, .leaf opening] rfl (by simp) id
    exact (reading.wrap [] rfl (by simp) id).map _
  | .writing ⟨word, opening, expressions, closing⟩ => by
    rw [Statement.infer]
    have writing : (Node.writing ⟨word, opening, expressions, closing⟩).Judged context
        (expressions.infer context) :=
      expressions.infer_judged.wrap [.leaf word, .leaf opening] rfl (by simp) id
    exact (writing.wrap [] rfl (by simp) id).map _
  | .skip separators inner => by
    rw [Statement.infer]
    exact (inner.infer_judged.wrap (separators.map .leaf) rfl
      (by simp) id).map _
  | .empty => Node.sound_of_children_nil id rfl

/-- The result on a statement list is its judgement, however its statements nest. -/
theorem StatementList.infer_judged :
    (statements : StatementList) →
      (Node.statementList statements).Judged context (statements.infer context)
  | ⟨head, .stop⟩ => by
    rw [StatementList.infer]
    have tail : (Node.statementListTail .stop).Sound context := Node.sound_of_children_nil id rfl
    exact (head.infer_judged.wrap [] rfl (by simpa using tail) id).map _
  | ⟨head, .more separator rest⟩ => by
    rw [StatementList.infer]
    have behind : (Node.statementListTail (.more separator rest)).Judged context
        (rest.infer context) :=
      rest.infer_judged.wrap [.leaf separator] rfl (by simp) id
    refine head.infer_judged.bind [] rfl (by simp) fun typed _ sound => ?_
    exact (behind.wrap [.statement head] rfl (by simpa using sound) id).map _

/-- The result on an `else` branch is its judgement. -/
theorem ConditionTail.infer_judged :
    (tail : ConditionTail) → (Node.conditionTail tail).Judged context (tail.infer context)
  | .stop => Node.sound_of_children_nil id rfl
  | .more elseWord branch => by
    rw [ConditionTail.infer]
    exact (branch.infer_judged.wrap [.leaf elseWord] rfl (by simp) id).map _

end

/-! ## Programs -/

section Declarations

variable {ty : DataType} {symbols : SymbolTable}

/-- A name in the table cannot be declared again. -/
theorem Identifier.declared_of_mem {name : Identifier}
    (known : name.token.text ∈ symbols.entries.map Prod.fst) :
    name.declared ty symbols = .error (.redeclared name.token.text name.token.line) := by
  have clash : symbols.declare name ty = _ := dif_pos known
  rw [declared_eq, clash]
  rfl

/-- A name that is not in the table is entered with its type. -/
theorem Identifier.declared_of_not_mem {name : Identifier}
    (fresh : name.token.text ∉ symbols.entries.map Prod.fst) :
    name.declared ty symbols = .ok (⟨name.token, ty⟩, symbols.insert name.token.text ty fresh) := by
  have added : symbols.declare name ty = _ := dif_neg fresh
  rw [declared_eq, added]
  rfl

/-- A list is declared, or the error is about the first name that is declared already. -/
theorem IdentifierList.declared_judged :
    (names : IdentifierList) → (symbols : SymbolTable) →
      Delivers
        (fun error => ∃ front token, names.Redeclares ty symbols front token ∧
          error = .redeclared token.text token.line)
        (fun _ => True) (names.declared ty symbols)
  | ⟨head, .stop⟩, symbols => by
    rw [declared]
    by_cases known : head.token.text ∈ symbols.entries.map Prod.fst
    · rw [Identifier.declared_of_mem known]
      exact Exists.intro [] ⟨head.token, .here known, rfl⟩
    · rw [Identifier.declared_of_not_mem known]
      exact trivial
  | ⟨head, .more comma rest⟩, symbols => by
    rw [declared]
    by_cases known : head.token.text ∈ symbols.entries.map Prod.fst
    · rw [Identifier.declared_of_mem known]
      exact Exists.intro [] ⟨head.token, .here known, rfl⟩
    · rw [Identifier.declared_of_not_mem known]
      change Delivers _ _ (rest.declared ty (symbols.insert head.token.text ty known) >>= _)
      refine Delivers.bind ((rest.declared_judged _).widen ?_) ?_
      · rintro _ ⟨front, token, others, rfl⟩
        exact ⟨_, token, .later known others, rfl⟩
      · rintro ⟨rest, later⟩ _
        exact trivial

end Declarations

/-- The names of a declaration stand among its children. -/
theorem Declaration.exists_split_identifiers (tree : Declaration) :
    ∃ before after, (Node.declaration tree).children =
      before ++ .identifierList tree.identifiers :: after :=
  ⟨_, _, rfl⟩

/-- The type name of a declaration is its last child. -/
theorem Declaration.exists_split_typeName (tree : Declaration) :
    ∃ before, (Node.declaration tree).children = before ++ [.leaf tree.typeName] := by
  rw [Node.children, List.append_cons, ← List.append_assoc]
  exact ⟨_, rfl⟩

/-- The error of an item is its first violation. -/
theorem ProgramItem.infer_judged (item : ProgramItem) :
    Delivers (fun error => ∃ front token, item.FirstViolation context error front token)
      (fun _ => True) (item.infer context) := by
  cases item with
  | statement tree =>
    rw [infer]
    refine Delivers.bind (tree.infer_judged.widen ?_) fun _ _ => trivial
    rintro error ⟨front, token, first⟩
    exact ⟨front, token, .statement first⟩
  | declaration tree =>
    rw [infer, Declaration.infer]
    cases named : DataType.ofTypeName? tree.typeName.token.text with
    | none =>
      obtain ⟨before, split⟩ := tree.exists_split_typeName
      exact Exists.intro _ ⟨_, .unknownType named split⟩
    | some ty =>
      obtain ⟨before, after, split⟩ := tree.exists_split_identifiers
      rw [bind_assoc]
      refine Delivers.bind ((tree.identifiers.declared_judged context.symbols).widen ?_) ?_
      · rintro _ ⟨front, token, clash, rfl⟩
        exact ⟨_, token, .redeclared named split clash⟩
      · rintro ⟨names, later⟩ _
        exact trivial

namespace Program

variable {operators : OperatorTable}

/-- The rules judge a program: it is typed, or the error is that of its first violation. -/
theorem infer_judged :
    (program : Program) → (symbols : SymbolTable) →
      Delivers
        (fun error => ∃ front token, program.FirstViolation operators symbols error front token)
        (fun _ => True) (program.infer operators symbols)
  | ⟨item, .stop⟩, symbols => by
    rw [infer]
    refine Delivers.bind (item.infer_judged.widen ?_) fun _ _ => trivial
    rintro error ⟨front, token, first⟩
    exact ⟨front, token, .here first⟩
  | ⟨item, .more separator rest⟩, symbols => by
    have judged := @ProgramItem.infer_judged ⟨operators, symbols⟩ item
    rw [infer]
    rcases accepted : item.infer ⟨operators, symbols⟩ with error | ⟨typed, middle⟩
    · rw [accepted] at judged
      obtain ⟨front, token, first⟩ := judged
      exact Exists.intro front ⟨token, .here first⟩
    · change Delivers _ _ (rest.infer operators middle >>= _)
      refine Delivers.bind ((rest.infer_judged middle).widen ?_) fun _ _ => trivial
      rintro error ⟨front, token, others⟩
      exact ⟨_, token, .later accepted others⟩

/-- The error of a program is its first violation. -/
theorem exists_firstViolation {program : Program} {symbols : SymbolTable} {error : SemanticError}
    (failed : program.infer operators symbols = .error error) :
    ∃ front token, program.FirstViolation operators symbols error front token := by
  have judged := @infer_judged operators program symbols
  rw [failed] at judged
  exact judged

end Program

end DimLang
