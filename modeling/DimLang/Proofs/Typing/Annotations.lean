import DimLang.Proofs.Syntax.WellFormed
import DimLang.Proofs.Typing.Rules

/-!
# Annotations of typed trees

The rules of types leave nothing untyped. In a typed tree every name, constant and expression has a
proper type, a tail has the type of what it continues with or none at all, every name has the type
that the symbol table gives it, and a value fits its target. Where a rule is violated instead, the
types that the error names are proper.

Both are proved together, by recursion on the tree, since the operands of an operator are typed
before an error about them is possible. The tree has to be grammatical: the type of a constant
comes from the kind of its token.

- `Statement.infer_delivers`: a typed statement is annotated everywhere
-/

namespace DimLang

/-! ## What is expected of a result -/

/-- The annotation of the node is as it should be in a typed tree. -/
def Node.Annotated : Node → Prop
  | identifier tree => tree.ty.isResolved
  | literal tree => tree.ty.isResolved
  | number tree => tree.ty.isResolved
  | factor tree => tree.ty.isResolved
  | addend tree => tree.ty.isResolved
  | addendTail (.stop ty) => ty = .none
  | addendTail (.more _ rest ty) => ty = rest.ty
  | operand tree => tree.ty.isResolved
  | operandTail (.stop ty) => ty = .none
  | operandTail (.more _ rest ty) => ty = rest.ty
  | expression tree => tree.ty.isResolved
  | expressionTail (.stop ty) => ty = .none
  | expressionTail (.more _ right ty) => ty = right.ty
  | assignment tree =>
    tree.target.ty = tree.value.ty ∨ tree.target.ty = .float ∧ tree.value.ty = .int
  | _ => True

/-- A name has the type that the table gives it. -/
def Node.NamedIn (symbols : SymbolTable) : Node → Prop
  | identifier tree => symbols.get? tree.name = some tree.ty
  | _ => True

/-- The node is annotated, by the types of the table. -/
def Node.TypedIn (symbols : SymbolTable) (node : Node) : Prop :=
  node.Annotated ∧ node.NamedIn symbols

/-- The error is a violation of the rules, and the types that it names are proper. A type name that
the language does not have is no violation of the rules. -/
def SemanticError.Proper : SemanticError → Prop
  | redeclared _ _ => True
  | undeclared _ _ => True
  | incompatibleOperands left _ right _ => left.isResolved ∧ right.isResolved
  | incompatibleAssignment _ target value _ => target.isResolved ∧ value.isResolved
  | undefinedUnary _ operand _ => operand.isResolved
  | unknownType _ _ => False

/-- The result is good, or else an error of the given sort. -/
def Delivers {α : Type} (sort : SemanticError → Prop) (good : α → Prop) :
    Except SemanticError α → Prop
  | .ok result => good result
  | .error error => sort error

section Delivers

variable {α β : Type} {sort wider : SemanticError → Prop} {good : α → Prop} {better : β → Prop}
  {rule : Except SemanticError α} {next : α → Except SemanticError β}

/-- A rule delivers if its first step does and the next one does on what that gives. -/
theorem Delivers.bind (delivers : Delivers sort good rule)
    (step : ∀ result, good result → Delivers sort better (next result)) :
    Delivers sort better (rule >>= next) := by
  cases rule with
  | ok result => exact step result delivers
  | error error => exact delivers

/-- More errors may be allowed. -/
theorem Delivers.widen (delivers : Delivers sort good rule)
    (wide : ∀ error, sort error → wider error) : Delivers wider good rule := by
  cases rule with
  | ok result => exact delivers
  | error error => exact wide error delivers

end Delivers

/-- A type that is found stands in the table. -/
theorem SymbolTable.mem_of_get?_eq_some {symbols : SymbolTable} {name : String} {ty : DataType}
    (found : symbols.get? name = some ty) : (name, ty) ∈ symbols.entries := by
  rw [get?, List.lookup_eq_some_iff] at found
  obtain ⟨before, after, entries, _⟩ := found
  rw [entries]
  exact List.mem_append_right before List.mem_cons_self

/-- The operators yield proper types, and the names have proper types. -/
structure TypingContext.Proper (context : TypingContext) : Prop where
  operators : ∀ {left operator right ty},
    context.operators.result? left operator right = some ty → ty.isResolved
  symbols : ∀ entry ∈ context.symbols.entries, entry.2.isResolved

variable {context : TypingContext}

/-! ## Expressions -/

/-- A name is given the type it is entered with. -/
theorem Identifier.infer_delivers (proper : context.Proper) (name : Identifier) :
    Delivers SemanticError.Proper (fun typed => Node.TypedIn context.symbols (.identifier typed))
      (name.infer context) := by
  rw [infer]
  cases found : context.symbols.get? name.token.text with
  | some ty => exact ⟨proper.symbols _ (SymbolTable.mem_of_get?_eq_some found), found⟩
  | none => exact trivial

/-- A literal of the grammar has a type. -/
theorem Literal.resolved_infer {literal : Literal} (constant : literal.token.kind.IsConstant) :
    literal.infer.ty.isResolved := by
  rw [infer, lexicalType]
  rcases constant with kind | kind | kind <;> rw [kind] <;> rfl

/-- An operation on resolved types has a resolved type, or else a proper error. -/
theorem operationType_delivers (proper : context.Proper) {left right : DataType} (operator : Token)
    (leftResolved : left.isResolved) (rightResolved : right.isResolved) :
    Delivers SemanticError.Proper (fun ty => ty.isResolved)
      (operationType context.operators left operator right) := by
  rw [operationType]
  cases found : context.operators.result? left operator.text right with
  | some ty => exact proper.operators found
  | none => exact ⟨leftResolved, rightResolved⟩

/-- Marks are not typed. -/
@[simp] theorem Node.typedIn_leaf {symbols : SymbolTable} (tree : Leaf) :
    Node.TypedIn symbols (.leaf tree) :=
  ⟨trivial, trivial⟩

mutual

/-- A typed factor is annotated at every node, and so are the nodes below that hold one. -/
theorem Factor.infer_delivers (proper : context.Proper) :
    (factor : Factor) → (Node.factor factor).Everywhere Node.Grammatical →
      Delivers SemanticError.Proper
        (fun typed => (Node.factor typed).Everywhere (Node.TypedIn context.symbols))
        (factor.infer context)
  | ⟨.identifier name, _⟩, _ => by
    rw [Factor.infer]
    refine (name.infer_delivers proper).bind fun name typed => ?_
    exact Node.everywhere_iff.mpr ⟨⟨typed.1, trivial⟩, by
      simpa [Node.children, Primary.children] using typed⟩
  | ⟨.number number, _⟩, grammatical => by
    rw [Factor.infer]
    have inside : (Node.number number).Everywhere Node.Grammatical :=
      grammatical.child (List.mem_singleton.mpr rfl)
    have constant : (Node.literal number.literal).Everywhere Node.Grammatical :=
      inside.child (List.mem_singleton.mpr rfl)
    have resolved := number.literal.resolved_infer constant.here
    have typed : (Node.number ⟨number.literal.infer, number.literal.infer.ty⟩).Everywhere
        (Node.TypedIn context.symbols) :=
      Node.everywhere_iff.mpr ⟨⟨resolved, trivial⟩, by
        simpa [Node.children] using ⟨resolved, trivial⟩⟩
    exact Node.everywhere_iff.mpr ⟨⟨resolved, trivial⟩, by
      simpa [Node.children, Primary.children] using typed⟩
  | ⟨.bool literal, _⟩, grammatical => by
    rw [Factor.infer]
    have constant : (Node.literal literal).Everywhere Node.Grammatical :=
      grammatical.child (List.mem_singleton.mpr rfl)
    have resolved := literal.resolved_infer constant.here
    exact Node.everywhere_iff.mpr ⟨⟨resolved, trivial⟩, by
      simpa [Node.children, Primary.children] using ⟨resolved, trivial⟩⟩
  | ⟨.not operator operand, _⟩, grammatical => by
    rw [Factor.infer]
    have part : (Node.factor operand).Everywhere Node.Grammatical :=
      grammatical.child (by simp [Node.children, Primary.children])
    refine (operand.infer_delivers proper part).bind fun operand typed => ?_
    split
    · exact rfl
    · exact Node.everywhere_iff.mpr ⟨⟨typed.here.1, trivial⟩, by
        simp [Node.children, Primary.children, typed]⟩
  | ⟨.group opening expression closing, _⟩, grammatical => by
    rw [Factor.infer]
    have part : (Node.expression expression).Everywhere Node.Grammatical :=
      grammatical.child (by simp [Node.children, Primary.children])
    refine (expression.infer_delivers proper part).bind fun expression typed => ?_
    exact Node.everywhere_iff.mpr ⟨⟨typed.here.1, trivial⟩, by
      simp [Node.children, Primary.children, typed]⟩

/-- A typed addend is annotated at every node. -/
theorem Addend.infer_delivers (proper : context.Proper) :
    (addend : Addend) → (Node.addend addend).Everywhere Node.Grammatical →
      Delivers SemanticError.Proper
        (fun typed => (Node.addend typed).Everywhere (Node.TypedIn context.symbols))
        (addend.infer context)
  | ⟨factor, .stop _, _⟩, grammatical => by
    rw [Addend.infer]
    have head : (Node.factor factor).Everywhere Node.Grammatical :=
      grammatical.child (by simp [Node.children])
    refine (factor.infer_delivers proper head).bind fun factor typed => ?_
    have tail : (Node.addendTail (.stop .none)).Everywhere (Node.TypedIn context.symbols) :=
      (Node.everywhere_iff_of_children rfl).mpr ⟨rfl, trivial⟩
    exact Node.everywhere_iff.mpr ⟨⟨typed.here.1, trivial⟩, by simp [Node.children, typed, tail]⟩
  | ⟨factor, .more operator rest tailTy, _⟩, grammatical => by
    rw [Addend.infer]
    have head : (Node.factor factor).Everywhere Node.Grammatical :=
      grammatical.child (by simp [Node.children])
    have behind : (Node.addendTail (.more operator rest tailTy)).Everywhere Node.Grammatical :=
      grammatical.child (by simp [Node.children])
    refine (factor.infer_delivers proper head).bind fun factor typed => ?_
    refine (rest.infer_delivers proper (behind.child (by simp [Node.children]))).bind
      fun rest typedRest => ?_
    refine (operationType_delivers proper operator.token typed.here.1 typedRest.here.1).bind
      fun ty resolved => ?_
    have tail : (Node.addendTail (.more operator rest rest.ty)).Everywhere
        (Node.TypedIn context.symbols) :=
      Node.everywhere_iff.mpr ⟨⟨rfl, trivial⟩, by simp [Node.children, typedRest]⟩
    exact Node.everywhere_iff.mpr ⟨⟨resolved, trivial⟩, by simp [Node.children, typed, tail]⟩

/-- A typed operand is annotated at every node. -/
theorem Operand.infer_delivers (proper : context.Proper) :
    (operand : Operand) → (Node.operand operand).Everywhere Node.Grammatical →
      Delivers SemanticError.Proper
        (fun typed => (Node.operand typed).Everywhere (Node.TypedIn context.symbols))
        (operand.infer context)
  | ⟨addend, .stop _, _⟩, grammatical => by
    rw [Operand.infer]
    have head : (Node.addend addend).Everywhere Node.Grammatical :=
      grammatical.child (by simp [Node.children])
    refine (addend.infer_delivers proper head).bind fun addend typed => ?_
    have tail : (Node.operandTail (.stop .none)).Everywhere (Node.TypedIn context.symbols) :=
      (Node.everywhere_iff_of_children rfl).mpr ⟨rfl, trivial⟩
    exact Node.everywhere_iff.mpr ⟨⟨typed.here.1, trivial⟩, by simp [Node.children, typed, tail]⟩
  | ⟨addend, .more operator rest tailTy, _⟩, grammatical => by
    rw [Operand.infer]
    have head : (Node.addend addend).Everywhere Node.Grammatical :=
      grammatical.child (by simp [Node.children])
    have behind : (Node.operandTail (.more operator rest tailTy)).Everywhere Node.Grammatical :=
      grammatical.child (by simp [Node.children])
    refine (addend.infer_delivers proper head).bind fun addend typed => ?_
    refine (rest.infer_delivers proper (behind.child (by simp [Node.children]))).bind
      fun rest typedRest => ?_
    refine (operationType_delivers proper operator.token typed.here.1 typedRest.here.1).bind
      fun ty resolved => ?_
    have tail : (Node.operandTail (.more operator rest rest.ty)).Everywhere
        (Node.TypedIn context.symbols) :=
      Node.everywhere_iff.mpr ⟨⟨rfl, trivial⟩, by simp [Node.children, typedRest]⟩
    exact Node.everywhere_iff.mpr ⟨⟨resolved, trivial⟩, by simp [Node.children, typed, tail]⟩

/-- A typed expression is annotated at every node. -/
theorem Expression.infer_delivers (proper : context.Proper) :
    (expression : Expression) → (Node.expression expression).Everywhere Node.Grammatical →
      Delivers SemanticError.Proper
        (fun typed => (Node.expression typed).Everywhere (Node.TypedIn context.symbols))
        (expression.infer context)
  | ⟨left, .stop _, _⟩, grammatical => by
    rw [Expression.infer]
    have head : (Node.operand left).Everywhere Node.Grammatical :=
      grammatical.child (by simp [Node.children])
    refine (left.infer_delivers proper head).bind fun left typed => ?_
    have tail : (Node.expressionTail (.stop .none)).Everywhere (Node.TypedIn context.symbols) :=
      (Node.everywhere_iff_of_children rfl).mpr ⟨rfl, trivial⟩
    exact Node.everywhere_iff.mpr ⟨⟨typed.here.1, trivial⟩, by simp [Node.children, typed, tail]⟩
  | ⟨left, .more operator right tailTy, _⟩, grammatical => by
    rw [Expression.infer]
    have head : (Node.operand left).Everywhere Node.Grammatical :=
      grammatical.child (by simp [Node.children])
    have behind : (Node.expressionTail (.more operator right tailTy)).Everywhere Node.Grammatical :=
      grammatical.child (by simp [Node.children])
    refine (left.infer_delivers proper head).bind fun left typed => ?_
    refine (right.infer_delivers proper (behind.child (by simp [Node.children]))).bind
      fun right typedRight => ?_
    refine (operationType_delivers proper operator.token typed.here.1 typedRight.here.1).bind
      fun ty resolved => ?_
    have tail : (Node.expressionTail (.more operator right right.ty)).Everywhere
        (Node.TypedIn context.symbols) :=
      Node.everywhere_iff.mpr ⟨⟨rfl, trivial⟩, by simp [Node.children, typedRight]⟩
    exact Node.everywhere_iff.mpr ⟨⟨resolved, trivial⟩, by simp [Node.children, typed, tail]⟩

end

/-! ## Statements -/

/-- A typed list of names is annotated at every node. -/
theorem IdentifierList.infer_delivers (proper : context.Proper) :
    (names : IdentifierList) →
      Delivers SemanticError.Proper
        (fun typed => (Node.identifierList typed).Everywhere (Node.TypedIn context.symbols))
        (names.infer context)
  | ⟨head, .stop⟩ => by
    rw [IdentifierList.infer]
    refine (head.infer_delivers proper).bind fun head typed => ?_
    have tail : (Node.identifierListTail .stop).Everywhere (Node.TypedIn context.symbols) :=
      (Node.everywhere_iff_of_children rfl).mpr ⟨trivial, trivial⟩
    exact Node.everywhere_iff.mpr ⟨⟨trivial, trivial⟩, by simp [Node.children, typed, tail]⟩
  | ⟨head, .more comma rest⟩ => by
    rw [IdentifierList.infer]
    refine (head.infer_delivers proper).bind fun head typed => ?_
    refine (rest.infer_delivers proper).bind fun rest typedRest => ?_
    have tail : (Node.identifierListTail (.more comma rest)).Everywhere
        (Node.TypedIn context.symbols) :=
      Node.everywhere_iff.mpr ⟨⟨trivial, trivial⟩, by simp [Node.children, typedRest]⟩
    exact Node.everywhere_iff.mpr ⟨⟨trivial, trivial⟩, by simp [Node.children, typed, tail]⟩

/-- A typed expression list is annotated at every node. -/
theorem ExpressionList.infer_delivers (proper : context.Proper) :
    (expressions : ExpressionList) →
      (Node.expressionList expressions).Everywhere Node.Grammatical →
        Delivers SemanticError.Proper
          (fun typed => (Node.expressionList typed).Everywhere (Node.TypedIn context.symbols))
          (expressions.infer context)
  | ⟨head, .stop⟩, grammatical => by
    rw [ExpressionList.infer]
    have first : (Node.expression head).Everywhere Node.Grammatical :=
      grammatical.child (by simp [Node.children])
    refine (head.infer_delivers proper first).bind fun head typed => ?_
    have tail : (Node.expressionListTail .stop).Everywhere (Node.TypedIn context.symbols) :=
      (Node.everywhere_iff_of_children rfl).mpr ⟨trivial, trivial⟩
    exact Node.everywhere_iff.mpr ⟨⟨trivial, trivial⟩, by simp [Node.children, typed, tail]⟩
  | ⟨head, .more comma rest⟩, grammatical => by
    rw [ExpressionList.infer]
    have first : (Node.expression head).Everywhere Node.Grammatical :=
      grammatical.child (by simp [Node.children])
    have behind : (Node.expressionListTail (.more comma rest)).Everywhere Node.Grammatical :=
      grammatical.child (by simp [Node.children])
    refine (head.infer_delivers proper first).bind fun head typed => ?_
    refine (rest.infer_delivers proper (behind.child (by simp [Node.children]))).bind
      fun rest typedRest => ?_
    have tail : (Node.expressionListTail (.more comma rest)).Everywhere
        (Node.TypedIn context.symbols) :=
      Node.everywhere_iff.mpr ⟨⟨trivial, trivial⟩, by simp [Node.children, typedRest]⟩
    exact Node.everywhere_iff.mpr ⟨⟨trivial, trivial⟩, by simp [Node.children, typed, tail]⟩

/-- A typed assignment is annotated at every node. -/
theorem Assignment.infer_delivers (proper : context.Proper) (assignment : Assignment)
    (grammatical : (Node.assignment assignment).Everywhere Node.Grammatical) :
    Delivers SemanticError.Proper
      (fun typed => (Node.assignment typed).Everywhere (Node.TypedIn context.symbols))
      (assignment.infer context) := by
  rw [infer]
  have stored : (Node.expression assignment.value).Everywhere Node.Grammatical :=
    grammatical.child (by simp [Node.children])
  refine (assignment.target.infer_delivers proper).bind fun target typedTarget => ?_
  refine (assignment.value.infer_delivers proper stored).bind fun value typedValue => ?_
  split
  · rename_i fits
    exact Node.everywhere_iff.mpr ⟨⟨fits, trivial⟩, by
      simp [Node.children, typedTarget, typedValue]⟩
  · exact ⟨typedTarget.1, typedValue.here.1⟩

mutual

/-- A grammatical statement is typed everywhere, or violates a rule by proper types. -/
theorem Statement.infer_delivers (proper : context.Proper) :
    (statement : Statement) → (Node.statement statement).Everywhere Node.Grammatical →
      Delivers SemanticError.Proper
        (fun typed => (Node.statement typed).Everywhere (Node.TypedIn context.symbols))
        (statement.infer context)
  | .assignment tree, grammatical => by
    rw [Statement.infer]
    have part : (Node.assignment tree).Everywhere Node.Grammatical :=
      grammatical.child (by simp [Node.children, Statement.children])
    refine (tree.infer_delivers proper part).bind fun tree typed => ?_
    exact Node.everywhere_iff.mpr ⟨⟨trivial, trivial⟩, by
      simp [Node.children, Statement.children, typed]⟩
  | .nestedBlock ⟨beginWord, statements, endWord⟩, grammatical => by
    rw [Statement.infer]
    have part : (Node.nestedBlock ⟨beginWord, statements, endWord⟩).Everywhere
        Node.Grammatical := grammatical.child (by simp [Node.children, Statement.children])
    refine (statements.infer_delivers proper (part.child (by simp [Node.children]))).bind
      fun statements typed => ?_
    have block : (Node.nestedBlock ⟨beginWord, statements, endWord⟩).Everywhere
        (Node.TypedIn context.symbols) :=
      Node.everywhere_iff.mpr ⟨⟨trivial, trivial⟩, by simp [Node.children, typed]⟩
    exact Node.everywhere_iff.mpr ⟨⟨trivial, trivial⟩, by
      simp [Node.children, Statement.children, block]⟩
  | .condition ⟨ifWord, test, thenWord, branch, tail⟩, grammatical => by
    rw [Statement.infer]
    have part : (Node.condition ⟨ifWord, test, thenWord, branch, tail⟩).Everywhere
        Node.Grammatical := grammatical.child (by simp [Node.children, Statement.children])
    refine (test.infer_delivers proper (part.child (by simp [Node.children]))).bind
      fun test typedTest => ?_
    refine (branch.infer_delivers proper (part.child (by simp [Node.children]))).bind
      fun branch typedBranch => ?_
    refine (tail.infer_delivers proper (part.child (by simp [Node.children]))).bind
      fun tail typedTail => ?_
    have condition : (Node.condition ⟨ifWord, test, thenWord, branch, tail⟩).Everywhere
        (Node.TypedIn context.symbols) :=
      Node.everywhere_iff.mpr ⟨⟨trivial, trivial⟩, by
        simp [Node.children, typedTest, typedBranch, typedTail]⟩
    exact Node.everywhere_iff.mpr ⟨⟨trivial, trivial⟩, by
      simp [Node.children, Statement.children, condition]⟩
  | .forLoop ⟨forWord, start, toWord, limit, doWord, body⟩, grammatical => by
    rw [Statement.infer]
    have part : (Node.forLoop ⟨forWord, start, toWord, limit, doWord, body⟩).Everywhere
        Node.Grammatical := grammatical.child (by simp [Node.children, Statement.children])
    refine (start.infer_delivers proper (part.child (by simp [Node.children]))).bind
      fun start typedStart => ?_
    refine (limit.infer_delivers proper (part.child (by simp [Node.children]))).bind
      fun limit typedLimit => ?_
    refine (body.infer_delivers proper (part.child (by simp [Node.children]))).bind
      fun body typedBody => ?_
    have loop : (Node.forLoop ⟨forWord, start, toWord, limit, doWord, body⟩).Everywhere
        (Node.TypedIn context.symbols) :=
      Node.everywhere_iff.mpr ⟨⟨trivial, trivial⟩, by
        simp [Node.children, typedStart, typedLimit, typedBody]⟩
    exact Node.everywhere_iff.mpr ⟨⟨trivial, trivial⟩, by
      simp [Node.children, Statement.children, loop]⟩
  | .whileLoop ⟨whileWord, test, doWord, body⟩, grammatical => by
    rw [Statement.infer]
    have part : (Node.whileLoop ⟨whileWord, test, doWord, body⟩).Everywhere
        Node.Grammatical := grammatical.child (by simp [Node.children, Statement.children])
    refine (test.infer_delivers proper (part.child (by simp [Node.children]))).bind
      fun test typedTest => ?_
    refine (body.infer_delivers proper (part.child (by simp [Node.children]))).bind
      fun body typedBody => ?_
    have loop : (Node.whileLoop ⟨whileWord, test, doWord, body⟩).Everywhere
        (Node.TypedIn context.symbols) :=
      Node.everywhere_iff.mpr ⟨⟨trivial, trivial⟩, by
        simp [Node.children, typedTest, typedBody]⟩
    exact Node.everywhere_iff.mpr ⟨⟨trivial, trivial⟩, by
      simp [Node.children, Statement.children, loop]⟩
  | .reading ⟨word, opening, names, closing⟩, _ => by
    rw [Statement.infer]
    refine (names.infer_delivers proper).bind fun names typed => ?_
    have reading : (Node.reading ⟨word, opening, names, closing⟩).Everywhere
        (Node.TypedIn context.symbols) :=
      Node.everywhere_iff.mpr ⟨⟨trivial, trivial⟩, by simp [Node.children, typed]⟩
    exact Node.everywhere_iff.mpr ⟨⟨trivial, trivial⟩, by
      simp [Node.children, Statement.children, reading]⟩
  | .writing ⟨word, opening, expressions, closing⟩, grammatical => by
    rw [Statement.infer]
    have part : (Node.writing ⟨word, opening, expressions, closing⟩).Everywhere
        Node.Grammatical := grammatical.child (by simp [Node.children, Statement.children])
    refine (expressions.infer_delivers proper (part.child (by simp [Node.children]))).bind
      fun expressions typed => ?_
    have writing : (Node.writing ⟨word, opening, expressions, closing⟩).Everywhere
        (Node.TypedIn context.symbols) :=
      Node.everywhere_iff.mpr ⟨⟨trivial, trivial⟩, by simp [Node.children, typed]⟩
    exact Node.everywhere_iff.mpr ⟨⟨trivial, trivial⟩, by
      simp [Node.children, Statement.children, writing]⟩
  | .skip separators inner, grammatical => by
    rw [Statement.infer]
    have part : (Node.statement inner).Everywhere Node.Grammatical :=
      grammatical.child (by simp [Node.children, Statement.children])
    refine (inner.infer_delivers proper part).bind fun inner typed => ?_
    exact Node.everywhere_iff.mpr ⟨⟨trivial, trivial⟩, by
      simp [Node.children, Statement.children, or_imp, forall_and, typed]⟩
  | .empty, _ => (Node.everywhere_iff_of_children rfl).mpr ⟨trivial, trivial⟩

/-- A typed statement list is annotated at every node, however its statements nest. -/
theorem StatementList.infer_delivers (proper : context.Proper) :
    (statements : StatementList) →
      (Node.statementList statements).Everywhere Node.Grammatical →
        Delivers SemanticError.Proper
          (fun typed => (Node.statementList typed).Everywhere (Node.TypedIn context.symbols))
          (statements.infer context)
  | ⟨head, .stop⟩, grammatical => by
    rw [StatementList.infer]
    have first : (Node.statement head).Everywhere Node.Grammatical :=
      grammatical.child (by simp [Node.children])
    refine (head.infer_delivers proper first).bind fun head typed => ?_
    have tail : (Node.statementListTail .stop).Everywhere (Node.TypedIn context.symbols) :=
      (Node.everywhere_iff_of_children rfl).mpr ⟨trivial, trivial⟩
    exact Node.everywhere_iff.mpr ⟨⟨trivial, trivial⟩, by simp [Node.children, typed, tail]⟩
  | ⟨head, .more separator rest⟩, grammatical => by
    rw [StatementList.infer]
    have first : (Node.statement head).Everywhere Node.Grammatical :=
      grammatical.child (by simp [Node.children])
    have behind : (Node.statementListTail (.more separator rest)).Everywhere Node.Grammatical :=
      grammatical.child (by simp [Node.children])
    refine (head.infer_delivers proper first).bind fun head typed => ?_
    refine (rest.infer_delivers proper (behind.child (by simp [Node.children]))).bind
      fun rest typedRest => ?_
    have tail : (Node.statementListTail (.more separator rest)).Everywhere
        (Node.TypedIn context.symbols) :=
      Node.everywhere_iff.mpr ⟨⟨trivial, trivial⟩, by simp [Node.children, typedRest]⟩
    exact Node.everywhere_iff.mpr ⟨⟨trivial, trivial⟩, by simp [Node.children, typed, tail]⟩

/-- A typed `else` branch is annotated at every node. -/
theorem ConditionTail.infer_delivers (proper : context.Proper) :
    (tail : ConditionTail) → (Node.conditionTail tail).Everywhere Node.Grammatical →
      Delivers SemanticError.Proper
        (fun typed => (Node.conditionTail typed).Everywhere (Node.TypedIn context.symbols))
        (tail.infer context)
  | .stop, _ => (Node.everywhere_iff_of_children rfl).mpr ⟨trivial, trivial⟩
  | .more elseWord branch, grammatical => by
    rw [ConditionTail.infer]
    have part : (Node.statement branch).Everywhere Node.Grammatical :=
      grammatical.child (by simp [Node.children])
    refine (branch.infer_delivers proper part).bind fun branch typed => ?_
    exact Node.everywhere_iff.mpr ⟨⟨trivial, trivial⟩, by simp [Node.children, typed]⟩

end

end DimLang
