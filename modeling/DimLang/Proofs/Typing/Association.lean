import DimLang.Proofs.Typing.Agreement

/-!
# Association of operators

A chain of operands is typed from the right: the right operand of an operator is all that follows
it. Parentheses that say so change nothing (`Operand.groupRight`, `Addend.groupRight`), neither the
type nor the error.

Read from the left (`Operand.groupLeft`, `Addend.groupLeft`), a chain is accepted with the same type
if all of its operators are arithmetic or all are logical: each family is one partial operation on
types, and both operations are associative. Which of several violations is reported may depend on
the reading, and so may the verdict on a chain of both families.

- `typeFromRight` and `typeFromLeft` are the two readings of a head with operators behind it
- `verdict_regrouped`: the verdicts on a chain and on the chain with parentheses
-/

namespace DimLang

/-! ## Chains in parentheses -/

/-- The operators of the chain with the heads behind them. -/
def Addend.steps : Addend → List (Leaf × Factor)
  | ⟨_, .stop _, _⟩ => []
  | ⟨_, .more operator rest _, _⟩ => (operator, rest.factor) :: rest.steps

/-- The operators of the chain with the heads behind them. -/
def Operand.steps : Operand → List (Leaf × Addend)
  | ⟨_, .stop _, _⟩ => []
  | ⟨_, .more operator rest _, _⟩ => (operator, rest.addend) :: rest.steps

/-- The chain without operators that consists of the factor. -/
def Factor.alone (factor : Factor) : Addend :=
  ⟨factor, .stop .invalid, .invalid⟩

/-- The chain without operators that consists of the addend. -/
def Addend.alone (addend : Addend) : Operand :=
  ⟨addend, .stop .invalid, .invalid⟩

section Grouping

variable (opening closing : Leaf)

/-- The operand in parentheses. -/
def Operand.between (operand : Operand) : Factor :=
  ⟨.group opening ⟨operand, .stop .invalid, .invalid⟩ closing, .invalid⟩

/-- The chain as a head of another one: in parentheses, unless it has no operator. -/
def Addend.asHead : Addend → Factor
  | ⟨factor, .stop _, _⟩ => factor
  | ⟨factor, .more operator rest tailTy, ty⟩ =>
    (Addend.alone ⟨factor, .more operator rest tailTy, ty⟩).between opening closing

/-- The chain as a head of another one: in parentheses, unless it has no operator. -/
def Operand.asHead : Operand → Addend
  | ⟨addend, .stop _, _⟩ => addend
  | ⟨addend, .more operator rest tailTy, ty⟩ =>
    (Operand.between opening closing ⟨addend, .more operator rest tailTy, ty⟩).alone

/-- The chain with all that follows an operator in parentheses. -/
def Addend.groupRight : Addend → Addend
  | ⟨factor, .stop tailTy, ty⟩ => ⟨factor, .stop tailTy, ty⟩
  | ⟨factor, .more operator rest tailTy, ty⟩ =>
    ⟨factor, .more operator (rest.groupRight.asHead opening closing).alone tailTy, ty⟩

/-- The chain with all that follows an operator in parentheses. -/
def Operand.groupRight : Operand → Operand
  | ⟨addend, .stop tailTy, ty⟩ => ⟨addend, .stop tailTy, ty⟩
  | ⟨addend, .more operator rest tailTy, ty⟩ =>
    ⟨addend, .more operator (rest.groupRight.asHead opening closing).alone tailTy, ty⟩

/-- The chain with all that is in front of an operator in parentheses. -/
def Addend.groupLeft (addend : Addend) : Addend :=
  addend.steps.foldl (fun front step =>
    ⟨front.asHead opening closing, .more step.1 step.2.alone .invalid, .invalid⟩)
    addend.factor.alone

/-- The chain with all that is in front of an operator in parentheses. -/
def Operand.groupLeft (operand : Operand) : Operand :=
  operand.steps.foldl (fun front step =>
    ⟨front.asHead opening closing, .more step.1 step.2.alone .invalid, .invalid⟩)
    operand.addend.alone

end Grouping

/-! ## Two readings -/

/-- The type of an operation, whose operands are typed before it. -/
def typeOperation (operators : OperatorTable) (left : Except SemanticError DataType)
    (operator : Leaf) (right : Except SemanticError DataType) : Except SemanticError DataType := do
  let left ← left
  let right ← right
  operationType operators left operator.token right

section Readings

variable {α : Type} (operators : OperatorTable) (typeOf : α → Except SemanticError DataType)

/-- The type of a head in front of operators, of which each has all that follows it as its right
operand. -/
def typeFromRight (head : α) : List (Leaf × α) → Except SemanticError DataType
  | [] => typeOf head
  | (operator, next) :: steps =>
    typeOperation operators (typeOf head) operator (typeFromRight next steps)

/-- The type of something in front of operators, of which each has all that is in front of it as its
left operand. -/
def typeFromLeft (front : Except SemanticError DataType) (steps : List (Leaf × α)) :
    Except SemanticError DataType :=
  steps.foldl (fun front step => typeOperation operators front step.1 (typeOf step.2)) front

end Readings

/-- The table has the operation for the text of an operator. -/
def OperatorTable.Defines (operators : OperatorTable) (text : String)
    (operation : DataType → DataType → Option DataType) : Prop :=
  ∀ left right, operators.result? left text right = operation left right

/-- The operation on types that may be missing. -/
def liftType (operation : DataType → DataType → Option DataType) (left right : Option DataType) :
    Option DataType :=
  left.bind fun left => right.bind (operation left)

section Families

variable {α : Type} {operators : OperatorTable} (typeOf : α → Except SemanticError DataType)
  {steps : List (Leaf × α)} {operation : DataType → DataType → Option DataType}

/-- An operation that the table defines has the type that its definition gives, if any. -/
theorem toOption_typeOperation {operator : Leaf}
    (defines : operators.Defines operator.token.text operation)
    (left right : Except SemanticError DataType) :
    (typeOperation operators left operator right).toOption =
      liftType operation left.toOption right.toOption := by
  cases left with
  | error => rfl
  | ok left =>
    cases right with
    | error => rfl
    | ok right =>
      change (operationType operators left operator.token right).toOption = operation left right
      rw [operationType, defines]
      cases operation left right <;> rfl

/-- For operators of one family, reading from the left is folding by their operation. -/
theorem toOption_typeFromLeft
    (family : ∀ step ∈ steps, operators.Defines step.1.token.text operation)
    (front : Except SemanticError DataType) :
    (typeFromLeft operators typeOf front steps).toOption =
      (steps.map fun step => (typeOf step.2).toOption).foldl (liftType operation)
        front.toOption := by
  unfold typeFromLeft
  induction steps generalizing front with
  | nil => rfl
  | cons step steps ih =>
    obtain ⟨here, family⟩ := List.forall_mem_cons.mp family
    rw [List.foldl_cons, ih family, toOption_typeOperation here, List.map_cons, List.foldl_cons]

/-- Operators of one associative family are accepted with the same type in both readings. -/
theorem toOption_typeFromRight [Std.Associative (liftType operation)]
    (family : ∀ step ∈ steps, operators.Defines step.1.token.text operation) (head : α) :
    (typeFromRight operators typeOf head steps).toOption =
      (typeFromLeft operators typeOf (typeOf head) steps).toOption := by
  rw [toOption_typeFromLeft typeOf family]
  induction steps generalizing head with
  | nil => rfl
  | cons step steps ih =>
    obtain ⟨here, family⟩ := List.forall_mem_cons.mp family
    rw [typeFromRight, toOption_typeOperation here, ih family, List.map_cons, List.foldl_cons,
      List.foldl_assoc]

end Families

/-! ## Arithmetic and logic -/

/-- Arithmetic is defined for numbers, and yields an integer only for integers. -/
def arithmeticType : DataType → DataType → Option DataType
  | .int, .int => some .int
  | .int, .float => some .float
  | .float, .int => some .float
  | .float, .float => some .float
  | _, _ => none

/-- Logic is defined for two integers and for two truth values. -/
def logicalType : DataType → DataType → Option DataType
  | .int, .int => some .int
  | .bool, .bool => some .bool
  | _, _ => none

/-- The four arithmetic operators share one definition. -/
theorem defines_arithmetic {text : String} (arithmetic : text ∈ ["+", "-", "*", "/"]) :
    OperatorTable.standard.Defines text arithmeticType := by
  have table : ∀ text ∈ ["+", "-", "*", "/"], ∀ left ∈ DataType.all, ∀ right ∈ DataType.all,
      OperatorTable.standard.result? left text right = arithmeticType left right := by
    decide +kernel
  intro left right
  exact table text arithmetic left left.mem_all right right.mem_all

/-- The two logical operators share one definition. -/
theorem defines_logical {text : String} (logical : text ∈ ["and", "or"]) :
    OperatorTable.standard.Defines text logicalType := by
  have table : ∀ text ∈ ["and", "or"], ∀ left ∈ DataType.all, ∀ right ∈ DataType.all,
      OperatorTable.standard.result? left text right = logicalType left right := by
    decide +kernel
  intro left right
  exact table text logical left left.mem_all right right.mem_all

/-- An operation that is associative on types is so where types may be missing. -/
theorem liftType_assoc {operation : DataType → DataType → Option DataType}
    (assoc : ∀ a b c, liftType operation (operation a b) (some c) =
      liftType operation (some a) (operation b c)) (a b c : Option DataType) :
    liftType operation (liftType operation a b) c =
      liftType operation a (liftType operation b c) := by
  have missing (left : Option DataType) : liftType operation left none = none := by
    cases left <;> rfl
  cases a with
  | none => rfl
  | some a =>
    cases b with
    | none => rfl
    | some b =>
      cases c with
      | none => rw [missing, missing, missing]
      | some c => exact assoc a b c

instance : Std.Associative (liftType arithmeticType) where
  assoc := liftType_assoc fun a b c => by cases a <;> cases b <;> cases c <;> rfl

instance : Std.Associative (liftType logicalType) where
  assoc := liftType_assoc fun a b c => by cases a <;> cases b <;> cases c <;> rfl

/-- The operators are all arithmetic, or they are all logical. -/
def OneFamily (operators : List Leaf) : Prop :=
  (∀ operator ∈ operators, operator.token.text ∈ ["+", "-", "*", "/"]) ∨
    ∀ operator ∈ operators, operator.token.text ∈ ["and", "or"]

/-- Operators of one family are accepted with the same type in both readings. -/
theorem OneFamily.toOption_typeFromRight {α : Type} {steps : List (Leaf × α)}
    (family : OneFamily (steps.map Prod.fst)) (typeOf : α → Except SemanticError DataType)
    (head : α) :
    (typeFromRight .standard typeOf head steps).toOption =
      (typeFromLeft .standard typeOf (typeOf head) steps).toOption := by
  rcases family with arithmetic | logical
  · have defines : ∀ step ∈ steps,
        OperatorTable.standard.Defines step.1.token.text arithmeticType := by
      intro step member
      exact defines_arithmetic (arithmetic _ (List.mem_map_of_mem member))
    exact DimLang.toOption_typeFromRight typeOf defines head
  · have defines : ∀ step ∈ steps,
        OperatorTable.standard.Defines step.1.token.text logicalType := by
      intro step member
      exact defines_logical (logical _ (List.mem_map_of_mem member))
    exact DimLang.toOption_typeFromRight typeOf defines head

/-! ## Types of chains -/

section Types

variable (context : TypingContext)

/-- The type that the rules yield for the factor. -/
def Factor.inferType (factor : Factor) : Except SemanticError DataType :=
  (factor.infer context).map Factor.ty

/-- The type that the rules yield for the chain. -/
def Addend.inferType (addend : Addend) : Except SemanticError DataType :=
  (addend.infer context).map Addend.ty

/-- The type that the rules yield for the chain. -/
def Operand.inferType (operand : Operand) : Except SemanticError DataType :=
  (operand.infer context).map Operand.ty

/-- A single factor has its own type. -/
theorem Addend.inferType_stop (factor : Factor) (tailTy ty : DataType) :
    inferType context ⟨factor, .stop tailTy, ty⟩ = factor.inferType context := by
  rw [inferType, infer, Factor.inferType]
  cases factor.infer context <;> rfl

/-- A product has the type of its operation. -/
theorem Addend.inferType_more (factor : Factor) (operator : Leaf) (rest : Addend)
    (tailTy ty : DataType) :
    inferType context ⟨factor, .more operator rest tailTy, ty⟩ =
      typeOperation context.operators (factor.inferType context) operator
        (rest.inferType context) := by
  rw [inferType, infer, Factor.inferType, inferType]
  cases factor.infer context with
  | error => rfl
  | ok factor =>
    cases rest.infer context with
    | error => rfl
    | ok rest =>
      change Except.map _ (operationType _ factor.ty operator.token rest.ty >>= _) =
        operationType _ factor.ty operator.token rest.ty
      cases operationType context.operators factor.ty operator.token rest.ty <;> rfl

/-- A single addend has its own type. -/
theorem Operand.inferType_stop (addend : Addend) (tailTy ty : DataType) :
    inferType context ⟨addend, .stop tailTy, ty⟩ = addend.inferType context := by
  rw [inferType, infer, Addend.inferType]
  cases addend.infer context <;> rfl

/-- A sum has the type of its operation. -/
theorem Operand.inferType_more (addend : Addend) (operator : Leaf) (rest : Operand)
    (tailTy ty : DataType) :
    inferType context ⟨addend, .more operator rest tailTy, ty⟩ =
      typeOperation context.operators (addend.inferType context) operator
        (rest.inferType context) := by
  rw [inferType, infer, Addend.inferType, inferType]
  cases addend.infer context with
  | error => rfl
  | ok addend =>
    cases rest.infer context with
    | error => rfl
    | ok rest =>
      change Except.map _ (operationType _ addend.ty operator.token rest.ty >>= _) =
        operationType _ addend.ty operator.token rest.ty
      cases operationType context.operators addend.ty operator.token rest.ty <;> rfl

/-- Parentheses do not change a type. -/
theorem Operand.inferType_between (opening closing : Leaf) (operand : Operand) :
    (operand.between opening closing).inferType context = operand.inferType context := by
  rw [between, Factor.inferType, Factor.infer, Expression.infer, inferType]
  cases operand.infer context <;> rfl

/-- Parentheses around a product keep its type. -/
theorem Addend.inferType_asHead (opening closing : Leaf) (addend : Addend) :
    (addend.asHead opening closing).inferType context = addend.inferType context := by
  rcases addend with ⟨factor, tailTy | ⟨operator, rest, tailTy⟩, ty⟩
  · rw [asHead, inferType_stop]
  · rw [asHead, Operand.inferType_between, alone, Operand.inferType_stop]

/-- Parentheses around a sum keep its type. -/
theorem Operand.inferType_asHead (opening closing : Leaf) (operand : Operand) :
    (operand.asHead opening closing).inferType context = operand.inferType context := by
  rcases operand with ⟨addend, tailTy | ⟨operator, rest, tailTy⟩, ty⟩
  · rw [asHead, inferType_stop]
  · rw [asHead, Factor.alone, Addend.inferType_stop, inferType_between]

/-! ### From the right -/

/-- A chain is typed from the right. -/
theorem Addend.inferType_eq : (addend : Addend) →
    addend.inferType context =
      typeFromRight context.operators (Factor.inferType context) addend.factor addend.steps
  | ⟨factor, .stop tailTy, ty⟩ => inferType_stop context factor tailTy ty
  | ⟨factor, .more operator rest tailTy, ty⟩ => by
    rw [inferType_more, rest.inferType_eq, steps, typeFromRight]

/-- A chain is typed from the right. -/
theorem Operand.inferType_eq : (operand : Operand) →
    operand.inferType context =
      typeFromRight context.operators (Addend.inferType context) operand.addend operand.steps
  | ⟨addend, .stop tailTy, ty⟩ => inferType_stop context addend tailTy ty
  | ⟨addend, .more operator rest tailTy, ty⟩ => by
    rw [inferType_more, rest.inferType_eq, steps, typeFromRight]

/-- A product grouped to the right has the type it had. -/
theorem Addend.inferType_groupRight (opening closing : Leaf) : (addend : Addend) →
    (addend.groupRight opening closing).inferType context = addend.inferType context
  | ⟨_, .stop _, _⟩ => rfl
  | ⟨factor, .more operator rest tailTy, ty⟩ => by
    rw [groupRight, inferType_more, inferType_more, Factor.alone, inferType_stop,
      inferType_asHead, rest.inferType_groupRight]

/-- A sum grouped to the right has the type it had. -/
theorem Operand.inferType_groupRight (opening closing : Leaf) : (operand : Operand) →
    (operand.groupRight opening closing).inferType context = operand.inferType context
  | ⟨_, .stop _, _⟩ => rfl
  | ⟨addend, .more operator rest tailTy, ty⟩ => by
    rw [groupRight, inferType_more, inferType_more, Addend.alone, inferType_stop,
      inferType_asHead, rest.inferType_groupRight]

/-! ### From the left -/

/-- A product grouped to the left is typed from its first factor on. -/
theorem Addend.inferType_groupLeft (opening closing : Leaf) (addend : Addend) :
    (addend.groupLeft opening closing).inferType context =
      typeFromLeft context.operators (Factor.inferType context) (addend.factor.inferType context)
        addend.steps := by
  rw [groupLeft, typeFromLeft, ← inferType_stop context addend.factor .invalid .invalid]
  refine (List.foldl_hom (inferType context) ?_).symm
  intro front step
  rw [inferType_more, inferType_asHead, Factor.alone, inferType_stop]

/-- A sum grouped to the left is typed from its first addend on. -/
theorem Operand.inferType_groupLeft (opening closing : Leaf) (operand : Operand) :
    (operand.groupLeft opening closing).inferType context =
      typeFromLeft context.operators (Addend.inferType context) (operand.addend.inferType context)
        operand.steps := by
  rw [groupLeft, typeFromLeft, ← inferType_stop context operand.addend .invalid .invalid]
  refine (List.foldl_hom (inferType context) ?_).symm
  intro front step
  rw [inferType_more, inferType_asHead, Addend.alone, inferType_stop]

end Types

/-! ## Verdicts -/

/-- What agrees with a rule has the rule's verdict. -/
theorem Checked.Agrees.verdict_eq {α β : Type} {ty : α → β} {checked : Checked α β}
    {rule : Except SemanticError α} (agrees : checked.Agrees ty rule) :
    checked.verdict = rule.map ty := by
  cases agrees <;> rfl

/-- The verdict on a product is the type its rule gives. -/
theorem Addend.verdict_check (context : TypingContext) (addend : Addend) :
    (addend.check context []).verdict = addend.inferType context := by
  have typing := addend.check_agrees context []
  rw [bind_typeLinks_nil] at typing
  exact typing.verdict_eq

/-- The verdict on a sum is the type its rule gives. -/
theorem Operand.verdict_check (context : TypingContext) (operand : Operand) :
    (operand.check context []).verdict = operand.inferType context := by
  have typing := operand.check_agrees context []
  rw [bind_typeLinks_nil] at typing
  exact typing.verdict_eq

/-- The verdict on a chain is the one on the chain with parentheses from the right. If its operators
are all arithmetic or all logical, the chain is also accepted with the same type as the chain with
parentheses from the left, or rejected like it. -/
theorem verdict_regrouped (symbols : SymbolTable) (opening closing : Leaf) :
    (∀ operand : Operand,
      ((operand.groupRight opening closing).check ⟨.standard, symbols⟩ []).verdict =
        (operand.check ⟨.standard, symbols⟩ []).verdict ∧
      (OneFamily (operand.steps.map Prod.fst) →
        ((operand.groupLeft opening closing).check ⟨.standard, symbols⟩ []).verdict.toOption =
          (operand.check ⟨.standard, symbols⟩ []).verdict.toOption)) ∧
    ∀ addend : Addend,
      ((addend.groupRight opening closing).check ⟨.standard, symbols⟩ []).verdict =
        (addend.check ⟨.standard, symbols⟩ []).verdict ∧
      (OneFamily (addend.steps.map Prod.fst) →
        ((addend.groupLeft opening closing).check ⟨.standard, symbols⟩ []).verdict.toOption =
          (addend.check ⟨.standard, symbols⟩ []).verdict.toOption) := by
  constructor
  · intro operand
    rw [Operand.verdict_check, Operand.verdict_check, Operand.verdict_check]
    refine ⟨operand.inferType_groupRight _ opening closing, fun family => ?_⟩
    rw [Operand.inferType_groupLeft, Operand.inferType_eq]
    exact (family.toOption_typeFromRight _ _).symm
  · intro addend
    rw [Addend.verdict_check, Addend.verdict_check, Addend.verdict_check]
    refine ⟨addend.inferType_groupRight _ opening closing, fun family => ?_⟩
    rw [Addend.inferType_groupLeft, Addend.inferType_eq]
    exact (family.toOption_typeFromRight _ _).symm

/-- Two whole numbers and one with a fraction, with the operators between them. -/
def Operand.ofNumbers (first second : String) : Operand :=
  ⟨number .intNumber "1", .more ⟨⟨.addOp, first, 1⟩⟩
    ⟨number .intNumber "2", .more ⟨⟨.addOp, second, 1⟩⟩ (number .floatNumber "1.5").alone .invalid,
      .invalid⟩ .invalid, .invalid⟩
where
  number (kind : TokenKind) (text : String) : Addend :=
    Factor.alone ⟨.number ⟨⟨⟨kind, text, 1⟩, .invalid⟩, .invalid⟩, .invalid⟩

/-- A sum and a difference make a float in both readings. -/
theorem verdict_regrouped_sum :
    OneFamily ((Operand.ofNumbers "+" "-").steps.map Prod.fst) ∧
    (((Operand.ofNumbers "+" "-").groupLeft ⟨⟨.openParen, "(", 1⟩⟩ ⟨⟨.closeParen, ")", 1⟩⟩).check
      ⟨.standard, .empty⟩ []).verdict.toOption = some .float := by
  have family : OneFamily ((Operand.ofNumbers "+" "-").steps.map Prod.fst) := .inl (by decide)
  have chains := verdict_regrouped .empty ⟨⟨.openParen, "(", 1⟩⟩ ⟨⟨.closeParen, ")", 1⟩⟩
  exact ⟨family, ((chains.1 (.ofNumbers "+" "-")).2 family).trans rfl⟩

/-- With `or` in front of `+`, only the reading from the left is accepted. -/
example :
    ((Operand.ofNumbers "or" "+").check ⟨.standard, .empty⟩ []).verdict.toOption = none ∧
    (((Operand.ofNumbers "or" "+").groupLeft ⟨⟨.openParen, "(", 1⟩⟩ ⟨⟨.closeParen, ")", 1⟩⟩).check
      ⟨.standard, .empty⟩ []).verdict.toOption = some .float :=
  ⟨rfl, rfl⟩

end DimLang
