import DimLang.Proofs.Syntax.WellFormed
import DimLang.Proofs.Typing.Rules

/-!
# Violations of the rules

A program that is rejected breaks a rule of names or types, and a token of it does so: a name that
is not declared or declared once more, an operator that is not defined for the types of its
operands, or the word between a target and a value that does not fit it. `Node.Violates` says this
of one node, and `Node.FirstViolation` finds the first such node of a tree, where the parts of a
node come before the node and are taken from left to right. With the token the relations have the
tokens in front of it, so that they tell apart occurrences of the same text.

- `Program.FirstViolation` is the first violation of a program, whose items come one after the other
- `Program.FirstViolation.exists_leaves`: the token is one of the program
- `Program.FirstViolation.names` and `Program.FirstViolation.aboutKind`: the error names the token,
  which is of the right kind in a program of the grammar
-/

namespace DimLang

/-! ## Violations of a node -/

namespace Node

/-- The node applies an operator to the types of its two operands. -/
inductive Operation (context : TypingContext) :
    Node → (left : Node) → DataType → Token → DataType → Prop
  | product {factor typed : Factor} {operator : Leaf} {rest typedRest : Addend}
      {tailTy ty : DataType} (left : factor.infer context = .ok typed)
      (right : rest.infer context = .ok typedRest) :
      Operation context (.addend ⟨factor, .more operator rest tailTy, ty⟩) (.factor factor)
        typed.ty operator.token typedRest.ty
  | sum {addend typed : Addend} {operator : Leaf} {rest typedRest : Operand}
      {tailTy ty : DataType} (left : addend.infer context = .ok typed)
      (right : rest.infer context = .ok typedRest) :
      Operation context (.operand ⟨addend, .more operator rest tailTy, ty⟩) (.addend addend)
        typed.ty operator.token typedRest.ty
  | comparison {operand typed : Operand} {operator : Leaf} {other typedOther : Operand}
      {tailTy ty : DataType} (left : operand.infer context = .ok typed)
      (right : other.infer context = .ok typedOther) :
      Operation context (.expression ⟨operand, .more operator other tailTy, ty⟩)
        (.operand operand) typed.ty operator.token typedOther.ty

/-- The node breaks a rule that says nothing about its parts alone: the error, the tokens of the
node in front of the one that breaks the rule, and this token. -/
inductive Violates (context : TypingContext) :
    Node → SemanticError → List Token → Token → Prop
  | undeclared {name : Identifier} (unknown : context.symbols.get? name.token.text = none) :
      Violates context (.identifier name) (.undeclared name.token.text name.token.line) []
        name.token
  | negation {operator : Leaf} {operand typed : Factor} {ty : DataType}
      (inferred : operand.infer context = .ok typed) (float : typed.ty = .float) :
      Violates context (.factor ⟨.not operator operand, ty⟩)
        (.undefinedUnary operator.token.text .float operator.token.line) [] operator.token
  | operands {node left : Node} {leftTy rightTy : DataType} {operator : Token}
      (operation : node.Operation context left leftTy operator rightTy)
      (undefined : context.operators.result? leftTy operator.text rightTy = none) :
      Violates context node (.incompatibleOperands leftTy operator.text rightTy operator.line)
        left.leaves operator
  | assignment {tree : Assignment} {target : Identifier} {value : Expression}
      (left : tree.target.infer context = .ok target)
      (right : tree.value.infer context = .ok value)
      (misfit : ¬ (target.ty = value.ty ∨ target.ty = .float ∧ value.ty = .int)) :
      Violates context (.assignment tree)
        (.incompatibleAssignment target.token.text target.ty value.ty tree.asWord.token.line)
        [tree.target.token] tree.asWord.token

/-- The node itself breaks no rule. -/
def Clean (context : TypingContext) (node : Node) : Prop :=
  ∀ error front token, ¬ node.Violates context error front token

/-- No rule is broken anywhere in the tree. -/
def Sound (context : TypingContext) (node : Node) : Prop :=
  node.Everywhere (Clean context)

/-- The first violation of a rule in the tree: the error, the tokens of the tree in front of the one
that breaks the rule, and this token. -/
inductive FirstViolation (context : TypingContext) :
    Node → SemanticError → List Token → Token → Prop
  | here {node : Node} {error : SemanticError} {front : List Token} {token : Token}
      (below : ∀ child ∈ node.children, child.Sound context)
      (violates : node.Violates context error front token) :
      FirstViolation context node error front token
  | inside {node child : Node} {before after : List Node} {error : SemanticError}
      {front : List Token} {token : Token} (split : node.children = before ++ child :: after)
      (sound : ∀ sibling ∈ before, sibling.Sound context)
      (first : FirstViolation context child error front token) :
      FirstViolation context node error (before.flatMap leaves ++ front) token

end Node

/-! ## Violations of a program -/

/-- The name of a list that is declared already when its turn comes, and the tokens of the list in
front of it. -/
inductive IdentifierList.Redeclares (ty : DataType) :
    SymbolTable → IdentifierList → List Token → Token → Prop
  | here {symbols : SymbolTable} {head : Identifier} {tail : IdentifierListTail}
      (known : head.token.text ∈ symbols.entries.map Prod.fst) :
      Redeclares ty symbols ⟨head, tail⟩ [] head.token
  | later {symbols : SymbolTable} {head : Identifier} {comma : Leaf} {rest : IdentifierList}
      {front : List Token} {token : Token}
      (fresh : head.token.text ∉ symbols.entries.map Prod.fst)
      (others : Redeclares ty (symbols.insert head.token.text ty fresh) rest front token) :
      Redeclares ty symbols ⟨head, .more comma rest⟩ (head.token :: comma.token :: front) token

/-- The first violation in an item. A declaration breaks a rule by a name that is declared already,
or by an unknown type. -/
inductive ProgramItem.FirstViolation (context : TypingContext) :
    ProgramItem → SemanticError → List Token → Token → Prop
  | statement {tree : Statement} {error : SemanticError} {front : List Token} {token : Token}
      (first : (Node.statement tree).FirstViolation context error front token) :
      FirstViolation context (.statement tree) error front token
  | redeclared {tree : Declaration} {ty : DataType} {before after : List Node}
      {front : List Token} {token : Token}
      (named : DataType.ofTypeName? tree.typeName.token.text = some ty)
      (split : (Node.declaration tree).children =
        before ++ .identifierList tree.identifiers :: after)
      (clash : tree.identifiers.Redeclares ty context.symbols front token) :
      FirstViolation context (.declaration tree) (.redeclared token.text token.line)
        (before.flatMap Node.leaves ++ front) token
  | unknownType {tree : Declaration} {before after : List Node}
      (unknown : DataType.ofTypeName? tree.typeName.token.text = none)
      (split : (Node.declaration tree).children = before ++ .leaf tree.typeName :: after) :
      FirstViolation context (.declaration tree)
        (.unknownType tree.typeName.token.text tree.typeName.token.line)
        (before.flatMap Node.leaves) tree.typeName.token

/-- The first violation in a program: that of an item under the names that the items before it
declare, which keep the rules. -/
inductive Program.FirstViolation (operators : OperatorTable) :
    SymbolTable → Program → SemanticError → List Token → Token → Prop
  | here {symbols : SymbolTable} {item : ProgramItem} {tail : ProgramTail}
      {error : SemanticError} {front : List Token} {token : Token}
      (first : item.FirstViolation ⟨operators, symbols⟩ error front token) :
      FirstViolation operators symbols ⟨item, tail⟩ error front token
  | later {symbols middle : SymbolTable} {item typed : ProgramItem} {separator : Leaf}
      {rest : Program} {error : SemanticError} {front : List Token} {token : Token}
      (accepted : item.infer ⟨operators, symbols⟩ = .ok (typed, middle))
      (others : FirstViolation operators middle rest error front token) :
      FirstViolation operators symbols ⟨item, .more separator rest⟩ error
        ((Node.programItem item).leaves ++ separator.token :: front) token

/-! ## The token of a violation -/

/-- The error is about the token: it has its line and, unless a value does not fit its target, its
text. -/
def SemanticError.Names (token : Token) : SemanticError → Prop
  | redeclared name line => name = token.text ∧ line = token.line
  | undeclared name line => name = token.text ∧ line = token.line
  | incompatibleOperands _ operator _ line => operator = token.text ∧ line = token.line
  | incompatibleAssignment _ _ _ line => line = token.line
  | undefinedUnary operator _ line => operator = token.text ∧ line = token.line
  | unknownType name line => name = token.text ∧ line = token.line

/-- An error has the line of the token it names. -/
theorem SemanticError.Names.line_eq {error : SemanticError} {token : Token}
    (names : error.Names token) : error.line = token.line := by
  cases error with
  | incompatibleAssignment => exact names
  | _ => exact names.2

/-- What the error is about is of the given kind. -/
def SemanticError.AboutKind (kind : TokenKind) : SemanticError → Prop
  | redeclared _ _ => kind = .identifier
  | undeclared _ _ => kind = .identifier
  | incompatibleOperands _ _ _ _ => kind = .mulOp ∨ kind = .addOp ∨ kind = .relationOp
  | incompatibleAssignment _ _ _ _ => kind = .asWord
  | undefinedUnary _ _ _ => kind = .unaryOp
  | unknownType _ _ => kind = .typeName

namespace Node

variable {context : TypingContext} {node : Node} {error : SemanticError} {front : List Token}
  {token : Token}

/-- The operator of an operation stands right behind its left side. -/
theorem Operation.exists_leaves {left : Node} {leftTy rightTy : DataType}
    (operation : node.Operation context left leftTy token rightTy) :
    ∃ back, node.leaves = left.leaves ++ token :: back := by
  cases operation with
  | @product _ _ operator rest _ tailTy =>
    have tail : (addendTail (.more operator rest tailTy)).leaves = _ := leaves_of_children rfl
    rw [leaves_of_children rfl]
    simp [children, tail]
  | @sum _ _ operator rest _ tailTy =>
    have tail : (operandTail (.more operator rest tailTy)).leaves = _ := leaves_of_children rfl
    rw [leaves_of_children rfl]
    simp [children, tail]
  | @comparison _ _ operator other _ tailTy =>
    have tail : (expressionTail (.more operator other tailTy)).leaves = _ := leaves_of_children rfl
    rw [leaves_of_children rfl]
    simp [children, tail]

/-- A violation's token stands at the place it is reported at. -/
theorem Violates.exists_leaves (violates : node.Violates context error front token) :
    ∃ back, node.leaves = front ++ token :: back := by
  cases violates with
  | undeclared => exact ⟨[], leaves_of_token? rfl⟩
  | operands operation => exact operation.exists_leaves
  | negation =>
    rw [leaves_of_children rfl]
    simp [children, Primary.children]
  | assignment =>
    rw [leaves_of_children rfl]
    simp [children]

/-- The tokens of one child stand between those of the others. -/
theorem leaves_of_split {child : Node} {before after : List Node}
    (split : node.children = before ++ child :: after) :
    node.leaves = before.flatMap leaves ++ (child.leaves ++ after.flatMap leaves) := by
  have inner : node.token? = none := by
    cases node <;> first | rfl | simp [children] at split
  rw [leaves_of_children inner, split, List.flatMap_append, List.flatMap_cons]

/-- A first violation's token stands at the place it is reported at. -/
theorem FirstViolation.exists_leaves (first : node.FirstViolation context error front token) :
    ∃ back, node.leaves = front ++ token :: back := by
  -- On the way up, the tokens of the siblings before are put in front.
  induction first with
  | here _ violates => exact violates.exists_leaves
  | @inside _ _ before after _ _ _ split _ _ ih =>
    obtain ⟨back, leaves⟩ := ih
    refine ⟨back ++ after.flatMap Node.leaves, ?_⟩
    rw [leaves_of_split split, leaves]
    simp

/-- The error of a violation names its token. -/
theorem Violates.names (violates : node.Violates context error front token) :
    error.Names token := by
  cases violates with
  | assignment => exact rfl
  | _ => exact ⟨rfl, rfl⟩

/-- The error of a first violation names its token. -/
theorem FirstViolation.names (first : node.FirstViolation context error front token) :
    error.Names token := by
  induction first with
  | here _ violates => exact violates.names
  | inside _ _ _ ih => exact ih

/-- In a tree with its tokens in place the error is about a token of the right kind. -/
theorem Violates.aboutKind (violates : node.Violates context error front token)
    (placed : node.Everywhere Placed) : error.AboutKind token.kind := by
  cases violates with
  | undeclared => exact placed.here
  | negation => exact placed.here
  | assignment => exact placed.here
  | operands operation =>
    cases operation with
    | product => exact .inl (placed.child (List.mem_cons_of_mem _ List.mem_cons_self)).here
    | sum => exact .inr (.inl (placed.child (List.mem_cons_of_mem _ List.mem_cons_self)).here)
    | comparison =>
      exact .inr (.inr (placed.child (List.mem_cons_of_mem _ List.mem_cons_self)).here)

/-- The first violation is about a token of the right kind. -/
theorem FirstViolation.aboutKind (first : node.FirstViolation context error front token)
    (placed : node.Everywhere Placed) : error.AboutKind token.kind := by
  induction first with
  | here _ violates => exact violates.aboutKind placed
  | @inside _ child _ _ _ _ _ split _ _ ih =>
    refine ih (placed.child ?_)
    rw [split]
    exact List.mem_append_right _ List.mem_cons_self

end Node

section Tokens

variable {context : TypingContext} {ty : DataType} {symbols : SymbolTable} {error : SemanticError}
  {front : List Token} {token : Token}

/-- A name declared twice stands at the place it is reported at. -/
theorem IdentifierList.Redeclares.exists_leaves {names : IdentifierList}
    (redeclares : names.Redeclares ty symbols front token) :
    ∃ back, (Node.identifierList names).leaves = front ++ token :: back := by
  induction redeclares with
  | here =>
    rw [Node.leaves_of_children rfl]
    simp [Node.children]
  | @later _ head comma rest _ _ _ _ ih =>
    obtain ⟨back, leaves⟩ := ih
    have tail : (Node.identifierListTail (.more comma rest)).leaves = _ :=
      Node.leaves_of_children rfl
    rw [Node.leaves_of_children rfl]
    simp [Node.children, tail, leaves]

/-- A name declared twice is a name. -/
theorem IdentifierList.Redeclares.kind_eq {names : IdentifierList}
    (redeclares : names.Redeclares ty symbols front token)
    (placed : (Node.identifierList names).Everywhere Node.Placed) :
    token.kind = .identifier := by
  induction redeclares with
  | @here _ head tail _ =>
    have first : (Node.identifier head).Everywhere Node.Placed :=
      placed.child List.mem_cons_self
    exact first.here
  | @later _ head comma rest _ _ _ _ ih =>
    have tail : (Node.identifierListTail (.more comma rest)).Everywhere Node.Placed :=
      placed.child (List.mem_cons_of_mem _ List.mem_cons_self)
    exact ih (tail.child (List.mem_cons_of_mem _ List.mem_cons_self))

/-- The error of an item's first violation names its token. -/
theorem ProgramItem.FirstViolation.names {item : ProgramItem}
    (first : item.FirstViolation context error front token) : error.Names token := by
  cases first with
  | statement first => exact first.names
  | redeclared => exact ⟨rfl, rfl⟩
  | unknownType => exact ⟨rfl, rfl⟩

/-- The token of an item's first violation stands at the place it is reported at. -/
theorem ProgramItem.FirstViolation.exists_leaves {item : ProgramItem}
    (first : item.FirstViolation context error front token) :
    ∃ back, (Node.programItem item).leaves = front ++ token :: back := by
  rw [Node.leaves_of_children rfl]
  cases first with
  | statement first => simpa [Node.children] using first.exists_leaves
  | @redeclared _ _ before after _ _ _ split clash =>
    obtain ⟨back, leaves⟩ := clash.exists_leaves
    rw [Node.children, List.flatMap_singleton, Node.leaves_of_split split, leaves]
    exact ⟨back ++ after.flatMap Node.leaves, by simp⟩
  | unknownType _ split =>
    rw [Node.children, List.flatMap_singleton, Node.leaves_of_split split, Node.leaves_leaf]
    simp

variable {operators : OperatorTable} {program : Program}

/-- The error is about the token. -/
theorem Program.FirstViolation.names
    (first : program.FirstViolation operators symbols error front token) : error.Names token := by
  induction first with
  | here first => exact first.names
  | later _ _ ih => exact ih

/-- The token is one of the program, behind those in front of it. -/
theorem Program.FirstViolation.exists_leaves
    (first : program.FirstViolation operators symbols error front token) :
    ∃ back, (Node.program program).leaves = front ++ token :: back := by
  induction first with
  | @here _ item tail _ _ _ first =>
    obtain ⟨back, leaves⟩ := first.exists_leaves
    rw [Node.leaves_of_children rfl]
    simp [Node.children, leaves]
  | @later _ _ item _ separator rest _ _ _ _ _ ih =>
    obtain ⟨back, leaves⟩ := ih
    have tail : (Node.programTail (.more separator rest)).leaves = _ :=
      Node.leaves_of_children rfl
    rw [Node.leaves_of_children rfl]
    simp [Node.children, tail, leaves]

/-- An item's first violation is about a token of the right kind. -/
theorem ProgramItem.FirstViolation.aboutKind {item : ProgramItem}
    (first : item.FirstViolation context error front token)
    (placed : (Node.programItem item).Everywhere Node.Placed) :
    error.AboutKind token.kind := by
  cases first with
  | statement first => exact first.aboutKind (placed.child List.mem_cons_self)
  | @unknownType tree =>
    have declaration : (Node.declaration tree).Everywhere Node.Placed :=
      placed.child List.mem_cons_self
    exact declaration.here
  | @redeclared tree _ _ _ _ _ _ split clash =>
    have declaration : (Node.declaration tree).Everywhere Node.Placed :=
      placed.child List.mem_cons_self
    refine clash.kind_eq (declaration.child ?_)
    rw [split]
    exact List.mem_append_right _ List.mem_cons_self

/-- In a program of the grammar, the token is of the kind that the error is about. -/
theorem Program.FirstViolation.aboutKind
    (first : program.FirstViolation operators symbols error front token)
    (placed : (Node.program program).Everywhere Node.Placed) : error.AboutKind token.kind := by
  induction first with
  | here first => exact first.aboutKind (placed.child List.mem_cons_self)
  | @later _ _ item _ separator rest _ _ _ _ _ ih =>
    have tail : (Node.programTail (.more separator rest)).Everywhere Node.Placed :=
      placed.child (List.mem_cons_of_mem _ List.mem_cons_self)
    exact ih (tail.child (List.mem_cons_of_mem _ List.mem_cons_self))

end Tokens

end DimLang
