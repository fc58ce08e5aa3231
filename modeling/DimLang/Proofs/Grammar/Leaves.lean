import DimLang.Proofs.Grammar.Language

/-!
# The leaves of a tree

Read from left to right, the tokens at the leaves of a tree are the tokens that it was parsed from.

- `Node.leaves` are the tokens of a tree in source order
- `leaves_assemble`: a production keeps the leaves of its children, in order
- `leaves_parseAs`: no token is lost, duplicated, invented or moved by the parser
-/

namespace DimLang

open IsNode

/-- A child weighs less than its node. -/
theorem Node.weight_lt_of_mem_children {node child : Node} (member : child ∈ node.children) :
    child.weight < node.weight := by
  have bound := node.totalWeight_children_lt
  obtain ⟨front, back, split⟩ := List.append_of_mem member
  rw [split, totalWeight_append, totalWeight] at bound
  omega

/-- The tokens at the leaves of the tree, in source order. -/
def Node.leaves (node : Node) : List Token :=
  match node.token? with
  | some token => [token]
  | none => node.children.attach.flatMap fun child => child.val.leaves
termination_by node.weight
decreasing_by exact weight_lt_of_mem_children child.property

namespace Node

/-- A node that holds a token has it as its only leaf. -/
theorem leaves_of_token? {node : Node} {token : Token} (single : node.token? = some token) :
    node.leaves = [token] := by
  rw [leaves, single]

/-- The leaves of an inner node are those of its children. -/
theorem leaves_of_children {node : Node} (inner : node.token? = none) :
    node.leaves = node.children.flatMap leaves := by
  rw [leaves, inner]
  exact (List.flatMap_subtype fun _ _ => rfl).trans (by rw [List.unattach_attach])

/-- The only leaf of a plain leaf is its token. -/
@[simp] theorem leaves_leaf (tree : Leaf) : (leaf tree).leaves = [tree.token] :=
  leaves_of_token? rfl

/-- The only leaf of an identifier is its token. -/
@[simp] theorem leaves_identifier (tree : Identifier) :
    (identifier tree).leaves = [tree.token] :=
  leaves_of_token? rfl

/-- The only leaf of the node of a token is the token. -/
theorem leaves_ofToken (token : Token) : (ofToken token).leaves = [token] := by
  apply leaves_of_token?
  rw [ofToken]
  split <;> rfl

end Node

/-! ## Assembly keeps the leaves -/

/-- Whatever node is built, its leaves are those of the nodes in front and of the children. -/
def KeepsLeaves {α : Type} [Builds α] (front : List Node) (f : α) : Prop :=
  ∀ {children : List Node} {node : Node}, build f children = .ok node →
    node.leaves = (front ++ children).flatMap Node.leaves

/-- A finished node keeps leaves if it has those of the children taken. -/
theorem keepsLeaves_node {front : List Node} {tree : Node}
    (same : tree.leaves = front.flatMap Node.leaves) : KeepsLeaves front tree := by
  intro children node built
  obtain ⟨rfl, rfl⟩ := build_node_eq_ok_iff.mp built
  rw [same, List.append_nil]

/-- A node is built from its own children. -/
theorem keepsLeaves_children {front : List Node} {tree : Node} (inner : tree.token? = none)
    (same : tree.children = front) : KeepsLeaves front tree := by
  refine keepsLeaves_node ?_
  rw [Node.leaves_of_children inner, same]

/-- A function keeps leaves if it does so for each next child. -/
theorem keepsLeaves_function {α β : Type} [IsNode α] [LawfulNode α] [Builds β]
    {front : List Node} {f : α → β}
    (keeps : ∀ tree, KeepsLeaves (front ++ [toNode tree]) (f tree)) : KeepsLeaves front f := by
  intro children node built
  obtain ⟨tree, rest, rfl, rebuilt⟩ := build_function_eq_ok_iff.mp built
  rw [keeps tree rebuilt, List.append_assoc, List.singleton_append]

/-- A statement behind a separator has the leaves of both. -/
theorem leaves_behind (separator : Leaf) (statement : Statement) :
    (Node.statement (statement.behind separator)).leaves =
      [Node.leaf separator, Node.statement statement].flatMap Node.leaves := by
  rw [Node.leaves_of_children rfl]
  cases statement with
  | skip separators inner =>
    have inside : (Node.statement (.skip separators inner)).leaves =
        (separators.map Node.leaf ++ [Node.statement inner]).flatMap Node.leaves :=
      Node.leaves_of_children rfl
    rw [List.flatMap_cons, List.flatMap_singleton, inside, ← List.flatMap_cons]
    rfl
  | _ => rfl

/-- An assembled node has the leaves of its children, in order. -/
theorem leaves_assemble {production : Production} {children : List Node} {node : Node}
    (assembled : production.assemble children = .ok node) :
    node.leaves = children.flatMap Node.leaves := by
  have keeps {α : Type} [Builds α] {f : α} (keepsNothing : KeepsLeaves [] f)
      (built : build f children = .ok node) : node.leaves = children.flatMap Node.leaves :=
    keepsNothing built
  cases production with
  | statementSkip =>
    exact keeps (keepsLeaves_function fun separator => keepsLeaves_function fun statement =>
      keepsLeaves_node (leaves_behind separator statement)) assembled
  | programItemEmpty =>
    have empty : (Node.programItem (.statement .empty)).leaves = [] := by
      rw [Node.leaves_of_children rfl, Node.children, List.flatMap_singleton,
        Node.leaves_of_children rfl]
      rfl
    exact keeps (keepsLeaves_node empty) assembled
  | programTailEnd | identifierListEnd | statementEmpty | conditionEnd | statementListEnd
  | expressionListEnd | expressionTailEnd | operandEnd | addendEnd =>
    exact keeps (keepsLeaves_children rfl rfl) assembled
  | programItemDeclaration | programItemStatement | statementAssignment | statementBlock
  | statementCondition | statementFor | statementWhile | statementRead | statementWrite
  | factorIdentifier | factorNumber | factorBool | numberInt | numberFloat =>
    exact keeps (keepsLeaves_function fun _ => keepsLeaves_children rfl rfl) assembled
  | program | programTailMore | identifierList | identifierListMore | conditionElse
  | statementList | statementListMore | expressionList | expressionListMore | expression
  | expressionComparison | operand | operandMore | addend | addendMore | factorNot =>
    exact keeps (keepsLeaves_function fun _ => keepsLeaves_function fun _ =>
      keepsLeaves_children rfl rfl) assembled
  | declarationKeyword | declarationColon | assignment | nestedBlock | factorGroup =>
    exact keeps (keepsLeaves_function fun _ => keepsLeaves_function fun _ =>
      keepsLeaves_function fun _ => keepsLeaves_children rfl rfl) assembled
  | whileLoop | reading | writing =>
    exact keeps (keepsLeaves_function fun _ => keepsLeaves_function fun _ =>
      keepsLeaves_function fun _ => keepsLeaves_function fun _ =>
        keepsLeaves_children rfl rfl) assembled
  | condition =>
    exact keeps (keepsLeaves_function fun _ => keepsLeaves_function fun _ =>
      keepsLeaves_function fun _ => keepsLeaves_function fun _ =>
        keepsLeaves_function fun _ => keepsLeaves_children rfl rfl) assembled
  | forLoop =>
    exact keeps (keepsLeaves_function fun _ => keepsLeaves_function fun _ =>
      keepsLeaves_function fun _ => keepsLeaves_function fun _ =>
        keepsLeaves_function fun _ => keepsLeaves_function fun _ =>
          keepsLeaves_children rfl rfl) assembled

/-! ## Parsing keeps the tokens -/

/-- No production asks for the end of the input. -/
theorem Production.ne_leaf_eof_of_mem_rhs {production : Production} {symbol : Symbol}
    (member : symbol ∈ production.rhs) : symbol ≠ .leaf .eof := by
  rintro rfl
  have none := List.countP_eq_zero.mp production.not_awaitsEnd_rhs _
    (List.mem_map_of_mem (f := Pending.symbol) member)
  exact none rfl

/-- The leaves of the nodes are what is read. -/
theorem InSequence.leaves_append {symbols : List Symbol} {input rest : List Token}
    {nodes : List Node}
    (parts : InSequence (fun symbol input node rest =>
      symbol ≠ .leaf .eof → node.leaves ++ rest = input) symbols input nodes rest)
    (notEnd : ∀ symbol ∈ symbols, symbol ≠ .leaf .eof) :
    nodes.flatMap Node.leaves ++ rest = input := by
  induction parts with
  | nil => rfl
  | cons head _ ih =>
    obtain ⟨notHead, notTail⟩ := List.forall_mem_cons.mp notEnd
    rw [List.flatMap_cons, List.append_assoc, ih notTail, head notHead]

/-- The leaves of the tree are what is read, unless the symbol stands for the end of the input. -/
theorem Reads.leaves_append {endLine : Nat} {symbol : Symbol} {input rest : List Token}
    {node : Node} (reads : Reads endLine symbol input node rest)
    (notEnd : symbol ≠ .leaf .eof) : node.leaves ++ rest = input := by
  refine Reads.rule_induction
    (motive := fun symbol input node rest => symbol ≠ .leaf .eof → node.leaves ++ rest = input)
    ?_ ?_ reads notEnd
  · intro symbol input consumed notEnd
    obtain rfl := Symbol.eq_leaf_of_consumed consumed
    cases input with
    | nil => exact absurd rfl notEnd
    | cons token rest =>
      rw [windowAt_current_cons, Node.leaves_ofToken]
      rfl
  · intro symbol input rest production nodes node _ parts assembled _
    rw [leaves_assemble assembled]
    exact parts.leaves_append fun _ member => Production.ne_leaf_eof_of_mem_rhs member

/-- The leaves of a parsed tree are the tokens it was parsed from. -/
theorem leaves_parseAs {root : Symbol} {tokens : List Token} {node : Node}
    (notEnd : root ≠ .leaf .eof) (noEnd : ∀ token ∈ tokens, token.kind ≠ .eof)
    (parsed : parseAs root tokens = .ok node) : node.leaves = tokens := by
  have reads := (parseAs_eq_ok_iff_reads noEnd).mp parsed
  rw [← reads.leaves_append notEnd, List.append_nil]

/-- A separator, a name, a word and a constant are found again at the leaves of a statement. -/
theorem leaves_parseAs_assignment :
    ∃ node, parseAs .statement [⟨.separator, ";", 1⟩, ⟨.identifier, "x", 1⟩, ⟨.asWord, "as", 1⟩,
        ⟨.intNumber, "5", 1⟩] = .ok node ∧
      node.leaves = [⟨.separator, ";", 1⟩, ⟨.identifier, "x", 1⟩, ⟨.asWord, "as", 1⟩,
        ⟨.intNumber, "5", 1⟩] := by
  have separators : ∀ token ∈ ([⟨.separator, ";", 1⟩] : List Token), token.kind = .separator := by
    decide
  have value : Derives 1 .factor [⟨.intNumber, "5", 1⟩]
      (.factor ⟨.number ⟨⟨⟨.intNumber, "5", 1⟩, .invalid⟩, .invalid⟩, .invalid⟩) [] :=
    .factorNumber (.number (.inl rfl))
  have assignment : ∃ tree, Derives 1 .assignment
      [⟨.identifier, "x", 1⟩, ⟨.asWord, "as", 1⟩, ⟨.intNumber, "5", 1⟩] (.assignment tree) [] :=
    ⟨_, .assignment rfl rfl (.expression (.operand (.addend value (.addendStop (by decide)))
      (.operandStop (by decide))) (.comparisonStop (by decide)))⟩
  obtain ⟨tree, derives⟩ := assignment
  have statement := Derives.statementSkip (List.cons_ne_nil _ _) separators
    (by decide : nextKind [⟨.identifier, "x", 1⟩, ⟨.asWord, "as", 1⟩, ⟨.intNumber, "5", 1⟩] ≠
      .separator) (.statementAssignment derives)
  have noEnd : ∀ token ∈ ([⟨.separator, ";", 1⟩, ⟨.identifier, "x", 1⟩, ⟨.asWord, "as", 1⟩,
      ⟨.intNumber, "5", 1⟩] : List Token), token.kind ≠ .eof := by decide
  have parsed := (parseAs_eq_ok_iff_reads noEnd).mpr (reads_of_derives statement)
  exact ⟨_, parsed, leaves_parseAs (by decide) noEnd parsed⟩

end DimLang
