import DimLang.Proofs.Grammar.Moves
import DimLang.Proofs.Syntax.Within

/-!
# Well-formed trees

The types of trees leave more room than the grammar: any token fits a leaf, any constant fits a
number, and separators may be skipped again and again. In a tree of the grammar (`Node.WellFormed`)

- every leaf holds a token of the kind that its place is for
- separators in front of a statement are kept in one skip, and items of a program have none
- a declaration has either a keyword or a colon
- nothing is typed

`Derives.wellFormed` proves this of all derivations, and `wellFormed_of_parseAs` of all that is
parsed.
-/

namespace DimLang

/-- The statement is a skip of separators. -/
def Statement.Skips : Statement → Prop
  | .skip _ _ => True
  | _ => False

namespace Node

/-- The kind of the token, if the node is a plain leaf. -/
def leafKind? : Node → Option TokenKind
  | leaf tree => some tree.token.kind
  | _ => none

/-- The kinds that the plain leaves among the children are for, in source order. -/
def leafKinds : Node → List TokenKind
  | factor ⟨.not _ _, _⟩ => [.unaryOp]
  | factor ⟨.group _ _ _, _⟩ => [.openParen, .closeParen]
  | addendTail (.more _ _ _) => [.mulOp]
  | operandTail (.more _ _ _) => [.addOp]
  | expressionTail (.more _ _ _) => [.relationOp]
  | expressionListTail (.more _ _) => [.comma]
  | identifierListTail (.more _ _) => [.comma]
  | declaration tree =>
    (tree.keyword?.map fun _ => .dimWord).toList ++
      ((tree.colon?.map fun _ => .colon).toList ++ [.typeName])
  | assignment _ => [.asWord]
  | condition _ => [.ifWord, .thenWord]
  | conditionTail (.more _ _) => [.elseWord]
  | forLoop _ => [.forWord, .toWord, .doWord]
  | whileLoop _ => [.whileWord, .doWord]
  | nestedBlock _ => [.beginWord, .endWord]
  | statementListTail (.more _ _) => [.separator]
  | reading _ => [.readWord, .openParen, .closeParen]
  | writing _ => [.writeWord, .openParen, .closeParen]
  | statement (.skip separators _) => separators.map fun _ => .separator
  | programTail (.more _ _) => [.separator]
  | _ => []

/-- No place of a plain leaf is for a name or a constant. -/
theorem plain_of_mem_leafKinds {node : Node} {kind : TokenKind} (named : kind ∈ node.leafKinds) :
    kind ≠ .identifier ∧ ¬ kind.IsConstant := by
  cases node with
  | declaration tree =>
    simp only [leafKinds, List.mem_append, Option.mem_toList, Option.map_eq_some_iff] at named
    obtain ⟨_, _, rfl⟩ | ⟨_, _, rfl⟩ | named := named
    · simp [TokenKind.IsConstant]
    · simp [TokenKind.IsConstant]
    · simp [List.mem_singleton.mp named, TokenKind.IsConstant]
  | _ =>
    unfold leafKinds at named
    split at named <;> grind [TokenKind.IsConstant]

/-- A name is a token of this kind, and a constant is of a kind that its place is for. -/
def Spelled : Node → Prop
  | identifier tree => tree.token.kind = .identifier
  | literal tree => tree.token.kind.IsConstant
  | number tree => tree.literal.token.kind = .intNumber ∨ tree.literal.token.kind = .floatNumber
  | factor ⟨.bool constant, _⟩ => constant.token.kind = .boolConst
  | _ => True

/-- A skip has separators and no further skip behind them, and an item of a program is no skip. -/
def Collapsed : Node → Prop
  | statement (.skip separators inner) => separators ≠ [] ∧ ¬ inner.Skips
  | programItem (.statement tree) => ¬ tree.Skips
  | _ => True

/-- A declaration has either a keyword or a colon. -/
def OneForm : Node → Prop
  | declaration tree => tree.keyword?.isSome ≠ tree.colon?.isSome
  | _ => True

/-- The node is as the grammar has it. -/
structure WellFormed (node : Node) : Prop where
  marked : node.children.filterMap leafKind? = node.leafKinds
  spelled : node.Spelled
  collapsed : node.Collapsed
  oneForm : node.OneForm
  untyped : ∀ ty ∈ node.ty?, ty = .invalid

/-- Every leaf is well formed. -/
@[simp] theorem wellFormed_leaf (tree : Leaf) : (leaf tree).WellFormed :=
  ⟨rfl, trivial, trivial, trivial, nofun⟩

/-- An untyped name is well formed exactly if its token is a name. -/
@[simp] theorem wellFormed_identifier_iff {token : Token} :
    (identifier ⟨token, .invalid⟩).WellFormed ↔ token.kind = .identifier := by
  constructor
  · intro wellFormed
    exact wellFormed.spelled
  · intro kind
    exact ⟨rfl, kind, trivial, trivial, by simp [ty?]⟩

/-- An untyped literal is well formed exactly if its token is a constant. -/
@[simp] theorem wellFormed_literal_iff {token : Token} :
    (literal ⟨token, .invalid⟩).WellFormed ↔ token.kind.IsConstant := by
  constructor
  · intro wellFormed
    exact wellFormed.spelled
  · intro isConstant
    exact ⟨rfl, isConstant, trivial, trivial, by simp [ty?]⟩

/-- The token of a constant is one, and the type name of a declaration is one. -/
def Grammatical : Node → Prop
  | literal tree => tree.token.kind.IsConstant
  | declaration tree => tree.typeName.token.kind = .typeName
  | _ => True

/-- The token that the rules about the node name is of the right kind: a name, an operator, the word
of an assignment or a type name. -/
def Placed : Node → Prop
  | identifier tree => tree.token.kind = .identifier
  | factor ⟨.not operator _, _⟩ => operator.token.kind = .unaryOp
  | addendTail (.more operator _ _) => operator.token.kind = .mulOp
  | operandTail (.more operator _ _) => operator.token.kind = .addOp
  | expressionTail (.more operator _ _) => operator.token.kind = .relationOp
  | assignment tree => tree.asWord.token.kind = .asWord
  | declaration tree => tree.typeName.token.kind = .typeName
  | _ => True

variable {node : Node}

/-- A well-formed literal is a constant, and a well-formed declaration ends in a type name. -/
theorem WellFormed.grammatical (wellFormed : node.WellFormed) : node.Grammatical := by
  have marked := wellFormed.marked
  have spelled := wellFormed.spelled
  cases node with
  | literal tree => exact spelled
  | declaration tree =>
    -- The type name is the last leaf, whatever stands in front of it.
    have last := congrArg List.getLast? marked
    simpa [children, leafKinds, leafKind?, List.filterMap_cons, ← List.append_assoc,
      Grammatical] using last
  | _ => trivial

/-- In a well-formed node the token that the rules name is of the right kind. -/
theorem WellFormed.placed (wellFormed : node.WellFormed) : node.Placed := by
  have marked := wellFormed.marked
  have spelled := wellFormed.spelled
  cases node with
  | identifier tree => exact spelled
  | assignment tree =>
    simpa [children, leafKinds, leafKind?, List.filterMap_cons, Placed] using marked
  | factor tree =>
    obtain ⟨primary, ty⟩ := tree
    cases primary with
    | not operator operand =>
      simpa [children, Primary.children, leafKinds, leafKind?, List.filterMap_cons, Placed]
        using marked
    | _ => trivial
  | addendTail tree | operandTail tree | expressionTail tree =>
    cases tree with
    | stop ty => trivial
    | more operator rest ty =>
      simpa [children, leafKinds, leafKind?, List.filterMap_cons, Placed] using marked
  | declaration tree => exact wellFormed.grammatical
  | _ => trivial

end Node

variable {endLine : Nat} {symbol : Symbol} {input rest : List Token} {node : Node}

/-- A statement that does not begin with a separator is no skip. -/
theorem Derives.not_skips {statement : Statement}
    (derives : Derives endLine .statement input (.statement statement) rest)
    (behind : nextKind input ≠ .separator) : ¬ statement.Skips := by
  intro skips
  cases statement with
  | skip leaves inner =>
    exact behind (derives.nextKind_eq_separator_iff.mpr ⟨leaves, inner, rfl⟩)
  | _ => exact skips

/-- The trees of the grammar are well formed everywhere. -/
theorem Derives.wellFormed (derives : Derives endLine symbol input node rest) :
    node.Everywhere Node.WellFormed := by
  induction derives with
  | name kind => simpa using kind
  | constant same isConstant =>
    rw [← same] at isConstant
    simpa using isConstant
  | mark | inputEnd => simp
  | number kind =>
    have constant : TokenKind.IsConstant _ := kind.imp_right .inl
    refine Node.everywhere_iff.mpr ⟨⟨rfl, kind, trivial, trivial, by simp [Node.ty?]⟩, ?_⟩
    simpa [Node.children] using constant
  | factorBool kind =>
    have constant : TokenKind.IsConstant _ := .inr (.inr kind)
    refine Node.everywhere_iff.mpr ⟨⟨rfl, kind, trivial, trivial, by simp [Node.ty?]⟩, ?_⟩
    simpa [Node.children, Primary.children] using constant
  | itemEmpty =>
    have empty : (Node.statement .empty).Everywhere Node.WellFormed :=
      (Node.everywhere_iff_of_children rfl).mpr ⟨rfl, trivial, trivial, trivial, by simp [Node.ty?]⟩
    refine Node.everywhere_iff.mpr ⟨⟨rfl, trivial, id, trivial, by simp [Node.ty?]⟩, ?_⟩
    simp [Node.children, empty]
  | itemStatement _ notBlank states ih =>
    refine Node.everywhere_iff.mpr
      ⟨⟨rfl, trivial, states.not_skips notBlank, trivial, by simp [Node.ty?]⟩, ?_⟩
    simp [Node.children, ih]
  | @statementSkip separators _ _ inner nonempty kinds behind part ih =>
    have collapsed : separators.map Leaf.mk ≠ [] ∧ ¬ inner.Skips :=
      ⟨mt List.map_eq_nil_iff.mp nonempty, part.not_skips behind⟩
    refine Node.everywhere_iff.mpr ⟨⟨?_, trivial, collapsed, trivial, by simp [Node.ty?]⟩, ?_⟩
    · simpa [Node.children, Statement.children, Node.leafKinds, Node.leafKind?,
        List.filterMap_cons, Function.comp_def, List.map_eq_replicate_iff] using kinds
    · simp [Node.children, Statement.children, or_imp, forall_and, ih]
  | _ =>
    -- The leaves of the node have the kinds that the derivation asks for; its parts are derived
    -- or are marks and names.
    refine Node.everywhere_iff.mpr ⟨⟨?_, trivial, trivial, ?_, ?_⟩, ?_⟩
    · simp [Node.children, Primary.children, Statement.children, Node.leafKinds,
        Node.leafKind?, List.filterMap_cons, *]
    · simp [Node.OneForm]
    · simp [Node.ty?, AddendTail.ty, OperandTail.ty, ExpressionTail.ty]
    · simp [Node.children, Primary.children, Statement.children, *]

/-- The trees of the grammar are grammatical everywhere. -/
theorem Derives.grammatical (derives : Derives endLine symbol input node rest) :
    node.Everywhere Node.Grammatical :=
  derives.wellFormed.imp fun _ => Node.WellFormed.grammatical

/-- In the trees of the grammar, names and operators stand where they belong. -/
theorem Derives.placed (derives : Derives endLine symbol input node rest) :
    node.Everywhere Node.Placed :=
  derives.wellFormed.imp fun _ => Node.WellFormed.placed

/-- A leaf of the grammar is a token of its kind. -/
theorem Reads.exists_ofToken {kind : TokenKind}
    (reads : Reads endLine (.leaf kind) input node rest) :
    ∃ token, token.kind = kind ∧ node = .ofToken token := by
  cases reads with
  | token consumed =>
    have same := Symbol.eq_leaf_of_consumed consumed
    exact ⟨_, (Symbol.leaf.inj same).symm, rfl⟩
  | production expanded _ _ =>
    cases Rule.mem_productions_of_feed expanded

/-- Every tree that is parsed is well formed, and a single leaf has a token of the kind that is
asked for. -/
theorem wellFormed_of_parseAs {root : Symbol} {tokens : List Token}
    (parsed : parseAs root tokens = .ok node) :
    node.Everywhere Node.WellFormed ∧
      ∀ kind, root = .leaf kind → ∃ token, token.kind = kind ∧ node = .ofToken token := by
  obtain ⟨rest, reads, _⟩ := parseAs_eq_ok_iff.mp parsed
  refine ⟨(derives_of_reads reads).wellFormed, ?_⟩
  rintro kind rfl
  exact reads.exists_ofToken

/-- Blank lines in front of the body of a loop. -/
theorem wellFormed_skipping_loop :
    ∃ node, parseAs .whileLoop [⟨.whileWord, "while", 1⟩, ⟨.identifier, "a", 1⟩,
        ⟨.doWord, "do", 1⟩, ⟨.separator, "\n", 1⟩, ⟨.separator, "\n", 2⟩, ⟨.readWord, "read", 3⟩,
        ⟨.openParen, "(", 3⟩, ⟨.identifier, "b", 3⟩, ⟨.closeParen, ")", 3⟩] = .ok node ∧
      node.Everywhere Node.WellFormed := by
  have test (rest : List Token) :
      Derives 3 .expression (⟨.identifier, "a", 1⟩ :: ⟨.doWord, "do", 1⟩ :: rest) _
        (⟨.doWord, "do", 1⟩ :: rest) :=
    .expression (.operand (.addend (.factorIdentifier rfl) (.addendStop (by simp [nextKind])))
      (.operandStop (by simp [nextKind]))) (.comparisonStop (by simp [nextKind]))
  have body : Derives 3 .statement [⟨.readWord, "read", 3⟩, ⟨.openParen, "(", 3⟩,
      ⟨.identifier, "b", 3⟩, ⟨.closeParen, ")", 3⟩] _ [] :=
    .statementRead (.reading rfl rfl (.identifierList rfl (.identifierStop
      (by simp [nextKind]))) rfl)
  have blanks : ∀ token ∈ ([⟨.separator, "\n", 1⟩, ⟨.separator, "\n", 2⟩] : List Token),
      token.kind = .separator := by decide
  have loop : Derives 3 .whileLoop (⟨.whileWord, "while", 1⟩ :: _) _ [] :=
    .whileLoop rfl (test _) rfl
      (.statementSkip (List.cons_ne_nil _ _) blanks (by simp [nextKind]) body)
  have parsed := parseAs_of_derives loop rfl
  exact ⟨_, parsed, (wellFormed_of_parseAs parsed).1⟩

end DimLang
