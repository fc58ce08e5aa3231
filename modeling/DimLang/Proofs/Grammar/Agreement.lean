import DimLang.Proofs.Grammar.Assembly
import DimLang.Proofs.Grammar.Lookahead
import DimLang.Proofs.Grammar.Reading

/-!
# The parser and the grammar

Every reading of a symbol by the rules and the assembly of nodes is a derivation of the grammar,
and every derivation is such a reading (`reads_iff_derives`).
-/

namespace DimLang

open IsNode

variable {endLine : Nat}

/-! ## Productions with typed children -/

section Yields

variable {relation : Symbol → List Token → Node → List Token → Prop} {input rest : List Token}
  {node : Node}

/-- The production assembles the node from the trees of its symbols, which are read in the sense
of the relation. -/
def Production.Yields (relation : Symbol → List Token → Node → List Token → Prop)
    (production : Production) (input : List Token) (node : Node) (rest : List Token) : Prop :=
  ∃ nodes, InSequence relation production.rhs input nodes rest ∧
    production.assemble nodes = .ok node

/-- A production without symbols yields its node and leaves the input as it is. -/
theorem yields_nil {tree : Node}
    (yields : ∃ nodes, InSequence relation [] input nodes rest ∧ build tree nodes = .ok node) :
    rest = input ∧ node = tree := by
  obtain ⟨_, parts, built⟩ := yields
  obtain ⟨rfl, same⟩ := build_node_eq_ok_iff.mp built
  cases parts
  exact ⟨rfl, same⟩

/-- The first child is a tree of the type of the first argument. -/
theorem yields_tree {α β : Type} [IsNode α] [LawfulNode α] [Builds β] {f : α → β}
    {symbol : Symbol} {symbols : List Symbol}
    (yields : ∃ nodes, InSequence relation (symbol :: symbols) input nodes rest ∧
      build f nodes = .ok node) :
    ∃ tree middle, relation symbol input (toNode tree) middle ∧
      ∃ nodes, InSequence relation symbols middle nodes rest ∧ build (f tree) nodes = .ok node := by
  obtain ⟨_, parts, built⟩ := yields
  obtain ⟨tree, nodes, rfl, rebuilt⟩ := build_function_eq_ok_iff.mp built
  cases parts with
  | cons head tail => exact ⟨tree, _, head, nodes, tail, rebuilt⟩

variable {kind : TokenKind} {symbols : List Symbol} {β : Type} [Builds β]

/-- A first child that is a mark is the next token. -/
theorem yields_mark {f : Leaf → β}
    (yields : ∃ nodes, InSequence (Derives endLine) (.leaf kind :: symbols) input nodes rest ∧
      build f nodes = .ok node) (notEnd : kind ≠ .eof) :
    ∃ token middle, token.kind = kind ∧ input = token :: middle ∧
      ∃ nodes, InSequence (Derives endLine) symbols middle nodes rest ∧
        build (f ⟨token⟩) nodes = .ok node := by
  obtain ⟨tree, middle, leaf, others⟩ := yields_tree yields
  obtain ⟨token, same, rfl, rfl⟩ := leaf.exists_mark notEnd
  exact ⟨token, middle, same, rfl, others⟩

/-- A first child that is a name is the next token. -/
theorem yields_name {f : Identifier → β}
    (yields : ∃ nodes, InSequence (Derives endLine) (.leaf kind :: symbols) input nodes rest ∧
      build f nodes = .ok node) :
    ∃ token middle, token.kind = .identifier ∧ input = token :: middle ∧
      ∃ nodes, InSequence (Derives endLine) symbols middle nodes rest ∧
        build (f ⟨token, .invalid⟩) nodes = .ok node := by
  obtain ⟨tree, middle, leaf, others⟩ := yields_tree yields
  obtain ⟨token, same, rfl, rfl⟩ := leaf.exists_name
  exact ⟨token, middle, same, rfl, others⟩

/-- A first child that is a constant is the next token. -/
theorem yields_constant {f : Literal → β}
    (yields : ∃ nodes, InSequence (Derives endLine) (.leaf kind :: symbols) input nodes rest ∧
      build f nodes = .ok node) :
    ∃ token middle, token.kind = kind ∧ input = token :: middle ∧
      ∃ nodes, InSequence (Derives endLine) symbols middle nodes rest ∧
        build (f ⟨token, .invalid⟩) nodes = .ok node := by
  obtain ⟨tree, middle, leaf, others⟩ := yields_tree yields
  obtain ⟨token, same, rfl, rfl⟩ := leaf.exists_constant
  exact ⟨token, middle, same, rfl, others⟩

end Yields

/-! ## Leaves -/

/-- The node of a name is an untyped identifier. -/
theorem ofToken_identifier {token : Token} (kind : token.kind = .identifier) :
    Node.ofToken token = .identifier ⟨token, .invalid⟩ := by
  rw [Node.ofToken, kind]

/-- The node of a constant is an untyped literal. -/
theorem ofToken_constant {token : Token} (isConstant : token.kind.IsConstant) :
    Node.ofToken token = .literal ⟨token, .invalid⟩ := by
  rcases isConstant with kind | kind | kind <;> rw [Node.ofToken, kind]

/-- The node of any other token is a plain leaf. -/
theorem ofToken_mark {token : Token} (notName : token.kind ≠ .identifier)
    (notConstant : ¬ token.kind.IsConstant) : Node.ofToken token = .leaf ⟨token⟩ := by
  simp only [TokenKind.IsConstant, not_or] at notConstant
  rw [Node.ofToken]
  split <;> simp_all

/-! ## Readings are derivations -/

/-- A separator in front of a statement that is no skip is a skip of its own. -/
theorem Derives.behind_eq_skip {separator : Leaf} {input rest : List Token}
    {statement : Statement}
    (derives : Derives endLine .statement input (.statement statement) rest)
    (behind : nextKind input ≠ .separator) :
    statement.behind separator = .skip [separator] statement := by
  cases statement with
  | skip leaves inner =>
    exact absurd (derives.nextKind_eq_separator_iff.mpr ⟨leaves, inner, rfl⟩) behind
  | _ => rfl

/-- Separators in front of a statement are put in front of those that it skips already. -/
theorem Derives.behind {separator : Token} {input rest : List Token} {statement : Statement}
    (kind : separator.kind = .separator)
    (derives : Derives endLine .statement input (.statement statement) rest) :
    Derives endLine .statement (separator :: input)
      (.statement (statement.behind ⟨separator⟩)) rest := by
  by_cases skips : nextKind input = .separator
  · obtain ⟨leaves, inner, rfl⟩ := derives.nextKind_eq_separator_iff.mp skips
    obtain ⟨separators, middle, rfl, rfl, _, kinds, behind, part⟩ := derives.exists_separators
    exact .statementSkip (List.cons_ne_nil separator separators)
      (List.forall_mem_cons.mpr ⟨kind, kinds⟩) behind part
  · rw [derives.behind_eq_skip skips]
    exact .statementSkip (List.cons_ne_nil separator []) (List.forall_mem_singleton.mpr kind)
      skips derives

section OfYields

variable {production : Production} {input rest : List Token} {node : Node}

/-- A production with one tree stands for it as a node of another notion. -/
theorem Derives.of_single {α : Type} [IsNode α] [LawfulNode α] {symbol part : Symbol}
    {wrapped : α → Node}
    (yields : ∃ nodes, InSequence (Derives endLine) [part] input nodes rest ∧
      build wrapped nodes = .ok node)
    (onPart : ∀ {tree : α}, Derives endLine part input (toNode tree) rest →
      Derives endLine symbol input (wrapped tree) rest) :
    Derives endLine symbol input node rest := by
  obtain ⟨tree, _, derives, afterTree⟩ := yields_tree yields
  obtain ⟨rfl, rfl⟩ := yields_nil afterTree
  exact onPart derives

/-- A production may consist of a head and its tail. -/
theorem Derives.of_pair {α β : Type} [IsNode α] [LawfulNode α] [IsNode β] [LawfulNode β]
    {symbol first second : Symbol} {paired : α → β → Node}
    (yields : ∃ nodes, InSequence (Derives endLine) [first, second] input nodes rest ∧
      build paired nodes = .ok node)
    (onPair : ∀ {middle : List Token} {head : α} {tail : β},
      Derives endLine first input (toNode head) middle →
        Derives endLine second middle (toNode tail) rest →
          Derives endLine symbol input (paired head tail) rest) :
    Derives endLine symbol input node rest := by
  obtain ⟨head, _, derivesHead, afterHead⟩ := yields_tree yields
  obtain ⟨tail, _, derivesTail, afterTail⟩ := yields_tree afterHead
  obtain ⟨rfl, rfl⟩ := yields_nil afterTail
  exact onPair derivesHead derivesTail

/-- A tail is a token of its kind with the tree behind it, or nothing where no such token comes
next. -/
theorem Derives.of_tail {α : Type} [IsNode α] [LawfulNode α] {symbol next : Symbol}
    {kind : TokenKind} {more stop : Production} {continued : Leaf → α → Node} {stopped : Node}
    (expanded : (Rule.tail [kind] more stop).feed symbol (windowAt endLine input) =
      .ok (.expand production))
    (yields : production.Yields (Derives endLine) input node rest)
    (onMore : ∀ {token : Token} {middle : List Token} {tree : α}, token.kind = kind →
      Derives endLine next middle (toNode tree) rest →
        Derives endLine symbol (token :: middle) (continued ⟨token⟩ tree) rest)
    (onStop : nextKind input ≠ kind → Derives endLine symbol input stopped input)
    (moreSymbols : more.rhs = [.leaf kind, next] := by rfl)
    (moreNode : ∀ nodes, more.assemble nodes = build continued nodes := by intro; rfl)
    (stopSymbols : stop.rhs = [] := by rfl)
    (stopNode : ∀ nodes, stop.assemble nodes = build stopped nodes := by intro; rfl)
    (notEnd : kind ≠ .eof := by decide) :
    Derives endLine symbol input node rest := by
  rw [Production.Yields] at yields
  rcases feed_tail_iff.mp expanded with ⟨_, rfl⟩ | ⟨stops, rfl⟩
  · simp only [moreSymbols, moreNode] at yields
    obtain ⟨token, _, same, rfl, afterToken⟩ := yields_mark yields notEnd
    obtain ⟨tree, _, part, afterTree⟩ := yields_tree afterToken
    obtain ⟨rfl, rfl⟩ := yields_nil afterTree
    exact onMore same part
  · simp only [stopSymbols, stopNode] at yields
    obtain ⟨rfl, rfl⟩ := yields_nil yields
    exact onStop stops

/-- A declaration with a keyword is derived. -/
theorem Derives.of_declarationKeyword
    (yields : Production.declarationKeyword.Yields (Derives endLine) input node rest) :
    Derives endLine .declaration input node rest := by
  obtain ⟨word, _, wordKind, rfl, afterWord⟩ := yields_mark yields nofun
  obtain ⟨names, _, list, afterNames⟩ := yields_tree afterWord
  obtain ⟨typeName, _, typeKind, rfl, afterTypeName⟩ := yields_mark afterNames nofun
  obtain ⟨rfl, rfl⟩ := yields_nil afterTypeName
  exact .declarationKeyword wordKind list typeKind

/-- A declaration with a colon is derived. -/
theorem Derives.of_declarationColon
    (yields : Production.declarationColon.Yields (Derives endLine) input node rest) :
    Derives endLine .declaration input node rest := by
  obtain ⟨names, _, list, afterNames⟩ := yields_tree yields
  obtain ⟨mark, _, markKind, rfl, afterMark⟩ := yields_mark afterNames nofun
  obtain ⟨typeName, _, typeKind, rfl, afterTypeName⟩ := yields_mark afterMark nofun
  obtain ⟨rfl, rfl⟩ := yields_nil afterTypeName
  exact .declarationColon list markKind typeKind

/-- A list of names is derived. -/
theorem Derives.of_identifierList
    (yields : Production.identifierList.Yields (Derives endLine) input node rest) :
    Derives endLine .identifierList input node rest := by
  obtain ⟨head, _, kind, rfl, afterHead⟩ := yields_name yields
  obtain ⟨tail, _, more, afterTail⟩ := yields_tree afterHead
  obtain ⟨rfl, rfl⟩ := yields_nil afterTail
  exact .identifierList kind more

/-- Separators in front of a statement are derived, as one skip. -/
theorem Derives.of_statementSkip
    (yields : Production.statementSkip.Yields (Derives endLine) input node rest) :
    Derives endLine .statement input node rest := by
  obtain ⟨separator, _, kind, rfl, afterSeparator⟩ := yields_mark yields nofun
  obtain ⟨statement, _, part, afterStatement⟩ := yields_tree afterSeparator
  obtain ⟨rfl, rfl⟩ := yields_nil afterStatement
  exact part.behind kind

/-- An assignment is derived. -/
theorem Derives.of_assignment
    (yields : Production.assignment.Yields (Derives endLine) input node rest) :
    Derives endLine .assignment input node rest := by
  obtain ⟨target, _, targetKind, rfl, afterTarget⟩ := yields_name yields
  obtain ⟨asWord, _, asKind, rfl, afterAsWord⟩ := yields_mark afterTarget nofun
  obtain ⟨value, _, part, afterValue⟩ := yields_tree afterAsWord
  obtain ⟨rfl, rfl⟩ := yields_nil afterValue
  exact .assignment targetKind asKind part

/-- A condition is derived. -/
theorem Derives.of_condition
    (yields : Production.condition.Yields (Derives endLine) input node rest) :
    Derives endLine .condition input node rest := by
  obtain ⟨ifWord, _, ifKind, rfl, afterIfWord⟩ := yields_mark yields nofun
  obtain ⟨test, _, tests, afterTest⟩ := yields_tree afterIfWord
  obtain ⟨thenWord, _, thenKind, rfl, afterThenWord⟩ := yields_mark afterTest nofun
  obtain ⟨branch, _, states, afterBranch⟩ := yields_tree afterThenWord
  obtain ⟨tail, _, more, afterTail⟩ := yields_tree afterBranch
  obtain ⟨rfl, rfl⟩ := yields_nil afterTail
  exact .condition ifKind tests thenKind states more

/-- A counting loop is derived. -/
theorem Derives.of_forLoop
    (yields : Production.forLoop.Yields (Derives endLine) input node rest) :
    Derives endLine .forLoop input node rest := by
  obtain ⟨forWord, _, forKind, rfl, afterForWord⟩ := yields_mark yields nofun
  obtain ⟨start, _, starts, afterStart⟩ := yields_tree afterForWord
  obtain ⟨toWord, _, toKind, rfl, afterToWord⟩ := yields_mark afterStart nofun
  obtain ⟨limit, _, limits, afterLimit⟩ := yields_tree afterToWord
  obtain ⟨doWord, _, doKind, rfl, afterDoWord⟩ := yields_mark afterLimit nofun
  obtain ⟨body, _, states, afterBody⟩ := yields_tree afterDoWord
  obtain ⟨rfl, rfl⟩ := yields_nil afterBody
  exact .forLoop forKind starts toKind limits doKind states

/-- A loop under a condition is derived. -/
theorem Derives.of_whileLoop
    (yields : Production.whileLoop.Yields (Derives endLine) input node rest) :
    Derives endLine .whileLoop input node rest := by
  obtain ⟨whileWord, _, whileKind, rfl, afterWhileWord⟩ := yields_mark yields nofun
  obtain ⟨test, _, tests, afterTest⟩ := yields_tree afterWhileWord
  obtain ⟨doWord, _, doKind, rfl, afterDoWord⟩ := yields_mark afterTest nofun
  obtain ⟨body, _, states, afterBody⟩ := yields_tree afterDoWord
  obtain ⟨rfl, rfl⟩ := yields_nil afterBody
  exact .whileLoop whileKind tests doKind states

/-- A block is derived. -/
theorem Derives.of_nestedBlock
    (yields : Production.nestedBlock.Yields (Derives endLine) input node rest) :
    Derives endLine .nestedBlock input node rest := by
  obtain ⟨beginWord, _, beginKind, rfl, afterBeginWord⟩ := yields_mark yields nofun
  obtain ⟨statements, _, list, afterStatements⟩ := yields_tree afterBeginWord
  obtain ⟨endWord, _, endKind, rfl, afterEndWord⟩ := yields_mark afterStatements nofun
  obtain ⟨rfl, rfl⟩ := yields_nil afterEndWord
  exact .nestedBlock beginKind list endKind

/-- An input statement is derived. -/
theorem Derives.of_reading
    (yields : Production.reading.Yields (Derives endLine) input node rest) :
    Derives endLine .reading input node rest := by
  obtain ⟨readWord, _, readKind, rfl, afterReadWord⟩ := yields_mark yields nofun
  obtain ⟨opening, _, openKind, rfl, afterOpening⟩ := yields_mark afterReadWord nofun
  obtain ⟨names, _, list, afterNames⟩ := yields_tree afterOpening
  obtain ⟨closing, _, closeKind, rfl, afterClosing⟩ := yields_mark afterNames nofun
  obtain ⟨rfl, rfl⟩ := yields_nil afterClosing
  exact .reading readKind openKind list closeKind

/-- An output statement is derived. -/
theorem Derives.of_writing
    (yields : Production.writing.Yields (Derives endLine) input node rest) :
    Derives endLine .writing input node rest := by
  obtain ⟨writeWord, _, writeKind, rfl, afterWriteWord⟩ := yields_mark yields nofun
  obtain ⟨opening, _, openKind, rfl, afterOpening⟩ := yields_mark afterWriteWord nofun
  obtain ⟨expressions, _, list, afterExpressions⟩ := yields_tree afterOpening
  obtain ⟨closing, _, closeKind, rfl, afterClosing⟩ := yields_mark afterExpressions nofun
  obtain ⟨rfl, rfl⟩ := yields_nil afterClosing
  exact .writing writeKind openKind list closeKind

/-- A name that is a factor is derived. -/
theorem Derives.of_factorIdentifier
    (yields : Production.factorIdentifier.Yields (Derives endLine) input node rest) :
    Derives endLine .factor input node rest := by
  obtain ⟨token, _, kind, rfl, afterToken⟩ := yields_name yields
  obtain ⟨rfl, rfl⟩ := yields_nil afterToken
  exact .factorIdentifier kind

/-- A truth constant that is a factor is derived. -/
theorem Derives.of_factorBool
    (yields : Production.factorBool.Yields (Derives endLine) input node rest) :
    Derives endLine .factor input node rest := by
  obtain ⟨token, _, kind, rfl, afterToken⟩ := yields_constant yields
  obtain ⟨rfl, rfl⟩ := yields_nil afterToken
  exact .factorBool kind

/-- A negated factor is derived. -/
theorem Derives.of_factorNot
    (yields : Production.factorNot.Yields (Derives endLine) input node rest) :
    Derives endLine .factor input node rest := by
  obtain ⟨operator, _, kind, rfl, afterOperator⟩ := yields_mark yields nofun
  obtain ⟨operand, _, part, afterOperand⟩ := yields_tree afterOperator
  obtain ⟨rfl, rfl⟩ := yields_nil afterOperand
  exact .factorNot kind part

/-- A group is derived. -/
theorem Derives.of_factorGroup
    (yields : Production.factorGroup.Yields (Derives endLine) input node rest) :
    Derives endLine .factor input node rest := by
  obtain ⟨opening, _, openKind, rfl, afterOpening⟩ := yields_mark yields nofun
  obtain ⟨inner, _, part, afterInner⟩ := yields_tree afterOpening
  obtain ⟨closing, _, closeKind, rfl, afterClosing⟩ := yields_mark afterInner nofun
  obtain ⟨rfl, rfl⟩ := yields_nil afterClosing
  exact .factorGroup openKind part closeKind

/-- A statement of the kind that its first token calls for is derived. -/
theorem Derives.of_statementTable
    (member : (Lookahead.kind (nextKind input), production) ∈ statementTable)
    (yields : production.Yields (Derives endLine) input node rest) :
    Derives endLine .statement input node rest := by
  simp only [statementTable, List.mem_cons, Prod.mk.injEq, Lookahead.kind.injEq,
    List.not_mem_nil, or_false] at member
  rcases member with ⟨_, rfl⟩ | ⟨_, rfl⟩ | ⟨_, rfl⟩ | ⟨_, rfl⟩ | ⟨_, rfl⟩ | ⟨_, rfl⟩ | ⟨_, rfl⟩ |
    ⟨_, rfl⟩ | ⟨ends, rfl⟩ | ⟨ends, rfl⟩
  · exact .of_single yields .statementAssignment
  · exact .of_single yields .statementBlock
  · exact .of_single yields .statementCondition
  · exact .of_single yields .statementFor
  · exact .of_single yields .statementWhile
  · exact .of_single yields .statementRead
  · exact .of_single yields .statementWrite
  · exact .of_statementSkip yields
  · obtain ⟨rfl, rfl⟩ := yields_nil yields
    exact .statementEmpty (.inr ends)
  · obtain ⟨rfl, rfl⟩ := yields_nil yields
    exact .statementEmpty (.inl ends)

/-- An item of the kind that its first two tokens call for is derived. -/
theorem Derives.of_programItemTable
    (expanded : (Rule.choice programItemTable).feed .programItem (windowAt endLine input) =
      .ok (.expand production))
    (yields : production.Yields (Derives endLine) input node rest) :
    Derives endLine .programItem input node rest := by
  rcases feed_programItem_iff.mp expanded with
    ⟨starts, rfl⟩ | ⟨blank, rfl⟩ | ⟨noDeclaration, notBlank, rfl⟩
  · exact .of_single yields (.itemDeclaration starts)
  · obtain ⟨rfl, rfl⟩ := yields_nil yields
    exact .itemEmpty blank
  · exact .of_single yields (.itemStatement noDeclaration notBlank)

/-- A factor of the kind that its first token calls for is derived. -/
theorem Derives.of_factorTable
    (member : (Lookahead.kind (nextKind input), production) ∈ factorTable)
    (yields : production.Yields (Derives endLine) input node rest) :
    Derives endLine .factor input node rest := by
  simp only [factorTable, List.mem_cons, Prod.mk.injEq, List.not_mem_nil, or_false] at member
  rcases member with ⟨_, rfl⟩ | ⟨_, rfl⟩ | ⟨_, rfl⟩ | ⟨_, rfl⟩ | ⟨_, rfl⟩ | ⟨_, rfl⟩
  · exact .of_factorIdentifier yields
  · exact .of_single yields .factorNumber
  · exact .of_single yields .factorNumber
  · exact .of_factorBool yields
  · exact .of_factorNot yields
  · exact .of_factorGroup yields

/-- A number of the kind of its token is derived. -/
theorem Derives.of_numberTable
    (member : (Lookahead.kind (nextKind input), production) ∈ numberTable)
    (yields : production.Yields (Derives endLine) input node rest) :
    Derives endLine .number input node rest := by
  simp only [numberTable, List.mem_cons, Prod.mk.injEq, List.not_mem_nil, or_false] at member
  rcases member with ⟨_, rfl⟩ | ⟨_, rfl⟩
  · obtain ⟨token, _, kind, rfl, afterToken⟩ := yields_constant yields
    obtain ⟨rfl, rfl⟩ := yields_nil afterToken
    exact .number (.inl kind)
  · obtain ⟨token, _, kind, rfl, afterToken⟩ := yields_constant yields
    obtain ⟨rfl, rfl⟩ := yields_nil afterToken
    exact .number (.inr kind)

/-- Whatever production a symbol is expanded into, derivations of its symbols make up one of the
symbol. -/
theorem Derives.of_yields {symbol : Symbol}
    (expanded : symbol.rule.feed symbol (windowAt endLine input) = .ok (.expand production))
    (yields : production.Yields (Derives endLine) input node rest) :
    Derives endLine symbol input node rest := by
  cases symbol with
  | leaf kind =>
    rw [Symbol.rule, Rule.feed] at expanded
    split at expanded <;> cases expanded
  | program => cases expanded; exact .of_pair yields .program
  | programItem => exact .of_programItemTable expanded yields
  | programTail =>
    exact .of_tail expanded yields .programMore .programStop
  | declaration =>
    have member := (feed_exact_iff (by decide)).mp expanded
    simp only [declarationTable, List.mem_cons, Prod.mk.injEq, List.not_mem_nil,
      or_false] at member
    rcases member with ⟨_, rfl⟩ | ⟨_, rfl⟩
    · exact .of_declarationKeyword yields
    · exact .of_declarationColon yields
  | identifierList => cases expanded; exact .of_identifierList yields
  | identifierListTail =>
    exact .of_tail expanded yields .identifierMore .identifierStop
  | statement => exact .of_statementTable ((feed_exact_iff (by decide)).mp expanded) yields
  | statementList => cases expanded; exact .of_pair yields .statementList
  | statementListTail =>
    exact .of_tail expanded yields .statementMore .statementStop
  | assignment => cases expanded; exact .of_assignment yields
  | condition => cases expanded; exact .of_condition yields
  | conditionTail =>
    exact .of_tail expanded yields .conditionElse .conditionStop
  | forLoop => cases expanded; exact .of_forLoop yields
  | whileLoop => cases expanded; exact .of_whileLoop yields
  | nestedBlock => cases expanded; exact .of_nestedBlock yields
  | reading => cases expanded; exact .of_reading yields
  | writing => cases expanded; exact .of_writing yields
  | expressionList => cases expanded; exact .of_pair yields .expressionList
  | expressionListTail =>
    exact .of_tail expanded yields .expressionMore .expressionStop
  | expression => cases expanded; exact .of_pair yields .expression
  | expressionTail =>
    exact .of_tail expanded yields .comparison .comparisonStop
  | operand => cases expanded; exact .of_pair yields .operand
  | operandTail =>
    exact .of_tail expanded yields .operandMore .operandStop
  | addend => cases expanded; exact .of_pair yields .addend
  | addendTail =>
    exact .of_tail expanded yields .addendMore .addendStop
  | factor => exact .of_factorTable ((feed_exact_iff (by decide)).mp expanded) yields
  | number => exact .of_numberTable ((feed_exact_iff (by decide)).mp expanded) yields

end OfYields

/-- A token is derived from the leaf of its kind. -/
theorem derives_leaf (token : Token) (rest : List Token) :
    Derives endLine (.leaf token.kind) (token :: rest) (.ofToken token) rest := by
  by_cases isName : token.kind = .identifier
  · rw [ofToken_identifier isName, isName]
    exact .name isName
  · by_cases isConstant : token.kind.IsConstant
    · rw [ofToken_constant isConstant]
      exact .constant rfl isConstant
    · rw [ofToken_mark isName isConstant]
      exact .mark rfl isName isConstant

/-- What is read by the rule tables is derived by the grammar. -/
theorem derives_of_reads {symbol : Symbol} {input rest : List Token} {node : Node}
    (reads : Reads endLine symbol input node rest) : Derives endLine symbol input node rest := by
  refine Reads.rule_induction ?_ ?_ reads
  · intro symbol input consumed
    obtain rfl := Symbol.eq_leaf_of_consumed consumed
    cases input with
    | nil => exact .inputEnd
    | cons token rest =>
      rw [windowAt_current_cons]
      exact derives_leaf token rest
  · intro symbol input rest production nodes node expanded parts assembled
    exact .of_yields expanded ⟨nodes, parts, assembled⟩

/-! ## Derivations are readings -/

/-- A token is read as the leaf of its kind. -/
theorem reads_leaf (token : Token) (rest : List Token) :
    Reads endLine (.leaf token.kind) (token :: rest) (.ofToken token) rest := by
  have consumed : (Symbol.leaf token.kind).rule.feed (.leaf token.kind)
      (windowAt endLine (token :: rest)) = .ok .consumed := by
    rw [Symbol.rule, Rule.feed, windowAt_current_kind]
    exact if_pos rfl
  have reads := Reads.token consumed
  rw [windowAt_current_cons] at reads
  exact reads

/-- A mark is read as a plain leaf. -/
theorem reads_mark {kind : TokenKind} {token : Token} {rest : List Token}
    (same : token.kind = kind) (plain : kind ≠ .identifier ∧ ¬ kind.IsConstant := by decide) :
    Reads endLine (.leaf kind) (token :: rest) (.leaf ⟨token⟩) rest := by
  subst same
  rw [← ofToken_mark plain.1 plain.2]
  exact reads_leaf token rest

/-- A name is read as an untyped identifier. -/
theorem reads_name {token : Token} {rest : List Token} (same : token.kind = .identifier) :
    Reads endLine (.leaf .identifier) (token :: rest) (.identifier ⟨token, .invalid⟩) rest := by
  rw [← ofToken_identifier same, ← same]
  exact reads_leaf token rest

/-- A constant is read as an untyped literal. -/
theorem reads_constant {kind : TokenKind} {token : Token} {rest : List Token}
    (same : token.kind = kind) (isConstant : kind.IsConstant := by decide) :
    Reads endLine (.leaf kind) (token :: rest) (.literal ⟨token, .invalid⟩) rest := by
  subst same
  rw [← ofToken_constant isConstant]
  exact reads_leaf token rest

/-- A choice takes the entry of the next kind. -/
theorem Reads.of_entry {symbol : Symbol} {table : List (Lookahead × Production)}
    {kind : TokenKind} {input rest : List Token} {nodes : List Node} {node : Node}
    (production : Production) (next : nextKind input = kind)
    (parts : InSequence (Reads endLine) production.rhs input nodes rest)
    (assembled : production.assemble nodes = .ok node)
    (chosen : symbol.rule = .choice table := by rfl) (exact : ExactTable table := by decide)
    (entry : (.kind kind, production) ∈ table := by decide) :
    Reads endLine symbol input node rest := by
  refine .production ?_ parts assembled
  rw [chosen, feed_exact_iff exact, next]
  exact entry

/-- A statement behind separators is read as each separator with what follows it. -/
theorem reads_skip {separators input rest : List Token} {inner : Statement}
    (nonempty : separators ≠ []) (kinds : ∀ separator ∈ separators, separator.kind = .separator)
    (behind : nextKind input ≠ .separator)
    (part : Derives endLine .statement input (.statement inner) rest)
    (reads : Reads endLine .statement input (.statement inner) rest) :
    Reads endLine .statement (separators ++ input)
      (.statement (.skip (separators.map Leaf.mk) inner)) rest := by
  have before {separator : Token} {input : List Token} {statement : Statement}
      (kind : separator.kind = .separator)
      (reads : Reads endLine .statement input (.statement statement) rest) :
      Reads endLine .statement (separator :: input)
        (.statement (statement.behind ⟨separator⟩)) rest :=
    .of_entry .statementSkip kind (.cons (reads_mark kind) (.cons reads .nil)) rfl
  induction separators with
  | nil => exact absurd rfl nonempty
  | cons separator separators ih =>
    obtain ⟨kind, kinds⟩ := List.forall_mem_cons.mp kinds
    cases separators with
    | nil =>
      have single := before kind reads
      rw [part.behind_eq_skip behind] at single
      exact single
    | cons second separators => exact before kind (ih (List.cons_ne_nil _ _) kinds)

/-- Every alternative of the grammar is a production that the rule of its notion chooses. -/
theorem reads_of_derives {symbol : Symbol} {input rest : List Token} {node : Node}
    (derives : Derives endLine symbol input node rest) :
    Reads endLine symbol input node rest := by
  induction derives with
  | name kind => exact reads_name kind
  | constant same isConstant => exact reads_constant same isConstant
  | mark same notName notConstant => exact reads_mark same ⟨notName, notConstant⟩
  | inputEnd => exact .token rfl
  | program _ _ first more
  | statementList _ _ first more
  | expressionList _ _ first more
  | expression _ _ first more
  | operand _ _ first more
  | addend _ _ first more => exact .production rfl (.cons first (.cons more .nil)) rfl
  | programMore kind _ part
  | identifierMore kind _ part
  | statementMore kind _ part
  | expressionMore kind _ part
  | conditionElse kind _ part
  | comparison kind _ part
  | operandMore kind _ part
  | addendMore kind _ part =>
    exact .production (feed_tail_iff.mpr (.inl ⟨kind, rfl⟩))
      (.cons (reads_mark kind) (.cons part .nil)) rfl
  | programStop stops
  | identifierStop stops
  | statementStop stops
  | expressionStop stops
  | conditionStop stops
  | comparisonStop stops
  | operandStop stops
  | addendStop stops =>
    exact .production (feed_tail_iff.mpr (.inr ⟨stops, rfl⟩)) .nil rfl
  | itemDeclaration starts _ part =>
    exact .production (feed_programItem_iff.mpr (.inl ⟨starts, rfl⟩)) (.cons part .nil) rfl
  | itemEmpty blank =>
    exact .production (feed_programItem_iff.mpr (.inr (.inl ⟨blank, rfl⟩))) .nil rfl
  | itemStatement noDeclaration notBlank _ part =>
    exact .production (feed_programItem_iff.mpr (.inr (.inr ⟨noDeclaration, notBlank, rfl⟩)))
      (.cons part .nil) rfl
  | declarationKeyword wordKind _ typeKind list =>
    exact .of_entry .declarationKeyword wordKind
      (.cons (reads_mark wordKind) (.cons list (.cons (reads_mark typeKind) .nil))) rfl
  | declarationColon part markKind typeKind list =>
    exact .of_entry .declarationColon (part.nextKind_eq rfl)
      (.cons list (.cons (reads_mark markKind) (.cons (reads_mark typeKind) .nil))) rfl
  | identifierList kind _ more =>
    exact .production rfl (.cons (reads_name kind) (.cons more .nil)) rfl
  | statementAssignment part reads =>
    exact .of_entry .statementAssignment (part.nextKind_eq rfl) (.cons reads .nil) rfl
  | statementBlock part reads =>
    exact .of_entry .statementBlock (part.nextKind_eq rfl) (.cons reads .nil) rfl
  | statementCondition part reads =>
    exact .of_entry .statementCondition (part.nextKind_eq rfl) (.cons reads .nil) rfl
  | statementFor part reads =>
    exact .of_entry .statementFor (part.nextKind_eq rfl) (.cons reads .nil) rfl
  | statementWhile part reads =>
    exact .of_entry .statementWhile (part.nextKind_eq rfl) (.cons reads .nil) rfl
  | statementRead part reads =>
    exact .of_entry .statementRead (part.nextKind_eq rfl) (.cons reads .nil) rfl
  | statementWrite part reads =>
    exact .of_entry .statementWrite (part.nextKind_eq rfl) (.cons reads .nil) rfl
  | statementSkip nonempty kinds behind part reads =>
    exact reads_skip nonempty kinds behind part reads
  | statementEmpty ends =>
    rcases ends with ends | ends
    · exact .of_entry .statementEmpty ends .nil rfl
    · exact .of_entry .statementEmpty ends .nil rfl
  | assignment targetKind asKind _ reads =>
    exact .production rfl (.cons (reads_name targetKind)
      (.cons (reads_mark asKind) (.cons reads .nil))) rfl
  | condition ifKind _ thenKind _ _ tests states more =>
    exact .production rfl (.cons (reads_mark ifKind) (.cons tests
      (.cons (reads_mark thenKind) (.cons states (.cons more .nil))))) rfl
  | forLoop forKind _ toKind _ doKind _ starts limits states =>
    exact .production rfl (.cons (reads_mark forKind) (.cons starts
      (.cons (reads_mark toKind) (.cons limits
        (.cons (reads_mark doKind) (.cons states .nil)))))) rfl
  | whileLoop whileKind _ doKind _ tests states =>
    exact .production rfl (.cons (reads_mark whileKind) (.cons tests
      (.cons (reads_mark doKind) (.cons states .nil)))) rfl
  | nestedBlock beginKind _ endKind list =>
    exact .production rfl (.cons (reads_mark beginKind) (.cons list
      (.cons (reads_mark endKind) .nil))) rfl
  | reading readKind openKind _ closeKind list =>
    exact .production rfl (.cons (reads_mark readKind) (.cons (reads_mark openKind)
      (.cons list (.cons (reads_mark closeKind) .nil)))) rfl
  | writing writeKind openKind _ closeKind list =>
    exact .production rfl (.cons (reads_mark writeKind) (.cons (reads_mark openKind)
      (.cons list (.cons (reads_mark closeKind) .nil)))) rfl
  | factorIdentifier kind =>
    exact .of_entry .factorIdentifier kind (.cons (reads_name kind) .nil) rfl
  | factorNumber part reads =>
    cases part with
    | number kind =>
      rcases kind with kind | kind
      · exact .of_entry .factorNumber kind (.cons reads .nil) rfl
      · exact .of_entry .factorNumber kind (.cons reads .nil) rfl
  | factorBool kind =>
    exact .of_entry .factorBool kind (.cons (reads_constant kind) .nil) rfl
  | factorNot kind _ reads =>
    exact .of_entry .factorNot kind (.cons (reads_mark kind) (.cons reads .nil)) rfl
  | factorGroup openKind _ closeKind reads =>
    exact .of_entry .factorGroup openKind
      (.cons (reads_mark openKind) (.cons reads (.cons (reads_mark closeKind) .nil))) rfl
  | number kind =>
    rcases kind with kind | kind
    · exact .of_entry .numberInt kind (.cons (reads_constant kind) .nil) rfl
    · exact .of_entry .numberFloat kind (.cons (reads_constant kind) .nil) rfl

/-- The rule tables read exactly what the grammar derives. -/
theorem reads_iff_derives {symbol : Symbol} {input rest : List Token} {node : Node} :
    Reads endLine symbol input node rest ↔ Derives endLine symbol input node rest :=
  ⟨derives_of_reads, reads_of_derives⟩

end DimLang
