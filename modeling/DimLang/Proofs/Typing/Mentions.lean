import DimLang.Proofs.Frontend.InternalErrors
import DimLang.Proofs.Typing.Sessions

/-!
# Names that a program mentions

The analysis of a program looks up the names that occur in it and no others. From two symbol tables
that agree on these names it therefore takes the same course: the verdict and the annotations are
the same, also where the program is rejected, and the tables still agree wherever they did. A name
that the program does not declare is in the table afterwards what it was before.

It follows that names declared earlier in a session do not matter to a program that does not mention
them, nor to the programs between.

- `SymbolTable.AgreeOn` says that two tables agree on the names of a tree
- `Analysis.Alike` relates the outcomes from two such tables
- `check_eq_of_agreeOn`: what the analysis of a program reads and changes of the table
-/

namespace DimLang

/-- The tables have the same types for the names that occur in the tree, and none for the same of
them. -/
def SymbolTable.AgreeOn (symbols symbols' : SymbolTable) (node : Node) : Prop :=
  ∀ name, (Node.identifier name).Within node → symbols.get? name.name = symbols'.get? name.name

/-- The name occurs in the program. -/
def Program.Mentions (program : Program) (name : String) : Prop :=
  ∃ occurrence, (Node.identifier occurrence).Within (.program program) ∧ occurrence.name = name

/-- An item of the program declares the name. -/
def Program.Declares (program : Program) (name : String) : Prop :=
  ∃ item ∈ program.items, ∃ declared ∈ item.declares, declared.name = name

variable {operators : OperatorTable} {symbols symbols' : SymbolTable}

namespace SymbolTable

/-- Tables that agree on a tree agree on its parts. -/
theorem AgreeOn.child {node child : Node} (agree : symbols.AgreeOn symbols' node)
    (member : child ∈ node.children) : symbols.AgreeOn symbols' child :=
  fun name inside => agree name (.deeper member inside)

/-- Tables that agree on a name give it the same type. -/
theorem AgreeOn.find_eq {name : Identifier} (agree : symbols.AgreeOn symbols' (.identifier name)) :
    symbols.find name = symbols'.find name := by
  unfold find
  rw [agree name (.here _)]

end SymbolTable

/-! ## Expressions -/

/-- A name is checked alike under tables that agree on it. -/
theorem Identifier.check_congr (name : Identifier)
    (agree : symbols.AgreeOn symbols' (.identifier name)) :
    name.check ⟨operators, symbols⟩ = name.check ⟨operators, symbols'⟩ := by
  rw [check, check, agree.find_eq]

mutual

/-- A factor is checked alike under tables that agree on it, and so are the nodes below. -/
theorem Factor.check_congr : (factor : Factor) → symbols.AgreeOn symbols' (.factor factor) →
    factor.check ⟨operators, symbols⟩ = factor.check ⟨operators, symbols'⟩
  | ⟨.identifier name, _⟩, agree => by
    rw [Factor.check, Factor.check,
      name.check_congr (agree.child (by simp [Node.children, Primary.children]))]
  | ⟨.number number, _⟩, _ => rfl
  | ⟨.bool literal, _⟩, _ => rfl
  | ⟨.not operator operand, _⟩, agree => by
    rw [Factor.check, Factor.check,
      operand.check_congr (agree.child (by simp [Node.children, Primary.children]))]
  | ⟨.group opening expression closing, _⟩, agree => by
    rw [Factor.check, Factor.check,
      expression.check_congr (agree.child (by simp [Node.children, Primary.children]))]

/-- An addend is checked alike under tables that agree on it. -/
theorem Addend.check_congr : (addend : Addend) → (links : List (Link Factor)) →
    symbols.AgreeOn symbols' (.addend addend) →
      addend.check ⟨operators, symbols⟩ links = addend.check ⟨operators, symbols'⟩ links
  | ⟨factor, .stop _, _⟩, links, agree => by
    rw [Addend.check, Addend.check, factor.check_congr (agree.child (by simp [Node.children]))]
  | ⟨factor, .more operator rest tailTy, ty⟩, links, agree => by
    have tail : symbols.AgreeOn symbols' (.addendTail (.more operator rest tailTy)) :=
      agree.child (by simp [Node.children])
    have behind := fun links => rest.check_congr links (tail.child (by simp [Node.children]))
    rw [Addend.check, Addend.check, factor.check_congr (agree.child (by simp [Node.children]))]
    simp only [behind]

/-- An operand is checked alike under tables that agree on it. -/
theorem Operand.check_congr : (operand : Operand) → (links : List (Link Addend)) →
    symbols.AgreeOn symbols' (.operand operand) →
      operand.check ⟨operators, symbols⟩ links = operand.check ⟨operators, symbols'⟩ links
  | ⟨addend, .stop _, _⟩, links, agree => by
    rw [Operand.check, Operand.check, addend.check_congr [] (agree.child (by simp [Node.children]))]
  | ⟨addend, .more operator rest tailTy, ty⟩, links, agree => by
    have tail : symbols.AgreeOn symbols' (.operandTail (.more operator rest tailTy)) :=
      agree.child (by simp [Node.children])
    have behind := fun links => rest.check_congr links (tail.child (by simp [Node.children]))
    rw [Operand.check, Operand.check, addend.check_congr [] (agree.child (by simp [Node.children]))]
    simp only [behind]

/-- An expression is checked alike under tables that agree on it. -/
theorem Expression.check_congr : (expression : Expression) →
    symbols.AgreeOn symbols' (.expression expression) →
      expression.check ⟨operators, symbols⟩ = expression.check ⟨operators, symbols'⟩
  | ⟨left, .stop _, _⟩, agree => by
    rw [Expression.check, Expression.check,
      left.check_congr [] (agree.child (by simp [Node.children]))]
  | ⟨left, .more operator right tailTy, _⟩, agree => by
    have tail : symbols.AgreeOn symbols' (.expressionTail (.more operator right tailTy)) :=
      agree.child (by simp [Node.children])
    rw [Expression.check, Expression.check,
      left.check_congr [] (agree.child (by simp [Node.children])),
      right.check_congr [] (tail.child (by simp [Node.children]))]

end

/-! ## Statements -/

/-- A list of names is checked alike under tables that agree on it. -/
theorem IdentifierList.check_congr : (names : IdentifierList) →
    (passed : List (Identifier × Leaf)) → symbols.AgreeOn symbols' (.identifierList names) →
      names.check ⟨operators, symbols⟩ passed = names.check ⟨operators, symbols'⟩ passed
  | ⟨head, .stop⟩, passed, agree => by
    rw [check, check, head.check_congr (agree.child (by simp [Node.children]))]
  | ⟨head, .more comma rest⟩, passed, agree => by
    have tail : symbols.AgreeOn symbols' (.identifierListTail (.more comma rest)) :=
      agree.child (by simp [Node.children])
    have behind := fun passed => rest.check_congr passed (tail.child (by simp [Node.children]))
    rw [check, check, head.check_congr (agree.child (by simp [Node.children]))]
    simp only [behind]

/-- An expression list is checked alike under tables that agree on it. -/
theorem ExpressionList.check_congr : (expressions : ExpressionList) →
    (passed : List (Expression × Leaf)) → symbols.AgreeOn symbols' (.expressionList expressions) →
      expressions.check ⟨operators, symbols⟩ passed =
        expressions.check ⟨operators, symbols'⟩ passed
  | ⟨head, .stop⟩, passed, agree => by
    rw [check, check, head.check_congr (agree.child (by simp [Node.children]))]
  | ⟨head, .more comma rest⟩, passed, agree => by
    have tail : symbols.AgreeOn symbols' (.expressionListTail (.more comma rest)) :=
      agree.child (by simp [Node.children])
    have behind := fun passed => rest.check_congr passed (tail.child (by simp [Node.children]))
    rw [check, check, head.check_congr (agree.child (by simp [Node.children]))]
    simp only [behind]

/-- An assignment is checked alike under tables that agree on it. -/
theorem Assignment.check_congr (tree : Assignment)
    (agree : symbols.AgreeOn symbols' (.assignment tree)) :
    tree.check ⟨operators, symbols⟩ = tree.check ⟨operators, symbols'⟩ := by
  rw [check, check, tree.target.check_congr (agree.child (by simp [Node.children])),
    tree.value.check_congr (agree.child (by simp [Node.children]))]

mutual

/-- A statement is checked alike under tables that agree on it, however deep it nests. -/
theorem Statement.check_congr : (statement : Statement) →
    symbols.AgreeOn symbols' (.statement statement) →
      statement.check ⟨operators, symbols⟩ = statement.check ⟨operators, symbols'⟩
  | .assignment tree, agree => by
    rw [Statement.check, Statement.check,
      tree.check_congr (agree.child (by simp [Node.children, Statement.children]))]
  | .nestedBlock ⟨beginWord, statements, endWord⟩, agree => by
    have inner : symbols.AgreeOn symbols' (.nestedBlock ⟨beginWord, statements, endWord⟩) :=
      agree.child (by simp [Node.children, Statement.children])
    rw [Statement.check, Statement.check, NestedBlock.check, NestedBlock.check,
      statements.check_congr [] (inner.child (by simp [Node.children]))]
  | .condition ⟨ifWord, test, thenWord, branch, tail⟩, agree => by
    have inner : symbols.AgreeOn symbols' (.condition ⟨ifWord, test, thenWord, branch, tail⟩) :=
      agree.child (by simp [Node.children, Statement.children])
    rw [Statement.check, Statement.check, Condition.check, Condition.check,
      test.check_congr (inner.child (by simp [Node.children])),
      branch.check_congr (inner.child (by simp [Node.children])),
      tail.check_congr (inner.child (by simp [Node.children]))]
  | .forLoop ⟨forWord, start, toWord, limit, doWord, body⟩, agree => by
    have inner : symbols.AgreeOn symbols'
        (.forLoop ⟨forWord, start, toWord, limit, doWord, body⟩) :=
      agree.child (by simp [Node.children, Statement.children])
    rw [Statement.check, Statement.check, ForLoop.check, ForLoop.check,
      start.check_congr (inner.child (by simp [Node.children])),
      limit.check_congr (inner.child (by simp [Node.children])),
      body.check_congr (inner.child (by simp [Node.children]))]
  | .whileLoop ⟨whileWord, test, doWord, body⟩, agree => by
    have inner : symbols.AgreeOn symbols' (.whileLoop ⟨whileWord, test, doWord, body⟩) :=
      agree.child (by simp [Node.children, Statement.children])
    rw [Statement.check, Statement.check, WhileLoop.check, WhileLoop.check,
      test.check_congr (inner.child (by simp [Node.children])),
      body.check_congr (inner.child (by simp [Node.children]))]
  | .reading ⟨word, opening, names, closing⟩, agree => by
    have inner : symbols.AgreeOn symbols' (.reading ⟨word, opening, names, closing⟩) :=
      agree.child (by simp [Node.children, Statement.children])
    rw [Statement.check, Statement.check, Reading.check, Reading.check,
      names.check_congr [] (inner.child (by simp [Node.children]))]
  | .writing ⟨word, opening, expressions, closing⟩, agree => by
    have inner : symbols.AgreeOn symbols' (.writing ⟨word, opening, expressions, closing⟩) :=
      agree.child (by simp [Node.children, Statement.children])
    rw [Statement.check, Statement.check, Writing.check, Writing.check,
      expressions.check_congr [] (inner.child (by simp [Node.children]))]
  | .skip separators inner, agree => by
    rw [Statement.check, Statement.check,
      inner.check_congr (agree.child (by simp [Node.children, Statement.children]))]
  | .empty, _ => rfl

/-- A statement list is checked alike under tables that agree on it. -/
theorem StatementList.check_congr : (statements : StatementList) →
    (passed : List (Statement × Leaf)) → symbols.AgreeOn symbols' (.statementList statements) →
      statements.check ⟨operators, symbols⟩ passed = statements.check ⟨operators, symbols'⟩ passed
  | ⟨head, .stop⟩, passed, agree => by
    rw [StatementList.check, StatementList.check,
      head.check_congr (agree.child (by simp [Node.children]))]
  | ⟨head, .more separator rest⟩, passed, agree => by
    have tail : symbols.AgreeOn symbols' (.statementListTail (.more separator rest)) :=
      agree.child (by simp [Node.children])
    have behind := fun passed => rest.check_congr passed (tail.child (by simp [Node.children]))
    rw [StatementList.check, StatementList.check,
      head.check_congr (agree.child (by simp [Node.children]))]
    simp only [behind]

/-- An `else` branch is checked alike under tables that agree on it. -/
theorem ConditionTail.check_congr : (tail : ConditionTail) →
    symbols.AgreeOn symbols' (.conditionTail tail) →
      tail.check ⟨operators, symbols⟩ = tail.check ⟨operators, symbols'⟩
  | .stop, _ => rfl
  | .more elseWord branch, agree => by
    rw [ConditionTail.check, ConditionTail.check,
      branch.check_congr (agree.child (by simp [Node.children]))]

end

/-! ## Programs -/

/-- The outcomes from two tables: the same tree with the same verdict, and tables that agree on
every name on which the given ones do. -/
structure Analysis.Alike {α : Type} (symbols symbols' : SymbolTable)
    (analysis analysis' : Analysis α) : Prop where
  tree : analysis.tree = analysis'.tree
  verdict : analysis.verdict = analysis'.verdict
  keeps : ∀ name, symbols.get? name = symbols'.get? name →
    analysis.symbols.get? name = analysis'.symbols.get? name

namespace SymbolTable

/-- A name is declared in both of two tables or in neither if they agree on it. -/
theorem mem_iff_of_get?_eq {name : String} (same : symbols.get? name = symbols'.get? name) :
    name ∈ symbols.entries.map Prod.fst ↔ name ∈ symbols'.entries.map Prod.fst := by
  rw [← not_iff_not, ← get?_eq_none_iff, ← get?_eq_none_iff, same]

/-- A new name leaves tables that agree on another in agreement on that one. -/
theorem get?_insert_congr {name other : String} (ty : DataType)
    (fresh : name ∉ symbols.entries.map Prod.fst) (fresh' : name ∉ symbols'.entries.map Prod.fst)
    (same : symbols.get? other = symbols'.get? other) :
    (symbols.insert name ty fresh).get? other = (symbols'.insert name ty fresh').get? other := by
  rw [get?_insert, get?_insert, same]

end SymbolTable

/-- Names are declared alike in tables that agree on them. -/
theorem IdentifierList.declare_alike (ty : DataType) :
    (names : IdentifierList) → (symbols symbols' : SymbolTable) →
      (passed : List (Identifier × Leaf)) → symbols.AgreeOn symbols' (.identifierList names) →
        Analysis.Alike symbols symbols' (names.declare ty symbols passed)
          (names.declare ty symbols' passed)
  | ⟨head, .stop⟩, symbols, symbols', passed, agree => by
    have same := agree head (.deeper (by simp [Node.children]) (.here _))
    rw [declare, declare, SymbolTable.declare, SymbolTable.declare]
    by_cases known : head.name ∈ symbols.entries.map Prod.fst
    · rw [dif_pos known, dif_pos ((SymbolTable.mem_iff_of_get?_eq same).mp known)]
      exact ⟨rfl, rfl, fun _ same => same⟩
    · have fresh := mt (SymbolTable.mem_iff_of_get?_eq same).mpr known
      rw [dif_neg known, dif_neg fresh]
      exact ⟨rfl, rfl, fun _ => SymbolTable.get?_insert_congr ty known fresh⟩
  | ⟨head, .more comma rest⟩, symbols, symbols', passed, agree => by
    have same := agree head (.deeper (by simp [Node.children]) (.here _))
    have tail : symbols.AgreeOn symbols' (.identifierListTail (.more comma rest)) :=
      agree.child (by simp [Node.children])
    rw [declare, declare, SymbolTable.declare, SymbolTable.declare]
    by_cases known : head.name ∈ symbols.entries.map Prod.fst
    · rw [dif_pos known, dif_pos ((SymbolTable.mem_iff_of_get?_eq same).mp known)]
      exact ⟨rfl, rfl, fun _ same => same⟩
    · have fresh := mt (SymbolTable.mem_iff_of_get?_eq same).mpr known
      have keeps : ∀ other, symbols.get? other = symbols'.get? other →
          (symbols.insert head.name ty known).get? other =
            (symbols'.insert head.name ty fresh).get? other :=
        fun _ => SymbolTable.get?_insert_congr ty known fresh
      -- The tables with the head agree on the names behind it, since the given ones do.
      have behind := rest.declare_alike ty (symbols.insert head.name ty known)
        (symbols'.insert head.name ty fresh) ((⟨head.token, ty⟩, comma) :: passed)
        fun name inside => keeps _ (tail.child (by simp [Node.children]) name inside)
      rw [dif_neg known, dif_neg fresh]
      exact ⟨behind.tree, behind.verdict, fun name same => behind.keeps name (keeps name same)⟩

/-- A declaration is checked alike in tables that agree on its names. -/
theorem Declaration.check_alike (declaration : Declaration)
    (agree : symbols.AgreeOn symbols' (.declaration declaration)) :
    Analysis.Alike symbols symbols' (declaration.check symbols) (declaration.check symbols') := by
  have names : symbols.AgreeOn symbols' (.identifierList declaration.identifiers) :=
    agree.child (by simp [Node.children])
  rw [check, check]
  cases DataType.ofTypeName? declaration.typeName.token.text with
  | none => exact ⟨rfl, rfl, fun _ same => same⟩
  | some ty =>
    have declared := declaration.identifiers.declare_alike ty symbols symbols' [] names
    exact ⟨congrArg (fun names => { declaration with identifiers := names }) declared.tree,
      declared.verdict, declared.keeps⟩

/-- An item is checked alike in tables that agree on it. -/
theorem ProgramItem.check_alike (operators : OperatorTable) (item : ProgramItem)
    (agree : symbols.AgreeOn symbols' (.programItem item)) :
    Analysis.Alike symbols symbols' (item.check ⟨operators, symbols⟩)
      (item.check ⟨operators, symbols'⟩) := by
  cases item with
  | declaration tree =>
    have inner := tree.check_alike (agree.child (by simp [Node.children]))
    exact ⟨congrArg declaration inner.tree, inner.verdict, inner.keeps⟩
  | statement tree =>
    rw [check, check, tree.check_congr (agree.child (by simp [Node.children]))]
    exact ⟨rfl, rfl, fun _ same => same⟩

/-- A program is checked alike in tables that agree on it, item after item. -/
theorem Program.checkFrom_alike (operators : OperatorTable) :
    (program : Program) → (symbols symbols' : SymbolTable) →
      (passed : List (ProgramItem × Leaf)) → symbols.AgreeOn symbols' (.program program) →
        Analysis.Alike symbols symbols' (program.checkFrom operators symbols passed)
          (program.checkFrom operators symbols' passed)
  | ⟨item, .stop⟩, symbols, symbols', passed, agree => by
    have alike := item.check_alike operators (agree.child (by simp [Node.children]))
    rw [checkFrom, checkFrom]
    exact ⟨congrArg (fun item => behind passed ⟨item, .stop⟩) alike.tree, alike.verdict,
      alike.keeps⟩
  | ⟨item, .more separator rest⟩, symbols, symbols', passed, agree => by
    have alike := item.check_alike operators (agree.child (by simp [Node.children]))
    have tail : symbols.AgreeOn symbols' (.programTail (.more separator rest)) :=
      agree.child (by simp [Node.children])
    rw [checkFrom, checkFrom]
    generalize item.check ⟨operators, symbols⟩ = checked,
      item.check ⟨operators, symbols'⟩ = checked' at alike
    obtain ⟨typed, middle, verdict⟩ := checked
    obtain ⟨typed', middle', verdict'⟩ := checked'
    obtain ⟨rfl, rfl, keeps⟩ := alike
    cases verdict with
    | error error => exact ⟨rfl, rfl, keeps⟩
    | ok =>
      have behind := rest.checkFrom_alike operators middle middle' ((typed, separator) :: passed)
        fun name inside => keeps _ (tail.child (by simp [Node.children]) name inside)
      exact ⟨behind.tree, behind.verdict, fun name same => behind.keeps name (keeps name same)⟩

/-! ## Names that are not declared -/

/-- Names that are not listed keep what they had. -/
theorem IdentifierList.get?_declare {name : String} {names : IdentifierList}
    (absent : ∀ listed ∈ names.toList, listed.name ≠ name) (ty : DataType) (symbols : SymbolTable)
    (passed : List (Identifier × Leaf)) :
    (names.declare ty symbols passed).symbols.get? name = symbols.get? name := by
  obtain ⟨declared, others, listed, added, -⟩ := names.declare_entries ty symbols passed
  have unlisted : (declared.map fun name => (name.name, ty)).reverse.lookup name = none := by
    rw [List.lookup_eq_none_iff]
    intro entry member
    obtain ⟨earlier, inside, rfl⟩ := List.mem_map.mp (List.mem_reverse.mp member)
    rw [bne_iff_ne]
    refine (absent earlier ?_).symm
    rw [listed]
    exact List.mem_append_left others inside
  rw [SymbolTable.get?, added, List.lookup_append, unlisted]
  rfl

/-- Names that an item does not declare keep what they had. -/
theorem ProgramItem.get?_check {name : String} {item : ProgramItem}
    (absent : ∀ declared ∈ item.declares, declared.name ≠ name) (context : TypingContext) :
    (item.check context).symbols.get? name = context.symbols.get? name := by
  cases item with
  | statement tree => rfl
  | declaration tree =>
    rw [check, Declaration.check]
    cases DataType.ofTypeName? tree.typeName.token.text with
    | none => rfl
    | some ty => exact IdentifierList.get?_declare absent ty context.symbols []

/-- A name that a program does not declare is in the table afterwards what it was before. -/
theorem Program.get?_checkFrom {name : String} (operators : OperatorTable) :
    (program : Program) → (symbols : SymbolTable) → (passed : List (ProgramItem × Leaf)) →
      ¬ program.Declares name →
        (program.checkFrom operators symbols passed).symbols.get? name = symbols.get? name
  | ⟨item, .stop⟩, symbols, passed, absent => by
    have unlisted : ∀ declared ∈ item.declares, declared.name ≠ name :=
      fun declared listed same => absent ⟨item, by simp, declared, listed, same⟩
    rw [checkFrom]
    exact item.get?_check unlisted ⟨operators, symbols⟩
  | ⟨item, .more separator rest⟩, symbols, passed, absent => by
    have unlisted : ∀ declared ∈ item.declares, declared.name ≠ name :=
      fun declared listed same => absent ⟨item, by simp, declared, listed, same⟩
    have unlisted' : ¬ rest.Declares name := by
      rintro ⟨later, member, declares⟩
      exact absent ⟨later, by simp [member], declares⟩
    have first := item.get?_check unlisted ⟨operators, symbols⟩
    rw [checkFrom]
    generalize item.check ⟨operators, symbols⟩ = checked at first ⊢
    rcases checked with ⟨typed, middle, _ | _⟩
    · exact first
    · exact (rest.get?_checkFrom operators middle _ unlisted').trans first

/-- A listed name stands in its list. -/
theorem within_of_mem_toList {name : Identifier} :
    (names : IdentifierList) → name ∈ names.toList →
      (Node.identifier name).Within (.identifierList names)
  | ⟨head, .stop⟩, member => by
    rw [IdentifierList.toList_stop, List.mem_singleton] at member
    subst member
    exact .deeper (by simp [Node.children]) (.here _)
  | ⟨head, .more comma rest⟩, member => by
    rw [IdentifierList.toList_more, List.mem_cons] at member
    rcases member with rfl | later
    · exact .deeper (by simp [Node.children]) (.here _)
    · have inside := within_of_mem_toList rest later
      have tail : (Node.identifier name).Within (.identifierListTail (.more comma rest)) :=
        .deeper (by simp [Node.children]) inside
      exact .deeper (by simp [Node.children]) tail

/-- The names that a program declares occur in it. -/
theorem Program.Declares.mentions {program : Program} {name : String}
    (declares : program.Declares name) : program.Mentions name := by
  obtain ⟨item, member, declared, listed, named⟩ := declares
  cases item with
  | statement tree => cases listed
  | declaration tree =>
    have inside := within_of_mem_toList tree.identifiers listed
    have inner : (Node.identifier declared).Within (.declaration tree) :=
      .deeper (by simp [Node.children]) inside
    have outer : (Node.identifier declared).Within (.programItem (.declaration tree)) :=
      .deeper (by simp [Node.children]) inner
    exact ⟨declared, outer.trans (within_of_mem_items program member), named⟩

/-- What a program mentions is the text of one of its tokens. -/
theorem Program.Mentions.mem_leaves {program : Program} {name : String}
    (mentions : program.Mentions name) : name ∈ (Node.program program).leaves.map Token.text := by
  obtain ⟨occurrence, inside, rfl⟩ := mentions
  refine List.mem_map_of_mem (inside.leaves_subset ?_)
  rw [Node.leaves_identifier]
  exact List.mem_singleton.mpr rfl

/-! ## Sessions -/

/-- Programs that are analysed one after the other leave a name alone that none of them declares. -/
theorem get?_symbolsAfter {name : String} {programs : List Program}
    (absent : ∀ program ∈ programs, ¬ program.Declares name) (operators : OperatorTable)
    (symbols : SymbolTable) :
    (symbolsAfter operators symbols programs).get? name = symbols.get? name := by
  induction programs generalizing symbols with
  | nil => rfl
  | cons program programs ih =>
    rw [List.forall_mem_cons] at absent
    have first := program.get?_checkFrom operators symbols [] absent.1
    exact (ih absent.2 _).trans first

/-- Tables that agree on what the programs mention agree behind them wherever they did before. -/
theorem symbolsAfter_congr (operators : OperatorTable) {programs : List Program}
    {symbols symbols' : SymbolTable}
    (agree : ∀ program ∈ programs, symbols.AgreeOn symbols' (.program program)) {name : String}
    (same : symbols.get? name = symbols'.get? name) :
    (symbolsAfter operators symbols programs).get? name =
      (symbolsAfter operators symbols' programs).get? name := by
  induction programs generalizing symbols symbols' with
  | nil => exact same
  | cons program programs ih =>
    rw [List.forall_mem_cons] at agree
    have alike := program.checkFrom_alike operators symbols symbols' [] agree.1
    exact ih (fun later member occurrence inside =>
      alike.keeps _ (agree.2 later member occurrence inside)) (alike.keeps name same)

/-- Programs that declare no name that later ones mention may be left out in front of them. -/
theorem symbolsAfter_agreeOn (operators : OperatorTable) (symbols : SymbolTable)
    (front : List Program) {unrelated back : List Program} {program : Program}
    (apart : ∀ earlier ∈ unrelated, ∀ later ∈ program :: back, ∀ name,
      earlier.Declares name → ¬ later.Mentions name) :
    (symbolsAfter operators symbols (front ++ unrelated ++ back)).AgreeOn
      (symbolsAfter operators symbols (front ++ back)) (.program program) := by
  have agree : ∀ later ∈ program :: back,
      (symbolsAfter operators symbols (front ++ unrelated)).AgreeOn
        (symbolsAfter operators symbols front) (.program later) := by
    intro later member name inside
    have absent : ∀ earlier ∈ unrelated, ¬ earlier.Declares name.name := by
      intro earlier inFront declares
      exact apart earlier inFront later member name.name declares ⟨name, inside, rfl⟩
    rw [symbolsAfter_append]
    exact get?_symbolsAfter absent operators _
  rw [List.forall_mem_cons] at agree
  intro name inside
  rw [symbolsAfter_append _ _ _ back, symbolsAfter_append _ _ front back]
  exact symbolsAfter_congr operators agree.2 (agree.1 name inside)

/-- The program declares one name on a line. -/
def Program.declaring (name typeName : String) (line : Nat) : Program :=
  ⟨.declaration ⟨some ⟨⟨.dimWord, "dim", line⟩⟩,
    ⟨⟨⟨.identifier, name, line⟩, .invalid⟩, .stop⟩, none, ⟨⟨.typeName, typeName, line⟩⟩⟩, .stop⟩

/-- The program reads a value for one name on a line. -/
def Program.reading (name : String) (line : Nat) : Program :=
  ⟨.statement (.reading ⟨⟨⟨.readWord, "read", line⟩⟩, ⟨⟨.openParen, "(", line⟩⟩,
    ⟨⟨⟨.identifier, name, line⟩, .invalid⟩, .stop⟩, ⟨⟨.closeParen, ")", line⟩⟩⟩), .stop⟩

/-- A program with one declaration of one name declares no other. -/
theorem eq_of_declares_declaring {name typeName other : String} {line : Nat}
    (declares : (Program.declaring name typeName line).Declares other) : name = other := by
  obtain ⟨item, member, declared, listed, rfl⟩ := declares
  obtain rfl := List.mem_singleton.mp member
  obtain rfl := List.mem_singleton.mp listed
  rfl

/-- The texts of a program that reads one name. -/
theorem leaves_reading (name : String) (line : Nat) :
    (Node.program (.reading name line)).leaves.map Token.text = ["read", "(", name, ")"] := by
  simp [Program.reading, Node.leaves_of_children, Node.token?.eq_def, Node.children,
    Statement.children]

/-- The analysis of a program reads no other names than it mentions. From tables that agree on these
it yields the same verdict and the same tree, and tables that agree on them again; in no table does
it change another name. In a session, programs that declare no name that later ones mention
therefore change neither verdicts nor types. -/
theorem check_eq_of_agreeOn (operators : OperatorTable) (program : Program) :
    (∀ symbols symbols', symbols.AgreeOn symbols' (.program program) →
      (program.check ⟨operators, symbols⟩).verdict =
        (program.check ⟨operators, symbols'⟩).verdict ∧
      (program.check ⟨operators, symbols⟩).tree = (program.check ⟨operators, symbols'⟩).tree ∧
      (program.check ⟨operators, symbols⟩).symbols.AgreeOn
        (program.check ⟨operators, symbols'⟩).symbols (.program program)) ∧
    (∀ symbols name, ¬ program.Mentions name →
      (program.check ⟨operators, symbols⟩).symbols.get? name = symbols.get? name) ∧
    ∀ symbols front unrelated back,
      (∀ earlier ∈ unrelated, ∀ later ∈ program :: back, ∀ name,
        earlier.Declares name → ¬ later.Mentions name) →
      (program.check
          ⟨operators, symbolsAfter operators symbols (front ++ unrelated ++ back)⟩).verdict =
        (program.check ⟨operators, symbolsAfter operators symbols (front ++ back)⟩).verdict ∧
      (program.check
          ⟨operators, symbolsAfter operators symbols (front ++ unrelated ++ back)⟩).tree =
        (program.check ⟨operators, symbolsAfter operators symbols (front ++ back)⟩).tree := by
  refine ⟨fun symbols symbols' agree => ?_, fun symbols name absent => ?_,
    fun symbols front unrelated back apart => ?_⟩
  · have alike := program.checkFrom_alike operators symbols symbols' [] agree
    exact ⟨alike.verdict, alike.tree, fun name inside => alike.keeps _ (agree name inside)⟩
  · exact program.get?_checkFrom operators symbols [] fun declares => absent declares.mentions
  · have alike := program.checkFrom_alike operators _ _ []
      (symbolsAfter_agreeOn operators symbols front apart)
    exact ⟨alike.verdict, alike.tree⟩

/-- A name is read behind its declaration, with or without another declaration in between. -/
theorem check_eq_behind_other_declaration :
    ∃ declaring unrelated program : Program,
      (symbolsAfter .standard .empty [declaring, unrelated]).AgreeOn
        (symbolsAfter .standard .empty [declaring]) (.program program) ∧
      (program.check ⟨.standard, symbolsAfter .standard .empty [declaring, unrelated]⟩).verdict =
        (program.check ⟨.standard, symbolsAfter .standard .empty [declaring]⟩).verdict ∧
      ¬ program.Mentions "b" ∧
      (program.check ⟨.standard, symbolsAfter .standard .empty [declaring, unrelated]⟩).symbols.get?
        "b" = some .float ∧
      (∀ earlier ∈ [unrelated], ∀ later ∈ [program], ∀ name,
        earlier.Declares name → ¬ later.Mentions name) ∧
      (program.check ⟨.standard, symbolsAfter .standard .empty [declaring]⟩).verdict = .ok () ∧
      (program.check ⟨.standard,
          symbolsAfter .standard .empty ([declaring] ++ [unrelated] ++ [])⟩).tree =
        (program.check ⟨.standard, symbolsAfter .standard .empty ([declaring] ++ [])⟩).tree := by
  have other : ¬ (Program.reading "a" 3).Mentions "b" := by
    intro mentions
    have text := mentions.mem_leaves
    rw [leaves_reading] at text
    exact absurd text (by decide)
  have apart : ∀ earlier ∈ [Program.declaring "b" "float" 2],
      ∀ later ∈ [Program.reading "a" 3], ∀ name,
        earlier.Declares name → ¬ later.Mentions name := by
    simp only [List.mem_singleton]
    rintro _ rfl _ rfl name declares
    obtain rfl := eq_of_declares_declaring declares
    exact other
  have agree := symbolsAfter_agreeOn .standard .empty [.declaring "a" "integer" 1] apart
  have reads := check_eq_of_agreeOn .standard (.reading "a" 3)
  refine ⟨.declaring "a" "integer" 1, .declaring "b" "float" 2, .reading "a" 3, agree,
    (reads.1 _ _ agree).1, other, ?_, apart, rfl, (reads.2.2 _ _ _ _ apart).2⟩
  rw [reads.2.1 _ _ other]
  rfl

end DimLang
