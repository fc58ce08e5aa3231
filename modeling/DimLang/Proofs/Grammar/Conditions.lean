import DimLang.Proofs.Grammar.Moves
import DimLang.Proofs.Syntax.Within

/-!
# Nested conditions

Where conditions are nested without `begin` and `end`, an `else` belongs to the nearest `if` that
has none yet. For the tree this means: the statement in front of an `else` does not end, along its
right edge, in a condition without `else`, which would have taken it, nor in an empty statement,
which only `end` or the end of the input ends.

- `Statement.RightEdge` follows the right edge of a statement
- `Derives.takesNoElse` says what a statement in front of an `else` ends in
- `nearest_else_of_parse` is the law for every condition of a parsed program
-/

namespace DimLang

/-- The right edge of the first statement, through separators, bodies of loops and the branches
behind `else`, leads to the second one. -/
inductive Statement.RightEdge : Statement → Statement → Prop
  | here (statement : Statement) : RightEdge statement statement
  | skip {separators : List Leaf} {inner last : Statement} (edge : RightEdge inner last) :
      RightEdge (.skip separators inner) last
  | forLoop {loop : ForLoop} {last : Statement} (edge : RightEdge loop.body last) :
      RightEdge (.forLoop loop) last
  | whileLoop {loop : WhileLoop} {last : Statement} (edge : RightEdge loop.body last) :
      RightEdge (.whileLoop loop) last
  | otherBranch {tree : Condition} {elseWord : Leaf} {branch last : Statement}
      (tail : tree.tail = .more elseWord branch) (edge : RightEdge branch last) :
      RightEdge (.condition tree) last

/-- An `else` behind the statement belongs to a condition further out: it is not empty, and a
condition has its own `else`. -/
def Statement.TakesNoElse (statement : Statement) : Prop :=
  statement ≠ .empty ∧ ∀ tree, statement = .condition tree → tree.tail ≠ .stop

/-! ## Statements in front of an else -/

section Inversion

variable {endLine : Nat} {input rest : List Token}

/-- A condition has a branch and behind it its tail. -/
theorem Derives.exists_branch {tree : Condition}
    (derives : Derives endLine .condition input (.condition tree) rest) :
    ∃ middle later, Derives endLine .statement middle (.statement tree.branch) later ∧
      Derives endLine .conditionTail later (.conditionTail tree.tail) rest := by
  cases derives with
  | condition _ _ _ states more => exact ⟨_, _, states, more⟩

/-- A statement that is a condition is derived as one. -/
theorem Derives.condition_part {tree : Condition}
    (derives : Derives endLine .statement input (.statement (.condition tree)) rest) :
    Derives endLine .condition input (.condition tree) rest := by
  generalize whole : Node.statement (.condition tree) = node at derives
  cases derives with
  | statementCondition part =>
    cases whole
    exact part
  | _ => cases whole

/-- The body of a counting loop is derived as a statement up to the end of the loop. -/
theorem Derives.exists_forBody {loop : ForLoop}
    (derives : Derives endLine .statement input (.statement (.forLoop loop)) rest) :
    ∃ later, Derives endLine .statement later (.statement loop.body) rest := by
  generalize whole : Node.statement (.forLoop loop) = node at derives
  cases derives with
  | statementFor part =>
    cases whole
    cases part with
    | forLoop _ _ _ _ _ states => exact ⟨_, states⟩
  | _ => cases whole

/-- The body of a loop under a condition is derived as a statement up to the end of the loop. -/
theorem Derives.exists_whileBody {loop : WhileLoop}
    (derives : Derives endLine .statement input (.statement (.whileLoop loop)) rest) :
    ∃ later, Derives endLine .statement later (.statement loop.body) rest := by
  generalize whole : Node.statement (.whileLoop loop) = node at derives
  cases derives with
  | statementWhile part =>
    cases whole
    cases part with
    | whileLoop _ _ _ states => exact ⟨_, states⟩
  | _ => cases whole

/-- An empty statement stands in front of the end of a block or of the input. -/
theorem Derives.ends_of_empty
    (derives : Derives endLine .statement input (.statement .empty) rest) :
    nextKind rest = .endWord ∨ nextKind rest = .eof := by
  generalize whole : Node.statement .empty = node at derives
  cases derives with
  | statementEmpty ends => exact ends
  | _ => cases whole

/-- A condition stops only where no `else` follows, and continues behind one with a statement. -/
theorem Derives.conditionTail_cases {tail : ConditionTail}
    (derives : Derives endLine .conditionTail input (.conditionTail tail) rest) :
    tail = .stop ∧ nextKind rest ≠ .elseWord ∨
      ∃ elseWord branch later, tail = .more elseWord branch ∧ nextKind input = .elseWord ∧
        Derives endLine .statement later (.statement branch) rest := by
  cases derives with
  | conditionStop stops => exact .inl ⟨rfl, stops⟩
  | conditionElse kind part => exact .inr ⟨_, _, _, rfl, kind, part⟩

/-- In front of an `else`, nothing on the right edge of a statement could take it. -/
theorem Derives.takesNoElse {statement last : Statement} (edge : statement.RightEdge last)
    (derives : Derives endLine .statement input (.statement statement) rest)
    (behind : nextKind rest = .elseWord) : last.TakesNoElse := by
  -- All statements on the edge end at the same place, so each one has the `else` behind it.
  induction edge generalizing input with
  | here statement =>
    constructor
    · rintro rfl
      rcases derives.ends_of_empty with ends | ends <;> rw [behind] at ends <;> cases ends
    · rintro tree rfl stop
      obtain ⟨_, _, _, tail⟩ := derives.condition_part.exists_branch
      rcases tail.conditionTail_cases with ⟨_, stops⟩ | ⟨_, _, _, more, _⟩
      · exact stops behind
      · rw [stop] at more
        cases more
  | skip _ ih =>
    obtain ⟨_, _, _, _, _, _, _, inner⟩ := derives.exists_separators
    exact ih inner
  | forLoop _ ih =>
    obtain ⟨_, body⟩ := derives.exists_forBody
    exact ih body
  | whileLoop _ ih =>
    obtain ⟨_, body⟩ := derives.exists_whileBody
    exact ih body
  | otherBranch has _ ih =>
    obtain ⟨_, _, _, tail⟩ := derives.condition_part.exists_branch
    rw [has] at tail
    rcases tail.conditionTail_cases with ⟨stop, _⟩ | ⟨_, _, _, more, _, part⟩
    · cases stop
    · cases more
      exact ih part

end Inversion

/-! ## Conditions of a program -/

/-- If the node is a condition, it is derived from some part of the input. -/
def Node.ConditionDerived (endLine : Nat) : Node → Prop
  | condition tree => ∃ input rest, Derives endLine .condition input (.condition tree) rest
  | _ => True

/-- Every condition inside a tree of the grammar is itself a tree of the grammar. -/
theorem Derives.conditionDerived {endLine : Nat} {symbol : Symbol} {input rest : List Token}
    {node : Node} (derives : Derives endLine symbol input node rest) :
    node.Everywhere (Node.ConditionDerived endLine) := by
  induction derives with
  | name | constant | mark | inputEnd => simp [Node.ConditionDerived]
  | itemEmpty =>
    have empty : (Node.statement .empty).Everywhere (Node.ConditionDerived endLine) :=
      (Node.everywhere_iff_of_children rfl).mpr trivial
    refine Node.everywhere_iff.mpr ⟨trivial, ?_⟩
    simp [Node.children, empty]
  | statementSkip _ _ _ _ ih =>
    refine Node.everywhere_iff.mpr ⟨trivial, ?_⟩
    simp [Node.children, Statement.children, or_imp, forall_and, Node.ConditionDerived, ih]
  | condition ifKind tests thenKind states more testsIh statesIh moreIh =>
    refine Node.everywhere_iff.mpr ⟨⟨_, _, .condition ifKind tests thenKind states more⟩, ?_⟩
    simp [Node.children, Node.ConditionDerived, testsIh, statesIh, moreIh]
  | _ =>
    refine Node.everywhere_iff.mpr ⟨trivial, ?_⟩
    simp [Node.children, Primary.children, Statement.children, Node.ConditionDerived, *]

/-- In a parsed program, every `else` belongs to the nearest `if` in front of it that is still open:
where a condition has an `else`, the right edge of the branch in front of it meets no condition
without `else` and no empty statement. -/
theorem nearest_else_of_parse {tokens : List Token} {program : Program}
    (parsed : parse tokens = .ok program) {tree : Condition}
    (inside : (Node.condition tree).Within (.program program)) {elseWord : Leaf}
    {other : Statement} (hasElse : tree.tail = .more elseWord other) {last : Statement}
    (edge : tree.branch.RightEdge last) :
    last ≠ .empty ∧ ∀ inner, last = .condition inner → inner.tail ≠ .stop := by
  obtain ⟨rest, reads, _⟩ := parseAs_eq_ok_iff.mp (parse_eq_ok_iff.mp parsed)
  obtain ⟨_, _, derives⟩ := (derives_of_reads reads).conditionDerived _ inside
  obtain ⟨_, _, branch, tail⟩ := derives.exists_branch
  rw [hasElse] at tail
  rcases tail.conditionTail_cases with ⟨stop, _⟩ | ⟨_, _, _, _, behind, _⟩
  · cases stop
  · exact branch.takesNoElse edge behind

/-- Of two nested conditions with one `else` each, the inner one is met on the right edge of the
branch in front of the outer `else`, and it has its own. -/
theorem nearest_else_of_nested :
    ∃ (program : Program) (outer inner : Condition),
      parse [⟨.ifWord, "if", 1⟩, ⟨.identifier, "a", 1⟩, ⟨.thenWord, "then", 1⟩,
        ⟨.ifWord, "if", 1⟩, ⟨.identifier, "b", 1⟩, ⟨.thenWord, "then", 1⟩,
        ⟨.readWord, "read", 1⟩, ⟨.openParen, "(", 1⟩, ⟨.identifier, "c", 1⟩,
        ⟨.closeParen, ")", 1⟩, ⟨.elseWord, "else", 1⟩,
        ⟨.readWord, "read", 1⟩, ⟨.openParen, "(", 1⟩, ⟨.identifier, "d", 1⟩,
        ⟨.closeParen, ")", 1⟩, ⟨.elseWord, "else", 1⟩,
        ⟨.readWord, "read", 1⟩, ⟨.openParen, "(", 1⟩, ⟨.identifier, "e", 1⟩,
        ⟨.closeParen, ")", 1⟩] = .ok program ∧
      (Node.condition outer).Within (.program program) ∧ outer.tail ≠ .stop ∧
      outer.branch = .condition inner ∧ inner.tail ≠ .stop := by
  have reads (name : String) (rest : List Token) :
      Derives 1 .statement (⟨.readWord, "read", 1⟩ :: ⟨.openParen, "(", 1⟩ ::
        ⟨.identifier, name, 1⟩ :: ⟨.closeParen, ")", 1⟩ :: rest) (.statement (.reading _)) rest :=
    .statementRead (.reading rfl rfl (.identifierList rfl (.identifierStop
      (by simp [nextKind]))) rfl)
  have tests (name : String) (rest : List Token) :
      Derives 1 .expression (⟨.identifier, name, 1⟩ :: ⟨.thenWord, "then", 1⟩ :: rest)
        (.expression _) (⟨.thenWord, "then", 1⟩ :: rest) :=
    .expression (.operand (.addend (.factorIdentifier rfl) (.addendStop (by simp [nextKind])))
      (.operandStop (by simp [nextKind]))) (.comparisonStop (by simp [nextKind]))
  have otherwise (name : String) (rest : List Token) :
      Derives 1 .conditionTail (⟨.elseWord, "else", 1⟩ :: ⟨.readWord, "read", 1⟩ ::
        ⟨.openParen, "(", 1⟩ :: ⟨.identifier, name, 1⟩ :: ⟨.closeParen, ")", 1⟩ :: rest)
        (.conditionTail (.more _ _)) rest :=
    .conditionElse rfl (reads name rest)
  have condition (name : String) {middle later rest : List Token} {branch : Statement}
      {tail : ConditionTail} (states : Derives 1 .statement middle (.statement branch) later)
      (more : Derives 1 .conditionTail later (.conditionTail tail) rest) :
      Derives 1 .statement (⟨.ifWord, "if", 1⟩ :: ⟨.identifier, name, 1⟩ ::
        ⟨.thenWord, "then", 1⟩ :: middle) (.statement (.condition _)) rest :=
    .statementCondition (.condition rfl (tests name middle) rfl states more)
  have outer := condition "a" (condition "b" (reads "c" _) (otherwise "d" _)) (otherwise "e" [])
  have parsed := parse_of_derives (.program (.itemStatement (by simp [StartsDeclaration, nextKind])
    (by simp [nextKind]) outer) (.programStop (by simp [nextKind]))) rfl
  have inside (tree : Condition) (tail : ProgramTail) :
      (Node.condition tree).Within (.program ⟨.statement (.condition tree), tail⟩) :=
    .deeper List.mem_cons_self (.deeper List.mem_cons_self
      (.deeper List.mem_cons_self (.here (.condition tree))))
  exact ⟨_, _, _, parsed, inside _ _, by rintro ⟨⟩, rfl,
    (nearest_else_of_parse parsed (inside _ _) rfl (.here _)).2 _ rfl⟩

end DimLang
