import DimLang.Syntax.Node

/-!
# Trees without blank lines

`condense` takes out of a tree what blank lines leave in it: a skip is replaced by the statement
behind its separators, and the empty items of a program are left out, each with a separator. Of a
program that has only empty items one is kept.
-/

namespace DimLang

/-! ## Statements -/

mutual

/-- The statement with every skip replaced by the statement behind it. -/
def Statement.condense : Statement → Statement
  | .assignment tree => .assignment tree
  | .nestedBlock tree => .nestedBlock tree.condense
  | .condition tree => .condition tree.condense
  | .forLoop tree => .forLoop tree.condense
  | .whileLoop tree => .whileLoop tree.condense
  | .reading tree => .reading tree
  | .writing tree => .writing tree
  | .skip _ inner => inner.condense
  | .empty => .empty

def NestedBlock.condense : NestedBlock → NestedBlock
  | ⟨beginWord, statements, endWord⟩ => ⟨beginWord, statements.condense, endWord⟩

def StatementList.condense : StatementList → StatementList
  | ⟨head, tail⟩ => ⟨head.condense, tail.condense⟩

def StatementListTail.condense : StatementListTail → StatementListTail
  | .stop => .stop
  | .more separator rest => .more separator rest.condense

def Condition.condense : Condition → Condition
  | ⟨ifWord, test, thenWord, branch, tail⟩ =>
    ⟨ifWord, test, thenWord, branch.condense, tail.condense⟩

def ConditionTail.condense : ConditionTail → ConditionTail
  | .stop => .stop
  | .more elseWord branch => .more elseWord branch.condense

def ForLoop.condense : ForLoop → ForLoop
  | ⟨forWord, start, toWord, limit, doWord, body⟩ =>
    ⟨forWord, start, toWord, limit, doWord, body.condense⟩

def WhileLoop.condense : WhileLoop → WhileLoop
  | ⟨whileWord, test, doWord, body⟩ => ⟨whileWord, test, doWord, body.condense⟩

end

/-! ## Programs -/

def ProgramItem.condense : ProgramItem → ProgramItem
  | .declaration tree => .declaration tree
  | .statement tree => .statement tree.condense

/-- The program that consists of nothing. -/
def Program.blank : Program :=
  ⟨.statement .empty, .stop⟩

/-- What follows an item, without the separator between them. -/
def ProgramTail.rest : ProgramTail → Program
  | .stop => .blank
  | .more _ program => program

/-- The item in front of a tail; an empty item is left out. -/
def ProgramItem.inFront (item : ProgramItem) (tail : ProgramTail) : Program :=
  if item = .statement .empty then tail.rest else ⟨item, tail⟩

/-- The program behind a separator; if nothing is there, the separator is left out. -/
def Program.after (separator : Leaf) (program : Program) : ProgramTail :=
  if program = .blank then .stop else .more separator program

mutual

/-- The program without skips and empty items. -/
def Program.condense : Program → Program
  | ⟨item, tail⟩ => item.condense.inFront tail.condense

def ProgramTail.condense : ProgramTail → ProgramTail
  | .stop => .stop
  | .more separator rest => rest.condense.after separator

end

/-- Behind its first separator stands the program itself. -/
theorem Program.rest_after (separator : Leaf) (program : Program) :
    (program.after separator).rest = program := by
  unfold Program.after
  by_cases nothing : program = .blank
  · rw [if_pos nothing, nothing]
    rfl
  · rw [if_neg nothing]
    rfl

/-- An empty item and the separator behind it do not matter. -/
theorem Program.condense_empty (separator : Leaf) (program : Program) :
    Program.condense ⟨.statement .empty, .more separator program⟩ = program.condense :=
  program.condense.rest_after separator

/-- The tree without skips and empty items. -/
def Node.condense : Node → Node
  | statement tree => statement tree.condense
  | nestedBlock tree => nestedBlock tree.condense
  | statementList tree => statementList tree.condense
  | statementListTail tree => statementListTail tree.condense
  | condition tree => condition tree.condense
  | conditionTail tree => conditionTail tree.condense
  | forLoop tree => forLoop tree.condense
  | whileLoop tree => whileLoop tree.condense
  | programItem tree => programItem tree.condense
  | program tree => program tree.condense
  | programTail tree => programTail tree.condense
  | node => node

end DimLang
