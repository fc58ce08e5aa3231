import DimLang.Proofs.Grammar.BlankLines
import DimLang.Proofs.Typing.Declarations

/-!
# Typing without blank lines

Skips and empty items have no types and declare no names, so that typing a tree and leaving them
out may be done in either order (`Program.infer_condense`). With what the parser makes of a blank
line:

- `parse_blankLine`: a token list with a blank line is accepted exactly if it is without, with the
  same program, the same error and the same types, up to skips and empty items
-/

namespace DimLang

/-! ## Statements -/

section Statements

variable (context : TypingContext)

mutual

/-- A condensed statement is typed as the statement is, and so are the nodes it is nested in. -/
theorem Statement.infer_condense : (statement : Statement) →
    statement.condense.infer context = Statement.condense <$> statement.infer context
  | .assignment _ | .reading _ | .writing _ | .empty => by
    simp only [Statement.condense, Statement.infer, map_bind, map_pure]
  | .nestedBlock ⟨_, statements, _⟩ => by
    simp only [Statement.condense, NestedBlock.condense, Statement.infer, map_bind, map_pure,
      statements.infer_condense, bind_map_left]
  | .condition ⟨_, _, _, branch, tail⟩ => by
    simp only [Statement.condense, Condition.condense, Statement.infer, map_bind, map_pure,
      branch.infer_condense, tail.infer_condense, bind_map_left]
  | .forLoop ⟨_, _, _, _, _, body⟩ => by
    simp only [Statement.condense, ForLoop.condense, Statement.infer, map_bind, map_pure,
      body.infer_condense, bind_map_left]
  | .whileLoop ⟨_, _, _, body⟩ => by
    simp only [Statement.condense, WhileLoop.condense, Statement.infer, map_bind, map_pure,
      body.infer_condense, bind_map_left]
  | .skip _ inner => by
    simp only [Statement.condense, Statement.infer, inner.infer_condense, map_eq_pure_bind,
      bind_assoc, pure_bind]

/-- A condensed statement list is typed as the list is. -/
theorem StatementList.infer_condense : (statements : StatementList) →
    statements.condense.infer context = StatementList.condense <$> statements.infer context
  | ⟨head, .stop⟩ => by
    simp only [StatementList.condense, StatementListTail.condense, StatementList.infer, map_bind,
      map_pure, head.infer_condense, bind_map_left]
  | ⟨head, .more _ rest⟩ => by
    simp only [StatementList.condense, StatementListTail.condense, StatementList.infer, map_bind,
      map_pure, head.infer_condense, rest.infer_condense, bind_map_left]

/-- A condensed `else` branch is typed as the branch is. -/
theorem ConditionTail.infer_condense : (tail : ConditionTail) →
    tail.condense.infer context = ConditionTail.condense <$> tail.infer context
  | .stop => by
    simp only [ConditionTail.condense, ConditionTail.infer, map_pure]
  | .more _ branch => by
    simp only [ConditionTail.condense, ConditionTail.infer, map_bind, map_pure,
      branch.infer_condense, bind_map_left]

end

end Statements

/-! ## What is empty stays empty -/

/-- Every rule delivers if nothing is asked of it. -/
theorem delivers_trivial {α : Type} (rule : Except SemanticError α) :
    Delivers (fun _ => True) (fun _ => True) rule := by
  cases rule <;> exact trivial

/-- Steps that agree on what is delivered can be exchanged. -/
theorem Delivers.bind_congr {α β : Type} {sort : SemanticError → Prop} {good : α → Prop}
    {rule : Except SemanticError α} {next next' : α → Except SemanticError β}
    (delivers : Delivers sort good rule)
    (step : ∀ result, good result → next result = next' result) :
    rule >>= next = rule >>= next' := by
  cases rule with
  | ok result => exact step result delivers
  | error error => rfl

/-- Typing makes no statement empty, nor an empty one something else. -/
theorem Statement.infer_eq_empty_iff (context : TypingContext) : (statement : Statement) →
    Delivers (fun _ => True) (fun typed => typed = .empty ↔ statement = .empty)
      (statement.infer context)
  | .empty => Iff.rfl
  | .assignment _ | .nestedBlock ⟨_, _, _⟩ | .reading ⟨_, _, _, _⟩ | .writing ⟨_, _, _, _⟩
  | .skip _ _ => by
    rw [infer]
    exact Delivers.bind (delivers_trivial _) fun _ _ => iff_of_false (by simp) (by simp)
  | .whileLoop ⟨_, _, _, _⟩ => by
    rw [infer]
    exact Delivers.bind (delivers_trivial _) fun _ _ => Delivers.bind (delivers_trivial _)
      fun _ _ => iff_of_false (by simp) (by simp)
  | .condition ⟨_, _, _, _, _⟩ | .forLoop ⟨_, _, _, _, _, _⟩ => by
    rw [infer]
    exact Delivers.bind (delivers_trivial _) fun _ _ => Delivers.bind (delivers_trivial _)
      fun _ _ => Delivers.bind (delivers_trivial _) fun _ _ => iff_of_false (by simp) (by simp)

/-- Typing makes no item empty, nor an empty one something else. -/
theorem ProgramItem.infer_eq_empty_iff (context : TypingContext) (item : ProgramItem) :
    Delivers (fun _ => True)
      (fun typed => typed.1 = .statement .empty ↔ item = .statement .empty)
      (item.infer context) := by
  cases item with
  | declaration tree =>
    rw [infer]
    exact Delivers.bind (delivers_trivial _) fun _ _ => iff_of_false (by simp) (by simp)
  | statement tree =>
    rw [infer]
    refine (tree.infer_eq_empty_iff context).bind fun typed same => ?_
    rw [ProgramItem.statement.injEq]
    exact (iff_of_eq (ProgramItem.statement.injEq _ _)).trans same

/-! ## Programs -/

section Programs

variable (operators : OperatorTable) (symbols : SymbolTable)

/-- What follows an item is typed under the names that are declared before. -/
def ProgramTail.infer : ProgramTail → Except SemanticError (ProgramTail × SymbolTable)
  | .stop => return (.stop, symbols)
  | .more separator rest => do
    let more ← rest.infer operators symbols
    return (.more separator more.1, more.2)

/-- An item is typed first, and then what follows it. -/
theorem Program.infer_eq (item : ProgramItem) (tail : ProgramTail) :
    Program.infer operators symbols ⟨item, tail⟩ = (do
      let first ← item.infer ⟨operators, symbols⟩
      let more ← tail.infer operators first.2
      return (⟨first.1, more.1⟩, more.2)) := by
  cases tail with
  | stop => simp only [infer, ProgramTail.infer, pure_bind]
  | more separator rest => simp only [infer, ProgramTail.infer, bind_assoc, pure_bind]

/-- Typing makes no program blank, nor a blank one something else. -/
theorem Program.infer_eq_blank_iff (program : Program) :
    Delivers (fun _ => True) (fun typed => typed.1 = .blank ↔ program = .blank)
      (program.infer operators symbols) := by
  obtain ⟨item, tail⟩ := program
  rw [infer_eq]
  refine (item.infer_eq_empty_iff _).bind fun first same => ?_
  cases tail with
  | stop =>
    have item_iff (other : ProgramItem) :
        (⟨other, .stop⟩ : Program) = blank ↔ other = .statement .empty := by
      simp [blank]
    exact (item_iff _).trans (same.trans (item_iff _).symm)
  | more separator rest =>
    rw [ProgramTail.infer, bind_assoc]
    exact Delivers.bind (delivers_trivial _) fun _ _ =>
      iff_of_false (by simp [blank]) (by simp [blank])

/-- What follows a separator is typed as the tail is. -/
theorem ProgramTail.infer_rest (tail : ProgramTail) :
    tail.rest.infer operators symbols =
      (fun more => (more.1.rest, more.2)) <$> tail.infer operators symbols := by
  cases tail with
  | stop => rfl
  | more separator rest =>
    rw [ProgramTail.infer, map_bind]
    exact (bind_pure _).symm

/-- Leaving an item out if it is empty and typing may be done in either order. -/
theorem ProgramItem.infer_inFront (item : ProgramItem) (tail : ProgramTail) :
    (item.inFront tail).infer operators symbols = (do
      let first ← item.infer ⟨operators, symbols⟩
      let more ← tail.infer operators first.2
      return (first.1.inFront more.1, more.2)) := by
  by_cases empty : item = .statement .empty
  · rw [inFront, if_pos empty, tail.infer_rest, empty, map_eq_pure_bind]
    rfl
  · rw [inFront, if_neg empty, Program.infer_eq]
    refine (item.infer_eq_empty_iff _).bind_congr fun first same => ?_
    have left : first.1 ≠ .statement .empty := mt same.mp empty
    simp only [inFront, if_neg left]

/-- A separator in front changes nothing in how a program is typed. -/
theorem Program.infer_after (separator : Leaf) (program : Program) :
    (program.after separator).infer operators symbols =
      (fun typed => (typed.1.after separator, typed.2)) <$> program.infer operators symbols := by
  by_cases nothing : program = .blank
  · rw [after, if_pos nothing, nothing]
    rfl
  · rw [after, if_neg nothing, ProgramTail.infer, map_eq_pure_bind]
    refine (program.infer_eq_blank_iff operators symbols).bind_congr fun typed same => ?_
    have left : typed.1 ≠ .blank := mt same.mp nothing
    rw [after, if_neg left]

end Programs

/-- A condensed item is typed as the item is. -/
theorem ProgramItem.infer_condense (context : TypingContext) (item : ProgramItem) :
    item.condense.infer context = Prod.map ProgramItem.condense id <$> item.infer context := by
  cases item with
  | declaration tree => simp only [condense, infer, map_bind, map_pure, Prod.map_apply, id]
  | statement tree =>
    simp only [condense, infer, map_bind, map_pure, Prod.map_apply, id, tree.infer_condense,
      bind_map_left]

mutual

/-- Leaving out skips and empty items and typing may be done in either order. -/
theorem Program.infer_condense (operators : OperatorTable) : (program : Program) →
    (symbols : SymbolTable) → program.condense.infer operators symbols =
      Prod.map Program.condense id <$> program.infer operators symbols
  | ⟨item, tail⟩, symbols => by
    simp only [Program.condense, ProgramItem.infer_inFront, Program.infer_eq, map_bind, map_pure,
      item.infer_condense, tail.infer_condense operators, bind_map_left, Prod.map_fst,
      Prod.map_snd, Prod.map_apply, id]

/-- A condensed tail of items is typed as the tail is. -/
theorem ProgramTail.infer_condense (operators : OperatorTable) : (tail : ProgramTail) →
    (symbols : SymbolTable) → tail.condense.infer operators symbols =
      Prod.map ProgramTail.condense id <$> tail.infer operators symbols
  | .stop, symbols => rfl
  | .more separator rest, symbols => by
    rw [ProgramTail.condense, Program.infer_after, rest.infer_condense operators,
      ProgramTail.infer]
    simp only [map_eq_pure_bind, bind_assoc, pure_bind, Prod.map_fst,
      Prod.map_snd, Prod.map_apply, id, ProgramTail.condense]

end

/-- A condensed program has the condensed analysis, or the same error. -/
theorem analyze_condense (program : Program) :
    analyze program.condense = (analyze program).map Program.condense := by
  rw [analyze_eq_infer, analyze_eq_infer, program.infer_condense]
  cases program.infer .standard .empty <;> rfl

/-! ## Blank lines -/

/-- A blank line changes nothing: with and without it a token list is accepted or not, and the
programs, the verdicts and the types are the same, up to skips and empty items. -/
theorem parse_blankLine (separator blank : Token) (kind : separator.kind = .separator)
    (blankKind : blank.kind = .separator) (front back : List Token) :
    ((∃ program, parse (front ++ separator :: back) = .ok program) ↔
      ∃ program, parse (front ++ separator :: blank :: back) = .ok program) ∧
    ∀ program program', parse (front ++ separator :: back) = .ok program →
      parse (front ++ separator :: blank :: back) = .ok program' →
        program'.condense = program.condense ∧
          (analyze program').map Program.condense = (analyze program).map Program.condense := by
  have added := (BlankLine.added back kind blankKind).append front
  have removed := (BlankLine.removed back kind blankKind).append front
  refine ⟨⟨?_, ?_⟩, ?_⟩
  · rintro ⟨program, parsed⟩
    obtain ⟨program', parsed', _⟩ := exists_parse_of_blankLine added parsed
    exact ⟨program', parsed'⟩
  · rintro ⟨program, parsed⟩
    obtain ⟨program', parsed', _⟩ := exists_parse_of_blankLine removed parsed
    exact ⟨program', parsed'⟩
  · intro program program' parsed parsed'
    obtain ⟨found, foundParsed, same⟩ := exists_parse_of_blankLine added parsed
    rw [parsed'] at foundParsed
    cases foundParsed
    refine ⟨same, ?_⟩
    rw [← analyze_condense, ← analyze_condense, same]

/-- In a block the first separator belongs to the list of statements, and the second one is
skipped. -/
theorem parse_blankLine_in_block :
    ∃ program program',
      parse [⟨.beginWord, "begin", 1⟩, ⟨.writeWord, "write", 1⟩, ⟨.openParen, "(", 1⟩,
        ⟨.intNumber, "1", 1⟩, ⟨.closeParen, ")", 1⟩, ⟨.separator, "\n", 1⟩, ⟨.endWord, "end", 3⟩] =
          .ok program ∧
      parse [⟨.beginWord, "begin", 1⟩, ⟨.writeWord, "write", 1⟩, ⟨.openParen, "(", 1⟩,
        ⟨.intNumber, "1", 1⟩, ⟨.closeParen, ")", 1⟩, ⟨.separator, "\n", 1⟩, ⟨.separator, "\n", 2⟩,
        ⟨.endWord, "end", 3⟩] = .ok program' ∧
      program'.condense = program.condense ∧
        (analyze program').map Program.condense = (analyze program).map Program.condense := by
  have value : Derives 3 .expressionList [⟨.intNumber, "1", 1⟩, ⟨.closeParen, ")", 1⟩,
      ⟨.separator, "\n", 1⟩, ⟨.endWord, "end", 3⟩] _ _ :=
    .expressionList (.expression (.operand (.addend (.factorNumber (.number (.inl rfl)))
      (.addendStop (by decide))) (.operandStop (by decide))) (.comparisonStop (by decide)))
        (.expressionStop (by decide))
  have writing : Derives 3 .statement [⟨.writeWord, "write", 1⟩, ⟨.openParen, "(", 1⟩,
      ⟨.intNumber, "1", 1⟩, ⟨.closeParen, ")", 1⟩, ⟨.separator, "\n", 1⟩,
      ⟨.endWord, "end", 3⟩] _ _ :=
    .statementWrite (.writing rfl rfl value rfl)
  have nothing : Derives 3 .statement [⟨.endWord, "end", 3⟩] (.statement .empty) _ :=
    .statementEmpty (.inl rfl)
  have block : Derives 3 .nestedBlock [⟨.beginWord, "begin", 1⟩, ⟨.writeWord, "write", 1⟩,
      ⟨.openParen, "(", 1⟩, ⟨.intNumber, "1", 1⟩, ⟨.closeParen, ")", 1⟩, ⟨.separator, "\n", 1⟩,
      ⟨.endWord, "end", 3⟩] _ [] :=
    .nestedBlock rfl (.statementList writing (.statementMore rfl
      (.statementList nothing (.statementStop (by decide))))) rfl
  have item := Derives.itemStatement (by simp [StartsDeclaration, nextKind]) (by decide)
    (.statementBlock block)
  have parsed := parse_of_derives (.program item (.programStop (by decide))) rfl
  obtain ⟨accepted, same⟩ := parse_blankLine ⟨.separator, "\n", 1⟩ ⟨.separator, "\n", 2⟩ rfl rfl
    [⟨.beginWord, "begin", 1⟩, ⟨.writeWord, "write", 1⟩, ⟨.openParen, "(", 1⟩,
      ⟨.intNumber, "1", 1⟩, ⟨.closeParen, ")", 1⟩] [⟨.endWord, "end", 3⟩]
  obtain ⟨program', parsed'⟩ := accepted.mp ⟨_, parsed⟩
  exact ⟨_, program', parsed, parsed', same _ _ parsed parsed'⟩

end DimLang
