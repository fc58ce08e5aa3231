import DimLang.Typing.Expressions

/-!
# Typing of statements

A statement reads the symbol table and does not change it. Its expressions and names are typed in
source order; the type of a condition does not matter.

- `IdentifierList.check` and `ExpressionList.check` type the lists of reading and writing
- `Assignment.check` and `Statement.check` type statements
-/

namespace DimLang

/-- Puts names with the commas behind them, given in reverse, in front of a list. -/
def IdentifierList.behind (passed : List (Identifier × Leaf)) (rest : IdentifierList) :
    IdentifierList :=
  passed.foldl (fun rest step => ⟨step.1, .more step.2 rest⟩) rest

/-- Puts expressions with the commas behind them, given in reverse, in front of a list. -/
def ExpressionList.behind (passed : List (Expression × Leaf)) (rest : ExpressionList) :
    ExpressionList :=
  passed.foldl (fun rest step => ⟨step.1, .more step.2 rest⟩) rest

/-- Puts statements with the separators behind them, given in reverse, in front of a list. -/
def StatementList.behind (passed : List (Statement × Leaf)) (rest : StatementList) :
    StatementList :=
  passed.foldl (fun rest step => ⟨step.1, .more step.2 rest⟩) rest

/-- Types names behind those that are passed. -/
def IdentifierList.check (context : TypingContext) (passed : List (Identifier × Leaf)) :
    IdentifierList → Checked IdentifierList Unit
  | ⟨head, .stop⟩ =>
    match head.check context with
    | ⟨head, .error error⟩ => ⟨behind passed ⟨head, .stop⟩, .error error⟩
    | ⟨head, .ok _⟩ => ⟨behind passed ⟨head, .stop⟩, .ok ()⟩
  | ⟨head, .more comma rest⟩ =>
    match head.check context with
    | ⟨head, .error error⟩ => ⟨behind passed ⟨head, .more comma rest⟩, .error error⟩
    | ⟨head, .ok _⟩ => rest.check context ((head, comma) :: passed)

/-- Types expressions behind those that are passed. -/
def ExpressionList.check (context : TypingContext) (passed : List (Expression × Leaf)) :
    ExpressionList → Checked ExpressionList Unit
  | ⟨head, .stop⟩ =>
    match head.check context with
    | ⟨head, .error error⟩ => ⟨behind passed ⟨head, .stop⟩, .error error⟩
    | ⟨head, .ok _⟩ => ⟨behind passed ⟨head, .stop⟩, .ok ()⟩
  | ⟨head, .more comma rest⟩ =>
    match head.check context with
    | ⟨head, .error error⟩ => ⟨behind passed ⟨head, .more comma rest⟩, .error error⟩
    | ⟨head, .ok _⟩ => rest.check context ((head, comma) :: passed)

/-- Types an assignment; a value that does not fit is reported at the word between the two. -/
def Assignment.check (context : TypingContext) (assignment : Assignment) :
    Checked Assignment Unit :=
  match assignment.target.check context with
  | ⟨target, .error error⟩ => ⟨⟨target, assignment.asWord, assignment.value⟩, .error error⟩
  | ⟨target, .ok targetTy⟩ =>
    match assignment.value.check context with
    | ⟨value, .error error⟩ => ⟨⟨target, assignment.asWord, value⟩, .error error⟩
    | ⟨value, .ok valueTy⟩ =>
      if assignable targetTy valueTy then ⟨⟨target, assignment.asWord, value⟩, .ok ()⟩
      else
        ⟨⟨target, assignment.asWord, value⟩, .error (.incompatibleAssignment target.name targetTy
          valueTy assignment.asWord.token.line)⟩

/-- Types a reading statement. -/
def Reading.check (context : TypingContext) (reading : Reading) : Checked Reading Unit :=
  match reading.identifiers.check context [] with
  | ⟨names, verdict⟩ => ⟨⟨reading.readWord, reading.opening, names, reading.closing⟩, verdict⟩

/-- Types a writing statement. -/
def Writing.check (context : TypingContext) (writing : Writing) : Checked Writing Unit :=
  match writing.expressions.check context [] with
  | ⟨expressions, verdict⟩ =>
    ⟨⟨writing.writeWord, writing.opening, expressions, writing.closing⟩, verdict⟩

mutual

/-- Types a statement. -/
def Statement.check (context : TypingContext) : Statement → Checked Statement Unit
  | .assignment tree =>
    match tree.check context with
    | ⟨tree, verdict⟩ => ⟨.assignment tree, verdict⟩
  | .nestedBlock tree =>
    match tree.check context with
    | ⟨tree, verdict⟩ => ⟨.nestedBlock tree, verdict⟩
  | .condition tree =>
    match tree.check context with
    | ⟨tree, verdict⟩ => ⟨.condition tree, verdict⟩
  | .forLoop tree =>
    match tree.check context with
    | ⟨tree, verdict⟩ => ⟨.forLoop tree, verdict⟩
  | .whileLoop tree =>
    match tree.check context with
    | ⟨tree, verdict⟩ => ⟨.whileLoop tree, verdict⟩
  | .reading tree =>
    match tree.check context with
    | ⟨tree, verdict⟩ => ⟨.reading tree, verdict⟩
  | .writing tree =>
    match tree.check context with
    | ⟨tree, verdict⟩ => ⟨.writing tree, verdict⟩
  | .skip separators inner =>
    match inner.check context with
    | ⟨inner, verdict⟩ => ⟨.skip separators inner, verdict⟩
  | .empty => ⟨.empty, .ok ()⟩

/-- Types the statements of a block. -/
def NestedBlock.check (context : TypingContext) : NestedBlock → Checked NestedBlock Unit
  | ⟨beginWord, statements, endWord⟩ =>
    match statements.check context [] with
    | ⟨statements, verdict⟩ => ⟨⟨beginWord, statements, endWord⟩, verdict⟩

/-- Types statements behind those that are passed. -/
def StatementList.check (context : TypingContext) (passed : List (Statement × Leaf)) :
    StatementList → Checked StatementList Unit
  | ⟨head, .stop⟩ =>
    match head.check context with
    | ⟨head, verdict⟩ => ⟨StatementList.behind passed ⟨head, .stop⟩, verdict⟩
  | ⟨head, .more separator rest⟩ =>
    match head.check context with
    | ⟨head, .error error⟩ =>
      ⟨StatementList.behind passed ⟨head, .more separator rest⟩, .error error⟩
    | ⟨head, .ok _⟩ => rest.check context ((head, separator) :: passed)

/-- Types a conditional statement. -/
def Condition.check (context : TypingContext) : Condition → Checked Condition Unit
  | ⟨ifWord, test, thenWord, branch, tail⟩ =>
    match test.check context with
    | ⟨test, .error error⟩ => ⟨⟨ifWord, test, thenWord, branch, tail⟩, .error error⟩
    | ⟨test, .ok _⟩ =>
      match branch.check context with
      | ⟨branch, .error error⟩ => ⟨⟨ifWord, test, thenWord, branch, tail⟩, .error error⟩
      | ⟨branch, .ok _⟩ =>
        match tail.check context with
        | ⟨tail, verdict⟩ => ⟨⟨ifWord, test, thenWord, branch, tail⟩, verdict⟩

/-- Types the other branch, if there is one. -/
def ConditionTail.check (context : TypingContext) : ConditionTail → Checked ConditionTail Unit
  | .stop => ⟨.stop, .ok ()⟩
  | .more elseWord branch =>
    match branch.check context with
    | ⟨branch, verdict⟩ => ⟨.more elseWord branch, verdict⟩

/-- Types a counting loop. -/
def ForLoop.check (context : TypingContext) : ForLoop → Checked ForLoop Unit
  | ⟨forWord, start, toWord, limit, doWord, body⟩ =>
    match start.check context with
    | ⟨start, .error error⟩ => ⟨⟨forWord, start, toWord, limit, doWord, body⟩, .error error⟩
    | ⟨start, .ok _⟩ =>
      match limit.check context with
      | ⟨limit, .error error⟩ => ⟨⟨forWord, start, toWord, limit, doWord, body⟩, .error error⟩
      | ⟨limit, .ok _⟩ =>
        match body.check context with
        | ⟨body, verdict⟩ => ⟨⟨forWord, start, toWord, limit, doWord, body⟩, verdict⟩

/-- Types a loop under a condition. -/
def WhileLoop.check (context : TypingContext) : WhileLoop → Checked WhileLoop Unit
  | ⟨whileWord, test, doWord, body⟩ =>
    match test.check context with
    | ⟨test, .error error⟩ => ⟨⟨whileWord, test, doWord, body⟩, .error error⟩
    | ⟨test, .ok _⟩ =>
      match body.check context with
      | ⟨body, verdict⟩ => ⟨⟨whileWord, test, doWord, body⟩, verdict⟩

end

end DimLang
