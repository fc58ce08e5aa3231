import DimLang.Grammar.Symbol
import DimLang.Syntax.Node

/-!
# Assembly

The finished children of a production are assembled into the node that the production stands for.
The children must have the types that its symbols produce, in order.

- `Builds.build` passes children to a function of typed arguments
- `Production.assemble` is the node of a production
-/

namespace DimLang

/-- A child is missing or has a wrong type; `found` names what stands in its place. -/
structure ShapeMismatch where
  found : String
deriving DecidableEq, Repr

/-- A function of trees that yields a node; its type says which children it takes. -/
class Builds (α : Type) where
  /-- Takes the children in order: a child of a wrong type, a missing child and a surplus child
  are mismatches. -/
  build : α → List Node → Except ShapeMismatch Node

export Builds (build)

instance : Builds Node where
  build node
    | [] => .ok node
    | surplus :: _ => .error ⟨surplus.name⟩

instance {α β : Type} [IsNode α] [Builds β] : Builds (α → β) where
  build f
    | [] => .error ⟨"nothing"⟩
    | child :: rest =>
      match IsNode.ofNode? child with
      | some tree => build (f tree) rest
      | none => .error ⟨child.name⟩

/-- The statement behind a separator: separators in front of one statement are kept together. -/
def Statement.behind (separator : Leaf) : Statement → Statement
  | skip separators statement => skip (separator :: separators) statement
  | statement => skip [separator] statement

/-- The factor of the given form, not yet analysed. -/
def Primary.untyped (primary : Primary) : Factor :=
  ⟨primary, .invalid⟩

/-- The node of the production with the given children. -/
def Production.assemble (children : List Node) : Production → Except ShapeMismatch Node
  | program => build (fun item tail => Node.program ⟨item, tail⟩) children
  | programItemDeclaration =>
    build (fun tree => Node.programItem (.declaration tree)) children
  | programItemStatement => build (fun tree => Node.programItem (.statement tree)) children
  | programItemEmpty => build (Node.programItem (.statement .empty)) children
  | programTailMore =>
    build (fun separator rest => Node.programTail (.more separator rest)) children
  | programTailEnd => build (Node.programTail .stop) children
  | declarationKeyword =>
    build (fun word names typeName => Node.declaration ⟨some word, names, none, typeName⟩) children
  | declarationColon =>
    build (fun names mark typeName => Node.declaration ⟨none, names, some mark, typeName⟩) children
  | identifierList => build (fun head tail => Node.identifierList ⟨head, tail⟩) children
  | identifierListMore =>
    build (fun comma rest => Node.identifierListTail (.more comma rest)) children
  | identifierListEnd => build (Node.identifierListTail .stop) children
  | statementAssignment => build (fun tree => Node.statement (.assignment tree)) children
  | statementBlock => build (fun tree => Node.statement (.nestedBlock tree)) children
  | statementCondition => build (fun tree => Node.statement (.condition tree)) children
  | statementFor => build (fun tree => Node.statement (.forLoop tree)) children
  | statementWhile => build (fun tree => Node.statement (.whileLoop tree)) children
  | statementRead => build (fun tree => Node.statement (.reading tree)) children
  | statementWrite => build (fun tree => Node.statement (.writing tree)) children
  | statementSkip =>
    build (fun separator (statement : Statement) =>
      Node.statement (statement.behind separator)) children
  | statementEmpty => build (Node.statement .empty) children
  | assignment =>
    build (fun target asWord value => Node.assignment ⟨target, asWord, value⟩) children
  | condition =>
    build (fun ifWord test thenWord branch tail =>
      Node.condition ⟨ifWord, test, thenWord, branch, tail⟩) children
  | conditionElse =>
    build (fun elseWord branch => Node.conditionTail (.more elseWord branch)) children
  | conditionEnd => build (Node.conditionTail .stop) children
  | forLoop =>
    build (fun forWord start toWord limit doWord body =>
      Node.forLoop ⟨forWord, start, toWord, limit, doWord, body⟩) children
  | whileLoop =>
    build (fun whileWord test doWord body =>
      Node.whileLoop ⟨whileWord, test, doWord, body⟩) children
  | nestedBlock =>
    build (fun beginWord statements endWord =>
      Node.nestedBlock ⟨beginWord, statements, endWord⟩) children
  | statementList => build (fun head tail => Node.statementList ⟨head, tail⟩) children
  | statementListMore =>
    build (fun separator rest => Node.statementListTail (.more separator rest)) children
  | statementListEnd => build (Node.statementListTail .stop) children
  | reading =>
    build (fun word opening names closing =>
      Node.reading ⟨word, opening, names, closing⟩) children
  | writing =>
    build (fun word opening expressions closing =>
      Node.writing ⟨word, opening, expressions, closing⟩) children
  | expressionList => build (fun head tail => Node.expressionList ⟨head, tail⟩) children
  | expressionListMore =>
    build (fun comma rest => Node.expressionListTail (.more comma rest)) children
  | expressionListEnd => build (Node.expressionListTail .stop) children
  | expression => build (fun left tail => Node.expression ⟨left, tail, .invalid⟩) children
  | expressionComparison =>
    build (fun operator right => Node.expressionTail (.more operator right .invalid)) children
  | expressionTailEnd => build (Node.expressionTail (.stop .invalid)) children
  | operand => build (fun head tail => Node.operand ⟨head, tail, .invalid⟩) children
  | operandMore =>
    build (fun operator rest => Node.operandTail (.more operator rest .invalid)) children
  | operandEnd => build (Node.operandTail (.stop .invalid)) children
  | addend => build (fun head tail => Node.addend ⟨head, tail, .invalid⟩) children
  | addendMore =>
    build (fun operator rest => Node.addendTail (.more operator rest .invalid)) children
  | addendEnd => build (Node.addendTail (.stop .invalid)) children
  | factorIdentifier => build (fun name => Node.factor (Primary.identifier name).untyped) children
  | factorNumber => build (fun tree => Node.factor (Primary.number tree).untyped) children
  | factorBool => build (fun constant => Node.factor (Primary.bool constant).untyped) children
  | factorNot =>
    build (fun operator operand => Node.factor (Primary.not operator operand).untyped) children
  | factorGroup =>
    build (fun opening expression closing =>
      Node.factor (Primary.group opening expression closing).untyped) children
  | numberInt => build (fun constant => Node.number ⟨constant, .invalid⟩) children
  | numberFloat => build (fun constant => Node.number ⟨constant, .invalid⟩) children

end DimLang
