import DimLang.Proofs.Grammar.Leaves
import DimLang.Proofs.Grammar.Moves

/-!
# Children that do not fit

The symbols of a production say which children it takes, and its assembly takes exactly these. The
two are written down apart, one function of typed arguments for each production on one side and one
list of symbols on the other; here they are compared argument by argument (`refuses_function`).

- `Misfit` is a list of children that does not fit the symbols, with what is named in the error
- `assemble_lines_up`: children are assembled exactly if they fit, and a node keeps their leaves
-/

namespace DimLang

open IsNode

/-- The children in front fit, and then one is of a wrong type, one is missing, or one is left. -/
inductive Misfit : List Symbol → List Node → String → Prop
  | wrong {symbols others : List Symbol} {symbol : Symbol} {front back : List Node} {child : Node}
      (fitting : List.Forall₂ Symbol.Produces symbols front)
      (differs : ¬ symbol.Produces child) :
      Misfit (symbols ++ symbol :: others) (front ++ child :: back) child.name
  | missing {symbols others : List Symbol} {symbol : Symbol} {front : List Node}
      (fitting : List.Forall₂ Symbol.Produces symbols front) :
      Misfit (symbols ++ symbol :: others) front "nothing"
  | surplus {symbols : List Symbol} {front back : List Node} {child : Node}
      (fitting : List.Forall₂ Symbol.Produces symbols front) :
      Misfit symbols (front ++ child :: back) child.name

variable {symbol : Symbol} {symbols : List Symbol} {children : List Node} {found : String}

/-- A child that fits does not hide the misfit behind it. -/
theorem Misfit.cons {child : Node} (fits : symbol.Produces child)
    (misfit : Misfit symbols children found) :
    Misfit (symbol :: symbols) (child :: children) found := by
  cases misfit with
  | wrong fitting differs => exact .wrong (.cons fits fitting) differs
  | missing fitting => exact .missing (.cons fits fitting)
  | surplus fitting => exact .surplus (.cons fits fitting)

/-- Children fit the symbols or do not. -/
theorem produces_or_misfit (symbols : List Symbol) (children : List Node) :
    List.Forall₂ Symbol.Produces symbols children ∨ ∃ found, Misfit symbols children found := by
  have inFront : List.Forall₂ Symbol.Produces [] [] := .nil
  induction symbols generalizing children with
  | nil =>
    cases children with
    | nil => exact .inl .nil
    | cons child back => exact .inr ⟨_, .surplus inFront⟩
  | cons symbol symbols ih =>
    cases children with
    | nil => exact .inr ⟨_, .missing inFront⟩
    | cons child back =>
      by_cases fits : symbol.Produces child
      · obtain fitting | ⟨found, misfit⟩ := ih back
        · exact .inl (.cons fits fitting)
        · exact .inr ⟨found, misfit.cons fits⟩
      · exact .inr ⟨_, .wrong inFront fits⟩

/-- Where no children are left to be asked for, the next one is the misfit. -/
theorem Misfit.of_nil (misfit : Misfit [] children found) :
    ∃ child back, children = child :: back ∧ found = child.name := by
  generalize none : ([] : List Symbol) = symbols at misfit
  cases misfit with
  | wrong | missing => simp at none
  | surplus fitting =>
    subst none
    cases fitting
    exact ⟨_, _, rfl, rfl⟩

/-- Among several children the first one that does not fit is named. -/
theorem Misfit.of_cons (misfit : Misfit (symbol :: symbols) children found) :
    children = [] ∧ found = "nothing" ∨
      ∃ child back, children = child :: back ∧
        (¬ symbol.Produces child ∧ found = child.name ∨
          symbol.Produces child ∧ Misfit symbols back found) := by
  generalize split : symbol :: symbols = whole at misfit
  cases misfit with
  | wrong fitting differs =>
    cases fitting with
    | nil =>
      obtain ⟨rfl, rfl⟩ := List.cons.inj split
      exact .inr ⟨_, _, rfl, .inl ⟨differs, rfl⟩⟩
    | cons fits fitting =>
      obtain ⟨rfl, rfl⟩ := List.cons.inj split
      exact .inr ⟨_, _, rfl, .inr ⟨fits, .wrong fitting differs⟩⟩
  | missing fitting =>
    cases fitting with
    | nil => exact .inl ⟨rfl, rfl⟩
    | cons fits fitting =>
      obtain ⟨rfl, rfl⟩ := List.cons.inj split
      exact .inr ⟨_, _, rfl, .inr ⟨fits, .missing fitting⟩⟩
  | surplus fitting =>
    subst split
    cases fitting with
    | cons fits fitting => exact .inr ⟨_, _, rfl, .inr ⟨fits, .surplus fitting⟩⟩

/-! ## Building from children that do not fit -/

/-- Nothing is built from children that do not fit the symbols, and the error says which. -/
def RefusesMisfits {α : Type} [Builds α] (symbols : List Symbol) (f : α) : Prop :=
  ∀ {children : List Node} {found : String}, Misfit symbols children found →
    build f children = .error ⟨found⟩

/-- A finished node refuses every child. -/
theorem refuses_node (tree : Node) : RefusesMisfits [] tree := by
  intro children found misfit
  obtain ⟨child, back, rfl, rfl⟩ := misfit.of_nil
  rfl

/-- The first argument is of the type that the first symbol produces. -/
theorem refuses_function {α β : Type} [IsNode α] [LawfulNode α] [Builds β] {f : α → β}
    (typed : ∀ node, symbol.Produces node ↔ ∃ tree : α, node = toNode tree)
    (refuses : ∀ tree, RefusesMisfits symbols (f tree)) :
    RefusesMisfits (symbol :: symbols) f := by
  intro children found misfit
  obtain ⟨rfl, rfl⟩ | ⟨child, back, rfl, ⟨differs, rfl⟩ | ⟨fits, later⟩⟩ := misfit.of_cons
  · rfl
  · have absent : (ofNode? child : Option α) = none := by
      rw [Option.eq_none_iff_forall_ne_some]
      intro tree same
      exact differs ((typed child).mpr ⟨tree, ofNode?_eq_some_iff.mp same⟩)
    simp only [build, absent]
  · obtain ⟨tree, rfl⟩ := (typed child).mp fits
    simp only [build, LawfulNode.ofNode?_toNode]
    exact refuses tree later

/-- The arguments of every production are of the types that its symbols produce. -/
theorem assemble_of_misfit {production : Production}
    (misfit : Misfit production.rhs children found) :
    production.assemble children = .error ⟨found⟩ := by
  have refused {α : Type} [Builds α] {f : α} (refuses : RefusesMisfits production.rhs f) :
      build f children = .error ⟨found⟩ :=
    refuses misfit
  cases production with
  | programItemEmpty | programTailEnd | identifierListEnd | statementEmpty | conditionEnd
  | statementListEnd | expressionListEnd | expressionTailEnd | operandEnd | addendEnd =>
    exact refused (refuses_node _)
  | programItemDeclaration | programItemStatement | statementAssignment | statementBlock
  | statementCondition | statementFor | statementWhile | statementRead | statementWrite
  | factorIdentifier | factorNumber | factorBool | numberInt | numberFloat =>
    exact refused (refuses_function (fun _ => .rfl) fun _ => refuses_node _)
  | program | programTailMore | identifierList | identifierListMore | statementSkip
  | conditionElse | statementList | statementListMore | expressionList | expressionListMore
  | expression | expressionComparison | operand | operandMore | addend | addendMore
  | factorNot =>
    exact refused (refuses_function (fun _ => .rfl) fun _ =>
      refuses_function (fun _ => .rfl) fun _ => refuses_node _)
  | declarationKeyword | declarationColon | assignment | nestedBlock | factorGroup =>
    exact refused (refuses_function (fun _ => .rfl) fun _ =>
      refuses_function (fun _ => .rfl) fun _ =>
        refuses_function (fun _ => .rfl) fun _ => refuses_node _)
  | whileLoop | reading | writing =>
    exact refused (refuses_function (fun _ => .rfl) fun _ =>
      refuses_function (fun _ => .rfl) fun _ => refuses_function (fun _ => .rfl) fun _ =>
        refuses_function (fun _ => .rfl) fun _ => refuses_node _)
  | condition =>
    exact refused (refuses_function (fun _ => .rfl) fun _ =>
      refuses_function (fun _ => .rfl) fun _ => refuses_function (fun _ => .rfl) fun _ =>
        refuses_function (fun _ => .rfl) fun _ =>
          refuses_function (fun _ => .rfl) fun _ => refuses_node _)
  | forLoop =>
    exact refused (refuses_function (fun _ => .rfl) fun _ =>
      refuses_function (fun _ => .rfl) fun _ => refuses_function (fun _ => .rfl) fun _ =>
        refuses_function (fun _ => .rfl) fun _ => refuses_function (fun _ => .rfl) fun _ =>
          refuses_function (fun _ => .rfl) fun _ => refuses_node _)

/-! ## Assembly -/

/-- A production can be assembled exactly if each child fits its symbol. -/
theorem exists_assemble_iff {production : Production} :
    (∃ node, production.assemble children = .ok node) ↔
      List.Forall₂ Symbol.Produces production.rhs children := by
  constructor
  · rintro ⟨node, assembled⟩
    refine (produces_or_misfit production.rhs children).resolve_right ?_
    rintro ⟨found, misfit⟩
    rw [assemble_of_misfit misfit] at assembled
    cases assembled
  · intro fitting
    obtain ⟨node, assembled, _⟩ := exists_assemble fitting
    exact ⟨node, assembled⟩

/-- The error of an assembly names the misfit. -/
theorem assemble_eq_error_iff {production : Production} :
    production.assemble children = .error ⟨found⟩ ↔ Misfit production.rhs children found := by
  refine ⟨fun failed => ?_, assemble_of_misfit⟩
  obtain fitting | ⟨named, misfit⟩ := produces_or_misfit production.rhs children
  · obtain ⟨node, assembled⟩ := exists_assemble_iff.mpr fitting
    rw [failed] at assembled
    cases assembled
  · rw [assemble_of_misfit misfit] at failed
    cases failed
    exact misfit

/-- Any production assembles exactly the children that its symbols produce, one for each symbol
and in order. The node has the leaves of the children, and otherwise the error names the first
child of a wrong type, nothing for a missing child, or the first child that is left. -/
theorem assemble_lines_up (production : Production) (children : List Node) :
    ((∃ node, production.assemble children = .ok node) ↔
      List.Forall₂ Symbol.Produces production.rhs children) ∧
    (∀ node, production.assemble children = .ok node →
      node.leaves = children.flatMap Node.leaves) ∧
    ∀ found, production.assemble children = .error ⟨found⟩ ↔
      Misfit production.rhs children found :=
  ⟨exists_assemble_iff, fun _ => leaves_assemble, fun _ => assemble_eq_error_iff⟩

/-- A separator joins those that a statement has in front already. Of a loop whose condition is a
name, whose body is missing and which has a statement for its second word, the name is reported. -/
theorem assemble_lines_up_skip :
    (∃ node, Production.statementSkip.assemble [.leaf ⟨⟨.separator, ";", 1⟩⟩,
        .statement (.skip [⟨⟨.separator, "\n", 1⟩⟩] .empty)] = .ok node ∧
      node.leaves = [⟨.separator, ";", 1⟩, ⟨.separator, "\n", 1⟩]) ∧
    Misfit Production.whileLoop.rhs [.leaf ⟨⟨.whileWord, "while", 1⟩⟩,
      .identifier ⟨⟨.identifier, "x", 1⟩, .invalid⟩, .statement .empty] "Identifier" := by
  constructor
  · have fitting : List.Forall₂ Symbol.Produces Production.statementSkip.rhs
        [.leaf ⟨⟨.separator, ";", 1⟩⟩, .statement (.skip [⟨⟨.separator, "\n", 1⟩⟩] .empty)] :=
      .cons ⟨_, rfl⟩ (.cons ⟨_, rfl⟩ .nil)
    obtain ⟨node, assembled⟩ := (assemble_lines_up _ _).1.mpr fitting
    refine ⟨node, assembled, ?_⟩
    have empty : (Node.statement .empty).leaves = [] := Node.leaves_of_children rfl
    have skip : (Node.statement (.skip [⟨⟨.separator, "\n", 1⟩⟩] .empty)).leaves =
        [⟨.separator, "\n", 1⟩] := by
      rw [Node.leaves_of_children rfl]
      simp [Node.children, Statement.children, empty]
    rw [(assemble_lines_up _ _).2.1 node assembled]
    simp [skip]
  · exact ((assemble_lines_up _ _).2.2 "Identifier").mp rfl

end DimLang
