import DimLang.Grammar.Assembly

/-!
# Assembled nodes

A production is assembled from children of the types that its symbols produce, and from no others.
`Builds` finds the children by their types, so that a successful assembly determines them: for a
function of typed arguments there is one child for each argument, in order
(`build_function_eq_ok_iff`), and none is left (`build_node_eq_ok_iff`).
-/

namespace DimLang

open IsNode

/-- A type of trees in which a node is found exactly if it is a tree of this type. -/
class LawfulNode (α : Type) [IsNode α] : Prop where
  ofNode?_toNode (tree : α) : ofNode? (toNode tree) = some tree
  toNode_eq_of_ofNode? {node : Node} {tree : α} : ofNode? node = some tree → toNode tree = node

instance : LawfulNode Leaf :=
  ⟨fun _ => rfl, fun {node} _ found => by cases node <;> cases found; rfl⟩

instance : LawfulNode Identifier :=
  ⟨fun _ => rfl, fun {node} _ found => by cases node <;> cases found; rfl⟩

instance : LawfulNode Literal :=
  ⟨fun _ => rfl, fun {node} _ found => by cases node <;> cases found; rfl⟩

instance : LawfulNode Number :=
  ⟨fun _ => rfl, fun {node} _ found => by cases node <;> cases found; rfl⟩

instance : LawfulNode Factor :=
  ⟨fun _ => rfl, fun {node} _ found => by cases node <;> cases found; rfl⟩

instance : LawfulNode Addend :=
  ⟨fun _ => rfl, fun {node} _ found => by cases node <;> cases found; rfl⟩

instance : LawfulNode AddendTail :=
  ⟨fun _ => rfl, fun {node} _ found => by cases node <;> cases found; rfl⟩

instance : LawfulNode Operand :=
  ⟨fun _ => rfl, fun {node} _ found => by cases node <;> cases found; rfl⟩

instance : LawfulNode OperandTail :=
  ⟨fun _ => rfl, fun {node} _ found => by cases node <;> cases found; rfl⟩

instance : LawfulNode Expression :=
  ⟨fun _ => rfl, fun {node} _ found => by cases node <;> cases found; rfl⟩

instance : LawfulNode ExpressionTail :=
  ⟨fun _ => rfl, fun {node} _ found => by cases node <;> cases found; rfl⟩

instance : LawfulNode ExpressionList :=
  ⟨fun _ => rfl, fun {node} _ found => by cases node <;> cases found; rfl⟩

instance : LawfulNode ExpressionListTail :=
  ⟨fun _ => rfl, fun {node} _ found => by cases node <;> cases found; rfl⟩

instance : LawfulNode IdentifierList :=
  ⟨fun _ => rfl, fun {node} _ found => by cases node <;> cases found; rfl⟩

instance : LawfulNode IdentifierListTail :=
  ⟨fun _ => rfl, fun {node} _ found => by cases node <;> cases found; rfl⟩

instance : LawfulNode Declaration :=
  ⟨fun _ => rfl, fun {node} _ found => by cases node <;> cases found; rfl⟩

instance : LawfulNode Assignment :=
  ⟨fun _ => rfl, fun {node} _ found => by cases node <;> cases found; rfl⟩

instance : LawfulNode Condition :=
  ⟨fun _ => rfl, fun {node} _ found => by cases node <;> cases found; rfl⟩

instance : LawfulNode ConditionTail :=
  ⟨fun _ => rfl, fun {node} _ found => by cases node <;> cases found; rfl⟩

instance : LawfulNode ForLoop :=
  ⟨fun _ => rfl, fun {node} _ found => by cases node <;> cases found; rfl⟩

instance : LawfulNode WhileLoop :=
  ⟨fun _ => rfl, fun {node} _ found => by cases node <;> cases found; rfl⟩

instance : LawfulNode NestedBlock :=
  ⟨fun _ => rfl, fun {node} _ found => by cases node <;> cases found; rfl⟩

instance : LawfulNode StatementList :=
  ⟨fun _ => rfl, fun {node} _ found => by cases node <;> cases found; rfl⟩

instance : LawfulNode StatementListTail :=
  ⟨fun _ => rfl, fun {node} _ found => by cases node <;> cases found; rfl⟩

instance : LawfulNode Reading :=
  ⟨fun _ => rfl, fun {node} _ found => by cases node <;> cases found; rfl⟩

instance : LawfulNode Writing :=
  ⟨fun _ => rfl, fun {node} _ found => by cases node <;> cases found; rfl⟩

instance : LawfulNode Statement :=
  ⟨fun _ => rfl, fun {node} _ found => by cases node <;> cases found; rfl⟩

instance : LawfulNode ProgramItem :=
  ⟨fun _ => rfl, fun {node} _ found => by cases node <;> cases found; rfl⟩

instance : LawfulNode Program :=
  ⟨fun _ => rfl, fun {node} _ found => by cases node <;> cases found; rfl⟩

instance : LawfulNode ProgramTail :=
  ⟨fun _ => rfl, fun {node} _ found => by cases node <;> cases found; rfl⟩

/-- A node is of a type of trees exactly if it is the node of the tree that is found. -/
theorem ofNode?_eq_some_iff {α : Type} [IsNode α] [LawfulNode α] {node : Node} {tree : α} :
    ofNode? node = some tree ↔ node = toNode tree := by
  constructor
  · intro found
    exact (LawfulNode.toNode_eq_of_ofNode? found).symm
  · rintro rfl
    exact LawfulNode.ofNode?_toNode tree

/-- A finished node takes no more children. -/
theorem build_node_eq_ok_iff {tree node : Node} {children : List Node} :
    build tree children = .ok node ↔ children = [] ∧ node = tree := by
  cases children with
  | nil => simp [build, eq_comm]
  | cons surplus rest => simp [build]

/-- A function takes the first child, if that is of the right type, and the rest goes on from
there. -/
theorem build_function_eq_ok_iff {α β : Type} [IsNode α] [LawfulNode α] [Builds β] {f : α → β}
    {children : List Node} {node : Node} :
    build f children = .ok node ↔
      ∃ tree rest, children = toNode tree :: rest ∧ build (f tree) rest = .ok node := by
  cases children with
  | nil => simp [build]
  | cons child rest =>
    simp only [build, List.cons.injEq]
    constructor
    · intro built
      split at built
      · rename_i tree found
        exact ⟨tree, rest, ⟨ofNode?_eq_some_iff.mp found, rfl⟩, built⟩
      · cases built
    · rintro ⟨tree, rest', ⟨same, rfl⟩, built⟩
      rw [ofNode?_eq_some_iff.mpr same]
      exact built

end DimLang
