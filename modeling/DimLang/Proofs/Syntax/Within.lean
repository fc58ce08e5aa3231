import DimLang.Proofs.Grammar.Leaves

/-!
# Parts of trees

A node lies within a tree if children lead from the tree to it. What holds everywhere in a tree
holds of the tree and everywhere in its children (`everywhere_iff`), and the tokens of a part are
tokens of the tree (`Node.Within.leaves_subset`).
-/

namespace DimLang

namespace Node

/-- The first node is the second one or a part of it. -/
inductive Within : Node → Node → Prop
  | here (node : Node) : Within node node
  | deeper {part child node : Node} (member : child ∈ node.children) (inside : Within part child) :
      Within part node

/-- A part of a part is a part. -/
theorem Within.trans {part middle node : Node} (inside : part.Within middle)
    (outside : middle.Within node) : part.Within node := by
  induction outside with
  | here => exact inside
  | deeper member _ ih => exact .deeper member ih

/-- The property holds of the node and of all its parts. -/
def Everywhere (property : Node → Prop) (node : Node) : Prop :=
  ∀ part, part.Within node → property part

variable {property : Node → Prop} {node : Node}

/-- A property holds everywhere if it holds at the node and everywhere in its children. -/
theorem everywhere_iff :
    node.Everywhere property ↔
      property node ∧ ∀ child ∈ node.children, child.Everywhere property := by
  constructor
  · intro everywhere
    exact ⟨everywhere node (.here node),
      fun child member part inside => everywhere part (.deeper member inside)⟩
  · rintro ⟨here, below⟩ part inside
    cases inside with
    | here => exact here
    | deeper member inside => exact below _ member part inside

/-- What holds everywhere holds at the node. -/
theorem Everywhere.here (everywhere : node.Everywhere property) : property node :=
  everywhere node (.here node)

/-- What holds everywhere holds everywhere in each child. -/
theorem Everywhere.child (everywhere : node.Everywhere property) {child : Node}
    (member : child ∈ node.children) : child.Everywhere property :=
  (everywhere_iff.mp everywhere).2 child member

/-- A weaker property holds wherever the stronger one does. -/
theorem Everywhere.imp {weaker : Node → Prop} (everywhere : node.Everywhere property)
    (weaken : ∀ part, property part → weaker part) : node.Everywhere weaker :=
  fun part inside => weaken part (everywhere part inside)

/-- For a node without children everywhere is just here. -/
theorem everywhere_iff_of_children (single : node.children = []) :
    node.Everywhere property ↔ property node := by
  rw [everywhere_iff, single]
  simp

/-- A leaf is a single node. -/
@[simp] theorem everywhere_leaf_iff {tree : Leaf} :
    (Node.leaf tree).Everywhere property ↔ property (.leaf tree) :=
  everywhere_iff_of_children rfl

/-- A name is a single node. -/
@[simp] theorem everywhere_identifier_iff {tree : Identifier} :
    (Node.identifier tree).Everywhere property ↔ property (.identifier tree) :=
  everywhere_iff_of_children rfl

/-- A literal is a single node. -/
@[simp] theorem everywhere_literal_iff {tree : Literal} :
    (Node.literal tree).Everywhere property ↔ property (.literal tree) :=
  everywhere_iff_of_children rfl

/-- The tokens of a part are tokens of the tree. -/
theorem Within.leaves_subset {part : Node} (inside : part.Within node) :
    part.leaves ⊆ node.leaves := by
  induction inside with
  | here => exact List.Subset.refl _
  | @deeper child node member _ ih =>
    have inner : node.token? = none := by
      cases node <;> first | rfl | cases member
    rw [leaves_of_children inner]
    exact fun token held => List.mem_flatMap.mpr ⟨child, member, ih held⟩

end Node

end DimLang
