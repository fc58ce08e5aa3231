import DimLang.Typing.Operators

/-!
# Operator chains

A chain is right-recursive and may be long. Its heads are typed from left to right; then the
operators are applied from the innermost pair outwards, and only if all of them are defined are
the nodes of the chain annotated.

The types of a chain are kept by position. Every position that is read or written comes with the
proof that it is one of the chain.

- `Link` is a step of a chain, and `restoreLinks` puts steps together again
- `Chain.types` applies the operators
- `closeChain` ends the typing of a chain
-/

namespace DimLang

/-- A tree as the typing leaves it, with the result of the typing. -/
structure Checked (α β : Type) where
  tree : α
  verdict : Except SemanticError β

/-- A step of an operator chain: a head with its type, the operator behind it, and the annotations
that the node and its tail had before. -/
structure Link (α : Type) where
  head : α
  headTy : DataType
  operator : Leaf
  nodeTy : DataType
  tailTy : DataType

/-- The node of a step in front of the rest of its chain. -/
def Link.addend (link : Link Factor) (rest : Addend) (ty tailTy : DataType) : Addend :=
  ⟨link.head, .more link.operator rest tailTy, ty⟩

/-- The node of a step in front of the rest of its chain. -/
def Link.operand (link : Link Addend) (rest : Operand) (ty tailTy : DataType) : Operand :=
  ⟨link.head, .more link.operator rest tailTy, ty⟩

/-- The types of the heads of a chain from left to right, and the operators between them. -/
structure Chain (size : Nat) where
  heads : Vector DataType (size + 1)
  operators : Vector Leaf size

variable {α β : Type} {size : Nat}

namespace Chain

/-- The chain of steps, given from the innermost outwards, in front of a last head. -/
def ofLinks (links : List (Link α)) (lastTy : DataType) : Chain links.length where
  heads := ⟨(lastTy :: links.map Link.headTy).reverse.toArray, by simp⟩
  operators := ⟨(links.map Link.operator).reverse.toArray, by simp⟩

/-- Types the nodes in front of a position, from the innermost outwards; those from the position
on are typed. -/
def typeBefore (table : OperatorTable) (chain : Chain size)
    (types : Vector DataType (size + 1)) :
    (position : Nat) → position ≤ size → Except SemanticError (Vector DataType (size + 1))
  | 0, _ => .ok types
  | position + 1, inside =>
    match table.combine chain.heads[position] chain.operators[position] types[position + 1] with
    | .error error => .error error
    | .ok ty =>
      chain.typeBefore table (types.set position ty) position (Nat.le_of_succ_le inside)

/-- The types of the nodes of a chain. The last node has the type of its head. -/
def types (table : OperatorTable) (chain : Chain size) :
    Except SemanticError (Vector DataType (size + 1)) :=
  chain.typeBefore table chain.heads size (Nat.le_refl size)

end Chain

/-- Puts steps, given from the innermost outwards, in front of the rest of their chain, with the
annotations that they had. -/
def restoreLinks (node : Link α → β → DataType → DataType → β) (rest : β) (links : List (Link α)) :
    β :=
  links.foldl (fun rest link => node link rest link.nodeTy link.tailTy) rest

/-- Puts the steps in front of a position, given from the innermost outwards, in front of the rest
of their chain. Each node has the type at its position, its tail that of the next one. -/
def annotateLinks (node : Link α → β → DataType → DataType → β)
    (types : Vector DataType (size + 1)) (rest : β) :
    (links : List (Link α)) → (position : Nat) → links.length = position → position ≤ size → β
  | [], _, _, _ => rest
  | link :: links, position + 1, same, inside =>
    annotateLinks node types (node link rest types[position] types[position + 1]) links position
      (Nat.succ.inj same) (Nat.le_of_succ_le inside)

/-- Ends the typing of a chain whose heads are typed: `typed` and `restored` are its last node
with and without types. -/
def closeChain (table : OperatorTable) (node : Link α → β → DataType → DataType → β)
    (links : List (Link α)) (typed restored : β) (ty : DataType) : Checked β DataType :=
  match (Chain.ofLinks links ty).types table with
  | .ok types =>
    ⟨annotateLinks node types typed links links.length rfl (Nat.le_refl _), .ok types[0]⟩
  | .error error => ⟨restoreLinks node restored links, .error error⟩

end DimLang
