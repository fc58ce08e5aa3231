import DimLang.Syntax.Node

/-!
# Dumps

A dump shows a tree with one line for each node, in source order, indented by two blanks for each
level. A line has the name of the node, its token between braces and its type, where the node has
them.

- `dumpLine` is the line of one node
- `dump` is the dump of a tree; it keeps the nodes that are still to be shown on a stack
-/

namespace DimLang

/-- The text of a token on one line: newlines and tabs are escaped, nothing else is. -/
def escapeText (text : String) : String :=
  String.ofList (text.toList.flatMap fun c =>
    if c = '\n' then ['\\', 'n'] else if c = '\t' then ['\\', 't'] else [c])

/-- Two blanks for each level. -/
def indentation (depth : Nat) : String :=
  String.ofList (List.replicate (2 * depth) ' ')

namespace Node

/-- The token of a node as the dump shows it. -/
def tokenNote (node : Node) : String :=
  match node.token? with
  | some token => " \x7b " ++ escapeText token.text ++ " \x7d"
  | none => ""

/-- The type of a node as the dump shows it. -/
def typeNote (node : Node) : String :=
  match node.ty? with
  | some ty => " (type = " ++ ty.name ++ ")"
  | none => ""

/-- The line of a node at the given depth. -/
def dumpLine (depth : Nat) (node : Node) : String :=
  indentation depth ++ node.name ++ node.tokenNote ++ node.typeNote

end Node

/-- The size of the trees on a stack. -/
noncomputable def stackWeight (stack : List (Node × Nat)) : Nat :=
  Node.totalWeight (stack.map Prod.fst)

/-- Showing a node and putting its children on the stack makes the stack smaller. -/
theorem stackWeight_children_lt (node : Node) (depth below : Nat) (stack : List (Node × Nat)) :
    stackWeight ((node.children.map fun child => (child, below)) ++ stack) <
      stackWeight ((node, depth) :: stack) := by
  have nodes : ((node.children.map fun child => (child, below)) ++ stack).map Prod.fst =
      node.children ++ stack.map Prod.fst := by
    simp [Function.comp_def]
  rw [stackWeight, stackWeight, nodes, Node.totalWeight_append, List.map_cons, Node.totalWeight]
  exact Nat.add_lt_add_right node.totalWeight_children_lt _

/-- The lines of the trees on a stack, behind those shown so far, which are given in reverse. -/
def dumpLines (shown : List String) : List (Node × Nat) → List String
  | [] => shown.reverse
  | (node, depth) :: stack =>
    dumpLines (node.dumpLine depth :: shown)
      ((node.children.map fun child => (child, depth + 1)) ++ stack)
termination_by stack => stackWeight stack
decreasing_by exact stackWeight_children_lt node depth (depth + 1) stack

/-- The dump of a tree, without a newline at its end. -/
def dump (root : Node) : String :=
  "\n".intercalate (dumpLines [] [(root, 0)])

end DimLang
