import DimLang.Proofs.Grammar.MapTokens
import DimLang.Proofs.Syntax.Erasure
import DimLang.Proofs.Syntax.Within

/-!
# Trees read off their nodes

`Node.preorder` lists the nodes of a tree with their depths, each node in front of its children. A
tree can be read off this list even if of a node only the name, the text of its token and its type
are known (`Node.label`): what is deeper than a node stands in the list up to the next node that is
not, and a node is determined by its label and its children. Lost are the lines of the tokens.

- `map_mapTokens_eq_of_outline`: trees with the same labels at the same depths are equal up to
  lines
-/

namespace DimLang

/-- The token without its line. -/
def Token.forgetLine (token : Token) : Token :=
  ⟨token.kind, token.text, 0⟩

/-- A token without its line keeps its kind. -/
theorem Token.kind_forgetLine (token : Token) : token.forgetLine.kind = token.kind :=
  rfl

namespace Node

/-- The nodes of the tree with their depths, each in front of its children, if the tree itself has
the given depth. -/
def preorder (depth : Nat) (node : Node) : List (Nat × Node) :=
  (depth, node) :: node.children.attach.flatMap fun child => child.val.preorder (depth + 1)
termination_by node.weight
decreasing_by exact weight_lt_of_mem_children child.property

/-- A node comes first, then its children in order, one level deeper. -/
theorem preorder_eq (depth : Nat) (node : Node) :
    node.preorder depth = (depth, node) :: node.children.flatMap (preorder (depth + 1)) := by
  rw [preorder]
  refine congrArg ((depth, node) :: ·) ?_
  exact (List.flatMap_subtype fun _ _ => rfl).trans (by rw [List.unattach_attach])

/-- What is listed is a part of the tree, and not above it. -/
theorem within_of_mem_preorder {depth : Nat} {node : Node} {entry : Nat × Node}
    (member : entry ∈ node.preorder depth) : depth ≤ entry.1 ∧ entry.2.Within node := by
  rw [preorder_eq, List.mem_cons, List.mem_flatMap] at member
  obtain rfl | ⟨child, isChild, member⟩ := member
  · exact ⟨Nat.le_refl depth, .here node⟩
  · have below := within_of_mem_preorder member
    exact ⟨Nat.le_of_succ_le below.1, .deeper isChild below.2⟩
termination_by node.weight
decreasing_by exact weight_lt_of_mem_children isChild

/-! ## A node and its parts -/

/-- The symbol that the node is a tree of. -/
def symbol : Node → Symbol
  | leaf tree => .leaf tree.token.kind
  | identifier tree => .leaf tree.token.kind
  | literal tree => .leaf tree.token.kind
  | number _ => .number
  | factor _ => .factor
  | addend _ => .addend
  | addendTail _ => .addendTail
  | operand _ => .operand
  | operandTail _ => .operandTail
  | expression _ => .expression
  | expressionTail _ => .expressionTail
  | expressionList _ => .expressionList
  | expressionListTail _ => .expressionListTail
  | identifierList _ => .identifierList
  | identifierListTail _ => .identifierListTail
  | declaration _ => .declaration
  | assignment _ => .assignment
  | condition _ => .condition
  | conditionTail _ => .conditionTail
  | forLoop _ => .forLoop
  | whileLoop _ => .whileLoop
  | nestedBlock _ => .nestedBlock
  | statementList _ => .statementList
  | statementListTail _ => .statementListTail
  | reading _ => .reading
  | writing _ => .writing
  | statement _ => .statement
  | programItem _ => .programItem
  | program _ => .program
  | programTail _ => .programTail

end Node

variable {node node' : Node}

/-- A node that is no single token is a tree of the notion that it is named for. -/
theorem Node.symbol_of_inner (inner : node.token? = none) :
    node.symbol ∈ Symbol.notions ∧ node.name = node.symbol.display ∧
      node.symbol.Produces node := by
  cases node with
  | leaf | identifier | literal => cases inner
  | _ => exact ⟨Symbol.mem_notions _ (by simp [symbol]), rfl, _, rfl⟩

/-- A primary is determined by its children. -/
theorem Primary.eq_of_children {primary primary' : Primary}
    (same : primary.children = primary'.children) : primary = primary' := by
  cases primary <;> cases primary' <;> simp_all [children]

/-- The list of names among the children tells a keyword in front of it from a colon behind it. -/
theorem Declaration.eq_of_children {tree tree' : Declaration}
    (same : (Node.declaration tree).children = (Node.declaration tree').children) :
    tree = tree' := by
  obtain ⟨keyword?, identifiers, colon?, typeName⟩ := tree
  obtain ⟨keyword?', identifiers', colon?', typeName'⟩ := tree'
  cases keyword? <;> cases keyword?' <;> cases colon? <;> cases colon?' <;>
    simp_all [Node.children]

/-- A statement is determined by its child. -/
theorem Statement.eq_of_children {statement statement' : Statement}
    (same : statement.children = statement'.children) : statement = statement' := by
  -- The last child of a skip is a statement, as it is of no other form.
  have last {separators : List Leaf} {inner : Statement} {node : Node}
      (single : separators.map Node.leaf ++ [.statement inner] = [node]) :
      node = .statement inner := by
    cases separators with
    | nil => exact (List.singleton_inj.mp single).symm
    | cons separator separators => simp at single
  cases statement with
  | skip separators inner =>
    cases statement' with
    | skip separators' inner' =>
      obtain ⟨leaves, inners⟩ := List.append_inj' same rfl
      cases inners
      rw [(List.map_inj_right fun _ _ => Node.leaf.inj).mp leaves]
    | empty => simp [children] at same
    | _ => cases last same
  | empty =>
    cases statement' with
    | empty => rfl
    | _ => simp [children] at same
  | _ =>
    cases statement' with
    | skip separators' inner' => cases last same.symm
    | _ => simp_all [children]

/-- A node that is no single token is determined by its name, its type and its children. -/
theorem Node.eq_of_parts (inner : node.token? = none) (inner' : node'.token? = none)
    (name : node.name = node'.name) (ty : node.ty? = node'.ty?)
    (parts : node.children = node'.children) : node = node' := by
  obtain ⟨notion, named, produces⟩ := node.symbol_of_inner inner
  obtain ⟨notion', named', produces'⟩ := node'.symbol_of_inner inner'
  have same : node.symbol = node'.symbol :=
    Symbol.eq_of_display notion notion' (named.symm.trans (name.trans named'))
  rw [← same] at produces'
  generalize node.symbol = symbol at notion produces produces'
  cases symbol with
  | leaf kind => simp [Symbol.notions] at notion
  | factor =>
    obtain ⟨⟨primary, ty⟩, rfl⟩ := produces
    obtain ⟨⟨primary', ty'⟩, rfl⟩ := produces'
    cases ty
    cases Primary.eq_of_children parts
    rfl
  | declaration =>
    obtain ⟨tree, rfl⟩ := produces
    obtain ⟨tree', rfl⟩ := produces'
    rw [Declaration.eq_of_children parts]
  | statement =>
    obtain ⟨tree, rfl⟩ := produces
    obtain ⟨tree', rfl⟩ := produces'
    rw [Statement.eq_of_children parts]
  | _ =>
    obtain ⟨tree, rfl⟩ := produces
    obtain ⟨tree', rfl⟩ := produces'
    cases tree <;> cases tree' <;>
      simp_all [children, ty?, AddendTail.ty, OperandTail.ty, ExpressionTail.ty]

/-! ## Labels -/

namespace Node

/-- What can be seen of a node: its name, the text of its token and its type. -/
structure Label where
  name : String
  text? : Option String
  ty? : Option DataType

/-- What can be seen of the node. -/
def label (node : Node) : Label :=
  ⟨node.name, node.token?.map Token.text, node.ty?⟩

/-- A single token is a leaf of the form that its kind calls for. -/
def OfKind : Node → Prop
  | leaf tree => tree.token.kind ≠ .identifier ∧ ¬ tree.token.kind.IsConstant
  | identifier tree => tree.token.kind = .identifier
  | literal tree => tree.token.kind.IsConstant
  | _ => True

/-- A node that holds a token is named after its kind. -/
theorem name_of_token {token : Token} (held : node.token? = some token) (ofKind : node.OfKind) :
    node.name = token.kind.name := by
  cases node with
  | leaf | literal =>
    cases held
    rfl
  | identifier tree =>
    cases held
    have kind : tree.token.kind = .identifier := ofKind
    rw [kind]
    rfl
  | _ => cases held

/-- A name is no constant. -/
theorem not_isConstant_identifier : ¬ TokenKind.identifier.IsConstant := by
  decide

/-- A node that is a single token is determined by its label, up to the line. -/
theorem mapTokens_eq_of_token {token token' : Token} (held : node.token? = some token)
    (held' : node'.token? = some token') (ofKind : node.OfKind) (ofKind' : node'.OfKind)
    (name : node.name = node'.name) (text : token.text = token'.text)
    (ty : node.ty? = node'.ty?) :
    node.mapTokens Token.forgetLine = node'.mapTokens Token.forgetLine := by
  rw [name_of_token held ofKind, name_of_token held' ofKind'] at name
  have kind := TokenKind.eq_of_name name
  have same : token.forgetLine = token'.forgetLine := by
    rw [Token.forgetLine, Token.forgetLine, kind, text]
  cases node with
  | leaf tree =>
    cases held
    cases node' with
    | leaf tree' =>
      cases held'
      exact congrArg (fun token => leaf ⟨token⟩) same
    | identifier | literal => cases ty
    | _ => cases held'
  | identifier tree =>
    cases held
    cases node' with
    | leaf => cases ty
    | identifier tree' =>
      cases held'
      rw [mapTokens, mapTokens, Identifier.mapTokens, Identifier.mapTokens, same,
        Option.some.inj ty]
    | literal tree' =>
      cases held'
      have constant : TokenKind.identifier.IsConstant := (kind.symm.trans ofKind) ▸ ofKind'
      exact absurd constant not_isConstant_identifier
    | _ => cases held'
  | literal tree =>
    cases held
    cases node' with
    | leaf => cases ty
    | identifier tree' =>
      cases held'
      have constant : TokenKind.identifier.IsConstant := (kind.trans ofKind') ▸ ofKind
      exact absurd constant not_isConstant_identifier
    | literal tree' =>
      cases held'
      rw [mapTokens, mapTokens, Literal.mapTokens, Literal.mapTokens, same, Option.some.inj ty]
    | _ => cases held'
  | _ => cases held

/-- The children of a tree with other tokens are the children with other tokens. -/
theorem children_mapTokens (f : Token → Token) (node : Node) :
    (node.mapTokens f).children = node.children.map (mapTokens f) := by
  cases node with
  | factor tree =>
    obtain ⟨primary, ty⟩ := tree
    cases primary <;> rfl
  | declaration tree =>
    obtain ⟨keyword?, identifiers, colon?, typeName⟩ := tree
    cases keyword? <;> cases colon? <;> rfl
  | statement tree =>
    cases tree with
    | skip separators inner =>
      simp [mapTokens, children, Statement.mapTokens, Statement.children, Function.comp_def]
    | _ => rfl
  | _ tree => cases tree <;> rfl

/-- The children of a tree without types are the children without types. -/
theorem children_erase (node : Node) : node.erase.children = node.children.map erase := by
  cases node with
  | factor tree =>
    obtain ⟨primary, ty⟩ := tree
    cases primary <;> rfl
  | declaration tree =>
    obtain ⟨keyword?, identifiers, colon?, typeName⟩ := tree
    cases keyword? <;> cases colon? <;> rfl
  | statement tree =>
    cases tree with
    | skip separators inner =>
      simp [erase, children, Statement.erase, Statement.children, Function.comp_def]
    | _ => rfl
  | _ tree => cases tree <;> rfl

/-- A node without its type keeps its token. -/
theorem token?_erase (node : Node) : node.erase.token? = node.token? := by
  cases node <;> rfl

/-- What stands in a tree stands without types in the tree without types. -/
theorem Within.erase {part node : Node} (inside : part.Within node) :
    part.erase.Within node.erase := by
  induction inside with
  | here => exact .here _
  | deeper member _ ih =>
    refine .deeper ?_ ih
    rw [children_erase]
    exact List.mem_map_of_mem member

/-- The token of a node is changed with the tree's tokens. -/
theorem token?_mapTokens (f : Token → Token) (node : Node) :
    (node.mapTokens f).token? = node.token?.map f := by
  cases node <;> rfl

/-- Other tokens leave a node's type as it is. -/
theorem ty?_mapTokens (f : Token → Token) (node : Node) : (node.mapTokens f).ty? = node.ty? := by
  cases node with
  | _ tree => cases tree <;> rfl

/-- Other tokens of the same kinds leave a node's name as it is. -/
theorem name_mapTokens {f : Token → Token} (kinds : ∀ token, (f token).kind = token.kind)
    (node : Node) : (node.mapTokens f).name = node.name := by
  cases node with
  | leaf tree | literal tree => exact congrArg TokenKind.name (kinds tree.token)
  | _ => rfl

/-- The label shows no more than kinds and texts. -/
theorem label_mapTokens {f : Token → Token} (kinds : ∀ token, (f token).kind = token.kind)
    (texts : ∀ token, (f token).text = token.text) (node : Node) :
    (node.mapTokens f).label = node.label := by
  have text : (node.token?.map f).map Token.text = node.token?.map Token.text := by
    rw [Option.map_map]
    exact congrArg (node.token?.map ·) (funext texts)
  rw [label, label, name_mapTokens kinds, ty?_mapTokens, token?_mapTokens, text]

/-- A node is determined by its label and its children, up to lines. -/
theorem mapTokens_eq_of_label (ofKind : node.OfKind) (ofKind' : node'.OfKind)
    (label : node.label = node'.label)
    (parts : node.children.map (mapTokens Token.forgetLine) =
      node'.children.map (mapTokens Token.forgetLine)) :
    node.mapTokens Token.forgetLine = node'.mapTokens Token.forgetLine := by
  obtain ⟨name, text, ty⟩ := Label.mk.inj label
  cases held : node.token? with
  | some token =>
    rw [held, Option.map_some, eq_comm, Option.map_eq_some_iff] at text
    obtain ⟨token', held', sameText⟩ := text
    exact mapTokens_eq_of_token held held' ofKind ofKind' name sameText.symm ty
  | none =>
    rw [held, Option.map_none, eq_comm, Option.map_eq_none_iff] at text
    refine eq_of_parts ?_ ?_ ?_ ?_ ?_
    · rw [token?_mapTokens, held, Option.map_none]
    · rw [token?_mapTokens, text, Option.map_none]
    · rw [name_mapTokens Token.kind_forgetLine, name_mapTokens Token.kind_forgetLine, name]
    · rw [ty?_mapTokens, ty?_mapTokens, ty]
    · rw [children_mapTokens, children_mapTokens, parts]

end Node

/-! ## Forests -/

/-- Where the condition first fails, a list can be cut in one way only. -/
theorem append_inj_of_first {α : Type} (condition : α → Prop) {front front' back back' : List α}
    (holds : ∀ item ∈ front, condition item) (holds' : ∀ item ∈ front', condition item)
    (fails : ∀ item ∈ back.head?, ¬ condition item)
    (fails' : ∀ item ∈ back'.head?, ¬ condition item)
    (same : front ++ back = front' ++ back') : front = front' ∧ back = back' := by
  induction front generalizing front' with
  | nil =>
    cases front' with
    | nil => exact ⟨rfl, same⟩
    | cons item front' =>
      rw [List.nil_append] at same
      rw [same] at fails
      exact absurd (holds' item List.mem_cons_self) (fails item rfl)
  | cons item front ih =>
    cases front' with
    | nil =>
      rw [List.nil_append] at same
      rw [← same] at fails'
      exact absurd (holds item List.mem_cons_self) (fails' item rfl)
    | cons item' front' =>
      obtain ⟨rfl, rest⟩ := List.cons_eq_cons.mp same
      obtain ⟨rfl, backs⟩ := ih (List.forall_mem_cons.mp holds).2
        (List.forall_mem_cons.mp holds').2 rest
      exact ⟨rfl, backs⟩

namespace Node

/-- What is seen of trees at the given depth: the labels of their nodes with their depths. -/
def outline (depth : Nat) (nodes : List Node) : List (Nat × Label) :=
  (nodes.flatMap (preorder depth)).map fun entry => (entry.1, entry.2.label)

/-- The outline of a list: the first node's label, its children, the other nodes. -/
theorem outline_cons (depth : Nat) (node : Node) (nodes : List Node) :
    outline depth (node :: nodes) =
      (depth, node.label) :: (outline (depth + 1) node.children ++ outline depth nodes) := by
  simp only [outline, List.flatMap_cons, preorder_eq depth node, List.map_append, List.map_cons,
    List.cons_append]

/-- Nothing in an outline is less deep than its nodes. -/
theorem le_of_mem_outline {depth : Nat} {nodes : List Node} {entry : Nat × Label}
    (member : entry ∈ outline depth nodes) : depth ≤ entry.1 := by
  obtain ⟨_, listed, rfl⟩ := List.mem_map.mp member
  obtain ⟨node, _, inside⟩ := List.mem_flatMap.mp listed
  exact (within_of_mem_preorder inside).1

/-- An outline begins at the depth of its nodes. -/
theorem head?_outline {depth : Nat} {nodes : List Node} {entry : Nat × Label}
    (first : entry ∈ (outline depth nodes).head?) : entry.1 = depth := by
  cases nodes with
  | nil => cases first
  | cons node nodes =>
    rw [outline_cons] at first
    cases first
    rfl

/-- A node weighs more than its children. -/
theorem totalWeight_children_lt_cons (node : Node) (nodes : List Node) :
    totalWeight node.children < totalWeight (node :: nodes) :=
  Nat.lt_of_lt_of_le node.totalWeight_children_lt (Nat.le_add_right node.weight _)

/-- A list weighs more than what follows its first node. -/
theorem totalWeight_lt_cons (node : Node) (nodes : List Node) :
    totalWeight nodes < totalWeight (node :: nodes) :=
  Nat.lt_add_of_pos_left (Nat.zero_lt_of_lt node.totalWeight_children_lt)

/-- The outline shows no more than kinds and texts. -/
theorem outline_map_mapTokens {f : Token → Token} (kinds : ∀ token, (f token).kind = token.kind)
    (texts : ∀ token, (f token).text = token.text) (depth : Nat) : (nodes : List Node) →
      outline depth (nodes.map (mapTokens f)) = outline depth nodes
  | [] => rfl
  | node :: nodes => by
    rw [List.map_cons, outline_cons, outline_cons, label_mapTokens kinds texts,
      children_mapTokens, outline_map_mapTokens kinds texts (depth + 1) node.children,
      outline_map_mapTokens kinds texts depth nodes]
termination_by nodes => totalWeight nodes
decreasing_by
  · exact totalWeight_children_lt_cons node nodes
  · exact totalWeight_lt_cons node nodes

/-- Trees are determined by their outline, up to lines. -/
theorem map_mapTokens_eq_of_outline {depth : Nat} : (nodes nodes' : List Node) →
    (∀ node ∈ nodes, node.Everywhere OfKind) → (∀ node ∈ nodes', node.Everywhere OfKind) →
      outline depth nodes = outline depth nodes' →
        nodes.map (mapTokens Token.forgetLine) = nodes'.map (mapTokens Token.forgetLine)
  | [], [], _, _, _ => rfl
  | [], node' :: nodes', _, _, same => by
    rw [outline_cons] at same
    cases same
  | node :: nodes, [], _, _, same => by
    rw [outline_cons] at same
    cases same
  | node :: nodes, node' :: nodes', ofKind, ofKind', same => by
    obtain ⟨here, further⟩ := List.forall_mem_cons.mp ofKind
    obtain ⟨here', further'⟩ := List.forall_mem_cons.mp ofKind'
    rw [outline_cons, outline_cons] at same
    obtain ⟨first, rest⟩ := List.cons_eq_cons.mp same
    -- The parts of the first tree are all that is deeper, up to the next tree.
    obtain ⟨parts, others⟩ := append_inj_of_first (fun entry => depth < entry.1)
      (fun _ => le_of_mem_outline) (fun _ => le_of_mem_outline)
      (fun _ next => by rw [head?_outline next]; exact Nat.lt_irrefl depth)
      (fun _ next => by rw [head?_outline next]; exact Nat.lt_irrefl depth) rest
    have partsAlike := map_mapTokens_eq_of_outline node.children node'.children
      (fun _ => here.child) (fun _ => here'.child) parts
    have othersAlike := map_mapTokens_eq_of_outline nodes nodes' further further' others
    rw [List.map_cons, List.map_cons, othersAlike,
      mapTokens_eq_of_label here.here here'.here (congrArg Prod.snd first) partsAlike]
termination_by nodes => totalWeight nodes
decreasing_by
  · exact totalWeight_children_lt_cons node nodes
  · exact totalWeight_lt_cons node nodes

end Node

end DimLang
