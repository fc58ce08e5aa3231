import DimLang.Proofs.Typing.Rules

/-!
# Chains by position and by recursion

The types of a chain are computed by position, over the types of its heads and its operators. Read
recursively, the steps are put in front of the rest of their chain one by one, each with the type
that its operator yields for its head and for the rest. The two agree on chains of every length
(`closeChain_agrees`).
-/

namespace DimLang

variable {α β : Type} {size : Nat}

/-- The typing of a tree has the outcome of a rule: the typed tree and its type, or the same
error. -/
inductive Checked.Agrees (ty : α → β) : Checked α β → Except SemanticError α → Prop
  | ok (typed : α) : Agrees ty ⟨typed, .ok (ty typed)⟩ (.ok typed)
  | error (tree : α) (error : SemanticError) : Agrees ty ⟨tree, .error error⟩ (.error error)

/-- Puts steps, given from the innermost outwards, in front of a typed rest of their chain, and
types each node by its operator. -/
def typeLinks (table : OperatorTable) (node : Link α → β → DataType → DataType → β)
    (ty : β → DataType) (rest : β) : List (Link α) → Except SemanticError β
  | [] => .ok rest
  | link :: links => do
    let nodeTy ← operationType table link.headTy link.operator.token (ty rest)
    typeLinks table node ty (node link rest nodeTy (ty rest)) links

/-- The node of a step has the type that it is annotated with. -/
def Annotates (node : Link α → β → DataType → DataType → β) (ty : β → DataType) : Prop :=
  ∀ link rest nodeTy tailTy, ty (node link rest nodeTy tailTy) = nodeTy

/-- An operator is applied as its rule says. -/
theorem OperatorTable.combine_eq (table : OperatorTable) (left : DataType) (operator : Leaf)
    (right : DataType) :
    table.combine left operator right = operationType table left operator.token right :=
  rfl

namespace Chain

variable {table : OperatorTable} {chain : Chain size}

/-- Typing the nodes in front of a position does not change the types from the position on. -/
theorem getElem_typeBefore {types typed : Vector DataType (size + 1)} {position : Nat}
    {inside : position ≤ size} (done : chain.typeBefore table types position inside = .ok typed)
    {later : Nat} (bound : later < size + 1) (behind : position ≤ later) :
    typed[later] = types[later] := by
  induction position generalizing types with
  | zero =>
    cases done
    rfl
  | succ position ih =>
    rw [typeBefore] at done
    split at done
    · cases done
    · rw [ih done (Nat.le_of_succ_le behind), Vector.getElem_set_ne]
      omega

/-- The first steps of the chain are the given ones, the innermost of which comes first. -/
structure Begins (chain : Chain size) (links : List (Link α)) : Prop where
  inside : links.length ≤ size
  heads : ∀ {position : Nat} {link : Link α}, links.reverse[position]? = some link →
    chain.heads[position]? = some link.headTy
  operators : ∀ {position : Nat} {link : Link α}, links.reverse[position]? = some link →
    chain.operators[position]? = some link.operator

/-- A chain made of links begins with them. -/
theorem begins_ofLinks (links : List (Link α)) (lastTy : DataType) :
    (ofLinks links lastTy).Begins links where
  inside := Nat.le_refl _
  heads := by
    intro position link step
    have bound : position < (links.map Link.headTy).reverse.length := by
      simpa using (List.getElem?_eq_some_iff.mp step).1
    rw [ofLinks, Vector.getElem?_mk, List.getElem?_toArray, List.reverse_cons,
      List.getElem?_append_left bound, ← List.map_reverse, List.getElem?_map, step, Option.map_some]
  operators := by
    intro position link step
    rw [ofLinks, Vector.getElem?_mk, List.getElem?_toArray, ← List.map_reverse, List.getElem?_map,
      step, Option.map_some]

/-- The last type of a chain made of links is the one given. -/
theorem getElem_last_ofLinks (links : List (Link α)) (lastTy : DataType) :
    (ofLinks links lastTy).heads[links.length] = lastTy := by
  simp [ofLinks]

namespace Begins

/-- The link passed first is the innermost one. -/
theorem innermost (link : Link α) (links : List (Link α)) :
    (link :: links).reverse[links.length]? = some link := by
  rw [List.reverse_cons, List.getElem?_append_right (by simp)]
  simp

variable {link : Link α} {links : List (Link α)}

/-- A chain that begins with some links begins with those behind the first. -/
theorem tail (begins : chain.Begins (link :: links)) : chain.Begins links where
  inside := Nat.le_of_succ_le begins.inside
  heads := by
    intro position other step
    have bound := (List.getElem?_eq_some_iff.mp step).1
    exact begins.heads (by rw [List.reverse_cons, List.getElem?_append_left bound, step])
  operators := by
    intro position other step
    have bound := (List.getElem?_eq_some_iff.mp step).1
    exact begins.operators (by rw [List.reverse_cons, List.getElem?_append_left bound, step])

/-- The type in front of a link is the link's. -/
theorem getElem_heads (begins : chain.Begins (link :: links)) (bound : links.length < size + 1) :
    chain.heads[links.length] = link.headTy :=
  (Vector.getElem?_eq_some_iff.mp (begins.heads (innermost link links))).2

/-- The operator of a link is the link's. -/
theorem getElem_operators (begins : chain.Begins (link :: links)) (bound : links.length < size) :
    chain.operators[links.length] = link.operator :=
  (Vector.getElem?_eq_some_iff.mp (begins.operators (innermost link links))).2

end Begins

variable {node : Link α → β → DataType → DataType → β} {ty : β → DataType}

/-- The innermost step is typed by its operator, whose right operand is the rest of the chain. -/
theorem typeBefore_succ {link : Link α} {links : List (Link α)}
    (begins : chain.Begins (link :: links)) (types : Vector DataType (size + 1))
    (bound : links.length + 1 < size + 1) :
    chain.typeBefore table types (link :: links).length begins.inside = (do
      let nodeTy ← operationType table link.headTy link.operator.token types[links.length + 1]
      chain.typeBefore table (types.set links.length nodeTy) links.length
        begins.tail.inside) := by
  have inside : links.length < size := begins.inside
  simp only [List.length_cons, typeBefore, begins.getElem_heads, begins.getElem_operators,
    table.combine_eq]
  cases operationType table link.headTy link.operator.token types[links.length + 1] <;> rfl

/-- The whole chain has the first of its types. -/
theorem ty_annotateLinks (annotates : Annotates node ty) {types : Vector DataType (size + 1)}
    {rest : β} {links : List (Link α)} {position : Nat} (same : links.length = position)
    (inside : position ≤ size) (typed : types[position] = ty rest) :
    ty (annotateLinks node types rest links position same inside) = types[0] := by
  induction links generalizing rest position with
  | nil =>
    subst same
    exact typed.symm
  | cons link links ih =>
    subst same
    exact ih rfl _ (annotates _ _ _ _).symm

/-- Typing by position is typing by recursion, if the type at the position behind the steps is
that of the rest of the chain. -/
theorem typeLinks_eq (annotates : Annotates node ty) {links : List (Link α)}
    (begins : chain.Begins links) {types : Vector DataType (size + 1)} {rest : β}
    (bound : links.length < size + 1) (typed : types[links.length] = ty rest) :
    typeLinks table node ty rest links =
      (chain.typeBefore table types links.length begins.inside).map fun types =>
        annotateLinks node types rest links links.length rfl begins.inside := by
  induction links generalizing types rest with
  | nil => rfl
  | cons link links ih =>
    have behind : types[links.length + 1] = ty rest := typed
    rw [typeLinks, typeBefore_succ begins types bound, behind]
    cases operationType table link.headTy link.operator.token (ty rest) with
    | error error => rfl
    | ok nodeTy =>
      have inside : links.length < size := begins.inside
      have here : (types.set links.length nodeTy)[links.length] =
          ty (node link rest nodeTy (ty rest)) := by
        rw [Vector.getElem_set_self, annotates]
      refine (ih begins.tail (Nat.lt_of_succ_lt bound) here).trans ?_
      change _ = Except.map _ (chain.typeBefore table (types.set links.length nodeTy) links.length
        begins.tail.inside)
      -- The two types that the node of this step is annotated with are final.
      cases final : chain.typeBefore table (types.set links.length nodeTy) links.length
          begins.tail.inside with
      | error error => rfl
      | ok types' =>
        have nodeTy' : types'[links.length] = nodeTy := by
          rw [getElem_typeBefore final _ (Nat.le_refl _), Vector.getElem_set_self]
        have tailTy' : types'[links.length + 1] = ty rest := by
          rw [getElem_typeBefore final _ (Nat.le_succ _), Vector.getElem_set_ne _ _ (by omega)]
          exact behind
        simp only [Except.map, List.length_cons, annotateLinks, nodeTy', tailTy']

end Chain

/-- Ending the typing of a chain by position has the outcome of the recursive reading. -/
theorem closeChain_agrees {table : OperatorTable}
    {node : Link α → β → DataType → DataType → β} {ty : β → DataType}
    (annotates : Annotates node ty) (links : List (Link α)) (typed restored : β) :
    (closeChain table node links typed restored (ty typed)).Agrees ty
      (typeLinks table node ty typed links) := by
  have begins := Chain.begins_ofLinks links (ty typed)
  have last := Chain.getElem_last_ofLinks links (ty typed)
  rw [Chain.typeLinks_eq annotates begins (Nat.lt_succ_self _) last, closeChain, Chain.types]
  cases final : (Chain.ofLinks links (ty typed)).typeBefore table _ links.length begins.inside with
  | error error => exact .error _ _
  | ok types =>
    have here : types[links.length] = ty typed := by
      rw [Chain.getElem_typeBefore final _ (Nat.le_refl _), last]
    have first := Chain.ty_annotateLinks annotates rfl begins.inside here
    simp only [← first]
    exact .ok _

end DimLang
