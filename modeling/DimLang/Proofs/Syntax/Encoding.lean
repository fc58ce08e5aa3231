import DimLang.Proofs.Typing.Erasure
import DimLang.Syntax.Encoding

/-!
# What the JSON of a tree determines

The flat arrays of links hold every token and every head of the chains and lists that they replace,
so that programs with the same JSON differ in annotations only (`Program.erase_eq_of_toJson`). Not
every annotation is written: that of a tail at the end of an operator chain is left out. Parsed and
analysed programs are determined by their JSON nevertheless, since their shape leaves no choice of
annotations:

- `program_eq_of_toJson`: analysed programs with the same JSON are equal, and so are parsed ones
-/

namespace DimLang

/-! ## Objects -/

/-- Objects with one key in front agree in its value and in the rest. -/
theorem Json.object_cons_eq_iff {key : String} {value value' : Json}
    {members members' : List (String × Json)} :
    object ((key, value) :: members) = object ((key, value') :: members') ↔
      value = value' ∧ object members = object members' := by
  simp

/-- Links of a chain agree in their operator and their operand. -/
theorem Json.link_eq_iff {leaf leaf' : Leaf} {head head' : Json} :
    link leaf head = link leaf' head' ↔ leaf.toJson = leaf'.toJson ∧ head = head' := by
  simp [link]

/-- Links that carry types agree in these as well. -/
theorem Json.typedLink_eq_iff {leaf leaf' : Leaf} {head head' : Json}
    {ty ty' tailTy tailTy' : DataType} :
    typedLink leaf head ty tailTy = typedLink leaf' head' ty' tailTy' ↔
      leaf.toJson = leaf'.toJson ∧ head = head' ∧ ty.toJson = ty'.toJson ∧
        tailTy.toJson = tailTy'.toJson := by
  simp [typedLink]

/-! ## Tokens -/

/-- A token's encoding determines it. -/
theorem Token.eq_of_toJson {token token' : Token} (same : token.toJson = token'.toJson) :
    token = token' := by
  obtain ⟨kind, text, line⟩ := token
  obtain ⟨kind', text', line'⟩ := token'
  simp only [toJson, Json.object_cons_eq_iff, Json.string.injEq, Json.number.injEq] at same
  obtain ⟨sameKind, rfl, rfl, _⟩ := same
  rw [TokenKind.eq_of_name sameKind]

/-- A leaf's encoding determines it. -/
theorem Leaf.eq_of_toJson {leaf leaf' : Leaf} (same : leaf.toJson = leaf'.toJson) :
    leaf = leaf' := by
  obtain ⟨token⟩ := leaf
  obtain ⟨token'⟩ := leaf'
  simp only [toJson, Json.object_cons_eq_iff, and_true] at same
  rw [Token.eq_of_toJson same]

/-- The encodings of a list of leaves determine it. -/
theorem Leaf.eq_of_map_toJson {leaves leaves' : List Leaf}
    (same : leaves.map toJson = leaves'.map toJson) : leaves = leaves' :=
  (List.map_inj_right fun _ _ => Leaf.eq_of_toJson).mp same

/-- A name's encoding determines it up to its type. -/
theorem Identifier.erase_eq_of_toJson {name name' : Identifier}
    (same : name.toJson = name'.toJson) : name.erase = name'.erase := by
  simp only [toJson, Json.object_cons_eq_iff] at same
  rw [erase, erase, Token.eq_of_toJson same.1]

/-- A literal's encoding determines it up to its type. -/
theorem Literal.erase_eq_of_toJson {literal literal' : Literal}
    (same : literal.toJson = literal'.toJson) : literal.erase = literal'.erase := by
  simp only [toJson, Json.object_cons_eq_iff] at same
  rw [erase, erase, Token.eq_of_toJson same.1]

/-- A number's encoding determines it up to its type. -/
theorem Number.erase_eq_of_toJson {number number' : Number}
    (same : number.toJson = number'.toJson) : number.erase = number'.erase := by
  simp only [toJson, Json.object_cons_eq_iff] at same
  rw [erase, erase, Literal.erase_eq_of_toJson same.1]

/-! ## Expressions -/

mutual

/-- A factor's encoding determines it up to types, and so below for the nodes that hold it. -/
theorem Factor.erase_eq_of_toJson : (factor : Factor) → ∀ {factor' : Factor},
    factor.toJson = factor'.toJson → factor.erase = factor'.erase
  | ⟨primary, _⟩, ⟨primary', _⟩, same => by
    simp only [Factor.toJson, Json.object_cons_eq_iff] at same
    rw [Factor.erase, Factor.erase, primary.erase_eq_of_toJson same.1]

/-- A primary's encoding determines it up to types. -/
theorem Primary.erase_eq_of_toJson : (primary : Primary) → ∀ {primary' : Primary},
    primary.toJson = primary'.toJson → primary.erase = primary'.erase
  | .identifier name, primary', same => by
    cases primary' with
    | identifier name' =>
      simp only [Primary.toJson, Json.object_cons_eq_iff] at same
      rw [Primary.erase, Primary.erase, Identifier.erase_eq_of_toJson same.1]
    | _ => simp [Primary.toJson] at same
  | .number number, primary', same => by
    cases primary' with
    | number number' =>
      simp only [Primary.toJson, Json.object_cons_eq_iff] at same
      rw [Primary.erase, Primary.erase, Number.erase_eq_of_toJson same.1]
    | _ => simp [Primary.toJson] at same
  | .bool literal, primary', same => by
    cases primary' with
    | bool literal' =>
      simp only [Primary.toJson, Json.object_cons_eq_iff] at same
      rw [Primary.erase, Primary.erase, Literal.erase_eq_of_toJson same.1]
    | _ => simp [Primary.toJson] at same
  | .not operator operand, primary', same => by
    cases primary' with
    | not operator' operand' =>
      simp only [Primary.toJson, Json.object_cons_eq_iff] at same
      rw [Primary.erase, Primary.erase, Leaf.eq_of_toJson same.1.1,
        operand.erase_eq_of_toJson same.1.2.1]
    | _ => simp [Primary.toJson] at same
  | .group opening expression closing, primary', same => by
    cases primary' with
    | group opening' expression' closing' =>
      simp only [Primary.toJson, Json.object_cons_eq_iff] at same
      obtain ⟨⟨sameOpening, sameExpression, sameClosing, _⟩, _⟩ := same
      rw [Primary.erase, Primary.erase, Leaf.eq_of_toJson sameOpening,
        expression.erase_eq_of_toJson sameExpression, Leaf.eq_of_toJson sameClosing]
    | _ => simp [Primary.toJson] at same

/-- An addend's encoding determines it up to types. -/
theorem Addend.erase_eq_of_toJson : (addend : Addend) → ∀ {addend' : Addend},
    addend.toJson = addend'.toJson → addend.erase = addend'.erase
  | ⟨factor, tail, _⟩, ⟨factor', tail', _⟩, same => by
    simp only [Addend.toJson, Json.object_cons_eq_iff, Json.array.injEq] at same
    rw [Addend.erase, Addend.erase, factor.erase_eq_of_toJson same.1,
      tail.erase_eq_of_links same.2.1]

/-- The links of an addend's tail determine it up to types. -/
theorem AddendTail.erase_eq_of_links : (tail : AddendTail) → ∀ {tail' : AddendTail},
    tail.links = tail'.links → tail.erase = tail'.erase
  | .stop _, .stop _, _ => rfl
  | .stop _, .more _ ⟨_, _, _⟩ _, same => by simp [AddendTail.links] at same
  | .more _ ⟨_, _, _⟩ _, .stop _, same => by simp [AddendTail.links] at same
  | .more operator ⟨factor, tail, _⟩ _, .more operator' ⟨factor', tail', _⟩ _, same => by
    simp only [AddendTail.links, List.cons.injEq, Json.typedLink_eq_iff] at same
    obtain ⟨⟨sameOperator, sameFactor, _⟩, sameTail⟩ := same
    rw [AddendTail.erase, AddendTail.erase, Addend.erase, Addend.erase,
      Leaf.eq_of_toJson sameOperator, factor.erase_eq_of_toJson sameFactor,
      tail.erase_eq_of_links sameTail]

/-- An operand's encoding determines it up to types. -/
theorem Operand.erase_eq_of_toJson : (operand : Operand) → ∀ {operand' : Operand},
    operand.toJson = operand'.toJson → operand.erase = operand'.erase
  | ⟨addend, tail, _⟩, ⟨addend', tail', _⟩, same => by
    simp only [Operand.toJson, Json.object_cons_eq_iff, Json.array.injEq] at same
    rw [Operand.erase, Operand.erase, addend.erase_eq_of_toJson same.1,
      tail.erase_eq_of_links same.2.1]

/-- The links of an operand's tail determine it up to types. -/
theorem OperandTail.erase_eq_of_links : (tail : OperandTail) → ∀ {tail' : OperandTail},
    tail.links = tail'.links → tail.erase = tail'.erase
  | .stop _, .stop _, _ => rfl
  | .stop _, .more _ ⟨_, _, _⟩ _, same => by simp [OperandTail.links] at same
  | .more _ ⟨_, _, _⟩ _, .stop _, same => by simp [OperandTail.links] at same
  | .more operator ⟨addend, tail, _⟩ _, .more operator' ⟨addend', tail', _⟩ _, same => by
    simp only [OperandTail.links, List.cons.injEq, Json.typedLink_eq_iff] at same
    obtain ⟨⟨sameOperator, sameAddend, _⟩, sameTail⟩ := same
    rw [OperandTail.erase, OperandTail.erase, Operand.erase, Operand.erase,
      Leaf.eq_of_toJson sameOperator, addend.erase_eq_of_toJson sameAddend,
      tail.erase_eq_of_links sameTail]

/-- An expression's encoding determines it up to types. -/
theorem Expression.erase_eq_of_toJson : (expression : Expression) → ∀ {expression' : Expression},
    expression.toJson = expression'.toJson → expression.erase = expression'.erase
  | ⟨operand, tail, _⟩, ⟨operand', tail', _⟩, same => by
    simp only [Expression.toJson, Json.object_cons_eq_iff] at same
    rw [Expression.erase, Expression.erase, operand.erase_eq_of_toJson same.1,
      tail.erase_eq_of_toJson same.2.1]

/-- An expression tail's encoding determines it up to types. -/
theorem ExpressionTail.erase_eq_of_toJson : (tail : ExpressionTail) → ∀ {tail' : ExpressionTail},
    tail.toJson = tail'.toJson → tail.erase = tail'.erase
  | .stop _, .stop _, _ => rfl
  | .stop _, .more _ _ _, same => by simp [ExpressionTail.toJson] at same
  | .more _ _ _, .stop _, same => by simp [ExpressionTail.toJson] at same
  | .more operator right _, .more operator' right' _, same => by
    simp only [ExpressionTail.toJson, Json.object_cons_eq_iff, Json.array.injEq,
      List.cons.injEq] at same
    obtain ⟨⟨sameOperator, sameRight, _⟩, _⟩ := same
    rw [ExpressionTail.erase, ExpressionTail.erase, Leaf.eq_of_toJson sameOperator,
      right.erase_eq_of_toJson sameRight]

end

/-! ## Lists -/

mutual

/-- An expression list's encoding determines it up to types. -/
theorem ExpressionList.erase_eq_of_toJson : (expressions : ExpressionList) →
    ∀ {expressions' : ExpressionList},
      expressions.toJson = expressions'.toJson → expressions.erase = expressions'.erase
  | ⟨head, tail⟩, ⟨head', tail'⟩, same => by
    simp only [ExpressionList.toJson, Json.object_cons_eq_iff, Json.array.injEq] at same
    rw [ExpressionList.erase, ExpressionList.erase, head.erase_eq_of_toJson same.1,
      tail.erase_eq_of_links same.2.1]

/-- The links of an expression list's tail determine it up to types. -/
theorem ExpressionListTail.erase_eq_of_links : (tail : ExpressionListTail) →
    ∀ {tail' : ExpressionListTail}, tail.links = tail'.links → tail.erase = tail'.erase
  | .stop, .stop, _ => rfl
  | .stop, .more _ ⟨_, _⟩, same => by simp [ExpressionListTail.links] at same
  | .more _ ⟨_, _⟩, .stop, same => by simp [ExpressionListTail.links] at same
  | .more comma ⟨head, tail⟩, .more comma' ⟨head', tail'⟩, same => by
    simp only [ExpressionListTail.links, List.cons.injEq, Json.link_eq_iff] at same
    obtain ⟨⟨sameComma, sameHead⟩, sameTail⟩ := same
    rw [ExpressionListTail.erase, ExpressionListTail.erase, ExpressionList.erase,
      ExpressionList.erase, Leaf.eq_of_toJson sameComma, head.erase_eq_of_toJson sameHead,
      tail.erase_eq_of_links sameTail]

end

mutual

/-- A list of names is determined up to types by its encoding. -/
theorem IdentifierList.erase_eq_of_toJson : (names : IdentifierList) →
    ∀ {names' : IdentifierList}, names.toJson = names'.toJson → names.erase = names'.erase
  | ⟨head, tail⟩, ⟨head', tail'⟩, same => by
    simp only [IdentifierList.toJson, Json.object_cons_eq_iff, Json.array.injEq] at same
    rw [IdentifierList.erase, IdentifierList.erase, Identifier.erase_eq_of_toJson same.1,
      tail.erase_eq_of_links same.2.1]

/-- The links of a name list's tail determine it up to types. -/
theorem IdentifierListTail.erase_eq_of_links : (tail : IdentifierListTail) →
    ∀ {tail' : IdentifierListTail}, tail.links = tail'.links → tail.erase = tail'.erase
  | .stop, .stop, _ => rfl
  | .stop, .more _ ⟨_, _⟩, same => by simp [IdentifierListTail.links] at same
  | .more _ ⟨_, _⟩, .stop, same => by simp [IdentifierListTail.links] at same
  | .more comma ⟨head, tail⟩, .more comma' ⟨head', tail'⟩, same => by
    simp only [IdentifierListTail.links, List.cons.injEq, Json.link_eq_iff] at same
    obtain ⟨⟨sameComma, sameHead⟩, sameTail⟩ := same
    rw [IdentifierListTail.erase, IdentifierListTail.erase, IdentifierList.erase,
      IdentifierList.erase, Leaf.eq_of_toJson sameComma, Identifier.erase_eq_of_toJson sameHead,
      tail.erase_eq_of_links sameTail]

end

/-! ## Statements -/

/-- A leaf that is missing is null. -/
theorem Leaf.eq_of_toJson? {leaf? leaf?' : Option Leaf} (same : toJson? leaf? = toJson? leaf?') :
    leaf? = leaf?' := by
  cases leaf? with
  | none =>
    cases leaf?' with
    | none => rfl
    | some leaf => simp [toJson?, toJson] at same
  | some leaf =>
    cases leaf?' with
    | none => simp [toJson?, toJson] at same
    | some leaf' => rw [eq_of_toJson same]

/-- A declaration's encoding determines it up to types. -/
theorem Declaration.erase_eq_of_toJson {tree tree' : Declaration}
    (same : tree.toJson = tree'.toJson) : tree.erase = tree'.erase := by
  simp only [toJson, Json.object_cons_eq_iff] at same
  obtain ⟨sameWord, sameNames, sameMark, sameType, _⟩ := same
  rw [erase, erase, Leaf.eq_of_toJson? sameWord, tree.identifiers.erase_eq_of_toJson sameNames,
    Leaf.eq_of_toJson? sameMark, Leaf.eq_of_toJson sameType]

/-- An assignment's encoding determines it up to types. -/
theorem Assignment.erase_eq_of_toJson {tree tree' : Assignment}
    (same : tree.toJson = tree'.toJson) : tree.erase = tree'.erase := by
  simp only [toJson, Json.object_cons_eq_iff] at same
  obtain ⟨sameTarget, sameWord, sameValue, _⟩ := same
  rw [erase, erase, Identifier.erase_eq_of_toJson sameTarget, Leaf.eq_of_toJson sameWord,
    tree.value.erase_eq_of_toJson sameValue]

/-- A `read` statement's encoding determines it up to types. -/
theorem Reading.erase_eq_of_toJson {tree tree' : Reading} (same : tree.toJson = tree'.toJson) :
    tree.erase = tree'.erase := by
  simp only [toJson, Json.object_cons_eq_iff] at same
  obtain ⟨sameWord, sameOpening, sameNames, sameClosing, _⟩ := same
  rw [erase, erase, Leaf.eq_of_toJson sameWord, Leaf.eq_of_toJson sameOpening,
    tree.identifiers.erase_eq_of_toJson sameNames, Leaf.eq_of_toJson sameClosing]

/-- A `write` statement's encoding determines it up to types. -/
theorem Writing.erase_eq_of_toJson {tree tree' : Writing} (same : tree.toJson = tree'.toJson) :
    tree.erase = tree'.erase := by
  simp only [toJson, Json.object_cons_eq_iff] at same
  obtain ⟨sameWord, sameOpening, sameExpressions, sameClosing, _⟩ := same
  rw [erase, erase, Leaf.eq_of_toJson sameWord, Leaf.eq_of_toJson sameOpening,
    tree.expressions.erase_eq_of_toJson sameExpressions, Leaf.eq_of_toJson sameClosing]

mutual

/-- A statement's encoding determines it up to types, and so for the nodes it is nested in. -/
theorem Statement.erase_eq_of_toJson : (statement : Statement) → ∀ {statement' : Statement},
    statement.toJson = statement'.toJson → statement.erase = statement'.erase
  | .assignment tree, statement', same => by
    cases statement' with
    | assignment tree' =>
      simp only [Statement.toJson, Json.object_cons_eq_iff] at same
      rw [Statement.erase, Statement.erase, Assignment.erase_eq_of_toJson same.1]
    | _ => simp [Statement.toJson] at same
  | .nestedBlock tree, statement', same => by
    cases statement' with
    | nestedBlock tree' =>
      simp only [Statement.toJson, Json.object_cons_eq_iff] at same
      rw [Statement.erase, Statement.erase, tree.erase_eq_of_toJson same.1]
    | _ => simp [Statement.toJson] at same
  | .condition tree, statement', same => by
    cases statement' with
    | condition tree' =>
      simp only [Statement.toJson, Json.object_cons_eq_iff] at same
      rw [Statement.erase, Statement.erase, tree.erase_eq_of_toJson same.1]
    | _ => simp [Statement.toJson] at same
  | .forLoop tree, statement', same => by
    cases statement' with
    | forLoop tree' =>
      simp only [Statement.toJson, Json.object_cons_eq_iff] at same
      rw [Statement.erase, Statement.erase, tree.erase_eq_of_toJson same.1]
    | _ => simp [Statement.toJson] at same
  | .whileLoop tree, statement', same => by
    cases statement' with
    | whileLoop tree' =>
      simp only [Statement.toJson, Json.object_cons_eq_iff] at same
      rw [Statement.erase, Statement.erase, tree.erase_eq_of_toJson same.1]
    | _ => simp [Statement.toJson] at same
  | .reading tree, statement', same => by
    cases statement' with
    | reading tree' =>
      simp only [Statement.toJson, Json.object_cons_eq_iff] at same
      rw [Statement.erase, Statement.erase, Reading.erase_eq_of_toJson same.1]
    | _ => simp [Statement.toJson] at same
  | .writing tree, statement', same => by
    cases statement' with
    | writing tree' =>
      simp only [Statement.toJson, Json.object_cons_eq_iff] at same
      rw [Statement.erase, Statement.erase, Writing.erase_eq_of_toJson same.1]
    | _ => simp [Statement.toJson] at same
  | .skip separators inner, statement', same => by
    cases statement' with
    | skip separators' inner' =>
      simp only [Statement.toJson, Json.object_cons_eq_iff, Json.array.injEq] at same
      rw [Statement.erase, Statement.erase, Leaf.eq_of_map_toJson same.1.1,
        inner.erase_eq_of_toJson same.1.2.1]
    | _ => simp [Statement.toJson] at same
  | .empty, statement', same => by
    cases statement' with
    | empty => rfl
    | _ => simp [Statement.toJson] at same

/-- A block's encoding determines it up to types. -/
theorem NestedBlock.erase_eq_of_toJson : (tree : NestedBlock) → ∀ {tree' : NestedBlock},
    tree.toJson = tree'.toJson → tree.erase = tree'.erase
  | ⟨beginWord, statements, endWord⟩, ⟨beginWord', statements', endWord'⟩, same => by
    simp only [NestedBlock.toJson, Json.object_cons_eq_iff] at same
    obtain ⟨sameBegin, sameStatements, sameEnd, _⟩ := same
    rw [NestedBlock.erase, NestedBlock.erase, Leaf.eq_of_toJson sameBegin,
      statements.erase_eq_of_toJson sameStatements, Leaf.eq_of_toJson sameEnd]

/-- A statement list's encoding determines it up to types. -/
theorem StatementList.erase_eq_of_toJson : (statements : StatementList) →
    ∀ {statements' : StatementList},
      statements.toJson = statements'.toJson → statements.erase = statements'.erase
  | ⟨head, tail⟩, ⟨head', tail'⟩, same => by
    simp only [StatementList.toJson, Json.object_cons_eq_iff, Json.array.injEq] at same
    rw [StatementList.erase, StatementList.erase, head.erase_eq_of_toJson same.1,
      tail.erase_eq_of_links same.2.1]

/-- The links of a statement list's tail determine it up to types. -/
theorem StatementListTail.erase_eq_of_links : (tail : StatementListTail) →
    ∀ {tail' : StatementListTail}, tail.links = tail'.links → tail.erase = tail'.erase
  | .stop, .stop, _ => rfl
  | .stop, .more _ ⟨_, _⟩, same => by simp [StatementListTail.links] at same
  | .more _ ⟨_, _⟩, .stop, same => by simp [StatementListTail.links] at same
  | .more separator ⟨head, tail⟩, .more separator' ⟨head', tail'⟩, same => by
    simp only [StatementListTail.links, List.cons.injEq, Json.link_eq_iff] at same
    obtain ⟨⟨sameSeparator, sameHead⟩, sameTail⟩ := same
    rw [StatementListTail.erase, StatementListTail.erase, StatementList.erase,
      StatementList.erase, Leaf.eq_of_toJson sameSeparator, head.erase_eq_of_toJson sameHead,
      tail.erase_eq_of_links sameTail]

/-- A condition's encoding determines it up to types. -/
theorem Condition.erase_eq_of_toJson : (tree : Condition) → ∀ {tree' : Condition},
    tree.toJson = tree'.toJson → tree.erase = tree'.erase
  | ⟨ifWord, test, thenWord, branch, tail⟩, ⟨ifWord', test', thenWord', branch', tail'⟩, same => by
    simp only [Condition.toJson, Json.object_cons_eq_iff] at same
    obtain ⟨sameIf, sameTest, sameThen, sameBranch, sameTail, _⟩ := same
    rw [Condition.erase, Condition.erase, Leaf.eq_of_toJson sameIf,
      test.erase_eq_of_toJson sameTest, Leaf.eq_of_toJson sameThen,
      branch.erase_eq_of_toJson sameBranch, tail.erase_eq_of_toJson sameTail]

/-- The encoding of a condition's tail determines it up to types. -/
theorem ConditionTail.erase_eq_of_toJson : (tail : ConditionTail) → ∀ {tail' : ConditionTail},
    tail.toJson = tail'.toJson → tail.erase = tail'.erase
  | .stop, .stop, _ => rfl
  | .stop, .more _ _, same => by simp [ConditionTail.toJson] at same
  | .more _ _, .stop, same => by simp [ConditionTail.toJson] at same
  | .more elseWord branch, .more elseWord' branch', same => by
    simp only [ConditionTail.toJson, Json.object_cons_eq_iff, Json.array.injEq,
      List.cons.injEq] at same
    obtain ⟨⟨sameElse, sameBranch, _⟩, _⟩ := same
    rw [ConditionTail.erase, ConditionTail.erase, Leaf.eq_of_toJson sameElse,
      branch.erase_eq_of_toJson sameBranch]

/-- A `for` loop's encoding determines it up to types. -/
theorem ForLoop.erase_eq_of_toJson : (tree : ForLoop) → ∀ {tree' : ForLoop},
    tree.toJson = tree'.toJson → tree.erase = tree'.erase
  | ⟨forWord, start, toWord, limit, doWord, body⟩,
      ⟨forWord', start', toWord', limit', doWord', body'⟩, same => by
    simp only [ForLoop.toJson, Json.object_cons_eq_iff] at same
    obtain ⟨sameFor, sameStart, sameTo, sameLimit, sameDo, sameBody, _⟩ := same
    rw [ForLoop.erase, ForLoop.erase, Leaf.eq_of_toJson sameFor,
      Assignment.erase_eq_of_toJson sameStart, Leaf.eq_of_toJson sameTo,
      limit.erase_eq_of_toJson sameLimit, Leaf.eq_of_toJson sameDo,
      body.erase_eq_of_toJson sameBody]

/-- A `while` loop's encoding determines it up to types. -/
theorem WhileLoop.erase_eq_of_toJson : (tree : WhileLoop) → ∀ {tree' : WhileLoop},
    tree.toJson = tree'.toJson → tree.erase = tree'.erase
  | ⟨whileWord, test, doWord, body⟩, ⟨whileWord', test', doWord', body'⟩, same => by
    simp only [WhileLoop.toJson, Json.object_cons_eq_iff] at same
    obtain ⟨sameWhile, sameTest, sameDo, sameBody, _⟩ := same
    rw [WhileLoop.erase, WhileLoop.erase, Leaf.eq_of_toJson sameWhile,
      test.erase_eq_of_toJson sameTest, Leaf.eq_of_toJson sameDo,
      body.erase_eq_of_toJson sameBody]

end

/-! ## Programs -/

/-- A program item's encoding determines it up to types. -/
theorem ProgramItem.erase_eq_of_toJson {item item' : ProgramItem}
    (same : item.toJson = item'.toJson) : item.erase = item'.erase := by
  cases item with
  | declaration tree =>
    cases item' with
    | declaration tree' =>
      simp only [toJson, Json.object_cons_eq_iff] at same
      rw [erase, erase, Declaration.erase_eq_of_toJson same.1]
    | statement => simp [toJson] at same
  | statement tree =>
    cases item' with
    | statement tree' =>
      simp only [toJson, Json.object_cons_eq_iff] at same
      rw [erase, erase, tree.erase_eq_of_toJson same.1]
    | declaration => simp [toJson] at same

mutual

/-- Programs with the same JSON differ in annotations only. -/
theorem Program.erase_eq_of_toJson : (program : Program) → ∀ {program' : Program},
    program.toJson = program'.toJson → program.erase = program'.erase
  | ⟨item, tail⟩, ⟨item', tail'⟩, same => by
    simp only [Program.toJson, Json.object_cons_eq_iff, Json.array.injEq] at same
    rw [Program.erase, Program.erase, ProgramItem.erase_eq_of_toJson same.1,
      tail.erase_eq_of_links same.2.1]

/-- The links of a program's tail determine it up to types. -/
theorem ProgramTail.erase_eq_of_links : (tail : ProgramTail) → ∀ {tail' : ProgramTail},
    tail.links = tail'.links → tail.erase = tail'.erase
  | .stop, .stop, _ => rfl
  | .stop, .more _ ⟨_, _⟩, same => by simp [ProgramTail.links] at same
  | .more _ ⟨_, _⟩, .stop, same => by simp [ProgramTail.links] at same
  | .more separator ⟨item, tail⟩, .more separator' ⟨item', tail'⟩, same => by
    simp only [ProgramTail.links, List.cons.injEq, Json.link_eq_iff] at same
    obtain ⟨⟨sameSeparator, sameItem⟩, sameTail⟩ := same
    rw [ProgramTail.erase, ProgramTail.erase, Program.erase, Program.erase,
      Leaf.eq_of_toJson sameSeparator, ProgramItem.erase_eq_of_toJson sameItem,
      tail.erase_eq_of_links sameTail]

end

/-- The JSON of a program loses nothing: analysed programs are determined by it, and so are parsed
ones. -/
theorem program_eq_of_toJson :
    (∀ program program' typed typed', analyze program = .ok typed →
      analyze program' = .ok typed' → typed.toJson = typed'.toJson → typed = typed') ∧
    ∀ tokens tokens' program program', parse tokens = .ok program →
      parse tokens' = .ok program' → program.toJson = program'.toJson → program = program' := by
  refine ⟨?_, ?_⟩
  · intro program program' typed typed' analyzed analyzed' same
    exact eq_of_analyze analyzed analyzed' (typed.erase_eq_of_toJson same)
  · intro tokens tokens' program program' parsed parsed' same
    rw [← erase_of_parse parsed, ← erase_of_parse parsed', program.erase_eq_of_toJson same]

/-- A product, parsed twice, and then analysed and analysed once more. -/
theorem program_eq_of_toJson_product :
    ∃ tokens program program' typed typed',
      tokens = [⟨.writeWord, "write", 1⟩, ⟨.openParen, "(", 1⟩, ⟨.intNumber, "2", 1⟩,
        ⟨.mulOp, "*", 1⟩, ⟨.intNumber, "3", 1⟩, ⟨.closeParen, ")", 1⟩] ∧
      (parse tokens = .ok program ∧ parse tokens = .ok program' ∧
        program.toJson = program'.toJson ∧ program = program') ∧
      (analyze program = .ok typed ∧ analyze typed = .ok typed' ∧
        typed.toJson = typed'.toJson ∧ typed = typed') := by
  have parsedAlike {tokens : List Token} {program program' : Program}
      (parsed : parse tokens = .ok program) (parsed' : parse tokens = .ok program')
      (same : program.toJson = program'.toJson) :
      parse tokens = .ok program ∧ parse tokens = .ok program' ∧
        program.toJson = program'.toJson ∧ program = program' :=
    ⟨parsed, parsed', same, program_eq_of_toJson.2 _ _ _ _ parsed parsed' same⟩
  have analyzedAlike {program typed typed' : Program} (analyzed : analyze program = .ok typed)
      (again : analyze typed = .ok typed') (same : typed.toJson = typed'.toJson) :
      analyze program = .ok typed ∧ analyze typed = .ok typed' ∧
        typed.toJson = typed'.toJson ∧ typed = typed' :=
    ⟨analyzed, again, same, program_eq_of_toJson.1 _ _ _ _ analyzed again same⟩
  have three : Derives 1 .addend [⟨.intNumber, "3", 1⟩, ⟨.closeParen, ")", 1⟩] _ _ :=
    .addend (.factorNumber (.number (.inl rfl))) (.addendStop (by decide))
  have product : Derives 1 .addend [⟨.intNumber, "2", 1⟩, ⟨.mulOp, "*", 1⟩,
      ⟨.intNumber, "3", 1⟩, ⟨.closeParen, ")", 1⟩] _ _ :=
    .addend (.factorNumber (.number (.inl rfl))) (.addendMore rfl three)
  have writing : Derives 1 .writing [⟨.writeWord, "write", 1⟩, ⟨.openParen, "(", 1⟩,
      ⟨.intNumber, "2", 1⟩, ⟨.mulOp, "*", 1⟩, ⟨.intNumber, "3", 1⟩, ⟨.closeParen, ")", 1⟩] _ [] :=
    .writing rfl rfl (.expressionList (.expression (.operand product (.operandStop (by decide)))
      (.comparisonStop (by decide))) (.expressionStop (by decide))) rfl
  have item := Derives.itemStatement (by simp [StartsDeclaration, nextKind]) (by decide)
    (.statementWrite writing)
  have parsed := parse_of_derives (.program item (.programStop (by decide))) rfl
  exact ⟨_, _, _, _, _, rfl, parsedAlike parsed parsed rfl, analyzedAlike rfl rfl rfl⟩

end DimLang
