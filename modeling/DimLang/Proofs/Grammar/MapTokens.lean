import DimLang.Proofs.Grammar.Kinds

/-!
# Trees of renamed tokens

`mapTokens` replaces the tokens of a tree and keeps its shape and its types. Since the grammar looks
at the kinds of tokens only, a token list whose tokens are replaced by others of the same kinds has
the same tree with its tokens replaced (`Derives.mapTokens`).
-/

namespace DimLang

variable (f : Token → Token)

def Leaf.mapTokens (leaf : Leaf) : Leaf :=
  ⟨f leaf.token⟩

def Identifier.mapTokens (name : Identifier) : Identifier :=
  ⟨f name.token, name.ty⟩

def Literal.mapTokens (literal : Literal) : Literal :=
  ⟨f literal.token, literal.ty⟩

def Number.mapTokens (number : Number) : Number :=
  ⟨number.literal.mapTokens f, number.ty⟩

mutual

def Factor.mapTokens : Factor → Factor
  | ⟨primary, ty⟩ => ⟨primary.mapTokens, ty⟩

def Primary.mapTokens : Primary → Primary
  | .identifier name => .identifier (name.mapTokens f)
  | .number number => .number (number.mapTokens f)
  | .bool literal => .bool (literal.mapTokens f)
  | .not operator operand => .not (operator.mapTokens f) operand.mapTokens
  | .group opening expression closing =>
    .group (opening.mapTokens f) expression.mapTokens (closing.mapTokens f)

def Addend.mapTokens : Addend → Addend
  | ⟨factor, tail, ty⟩ => ⟨factor.mapTokens, tail.mapTokens, ty⟩

def AddendTail.mapTokens : AddendTail → AddendTail
  | .stop ty => .stop ty
  | .more operator rest ty => .more (operator.mapTokens f) rest.mapTokens ty

def Operand.mapTokens : Operand → Operand
  | ⟨addend, tail, ty⟩ => ⟨addend.mapTokens, tail.mapTokens, ty⟩

def OperandTail.mapTokens : OperandTail → OperandTail
  | .stop ty => .stop ty
  | .more operator rest ty => .more (operator.mapTokens f) rest.mapTokens ty

def Expression.mapTokens : Expression → Expression
  | ⟨operand, tail, ty⟩ => ⟨operand.mapTokens, tail.mapTokens, ty⟩

def ExpressionTail.mapTokens : ExpressionTail → ExpressionTail
  | .stop ty => .stop ty
  | .more operator right ty => .more (operator.mapTokens f) right.mapTokens ty

end

mutual

def ExpressionList.mapTokens : ExpressionList → ExpressionList
  | ⟨head, tail⟩ => ⟨head.mapTokens f, tail.mapTokens⟩

def ExpressionListTail.mapTokens : ExpressionListTail → ExpressionListTail
  | .stop => .stop
  | .more comma rest => .more (comma.mapTokens f) rest.mapTokens

end

mutual

def IdentifierList.mapTokens : IdentifierList → IdentifierList
  | ⟨head, tail⟩ => ⟨head.mapTokens f, tail.mapTokens⟩

def IdentifierListTail.mapTokens : IdentifierListTail → IdentifierListTail
  | .stop => .stop
  | .more comma rest => .more (comma.mapTokens f) rest.mapTokens

end

def Declaration.mapTokens (tree : Declaration) : Declaration :=
  ⟨tree.keyword?.map (Leaf.mapTokens f), tree.identifiers.mapTokens f,
    tree.colon?.map (Leaf.mapTokens f), tree.typeName.mapTokens f⟩

def Assignment.mapTokens : Assignment → Assignment
  | ⟨target, asWord, value⟩ => ⟨target.mapTokens f, asWord.mapTokens f, value.mapTokens f⟩

def Reading.mapTokens : Reading → Reading
  | ⟨word, opening, names, closing⟩ =>
    ⟨word.mapTokens f, opening.mapTokens f, names.mapTokens f, closing.mapTokens f⟩

def Writing.mapTokens : Writing → Writing
  | ⟨word, opening, expressions, closing⟩ =>
    ⟨word.mapTokens f, opening.mapTokens f, expressions.mapTokens f, closing.mapTokens f⟩

mutual

def Statement.mapTokens : Statement → Statement
  | .assignment tree => .assignment (tree.mapTokens f)
  | .nestedBlock tree => .nestedBlock tree.mapTokens
  | .condition tree => .condition tree.mapTokens
  | .forLoop tree => .forLoop tree.mapTokens
  | .whileLoop tree => .whileLoop tree.mapTokens
  | .reading tree => .reading (tree.mapTokens f)
  | .writing tree => .writing (tree.mapTokens f)
  | .skip separators inner => .skip (separators.map (Leaf.mapTokens f)) inner.mapTokens
  | .empty => .empty

def NestedBlock.mapTokens : NestedBlock → NestedBlock
  | ⟨beginWord, statements, endWord⟩ =>
    ⟨beginWord.mapTokens f, statements.mapTokens, endWord.mapTokens f⟩

def StatementList.mapTokens : StatementList → StatementList
  | ⟨head, tail⟩ => ⟨head.mapTokens, tail.mapTokens⟩

def StatementListTail.mapTokens : StatementListTail → StatementListTail
  | .stop => .stop
  | .more separator rest => .more (separator.mapTokens f) rest.mapTokens

def Condition.mapTokens : Condition → Condition
  | ⟨ifWord, test, thenWord, branch, tail⟩ =>
    ⟨ifWord.mapTokens f, test.mapTokens f, thenWord.mapTokens f, branch.mapTokens,
      tail.mapTokens⟩

def ConditionTail.mapTokens : ConditionTail → ConditionTail
  | .stop => .stop
  | .more elseWord branch => .more (elseWord.mapTokens f) branch.mapTokens

def ForLoop.mapTokens : ForLoop → ForLoop
  | ⟨forWord, start, toWord, limit, doWord, body⟩ =>
    ⟨forWord.mapTokens f, start.mapTokens f, toWord.mapTokens f, limit.mapTokens f,
      doWord.mapTokens f, body.mapTokens⟩

def WhileLoop.mapTokens : WhileLoop → WhileLoop
  | ⟨whileWord, test, doWord, body⟩ =>
    ⟨whileWord.mapTokens f, test.mapTokens f, doWord.mapTokens f, body.mapTokens⟩

end

def ProgramItem.mapTokens : ProgramItem → ProgramItem
  | .declaration tree => .declaration (tree.mapTokens f)
  | .statement tree => .statement (tree.mapTokens f)

mutual

def Program.mapTokens : Program → Program
  | ⟨item, tail⟩ => ⟨item.mapTokens f, tail.mapTokens⟩

def ProgramTail.mapTokens : ProgramTail → ProgramTail
  | .stop => .stop
  | .more separator rest => .more (separator.mapTokens f) rest.mapTokens

end

/-- The tree with its tokens replaced. -/
def Node.mapTokens : Node → Node
  | leaf tree => leaf (tree.mapTokens f)
  | identifier tree => identifier (tree.mapTokens f)
  | literal tree => literal (tree.mapTokens f)
  | number tree => number (tree.mapTokens f)
  | factor tree => factor (tree.mapTokens f)
  | addend tree => addend (tree.mapTokens f)
  | addendTail tree => addendTail (tree.mapTokens f)
  | operand tree => operand (tree.mapTokens f)
  | operandTail tree => operandTail (tree.mapTokens f)
  | expression tree => expression (tree.mapTokens f)
  | expressionTail tree => expressionTail (tree.mapTokens f)
  | expressionList tree => expressionList (tree.mapTokens f)
  | expressionListTail tree => expressionListTail (tree.mapTokens f)
  | identifierList tree => identifierList (tree.mapTokens f)
  | identifierListTail tree => identifierListTail (tree.mapTokens f)
  | declaration tree => declaration (tree.mapTokens f)
  | assignment tree => assignment (tree.mapTokens f)
  | condition tree => condition (tree.mapTokens f)
  | conditionTail tree => conditionTail (tree.mapTokens f)
  | forLoop tree => forLoop (tree.mapTokens f)
  | whileLoop tree => whileLoop (tree.mapTokens f)
  | nestedBlock tree => nestedBlock (tree.mapTokens f)
  | statementList tree => statementList (tree.mapTokens f)
  | statementListTail tree => statementListTail (tree.mapTokens f)
  | reading tree => reading (tree.mapTokens f)
  | writing tree => writing (tree.mapTokens f)
  | statement tree => statement (tree.mapTokens f)
  | programItem tree => programItem (tree.mapTokens f)
  | program tree => program (tree.mapTokens f)
  | programTail tree => programTail (tree.mapTokens f)

/-- The items of a program with changed tokens are its items with changed tokens. -/
theorem Program.items_mapTokens :
    (program : Program) → (program.mapTokens f).items = program.items.map (ProgramItem.mapTokens f)
  | ⟨_, .stop⟩ => rfl
  | ⟨item, .more separator rest⟩ => by
    have behind := items_mapTokens rest
    rw [mapTokens, ProgramTail.mapTokens, items_more, items_more, behind, List.map_cons]

variable {f}

/-- The grammar derives the tree of the replaced tokens. -/
theorem Derives.mapTokens (kinds : ∀ token, (f token).kind = token.kind) {endLine : Nat}
    {symbol : Symbol} {input rest : List Token} {node : Node}
    (derives : Derives endLine symbol input node rest) (notEnd : symbol ≠ .leaf .eof)
    (endLine' : Nat) :
    Derives endLine' symbol (input.map f) (node.mapTokens f) (rest.map f) := by
  have same {token : Token} {kind : TokenKind} (was : token.kind = kind) : (f token).kind = kind :=
    (kinds token).trans was
  have stops {rest : List Token} {kind : TokenKind} (was : nextKind rest ≠ kind) :
      nextKind (rest.map f) ≠ kind := by
    rwa [nextKind_map kinds]
  induction derives with
  | name kind => exact .name (same kind)
  | constant kind isConstant => exact .constant (same kind) isConstant
  | mark kind notName notConstant => exact .mark (same kind) notName notConstant
  | inputEnd => exact absurd rfl notEnd
  | program _ _ first more => exact .program (first nofun) (more nofun)
  | programMore kind _ part => exact .programMore (same kind) (part nofun)
  | programStop stop => exact .programStop (stops stop)
  | itemDeclaration start _ declares =>
    exact .itemDeclaration ((startsDeclaration_map kinds _).mpr start) (declares nofun)
  | itemEmpty blank => exact .itemEmpty (by rwa [nextKind_map kinds])
  | itemStatement noDeclaration notBlank _ states =>
    exact .itemStatement (mt (startsDeclaration_map kinds _).mp noDeclaration) (stops notBlank)
      (states nofun)
  | declarationKeyword word _ typeKind list =>
    exact .declarationKeyword (same word) (list nofun) (same typeKind)
  | declarationColon _ mark typeKind list =>
    exact .declarationColon (list nofun) (same mark) (same typeKind)
  | identifierList kind _ more => exact .identifierList (same kind) (more nofun)
  | identifierMore kind _ list => exact .identifierMore (same kind) (list nofun)
  | identifierStop stop => exact .identifierStop (stops stop)
  | statementAssignment _ part => exact .statementAssignment (part nofun)
  | statementBlock _ part => exact .statementBlock (part nofun)
  | statementCondition _ part => exact .statementCondition (part nofun)
  | statementFor _ part => exact .statementFor (part nofun)
  | statementWhile _ part => exact .statementWhile (part nofun)
  | statementRead _ part => exact .statementRead (part nofun)
  | statementWrite _ part => exact .statementWrite (part nofun)
  | @statementSkip separators input rest inner nonempty separatorKinds behind _ part =>
    have renamed : (separators.map Leaf.mk).map (Leaf.mapTokens f) =
        (separators.map f).map Leaf.mk := by
      rw [List.map_map, List.map_map]
      rfl
    have separatorKinds' : ∀ separator ∈ separators.map f, separator.kind = .separator := by
      intro separator member
      obtain ⟨original, listed, rfl⟩ := List.mem_map.mp member
      exact same (separatorKinds original listed)
    rw [List.map_append, Node.mapTokens, Statement.mapTokens, renamed]
    exact .statementSkip (mt List.map_eq_nil_iff.mp nonempty) separatorKinds' (stops behind)
      (part nofun)
  | statementEmpty ends => exact .statementEmpty (by rwa [nextKind_map kinds])
  | assignment target asKind _ part => exact .assignment (same target) (same asKind) (part nofun)
  | condition ifKind _ thenKind _ _ tests states more =>
    exact .condition (same ifKind) (tests nofun) (same thenKind) (states nofun) (more nofun)
  | conditionElse kind _ part => exact .conditionElse (same kind) (part nofun)
  | conditionStop stop => exact .conditionStop (stops stop)
  | forLoop forKind _ toKind _ doKind _ begins limits states =>
    exact .forLoop (same forKind) (begins nofun) (same toKind) (limits nofun) (same doKind)
      (states nofun)
  | whileLoop whileKind _ doKind _ tests states =>
    exact .whileLoop (same whileKind) (tests nofun) (same doKind) (states nofun)
  | nestedBlock beginKind _ endKind list =>
    exact .nestedBlock (same beginKind) (list nofun) (same endKind)
  | statementList _ _ states more => exact .statementList (states nofun) (more nofun)
  | statementMore kind _ list => exact .statementMore (same kind) (list nofun)
  | statementStop stop => exact .statementStop (stops stop)
  | reading readKind openKind _ closeKind list =>
    exact .reading (same readKind) (same openKind) (list nofun) (same closeKind)
  | writing writeKind openKind _ closeKind list =>
    exact .writing (same writeKind) (same openKind) (list nofun) (same closeKind)
  | expressionList _ _ first more => exact .expressionList (first nofun) (more nofun)
  | expressionMore kind _ list => exact .expressionMore (same kind) (list nofun)
  | expressionStop stop => exact .expressionStop (stops stop)
  | expression _ _ first more => exact .expression (first nofun) (more nofun)
  | comparison kind _ part => exact .comparison (same kind) (part nofun)
  | comparisonStop stop => exact .comparisonStop (stops stop)
  | operand _ _ first more => exact .operand (first nofun) (more nofun)
  | operandMore kind _ part => exact .operandMore (same kind) (part nofun)
  | operandStop stop => exact .operandStop (stops stop)
  | addend _ _ first more => exact .addend (first nofun) (more nofun)
  | addendMore kind _ part => exact .addendMore (same kind) (part nofun)
  | addendStop stop => exact .addendStop (stops stop)
  | factorIdentifier kind => exact .factorIdentifier (same kind)
  | factorNumber _ part => exact .factorNumber (part nofun)
  | factorBool kind => exact .factorBool (same kind)
  | factorNot kind _ part => exact .factorNot (same kind) (part nofun)
  | factorGroup openKind _ closeKind part =>
    exact .factorGroup (same openKind) (part nofun) (same closeKind)
  | number kind => exact .number (kind.imp same same)

end DimLang
