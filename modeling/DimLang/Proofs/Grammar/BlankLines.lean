import DimLang.Proofs.Grammar.Kinds
import DimLang.Proofs.Grammar.Leaves
import DimLang.Proofs.Syntax.Condensed

/-!
# Blank lines

A separator directly behind a separator is a blank line. Depending on where it stands, it is the
separator behind an empty item of a program, or one that a statement skips; in either case the rest
of the input is read as without it. `BlankLine` relates token lists of which one has a blank line
more, in either direction, so that one induction over the reading settles both directions:

- `Derives.exists_added` and `Derives.exists_removed`: what may follow a separator may also follow
  two of them
- `exists_parse_of_blankLine`: parsing yields the same program, up to skips and empty items
-/

namespace DimLang

open IsNode

variable {endLine endLine' : Nat} {input input' rest : List Token} {node : Node}

/-! ## Token lists with a blank line more -/

/-- The lists are equal, or one of them has one more separator directly behind a separator. -/
inductive BlankLine : List Token → List Token → Prop
  | same (tokens : List Token) : BlankLine tokens tokens
  | added {separator blank : Token} (tokens : List Token) (kind : separator.kind = .separator)
      (blankKind : blank.kind = .separator) :
      BlankLine (separator :: tokens) (separator :: blank :: tokens)
  | removed {separator blank : Token} (tokens : List Token) (kind : separator.kind = .separator)
      (blankKind : blank.kind = .separator) :
      BlankLine (separator :: blank :: tokens) (separator :: tokens)
  | later (token : Token) {tokens tokens' : List Token} (further : BlankLine tokens tokens') :
      BlankLine (token :: tokens) (token :: tokens')

/-- What stands behind a separator: the blank line may be the first token. -/
def BlankLine.Behind (tokens tokens' : List Token) : Prop :=
  BlankLine tokens tokens' ∨
    ∃ blank : Token, blank.kind = .separator ∧
      (tokens' = blank :: tokens ∨ tokens = blank :: tokens')

namespace BlankLine

/-- Tokens in front of both inputs do not matter. -/
theorem append (front : List Token) (related : BlankLine input input') :
    BlankLine (front ++ input) (front ++ input') := by
  induction front with
  | nil => exact related
  | cons token front ih => exact .later token ih

/-- A blank line more does not change the kind of the next token. -/
theorem nextKind_eq (related : BlankLine input input') : nextKind input' = nextKind input := by
  cases related <;> rfl

/-- The first token is the same; the blank line is further behind, unless the token is a
separator. -/
theorem exists_cons {token : Token} {tokens : List Token}
    (related : BlankLine (token :: tokens) input') :
    ∃ tokens', input' = token :: tokens' ∧
      (token.kind ≠ .separator → BlankLine tokens tokens') ∧ Behind tokens tokens' := by
  cases related with
  | same => exact ⟨tokens, rfl, fun _ => .same tokens, .inl (.same tokens)⟩
  | added _ kind blankKind =>
    exact ⟨_, rfl, fun other => absurd kind other, .inr ⟨_, blankKind, .inl rfl⟩⟩
  | removed _ kind blankKind =>
    exact ⟨_, rfl, fun other => absurd kind other, .inr ⟨_, blankKind, .inr rfl⟩⟩
  | later _ further => exact ⟨_, rfl, fun _ => further, .inl further⟩

/-- Whatever a symbol sees of the input, it sees it with and without the blank line. -/
theorem seenAlike (related : BlankLine input input') (symbol : Symbol) :
    SeenAlike symbol (windowAt endLine input) (windowAt endLine' input') := by
  refine seenAlike_windowAt related.nextKind_eq ?_
  intro _ name
  cases input with
  | nil => cases name
  | cons token tokens =>
    obtain ⟨tokens', rfl, further, _⟩ := related.exists_cons
    have named : token.kind = .identifier := name
    exact (further (by rw [named]; simp)).nextKind_eq

end BlankLine

/-! ## Assembly -/

/-- What holds of every part holds along the sequence. -/
theorem InSequence.forall₂ {relation : Symbol → List Token → Node → List Token → Prop}
    {property : Symbol → Node → Prop} {symbols : List Symbol} {nodes : List Node}
    (parts : InSequence relation symbols input nodes rest)
    (holds : ∀ {symbol input node rest}, relation symbol input node rest → property symbol node) :
    List.Forall₂ property symbols nodes := by
  induction parts with
  | nil => exact .nil
  | cons head _ ih => exact .cons (holds head) ih

/-- What is read is a tree of the type that the symbol produces. -/
theorem Reads.produces {symbol : Symbol} (reads : Reads endLine symbol input node rest) :
    symbol.Produces node := by
  refine Reads.rule_induction (motive := fun symbol _ node _ => symbol.Produces node) ?_ ?_ reads
  · intro symbol input consumed
    rw [Symbol.eq_leaf_of_consumed consumed]
    exact produces_ofToken _
  · intro symbol input rest production nodes node expanded parts assembled
    obtain ⟨built, assembled', produces⟩ := exists_assemble (parts.forall₂ id)
    rw [assembled] at assembled'
    cases assembled'
    rwa [Production.notion_eq_of_mem (Rule.mem_productions_of_feed expanded)] at produces

/-- A separator in front of a statement is not seen when skips are left out. -/
theorem Statement.condense_behind (separator : Leaf) (statement : Statement) :
    (statement.behind separator).condense = statement.condense := by
  cases statement <;> rfl

/-- Of children that are equal up to blank lines, the two build nodes that are. -/
def BuildAlike {α : Type} [Builds α] (f f' : α) : Prop :=
  ∀ {children children' : List Node} {node node' : Node},
    children'.map Node.condense = children.map Node.condense →
      build f children = .ok node → build f' children' = .ok node' →
        node'.condense = node.condense

/-- Nodes that are equal without skips build alike. -/
theorem buildAlike_node {tree tree' : Node} (alike : tree'.condense = tree.condense) :
    BuildAlike tree tree' := by
  intro children children' node node' _ built built'
  obtain ⟨_, rfl⟩ := build_node_eq_ok_iff.mp built
  obtain ⟨_, rfl⟩ := build_node_eq_ok_iff.mp built'
  exact alike

/-- Functions build alike if they do so for every pair of children that are equal without skips. -/
theorem buildAlike_function {α β : Type} [IsNode α] [LawfulNode α] [Builds β] {f f' : α → β}
    (step : ∀ tree tree', (toNode tree').condense = (toNode tree).condense →
      BuildAlike (f tree) (f' tree')) : BuildAlike f f' := by
  intro children children' node node' alike built built'
  obtain ⟨tree, rest, rfl, rebuilt⟩ := build_function_eq_ok_iff.mp built
  obtain ⟨tree', rest', rfl, rebuilt'⟩ := build_function_eq_ok_iff.mp built'
  obtain ⟨head, tail⟩ := List.cons_eq_cons.mp alike
  exact step tree tree' head tail rebuilt rebuilt'

/-- Of a tree without statements a blank line changes nothing. -/
theorem buildAlike_plain {α β : Type} [IsNode α] [LawfulNode α] [Builds β] {f f' : α → β}
    (plain : ∀ tree : α, (toNode tree).condense = toNode tree)
    (step : ∀ tree, BuildAlike (f tree) (f' tree)) : BuildAlike f f' := by
  refine buildAlike_function fun tree tree' same => ?_
  rw [plain, plain] at same
  have found := LawfulNode.ofNode?_toNode tree'
  rw [same, LawfulNode.ofNode?_toNode] at found
  cases found
  exact fun {_ _ _ _} => step tree

/-- Children that are equal up to blank lines are assembled to nodes that are. -/
theorem condense_assemble {production : Production} {nodes nodes' : List Node} {node node' : Node}
    (alike : nodes'.map Node.condense = nodes.map Node.condense)
    (assembled : production.assemble nodes = .ok node)
    (assembled' : production.assemble nodes' = .ok node') : node'.condense = node.condense := by
  have both {α : Type} [Builds α] {f : α} (same : BuildAlike f f)
      (built : build f nodes = .ok node) (built' : build f nodes' = .ok node') :
      node'.condense = node.condense :=
    same alike built built'
  cases production with
  | statementSkip =>
    refine both (buildAlike_plain (fun _ => rfl) fun separator =>
      buildAlike_function fun inner inner' same => buildAlike_node ?_) assembled assembled'
    simp only [toNode, Node.condense, Node.statement.injEq] at same ⊢
    rw [Statement.condense_behind, Statement.condense_behind, same]
  | program =>
    refine both (buildAlike_function fun item item' sameItem =>
      buildAlike_function fun tail tail' sameTail => buildAlike_node ?_) assembled assembled'
    simp only [toNode, Node.condense, Node.programItem.injEq, Node.programTail.injEq,
      Node.program.injEq, Program.condense] at sameItem sameTail ⊢
    rw [sameItem, sameTail]
  | programTailMore =>
    refine both (buildAlike_plain (fun _ => rfl) fun separator =>
      buildAlike_function fun program program' same => buildAlike_node ?_) assembled assembled'
    simp only [toNode, Node.condense, Node.program.injEq, Node.programTail.injEq,
      ProgramTail.condense] at same ⊢
    rw [same]
  | programItemStatement | statementBlock | statementCondition | statementFor | statementWhile
  | condition | conditionElse | forLoop | whileLoop | nestedBlock | statementList
  | statementListMore =>
    -- One typed child after the other is equal up to blank lines; then so is the node of them.
    refine both ?_ assembled assembled'
    repeat first
      | refine buildAlike_plain (fun _ => rfl) fun _ => ?_
      | refine buildAlike_function fun _ _ _ => ?_
    refine buildAlike_node ?_
    simp_all only [toNode, Node.condense, Node.statement.injEq, Node.nestedBlock.injEq,
      Node.condition.injEq, Node.forLoop.injEq, Node.whileLoop.injEq, Node.statementList.injEq,
      Node.statementListTail.injEq, Node.conditionTail.injEq, ProgramItem.condense,
      Statement.condense, StatementList.condense, StatementListTail.condense, Condition.condense,
      ConditionTail.condense, ForLoop.condense, WhileLoop.condense, NestedBlock.condense]
  | _ =>
    refine both ?_ assembled assembled'
    repeat refine buildAlike_plain (fun _ => rfl) fun _ => ?_
    exact buildAlike_node rfl

/-! ## Behind a separator -/

/-- The notions that stand behind a separator in some production. -/
def Symbol.FollowsSeparator (symbol : Symbol) : Prop :=
  symbol = .program ∨ symbol = .statementList ∨ symbol = .statement

/-- A separator is the first of two symbols, if a production has one. -/
theorem Production.rhs_separator (production : Production) :
    (∀ symbol ∈ production.rhs, symbol ≠ .leaf .separator) ∨
      ∃ symbol, production.rhs = [.leaf .separator, symbol] ∧ symbol.FollowsSeparator := by
  cases production with
  | programTailMore => exact .inr ⟨_, rfl, .inl rfl⟩
  | statementListMore => exact .inr ⟨_, rfl, .inr (.inl rfl)⟩
  | statementSkip => exact .inr ⟨_, rfl, .inr (.inr rfl)⟩
  | _ => exact .inl (by decide)

/-- A statement behind a separator skips it, and is a statement without it. -/
theorem Derives.exists_of_behind {separator : Token} {tree : Statement}
    (kind : separator.kind = .separator)
    (derives : Derives endLine .statement (separator :: input) (.statement tree) rest) :
    ∃ inner : Statement, Derives endLine .statement input (.statement inner) rest ∧
      tree = inner.behind ⟨separator⟩ := by
  obtain ⟨leaves, inner, rfl⟩ := derives.nextKind_eq_separator_iff.mp kind
  obtain ⟨separators, middle, split, rfl, nonempty, kinds, behind, part⟩ :=
    derives.exists_separators
  obtain ⟨_, separators, rfl⟩ := List.exists_cons_of_ne_nil nonempty
  obtain ⟨rfl, rfl⟩ := List.cons_eq_cons.mp split
  by_cases single : separators = []
  · subst single
    exact ⟨inner, part, (part.behind_eq_skip behind).symm⟩
  · exact ⟨_, .statementSkip single (List.forall_mem_cons.mp kinds).2 behind part, rfl⟩

/-- What may follow a separator may also follow two. -/
theorem Derives.exists_added {symbol : Symbol} {blank : Token} (follows : symbol.FollowsSeparator)
    (kind : blank.kind = .separator) (derives : Derives endLine symbol input node rest) :
    ∃ node', Derives endLine symbol (blank :: input) node' rest ∧
      node'.condense = node.condense := by
  rcases follows with rfl | rfl | rfl
  · obtain ⟨program, rfl⟩ := (reads_of_derives derives).produces
    refine ⟨_, .program (.itemEmpty kind) (.programMore kind derives), ?_⟩
    exact congrArg Node.program (Program.condense_empty _ _)
  · cases derives with
    | statementList states more =>
      refine ⟨_, .statementList (states.behind kind) more, ?_⟩
      rw [Node.condense, Node.condense, StatementList.condense, StatementList.condense,
        Statement.condense_behind]
  · obtain ⟨statement, rfl⟩ := (reads_of_derives derives).produces
    exact ⟨_, derives.behind kind, congrArg Node.statement (Statement.condense_behind _ _)⟩

/-- What follows two separators may also follow one. -/
theorem Derives.exists_removed {symbol : Symbol} {blank : Token}
    (follows : symbol.FollowsSeparator) (kind : blank.kind = .separator)
    (derives : Derives endLine symbol (blank :: input) node rest) :
    ∃ node', Derives endLine symbol input node' rest ∧ node'.condense = node.condense := by
  rcases follows with rfl | rfl | rfl
  · cases derives with
    | program first more =>
      cases first with
      | itemDeclaration starts _ => simp [StartsDeclaration, nextKind, kind] at starts
      | itemStatement _ notBlank _ => exact absurd kind notBlank
      | itemEmpty _ =>
        cases more with
        | programStop stops => exact absurd kind stops
        | programMore _ part =>
          exact ⟨_, part, congrArg Node.program (Program.condense_empty _ _).symm⟩
  · cases derives with
    | statementList states more =>
      obtain ⟨inner, part, rfl⟩ := states.exists_of_behind kind
      refine ⟨_, .statementList part more, ?_⟩
      rw [Node.condense, Node.condense, StatementList.condense, StatementList.condense,
        Statement.condense_behind]
  · obtain ⟨statement, rfl⟩ := (reads_of_derives derives).produces
    obtain ⟨inner, part, rfl⟩ := derives.exists_of_behind kind
    exact ⟨_, part, congrArg Node.statement (Statement.condense_behind _ _).symm⟩

/-! ## Reading with and without the blank line -/

/-- The symbol is read to the same node, up to blank lines, from every token list that differs by a
blank line. Behind a separator the blank line may be what is left first. -/
def ReadsAlike (endLine : Nat) (symbol : Symbol) (input : List Token) (node : Node)
    (rest : List Token) : Prop :=
  symbol ≠ .leaf .eof → ∀ {input'}, BlankLine input input' →
    ∃ node' rest', Reads endLine symbol input' node' rest' ∧ node'.condense = node.condense ∧
      (symbol ≠ .leaf .separator → BlankLine rest rest') ∧ BlankLine.Behind rest rest'

/-- A blank line behind a separator is read with what follows the separator. -/
theorem ReadsAlike.exists_of_behind {symbol : Symbol}
    (alike : ReadsAlike endLine symbol input node rest) (follows : symbol.FollowsSeparator)
    (behind : BlankLine.Behind input input') :
    ∃ node' rest', Reads endLine symbol input' node' rest' ∧ node'.condense = node.condense ∧
      BlankLine rest rest' := by
  have notion (kind : TokenKind) : symbol ≠ .leaf kind := by
    rcases follows with rfl | rfl | rfl <;> simp
  obtain related | ⟨blank, kind, related⟩ := behind
  · obtain ⟨node', rest', reads, same, further, _⟩ := alike (notion _) related
    exact ⟨node', rest', reads, same, further (notion _)⟩
  · obtain ⟨node', rest', reads, same, further, _⟩ := alike (notion _) (.same _)
    rcases related with rfl | rfl
    · obtain ⟨added, derives, same'⟩ := (derives_of_reads reads).exists_added follows kind
      exact ⟨added, rest', reads_of_derives derives, same'.trans same, further (notion _)⟩
    · obtain ⟨removed, derives, same'⟩ := (derives_of_reads reads).exists_removed follows kind
      exact ⟨removed, rest', reads_of_derives derives, same'.trans same, further (notion _)⟩

/-- Symbols of which none is a separator are read alike if each of them is. -/
theorem InSequence.exists_alike {symbols : List Symbol} {nodes : List Node}
    (parts : InSequence (ReadsAlike endLine) symbols input nodes rest)
    (notEnd : ∀ symbol ∈ symbols, symbol ≠ .leaf .eof)
    (inner : ∀ symbol ∈ symbols, symbol ≠ .leaf .separator) (related : BlankLine input input') :
    ∃ nodes' rest', InSequence (Reads endLine) symbols input' nodes' rest' ∧
      nodes'.map Node.condense = nodes.map Node.condense ∧ BlankLine rest rest' := by
  induction parts generalizing input' with
  | nil => exact ⟨[], input', .nil, rfl, related⟩
  | cons head _ ih =>
    obtain ⟨notHead, notTail⟩ := List.forall_mem_cons.mp notEnd
    obtain ⟨innerHead, innerTail⟩ := List.forall_mem_cons.mp inner
    obtain ⟨node', middle', reads, same, further, _⟩ := head notHead related
    obtain ⟨nodes', rest', tail, sameTail, related'⟩ := ih notTail innerTail (further innerHead)
    refine ⟨node' :: nodes', rest', .cons reads tail, ?_, related'⟩
    rw [List.map_cons, List.map_cons, same, sameTail]

/-- The symbols of a production are read alike if each of them is. -/
theorem Production.exists_alike {production : Production} {nodes : List Node}
    (parts : InSequence (ReadsAlike endLine) production.rhs input nodes rest)
    (related : BlankLine input input') :
    ∃ nodes' rest', InSequence (Reads endLine) production.rhs input' nodes' rest' ∧
      nodes'.map Node.condense = nodes.map Node.condense ∧ BlankLine rest rest' := by
  rcases production.rhs_separator with inner | ⟨symbol, pair, follows⟩
  · exact parts.exists_alike (fun _ => production.ne_leaf_eof_of_mem_rhs) inner related
  · rw [pair] at parts ⊢
    -- The separator is there with and without the blank line, which may be the next token.
    cases parts with
    | cons separator tail =>
      cases tail with
      | cons part tail =>
        cases tail with
        | nil =>
          obtain ⟨mark, middle', reads, same, _, behind⟩ := separator (by simp) related
          obtain ⟨node', rest', readsPart, samePart, related'⟩ :=
            part.exists_of_behind follows behind
          refine ⟨[mark, node'], rest', .cons reads (.cons readsPart .nil), ?_, related'⟩
          simp only [List.map_cons, List.map_nil, same, samePart]

/-- Every reading is alike with and without a blank line. -/
theorem Reads.alike {symbol : Symbol} (reads : Reads endLine symbol input node rest) :
    ReadsAlike endLine' symbol input node rest := by
  refine Reads.rule_induction (motive := ReadsAlike endLine') ?_ ?_ reads
  · intro symbol input consumed notEnd input' related
    have consumed' : symbol.rule.feed symbol (windowAt endLine' input') = .ok .consumed :=
      feed_eq_ok_of_alike (related.seenAlike symbol) consumed
    obtain rfl := Symbol.eq_leaf_of_consumed consumed
    cases input with
    | nil => exact absurd rfl notEnd
    | cons token tokens =>
      obtain ⟨tokens', rfl, further, behind⟩ := related.exists_cons
      refine ⟨_, _, .token consumed', ?_, ?_, behind⟩
      · rw [windowAt_current_cons, windowAt_current_cons]
      · intro other
        refine further fun kind => other ?_
        rw [windowAt_current_cons, kind]
  · intro symbol input rest production nodes node expanded parts assembled _ input' related
    have expanded' : symbol.rule.feed symbol (windowAt endLine' input') =
        .ok (.expand production) :=
      feed_eq_ok_of_alike (related.seenAlike symbol) expanded
    obtain ⟨nodes', rest', parts', same, related'⟩ := production.exists_alike parts related
    obtain ⟨node', assembled', _⟩ := exists_assemble (parts'.forall₂ Reads.produces)
    exact ⟨node', rest', .production expanded' parts' assembled',
      condense_assemble same assembled assembled', fun _ => related', .inl related'⟩

/-- With or without a blank line, a token list is parsed to the same program, up to skips and empty
items. -/
theorem exists_parse_of_blankLine {tokens tokens' : List Token} {program : Program}
    (related : BlankLine tokens tokens') (parsed : parse tokens = .ok program) :
    ∃ program', parse tokens' = .ok program' ∧ program'.condense = program.condense := by
  obtain ⟨rest, reads, ended⟩ := parseAs_eq_ok_iff.mp (parse_eq_ok_iff.mp parsed)
  have alike : ReadsAlike (endLine tokens') .program tokens (.program program) rest := reads.alike
  obtain ⟨node', rest', reads', same, further, _⟩ := alike (by simp) related
  obtain ⟨program', rfl⟩ := reads'.produces
  refine ⟨program', ?_, Node.program.inj same⟩
  refine parse_eq_ok_iff.mpr (parseAs_eq_ok_iff.mpr ⟨rest', reads', ?_⟩)
  rw [windowAt_current_kind] at ended ⊢
  rw [(further (by simp)).nextKind_eq, ended]

end DimLang
