import DimLang.Proofs.Grammar.Agreement
import Mathlib.Data.List.Forall2
import Mathlib.Logic.Relation

/-!
# Moves of the parser

What the parser does next depends on the pending entries and on the tokens that are left, never on
the nodes that are finished. `Moves` is one action in this sense, and `Reaches` any number of them.
The finished nodes only have to fit: each is a tree of the type that its symbol produces, and the
pending entries work them off into one tree of the root (`Fits`). Every action keeps this, so that
assembly never fails, and parsing has exactly the outcome of the moves:

- `exists_stopped`: the moves end, in an agenda that is worked off or that rejects the next token
- `exists_parseAs_of_accepts`: if all is worked off at the end of the input, there is a tree
- `parseAs_eq_error_iff`: parsing fails with an error exactly if the moves end in rejecting it
-/

namespace DimLang

/-! ## The trees of a symbol -/

/-- The notion that the production expands. -/
def Production.notion : Production → Symbol
  | program => .program
  | programItemDeclaration | programItemStatement | programItemEmpty => .programItem
  | programTailMore | programTailEnd => .programTail
  | declarationKeyword | declarationColon => .declaration
  | identifierList => .identifierList
  | identifierListMore | identifierListEnd => .identifierListTail
  | statementAssignment | statementBlock | statementCondition | statementFor | statementWhile
  | statementRead | statementWrite | statementSkip | statementEmpty => .statement
  | assignment => .assignment
  | condition => .condition
  | conditionElse | conditionEnd => .conditionTail
  | forLoop => .forLoop
  | whileLoop => .whileLoop
  | nestedBlock => .nestedBlock
  | statementList => .statementList
  | statementListMore | statementListEnd => .statementListTail
  | reading => .reading
  | writing => .writing
  | expressionList => .expressionList
  | expressionListMore | expressionListEnd => .expressionListTail
  | expression => .expression
  | expressionComparison | expressionTailEnd => .expressionTail
  | operand => .operand
  | operandMore | operandEnd => .operandTail
  | addend => .addend
  | addendMore | addendEnd => .addendTail
  | factorIdentifier | factorNumber | factorBool | factorNot | factorGroup => .factor
  | numberInt | numberFloat => .number

/-- The productions of a symbol are for its notion. -/
theorem Production.notion_eq_of_mem {symbol : Symbol} {production : Production}
    (member : production ∈ symbol.rule.productions) : production.notion = symbol := by
  have notions : ∀ production ∈ symbol.rule.productions, production.notion = symbol := by
    cases symbol with
    | leaf kind => simp [Symbol.rule, Rule.productions]
    | _ => decide
  exact notions production member

/-- The node is of the type that the symbol produces: a name, a constant or a mark for a leaf, as
its kind demands, and a tree of the notion otherwise. -/
def Symbol.Produces : Symbol → Node → Prop
  | leaf .identifier, node => ∃ tree, node = .identifier tree
  | leaf .intNumber, node | leaf .floatNumber, node | leaf .boolConst, node =>
    ∃ tree, node = .literal tree
  | leaf _, node => ∃ tree, node = .leaf tree
  | program, node => ∃ tree, node = .program tree
  | programItem, node => ∃ tree, node = .programItem tree
  | programTail, node => ∃ tree, node = .programTail tree
  | declaration, node => ∃ tree, node = .declaration tree
  | identifierList, node => ∃ tree, node = .identifierList tree
  | identifierListTail, node => ∃ tree, node = .identifierListTail tree
  | statement, node => ∃ tree, node = .statement tree
  | statementList, node => ∃ tree, node = .statementList tree
  | statementListTail, node => ∃ tree, node = .statementListTail tree
  | assignment, node => ∃ tree, node = .assignment tree
  | condition, node => ∃ tree, node = .condition tree
  | conditionTail, node => ∃ tree, node = .conditionTail tree
  | forLoop, node => ∃ tree, node = .forLoop tree
  | whileLoop, node => ∃ tree, node = .whileLoop tree
  | nestedBlock, node => ∃ tree, node = .nestedBlock tree
  | reading, node => ∃ tree, node = .reading tree
  | writing, node => ∃ tree, node = .writing tree
  | expressionList, node => ∃ tree, node = .expressionList tree
  | expressionListTail, node => ∃ tree, node = .expressionListTail tree
  | expression, node => ∃ tree, node = .expression tree
  | expressionTail, node => ∃ tree, node = .expressionTail tree
  | operand, node => ∃ tree, node = .operand tree
  | operandTail, node => ∃ tree, node = .operandTail tree
  | addend, node => ∃ tree, node = .addend tree
  | addendTail, node => ∃ tree, node = .addendTail tree
  | factor, node => ∃ tree, node = .factor tree
  | number, node => ∃ tree, node = .number tree

/-- The leaf of a kind produces the node of a token of this kind. -/
theorem produces_ofToken (token : Token) :
    (Symbol.leaf token.kind).Produces (.ofToken token) := by
  rw [Node.ofToken]
  cases token.kind <;> exact ⟨_, rfl⟩

/-- Trees of the types that its symbols produce are all that a production needs. -/
theorem exists_assemble {production : Production} {nodes : List Node}
    (produced : List.Forall₂ Symbol.Produces production.rhs nodes) :
    ∃ node, production.assemble nodes = .ok node ∧ production.notion.Produces node := by
  cases production with
  | programItemEmpty | programTailEnd | identifierListEnd | statementEmpty | conditionEnd
  | statementListEnd | expressionListEnd | expressionTailEnd | operandEnd | addendEnd =>
    cases produced
    exact ⟨_, rfl, _, rfl⟩
  | programItemDeclaration | programItemStatement | statementAssignment | statementBlock
  | statementCondition | statementFor | statementWhile | statementRead | statementWrite
  | factorIdentifier | factorNumber | factorBool | numberInt | numberFloat =>
    obtain _ | ⟨⟨_, rfl⟩, _ | _⟩ := produced
    exact ⟨_, rfl, _, rfl⟩
  | program | programTailMore | identifierList | identifierListMore | statementSkip
  | conditionElse | statementList | statementListMore | expressionList | expressionListMore
  | expression | expressionComparison | operand | operandMore | addend | addendMore
  | factorNot =>
    obtain _ | ⟨⟨_, rfl⟩, _ | ⟨⟨_, rfl⟩, _ | _⟩⟩ := produced
    exact ⟨_, rfl, _, rfl⟩
  | declarationKeyword | declarationColon | assignment | nestedBlock | factorGroup =>
    obtain _ | ⟨⟨_, rfl⟩, _ | ⟨⟨_, rfl⟩, _ | ⟨⟨_, rfl⟩, _ | _⟩⟩⟩ := produced
    exact ⟨_, rfl, _, rfl⟩
  | whileLoop | reading | writing =>
    obtain _ | ⟨⟨_, rfl⟩, _ | ⟨⟨_, rfl⟩, _ | ⟨⟨_, rfl⟩, _ | ⟨⟨_, rfl⟩, _ | _⟩⟩⟩⟩ := produced
    exact ⟨_, rfl, _, rfl⟩
  | condition =>
    obtain _ | ⟨⟨_, rfl⟩, _ | ⟨⟨_, rfl⟩, _ | ⟨⟨_, rfl⟩, _ | ⟨⟨_, rfl⟩, _ | ⟨⟨_, rfl⟩,
      _ | _⟩⟩⟩⟩⟩ := produced
    exact ⟨_, rfl, _, rfl⟩
  | forLoop =>
    obtain _ | ⟨⟨_, rfl⟩, _ | ⟨⟨_, rfl⟩, _ | ⟨⟨_, rfl⟩, _ | ⟨⟨_, rfl⟩, _ | ⟨⟨_, rfl⟩,
      _ | ⟨⟨_, rfl⟩, _ | _⟩⟩⟩⟩⟩⟩ := produced
    exact ⟨_, rfl, _, rfl⟩

/-! ## Moves -/

/-- What the parser still has to do and the tokens that are left. -/
structure Agenda where
  pending : List Pending
  rest : List Token

/-- One action of the parser, without the nodes that it finishes. -/
inductive Moves (endLine : Nat) : Agenda → Agenda → Prop
  | consume {symbol : Symbol} {pending : List Pending} {input : List Token}
      (consumed : symbol.rule.feed symbol (windowAt endLine input) = .ok .consumed) :
      Moves endLine ⟨.symbol symbol :: pending, input⟩ ⟨pending, input.tail⟩
  | expand {symbol : Symbol} {production : Production} {pending : List Pending}
      {input : List Token}
      (expanded : symbol.rule.feed symbol (windowAt endLine input) = .ok (.expand production)) :
      Moves endLine ⟨.symbol symbol :: pending, input⟩
        ⟨production.rhs.map .symbol ++ .reduce production :: pending, input⟩
  | reduce {production : Production} {pending : List Pending} {input : List Token} :
      Moves endLine ⟨.reduce production :: pending, input⟩ ⟨pending, input⟩

/-- Any number of actions. -/
abbrev Reaches (endLine : Nat) : Agenda → Agenda → Prop :=
  Relation.ReflTransGen (Moves endLine)

namespace Agenda

/-- Everything is worked off at the end of the input. -/
def Accepts (agenda : Agenda) : Prop :=
  agenda.pending = [] ∧ nextKind agenda.rest = .eof

/-- The next token is rejected: the symbol on top cannot take it, or nothing is pending. -/
inductive Rejects (endLine : Nat) : Agenda → ParseError → Prop
  | symbol {symbol : Symbol} {pending : List Pending} {input : List Token} {error : ParseError}
      (failed : symbol.rule.feed symbol (windowAt endLine input) = .error error) :
      Rejects endLine ⟨.symbol symbol :: pending, input⟩ error
  | trailing {input : List Token} (left : nextKind input ≠ .eof) :
      Rejects endLine ⟨[], input⟩
        (.trailingInput (windowAt endLine input).current.shown
          (windowAt endLine input).current.line)

end Agenda

/-- The error is about the token: it has its text and its line. -/
def ParseError.Names (token : Token) : ParseError → Prop
  | unexpectedToken _ found line => found = token.shown ∧ line = token.line
  | noAlternative _ _ found line => found = token.shown ∧ line = token.line
  | trailingInput found line => found = token.shown ∧ line = token.line
  | malformed _ _ _ => False

/-- The error of a rule names the current token. -/
theorem Rule.names_of_feed_eq_error {symbol : Symbol} {window : Window} {rule : Rule}
    {error : ParseError} (failed : rule.feed symbol window = .error error) :
    error.Names window.current := by
  cases rule with
  | leaf kind =>
    rw [feed] at failed
    split at failed
    · cases failed
    · cases failed
      exact ⟨rfl, rfl⟩
  | choice table =>
    rw [feed] at failed
    split at failed
    · cases failed
    · cases failed
      exact ⟨rfl, rfl⟩
  | expand production => cases failed
  | tail accepts more stop =>
    rw [feed] at failed
    split at failed <;> cases failed

section Moves

variable {endLine : Nat}

/-- The error of an agenda that is rejected names the next token. -/
theorem Agenda.Rejects.names {agenda : Agenda} {error : ParseError}
    (rejects : agenda.Rejects endLine error) :
    error.Names (windowAt endLine agenda.rest).current := by
  cases rejects with
  | symbol failed => exact Rule.names_of_feed_eq_error failed
  | trailing left => exact ⟨rfl, rfl⟩

/-- A move leaves a suffix of the tokens. -/
theorem Moves.suffix {agenda next : Agenda} (moves : Moves endLine agenda next) :
    next.rest <:+ agenda.rest := by
  cases moves with
  | consume => exact List.tail_suffix _
  | expand | reduce => exact List.suffix_refl _

/-- What is reached has a suffix of the tokens left. -/
theorem Reaches.suffix {agenda later : Agenda} (reaches : Reaches endLine agenda later) :
    later.rest <:+ agenda.rest := by
  induction reaches with
  | refl => exact List.suffix_refl _
  | tail _ moves ih => exact moves.suffix.trans ih

/-- What is pending below does not matter. -/
theorem Moves.append {agenda next : Agenda} (moves : Moves endLine agenda next)
    (below : List Pending) :
    Moves endLine ⟨agenda.pending ++ below, agenda.rest⟩ ⟨next.pending ++ below, next.rest⟩ := by
  cases moves with
  | consume consumed => exact .consume consumed
  | @expand symbol production pending input expanded =>
    simpa only [List.append_assoc, List.cons_append] using
      @Moves.expand endLine symbol production (pending ++ below) input expanded
  | reduce => exact .reduce

/-- An agenda gets as far with more work below. -/
theorem Reaches.append {agenda later : Agenda} (reaches : Reaches endLine agenda later)
    (below : List Pending) :
    Reaches endLine ⟨agenda.pending ++ below, agenda.rest⟩
      ⟨later.pending ++ below, later.rest⟩ := by
  induction reaches with
  | refl => exact .refl
  | tail _ moves ih => exact ih.tail (moves.append below)

/-- A symbol that is read is worked off. -/
theorem reaches_of_reads {symbol : Symbol} {input rest : List Token} {node : Node}
    (reads : Reads endLine symbol input node rest) (pending : List Pending) :
    Reaches endLine ⟨.symbol symbol :: pending, input⟩ ⟨pending, rest⟩ := by
  have sequence {symbols : List Symbol} {input rest : List Token} {nodes : List Node}
      (parts : InSequence (fun symbol input _ rest => ∀ pending,
        Reaches endLine ⟨.symbol symbol :: pending, input⟩ ⟨pending, rest⟩)
        symbols input nodes rest) (pending : List Pending) :
      Reaches endLine ⟨symbols.map .symbol ++ pending, input⟩ ⟨pending, rest⟩ := by
    induction parts with
    | nil => exact .refl
    | cons head _ ih => exact (head _).trans ih
  refine Reads.rule_induction (motive := fun symbol input _ rest => ∀ pending,
    Reaches endLine ⟨.symbol symbol :: pending, input⟩ ⟨pending, rest⟩) ?_ ?_ reads pending
  · intro symbol input consumed pending
    exact .single (.consume consumed)
  · intro symbol input rest production nodes node expanded parts _ pending
    have worked := sequence parts (.reduce production :: pending)
    exact .head (.expand expanded) (worked.tail .reduce)

/-! ## The moves end -/

/-- Every move decreases what every action of the parser decreases. -/
theorem Moves.decreases {agenda next : Agenda} (moves : Moves endLine agenda next) :
    Prod.Lex (· < ·) (Prod.Lex (· < ·) (· < ·))
      (next.rest.length, next.pending.countP Pending.awaitsEnd, Pending.distance next.pending)
      (agenda.rest.length, agenda.pending.countP Pending.awaitsEnd,
        Pending.distance agenda.pending) := by
  cases moves with
  | @consume symbol pending input consumed =>
    have acts : ParseState.step endLine input [] pending (.symbol symbol) =
        .ok ⟨input.tail, pending, [.ofToken (windowAt endLine input).current]⟩ := by
      rw [ParseState.step, ParseState.feed]
      simp only [consumed]
    exact ParseState.step_decreases acts
  | @expand symbol production pending input expanded =>
    have acts : ParseState.step endLine input [] pending (.symbol symbol) =
        .ok ⟨input, production.rhs.map .symbol ++ .reduce production :: pending, []⟩ := by
      rw [ParseState.step, ParseState.feed]
      simp only [expanded]
    exact ParseState.step_decreases acts
  | reduce =>
    rw [List.countP_cons_of_neg (by simp [Pending.awaitsEnd])]
    exact .right _ (.right _ (by simp only [Pending.distance]; omega))

/-- There is no endless sequence of moves. -/
theorem moves_wellFounded (endLine : Nat) :
    WellFounded fun next agenda => Moves endLine agenda next := by
  have lexicographic := (inferInstance : WellFoundedRelation (Nat × Nat × Nat)).wf
  exact Subrelation.wf Moves.decreases (InvImage.wf (fun agenda : Agenda =>
    (agenda.rest.length, agenda.pending.countP Pending.awaitsEnd,
      Pending.distance agenda.pending)) lexicographic)

/-- The moves end, with everything worked off or with a token that is rejected. -/
theorem exists_stopped (endLine : Nat) (agenda : Agenda) :
    ∃ stopped, Reaches endLine agenda stopped ∧
      (stopped.Accepts ∨ ∃ error, stopped.Rejects endLine error) := by
  induction agenda using (moves_wellFounded endLine).induction with
  | _ agenda ih =>
  have further {next : Agenda} (moves : Moves endLine agenda next) :
      ∃ stopped, Reaches endLine agenda stopped ∧
        (stopped.Accepts ∨ ∃ error, stopped.Rejects endLine error) := by
    obtain ⟨stopped, reaches, stops⟩ := ih next moves
    exact ⟨stopped, .head moves reaches, stops⟩
  obtain ⟨pending, input⟩ := agenda
  match pending with
  | [] =>
    by_cases ended : nextKind input = .eof
    · exact ⟨_, .refl, .inl ⟨rfl, ended⟩⟩
    · exact ⟨_, .refl, .inr ⟨_, .trailing ended⟩⟩
  | .reduce production :: pending => exact further .reduce
  | .symbol symbol :: pending =>
    cases fed : symbol.rule.feed symbol (windowAt endLine input) with
    | error error => exact ⟨_, .refl, .inr ⟨error, .symbol fed⟩⟩
    | ok reaction =>
      cases reaction with
      | consumed => exact further (.consume fed)
      | expand production => exact further (.expand fed)

/-! ## The finished nodes fit -/

/-- Working off the pending entries turns a finished stack of trees of the given symbols, top
first, into one tree of the root. -/
def Pending.WorksOff (root : Symbol) : List Pending → List Symbol → Prop
  | [], symbols => symbols = [root]
  | symbol next :: pending, symbols => WorksOff root pending (next :: symbols)
  | reduce production :: pending, symbols =>
    ∃ below, symbols = production.rhs.reverse ++ below ∧
      WorksOff root pending (production.notion :: below)

/-- Symbols of an agenda work off what they ask for. -/
theorem Pending.worksOff_symbols {root : Symbol} {pending : List Pending}
    (front : List Symbol) {symbols : List Symbol}
    (worksOff : WorksOff root pending (front.reverse ++ symbols)) :
    WorksOff root (front.map .symbol ++ pending) symbols := by
  induction front generalizing symbols with
  | nil => exact worksOff
  | cons symbol front ih =>
    rw [List.reverse_cons, List.append_assoc, List.singleton_append] at worksOff
    exact ih worksOff

/-- The finished nodes are trees of symbols that the pending entries work off. -/
def Fits (root : Symbol) (pending : List Pending) (finished : List Node) : Prop :=
  ∃ symbols, List.Forall₂ Symbol.Produces symbols finished ∧ Pending.WorksOff root pending symbols

/-- The initial agenda fits the empty stack. -/
theorem fits_root (root : Symbol) : Fits root [.symbol root] [] :=
  ⟨[], .nil, rfl⟩

/-- An agenda that is worked off leaves one node, which its root produces. -/
theorem exists_of_fits_nil {root : Symbol} {finished : List Node} (fits : Fits root [] finished) :
    ∃ node, finished = [node] ∧ root.Produces node := by
  obtain ⟨symbols, produced, rfl⟩ := fits
  obtain _ | ⟨produces, _ | _⟩ := produced
  exact ⟨_, rfl, produces⟩

/-- If a production is due, its children are on top of the finished stack. -/
theorem exists_of_fits_reduce {root : Symbol} {production : Production} {pending : List Pending}
    {finished : List Node} (fits : Fits root (.reduce production :: pending) finished) :
    ∃ nodes node below, finished = nodes.reverse ++ below ∧
      nodes.length = production.rhs.length ∧ production.assemble nodes = .ok node ∧
        Fits root pending (node :: below) := by
  obtain ⟨_, produced, below, rfl, worksOff⟩ := fits
  have arity : production.rhs.length = production.rhs.reverse.length := by
    rw [List.length_reverse]
  have top := List.forall₂_take production.rhs.length produced
  have bottom := List.forall₂_drop production.rhs.length produced
  rw [arity, List.take_left, ← arity] at top
  rw [arity, List.drop_left, ← arity] at bottom
  have parts := List.rel_reverse top
  rw [List.reverse_reverse] at parts
  obtain ⟨node, assembled, produces⟩ := exists_assemble parts
  refine ⟨_, node, finished.drop production.rhs.length, ?_, parts.length_eq.symm, assembled, ?_⟩
  · rw [List.reverse_reverse, List.take_append_drop]
  · exact ⟨_, .cons produces bottom, worksOff⟩

/-- The parser follows every move, and the finished nodes still fit. -/
theorem run_of_moves {root : Symbol} {pending : List Pending} {input : List Token}
    {finished : List Node} {next : Agenda} (fits : Fits root pending finished)
    (moves : Moves endLine ⟨pending, input⟩ next) :
    ∃ finished', Fits root next.pending finished' ∧
      ParseState.run endLine input finished pending =
        ParseState.run endLine next.rest finished' next.pending := by
  cases moves with
  | @consume symbol pending _ consumed =>
    obtain ⟨symbols, produced, worksOff⟩ := fits
    have produces := produces_ofToken (windowAt endLine input).current
    rw [← Symbol.eq_leaf_of_consumed consumed] at produces
    refine ⟨_, ⟨_, .cons produces produced, worksOff⟩, ?_⟩
    rw [ParseState.run_cons, ParseState.step, ParseState.feed]
    simp only [consumed]
  | @expand symbol production pending _ expanded =>
    obtain ⟨symbols, produced, worksOff⟩ := fits
    have notion := Production.notion_eq_of_mem (Rule.mem_productions_of_feed expanded)
    refine ⟨finished, ⟨symbols, produced, ?_⟩, ?_⟩
    · rw [← notion] at worksOff
      exact Pending.worksOff_symbols production.rhs ⟨symbols, rfl, worksOff⟩
    · rw [ParseState.run_cons, ParseState.step, ParseState.feed]
      simp only [expanded]
  | @reduce production pending _ =>
    obtain ⟨nodes, node, below, rfl, arity, assembled, fits⟩ := exists_of_fits_reduce fits
    refine ⟨node :: below, fits, ?_⟩
    rw [ParseState.run_cons, ParseState.step,
      ParseState.reduce_of_assemble input pending below arity assembled]

/-- The run goes on from every agenda that is reached. -/
theorem run_of_reaches {root : Symbol} {agenda later : Agenda} {finished : List Node}
    (fits : Fits root agenda.pending finished) (reaches : Reaches endLine agenda later) :
    ∃ finished', Fits root later.pending finished' ∧
      ParseState.run endLine agenda.rest finished agenda.pending =
        ParseState.run endLine later.rest finished' later.pending := by
  induction reaches with
  | refl => exact ⟨finished, fits, rfl⟩
  | tail _ moves ih =>
    obtain ⟨_, fits, same⟩ := ih
    obtain ⟨finished', fits, same'⟩ := run_of_moves fits moves
    exact ⟨finished', fits, same.trans same'⟩

end Moves

/-! ## The outcome of parsing -/

variable {root : Symbol} {tokens : List Token} {stopped : Agenda} {error : ParseError}

/-- If everything is worked off at the end of the input, there is a tree of the root. -/
theorem exists_parseAs_of_accepts
    (reaches : Reaches (endLine tokens) ⟨[.symbol root], tokens⟩ stopped)
    (accepts : stopped.Accepts) :
    ∃ node, root.Produces node ∧ parseAs root tokens = .ok node := by
  obtain ⟨pending, rest⟩ := stopped
  obtain ⟨rfl, ended⟩ := accepts
  obtain ⟨finished, fits, same⟩ := run_of_reaches (fits_root root) reaches
  obtain ⟨node, rfl, produces⟩ := exists_of_fits_nil fits
  refine ⟨node, produces, ?_⟩
  rw [ParseState.run] at same
  rw [parseAs, same]
  simp only [windowAt_current_kind, ended, ne_eq, not_true_eq_false, ↓reduceIte]

/-- An agenda that is reached and rejected is the error of the parser. -/
theorem parseAs_of_rejects
    (reaches : Reaches (endLine tokens) ⟨[.symbol root], tokens⟩ stopped)
    (rejects : stopped.Rejects (endLine tokens) error) : parseAs root tokens = .error error := by
  obtain ⟨finished, _, same⟩ := run_of_reaches (fits_root root) reaches
  cases rejects with
  | @symbol symbol pending input _ failed =>
    have stops : ParseState.run (endLine tokens) input finished (.symbol symbol :: pending) =
        .error error := by
      rw [ParseState.run_cons, ParseState.step, ParseState.feed]
      simp only [failed]
    rw [parseAs, same.trans stops]
  | trailing left =>
    rw [ParseState.run] at same
    rw [parseAs, same]
    simp only [windowAt_current_kind, left, ne_eq, not_false_eq_true, ↓reduceIte]

/-- Parsing fails with an error exactly if the moves end in an agenda that rejects with it. -/
theorem parseAs_eq_error_iff :
    parseAs root tokens = .error error ↔
      ∃ stopped, Reaches (endLine tokens) ⟨[.symbol root], tokens⟩ stopped ∧
        stopped.Rejects (endLine tokens) error := by
  constructor
  · intro failed
    obtain ⟨stopped, reaches, accepts | ⟨found, rejects⟩⟩ :=
      exists_stopped (endLine tokens) ⟨[.symbol root], tokens⟩
    · obtain ⟨node, _, parsed⟩ := exists_parseAs_of_accepts reaches accepts
      rw [parsed] at failed
      cases failed
    · rw [parseAs_of_rejects reaches rejects] at failed
      cases failed
      exact ⟨stopped, reaches, rejects⟩
  · rintro ⟨stopped, reaches, rejects⟩
    exact parseAs_of_rejects reaches rejects

/-- Whatever is parsed is a tree of the root. -/
theorem produces_of_parseAs {node : Node} (parsed : parseAs root tokens = .ok node) :
    root.Produces node := by
  obtain ⟨stopped, reaches, accepts | ⟨found, rejects⟩⟩ :=
    exists_stopped (endLine tokens) ⟨[.symbol root], tokens⟩
  · obtain ⟨_, produces, same⟩ := exists_parseAs_of_accepts reaches accepts
    rw [parsed] at same
    cases same
    exact produces
  · rw [parseAs_of_rejects reaches rejects] at parsed
    cases parsed

/-- Parsing as a program fails exactly with the errors of the moves. -/
theorem parse_eq_error_iff :
    parse tokens = .error error ↔ parseAs .program tokens = .error error := by
  rw [parse]
  cases parsed : parseAs .program tokens with
  | error found => simp
  | ok node =>
    obtain ⟨program, rfl⟩ := produces_of_parseAs parsed
    simp

/-- Parsing a program is parsing its tokens as the notion of programs. -/
theorem parse_eq_ok_iff {program : Program} :
    parse tokens = .ok program ↔ parseAs .program tokens = .ok (.program program) := by
  rw [parse]
  cases parsed : parseAs .program tokens with
  | error found => simp
  | ok node =>
    obtain ⟨program, rfl⟩ := produces_of_parseAs parsed
    simp

/-- What is derived from all tokens is parsed. -/
theorem parseAs_of_derives {node : Node} {line : Nat}
    (derives : Derives line root tokens node []) (last : endLine tokens = line) :
    parseAs root tokens = .ok node := by
  subst last
  exact parseAs_eq_ok_iff.mpr ⟨[], reads_of_derives derives, rfl⟩

/-- A program that is derived from all tokens is parsed. -/
theorem parse_of_derives {program : Program} {line : Nat}
    (derives : Derives line .program tokens (.program program) [])
    (last : endLine tokens = line) : parse tokens = .ok program :=
  parse_eq_ok_iff.mpr (parseAs_of_derives derives last)

end DimLang
