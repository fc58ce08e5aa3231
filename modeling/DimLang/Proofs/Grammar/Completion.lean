import DimLang.Proofs.Grammar.Leaves
import DimLang.Proofs.Grammar.Moves

/-!
# Completing what is pending

Every symbol has a phrase, which ends where the next token does not continue a tail
(`exists_derives_phrase`). Behind the first pending symbol stand only symbols that follow another
one in their production (`Resumable`), and none of their phrases begins with a token that continues
a tail. The phrases of the pending symbols, one after the other, therefore complete what is pending
(`reaches_completion`).
-/

namespace DimLang

/-! ## Phrases -/

/-- The kinds that continue a tail. -/
def TokenKind.ContinuesTail (kind : TokenKind) : Prop :=
  kind ∈ [separator, comma, elseWord, relationOp, addOp, mulOp]

instance (kind : TokenKind) : Decidable kind.ContinuesTail :=
  inferInstanceAs (Decidable (_ ∈ _))

/-- A token of the kind. -/
def TokenKind.sample (kind : TokenKind) : Token :=
  ⟨kind, kind.describe, 1⟩

/-- The kinds of a phrase of the symbol. Tails are left empty, a statement is an empty block and
an expression is a number. -/
def Symbol.phraseKinds : Symbol → List TokenKind
  | leaf kind => [kind]
  | program | programItem | statement | statementList | nestedBlock => [.beginWord, .endWord]
  | declaration => [.dimWord, .identifier, .typeName]
  | identifierList => [.identifier]
  | assignment => [.identifier, .asWord, .intNumber]
  | condition => [.ifWord, .intNumber, .thenWord, .beginWord, .endWord]
  | forLoop =>
    [.forWord, .identifier, .asWord, .intNumber, .toWord, .intNumber, .doWord, .beginWord,
     .endWord]
  | whileLoop => [.whileWord, .intNumber, .doWord, .beginWord, .endWord]
  | reading => [.readWord, .openParen, .identifier, .closeParen]
  | writing => [.writeWord, .openParen, .intNumber, .closeParen]
  | expressionList | expression | operand | addend | factor | number => [.intNumber]
  | programTail | identifierListTail | statementListTail | conditionTail | expressionListTail
  | expressionTail | operandTail | addendTail => []

/-- A phrase of the symbol. -/
def Symbol.phrase (symbol : Symbol) : List Token :=
  symbol.phraseKinds.map TokenKind.sample

section Phrases

variable (endLine : Nat) {rest : List Token}

/-- The token that stands for a plain kind does not continue a tail. -/
theorem not_continuesTail_sample (kind : TokenKind) (plain : ¬ kind.ContinuesTail)
    (rest : List Token) : ¬ (nextKind (kind.sample :: rest)).ContinuesTail :=
  plain

/-- A number is an expression. -/
theorem exists_derives_expression (stops : ¬ (nextKind rest).ContinuesTail) :
    ∃ tree, Derives endLine .expression (TokenKind.intNumber.sample :: rest)
      (.expression tree) rest := by
  simp only [TokenKind.ContinuesTail, List.mem_cons, List.not_mem_nil, or_false, not_or] at stops
  obtain ⟨_, _, _, noRelation, noAddition, noProduct⟩ := stops
  exact ⟨_, .expression (.operand (.addend (.factorNumber (.number (.inl rfl)))
    (.addendStop noProduct)) (.operandStop noAddition)) (.comparisonStop noRelation)⟩

/-- A name can be assigned a number. -/
theorem exists_derives_assignment (stops : ¬ (nextKind rest).ContinuesTail) (target : Token)
    (name : target.kind = .identifier) :
    ∃ tree, Derives endLine .assignment
      (target :: TokenKind.asWord.sample :: TokenKind.intNumber.sample :: rest)
      (.assignment tree) rest := by
  obtain ⟨value, derives⟩ := exists_derives_expression endLine stops
  exact ⟨_, .assignment name rfl derives⟩

/-- A block may be empty. -/
theorem exists_derives_block :
    ∃ tree, Derives endLine .nestedBlock
      (TokenKind.beginWord.sample :: TokenKind.endWord.sample :: rest)
      (.nestedBlock tree) rest := by
  have stops : nextKind (TokenKind.endWord.sample :: rest) ≠ .separator := by
    simp [nextKind, TokenKind.sample]
  exact ⟨_, .nestedBlock rfl (.statementList (.statementEmpty (.inl rfl)) (.statementStop stops))
    rfl⟩

/-- A name is a list of names. -/
theorem exists_derives_identifierList (stops : ¬ (nextKind rest).ContinuesTail) :
    ∃ tree, Derives endLine .identifierList (TokenKind.identifier.sample :: rest)
      (.identifierList tree) rest := by
  have noComma : nextKind rest ≠ .comma := by
    intro comma
    rw [comma] at stops
    exact stops (by decide)
  exact ⟨_, .identifierList rfl (.identifierStop noComma)⟩

/-- Unless the next token continues a tail, the phrase of a symbol is derived from it. -/
theorem exists_derives_phrase (stops : ¬ (nextKind rest).ContinuesTail) (symbol : Symbol) :
    ∃ node, Derives endLine symbol (symbol.phrase ++ rest) node rest := by
  obtain ⟨block, derivesBlock⟩ := @exists_derives_block endLine rest
  have derivesStatement := Derives.statementBlock derivesBlock
  have noTail := stops
  simp only [TokenKind.ContinuesTail, List.mem_cons, List.not_mem_nil, or_false, not_or] at noTail
  obtain ⟨noSeparator, noComma, noElse, noRelation, noAddition, noProduct⟩ := noTail
  have item : Derives endLine .programItem
      (TokenKind.beginWord.sample :: TokenKind.endWord.sample :: rest) _ rest :=
    .itemStatement (by simp [StartsDeclaration, nextKind, TokenKind.sample])
      (by simp [nextKind, TokenKind.sample]) derivesStatement
  cases symbol with
  | leaf kind => exact ⟨_, derives_leaf kind.sample rest⟩
  | program => exact ⟨_, .program item (.programStop noSeparator)⟩
  | programItem => exact ⟨_, item⟩
  | programTail => exact ⟨_, .programStop noSeparator⟩
  | declaration =>
    obtain ⟨names, derives⟩ := exists_derives_identifierList endLine
      (not_continuesTail_sample .typeName (by decide) rest)
    exact ⟨_, .declarationKeyword rfl derives rfl⟩
  | identifierList =>
    obtain ⟨names, derives⟩ := exists_derives_identifierList endLine stops
    exact ⟨_, derives⟩
  | identifierListTail => exact ⟨_, .identifierStop noComma⟩
  | statement => exact ⟨_, derivesStatement⟩
  | statementList => exact ⟨_, .statementList derivesStatement (.statementStop noSeparator)⟩
  | statementListTail => exact ⟨_, .statementStop noSeparator⟩
  | assignment =>
    obtain ⟨tree, derives⟩ := exists_derives_assignment endLine stops
      TokenKind.identifier.sample rfl
    exact ⟨_, derives⟩
  | condition =>
    obtain ⟨test, tests⟩ := exists_derives_expression endLine
      (not_continuesTail_sample .thenWord (by decide) (Symbol.nestedBlock.phrase ++ rest))
    exact ⟨_, .condition rfl tests rfl derivesStatement (.conditionStop noElse)⟩
  | conditionTail => exact ⟨_, .conditionStop noElse⟩
  | forLoop =>
    obtain ⟨limit, limits⟩ := exists_derives_expression endLine
      (not_continuesTail_sample .doWord (by decide) (Symbol.nestedBlock.phrase ++ rest))
    obtain ⟨start, starts⟩ := exists_derives_assignment endLine
      (not_continuesTail_sample .toWord (by decide) (TokenKind.intNumber.sample ::
        TokenKind.doWord.sample :: (Symbol.nestedBlock.phrase ++ rest)))
      TokenKind.identifier.sample rfl
    exact ⟨_, .forLoop rfl starts rfl limits rfl derivesStatement⟩
  | whileLoop =>
    obtain ⟨test, tests⟩ := exists_derives_expression endLine
      (not_continuesTail_sample .doWord (by decide) (Symbol.nestedBlock.phrase ++ rest))
    exact ⟨_, .whileLoop rfl tests rfl derivesStatement⟩
  | nestedBlock => exact ⟨_, derivesBlock⟩
  | reading =>
    obtain ⟨names, derives⟩ := exists_derives_identifierList endLine
      (not_continuesTail_sample .closeParen (by decide) rest)
    exact ⟨_, .reading rfl rfl derives rfl⟩
  | writing =>
    obtain ⟨value, derives⟩ := exists_derives_expression endLine
      (not_continuesTail_sample .closeParen (by decide) rest)
    exact ⟨_, .writing rfl rfl (.expressionList derives
      (.expressionStop (by simp [nextKind, TokenKind.sample]))) rfl⟩
  | expressionList =>
    obtain ⟨value, derives⟩ := exists_derives_expression endLine stops
    exact ⟨_, .expressionList derives (.expressionStop noComma)⟩
  | expressionListTail => exact ⟨_, .expressionStop noComma⟩
  | expression =>
    obtain ⟨value, derives⟩ := exists_derives_expression endLine stops
    exact ⟨_, derives⟩
  | expressionTail => exact ⟨_, .comparisonStop noRelation⟩
  | operand =>
    exact ⟨_, .operand (.addend (.factorNumber (.number (.inl rfl))) (.addendStop noProduct))
      (.operandStop noAddition)⟩
  | operandTail => exact ⟨_, .operandStop noAddition⟩
  | addend => exact ⟨_, .addend (.factorNumber (.number (.inl rfl))) (.addendStop noProduct)⟩
  | addendTail => exact ⟨_, .addendStop noProduct⟩
  | factor => exact ⟨_, .factorNumber (.number (.inl rfl))⟩
  | number => exact ⟨_, .number (.inl rfl)⟩

end Phrases

/-! ## Resumable work -/

/-- The symbols among the pending entries. -/
def Pending.symbols : List Pending → List Symbol
  | [] => []
  | symbol next :: pending => next :: symbols pending
  | reduce _ :: pending => symbols pending

/-- The symbols of an agenda are those in front and those behind. -/
theorem Pending.symbols_append (front : List Symbol) (pending : List Pending) :
    symbols (front.map symbol ++ pending) = front ++ symbols pending := by
  induction front with
  | nil => rfl
  | cons next front ih => rw [List.map_cons, List.cons_append, symbols, ih, List.cons_append]

/-- The symbol stands behind another one in some production. -/
def Symbol.Follows (symbol : Symbol) : Prop :=
  ∃ production : Production, symbol ∈ production.rhs.tail

/-- Behind the first pending symbol stand only symbols that follow another one. -/
def Pending.Resumable (pending : List Pending) : Prop :=
  ∀ symbol ∈ (symbols pending).tail, symbol.Follows

/-- No phrase of a symbol that follows another one begins with a token that continues a tail. -/
theorem Symbol.Follows.not_continuesTail {symbol : Symbol} (follows : symbol.Follows)
    {rest : List Token} (stops : ¬ (nextKind rest).ContinuesTail) :
    ¬ (nextKind (symbol.phrase ++ rest)).ContinuesTail := by
  obtain ⟨production, member⟩ := follows
  have first : ∀ symbol ∈ production.rhs.tail, ∀ kind ∈ symbol.phraseKinds.head?,
      ¬ kind.ContinuesTail := by
    cases production <;> decide
  rw [phrase]
  cases kinds : symbol.phraseKinds with
  | nil => exact stops
  | cons kind kinds' => exact first symbol member kind (by rw [kinds]; rfl)

/-- An agenda that can be completed moves on to one that can. -/
theorem Moves.resumable {endLine : Nat} {agenda next : Agenda}
    (moves : Moves endLine agenda next) (resumable : Pending.Resumable agenda.pending) :
    Pending.Resumable next.pending := by
  intro symbol member
  cases moves with
  | consume => exact resumable symbol (List.mem_of_mem_tail member)
  | @expand _ production pending _ _ =>
    rw [Pending.symbols_append, Pending.symbols] at member
    cases symbols : production.rhs with
    | nil =>
      rw [symbols] at member
      exact resumable symbol (List.mem_of_mem_tail member)
    | cons first others =>
      rw [symbols, List.cons_append, List.tail_cons, List.mem_append] at member
      rcases member with later | below
      · exact ⟨production, by rw [symbols]; exact later⟩
      · exact resumable symbol below
  | reduce => exact resumable symbol member

/-- The phrases of the pending symbols. -/
def Pending.completion (pending : List Pending) : List Token :=
  (symbols pending).flatMap Symbol.phrase

/-- The phrases of symbols that follow each other do not begin with a token that continues a
tail. -/
theorem nextKind_flatMap_phrase {symbols : List Symbol}
    (follow : ∀ symbol ∈ symbols, symbol.Follows) :
    ¬ (nextKind (symbols.flatMap Symbol.phrase)).ContinuesTail := by
  induction symbols with
  | nil => decide
  | cons symbol symbols ih =>
    obtain ⟨first, others⟩ := List.forall_mem_cons.mp follow
    rw [List.flatMap_cons]
    exact first.not_continuesTail (ih others)

/-- The phrases of the pending symbols complete what is pending. -/
theorem reaches_completion (endLine : Nat) {pending : List Pending}
    (resumable : Pending.Resumable pending) :
    Reaches endLine ⟨pending, Pending.completion pending⟩ ⟨[], []⟩ := by
  induction pending with
  | nil => exact .refl
  | cons work pending ih =>
    cases work with
    | reduce production => exact .head .reduce (ih resumable)
    | symbol symbol =>
      have below : Pending.Resumable pending := fun later member =>
        resumable later (List.mem_of_mem_tail member)
      obtain ⟨node, derives⟩ := exists_derives_phrase endLine
        (nextKind_flatMap_phrase resumable) symbol
      exact (reaches_of_reads (reads_of_derives derives) pending).trans (ih below)

/-- Phrases have no end mark, except that of the end mark itself. -/
theorem Symbol.ne_eof_of_mem_phrase {symbol : Symbol} (notEnd : symbol ≠ .leaf .eof)
    {token : Token} (member : token ∈ symbol.phrase) : token.kind ≠ .eof := by
  obtain ⟨kind, inside, rfl⟩ := List.mem_map.mp member
  cases symbol with
  | leaf own =>
    obtain rfl := List.mem_singleton.mp inside
    intro ended
    exact notEnd (congrArg Symbol.leaf ended)
  | _ =>
    revert kind
    decide

end DimLang
