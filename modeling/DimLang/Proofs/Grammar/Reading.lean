import DimLang.Grammar.Parser

/-!
# Reading symbol by symbol

The parser keeps what is left to do on a stack. Read recursively, a rule either takes the token
under the cursor or expands its symbol into a production, whose symbols are read one after the
other and whose node is assembled from theirs. The two agree on every token list, with or without
an end mark inside it: the pending work is completed exactly when its symbols can be read
(`ParseState.run_eq_ok_iff`), so that parsing succeeds exactly with the node of a recursive reading
(`parseAs_eq_ok_iff`).
-/

namespace DimLang

/-- The symbols are read one after the other, each in the sense of the relation, and the nodes are
their trees in order. -/
inductive InSequence (relation : Symbol → List Token → Node → List Token → Prop) :
    List Symbol → List Token → List Node → List Token → Prop
  | nil {input : List Token} : InSequence relation [] input [] input
  | cons {symbol : Symbol} {symbols : List Symbol} {input middle rest : List Token} {node : Node}
      {nodes : List Node} (head : relation symbol input node middle)
      (tail : InSequence relation symbols middle nodes rest) :
      InSequence relation (symbol :: symbols) input (node :: nodes) rest

/-- The symbol is read from the front of the first token list with the node as its tree, and the
second list is left. -/
inductive Reads (endLine : Nat) : Symbol → List Token → Node → List Token → Prop
  | token {symbol : Symbol} {input : List Token}
      (consumed : symbol.rule.feed symbol (windowAt endLine input) = .ok .consumed) :
      Reads endLine symbol input (.ofToken (windowAt endLine input).current) input.tail
  | production {symbol : Symbol} {input rest : List Token} {production : Production}
      {nodes : List Node} {node : Node}
      (expanded : symbol.rule.feed symbol (windowAt endLine input) = .ok (.expand production))
      (parts : InSequence (Reads endLine) production.rhs input nodes rest)
      (assembled : production.assemble nodes = .ok node) :
      Reads endLine symbol input node rest

/-- There is one node for each symbol of a sequence. -/
theorem InSequence.length_eq {relation : Symbol → List Token → Node → List Token → Prop}
    {symbols : List Symbol} {input rest : List Token} {nodes : List Node}
    (parts : InSequence relation symbols input nodes rest) : nodes.length = symbols.length := by
  induction parts with
  | nil => rfl
  | cons head tail ih => rw [List.length_cons, List.length_cons, ih]

/-- What holds of every token that is taken, and of a production when it holds of its symbols,
holds of every reading. -/
theorem Reads.rule_induction {endLine : Nat}
    {motive : Symbol → List Token → Node → List Token → Prop}
    (token : ∀ {symbol : Symbol} {input : List Token},
      symbol.rule.feed symbol (windowAt endLine input) = .ok .consumed →
        motive symbol input (.ofToken (windowAt endLine input).current) input.tail)
    (production : ∀ {symbol : Symbol} {input rest : List Token} {production : Production}
      {nodes : List Node} {node : Node},
      symbol.rule.feed symbol (windowAt endLine input) = .ok (.expand production) →
        InSequence motive production.rhs input nodes rest →
          production.assemble nodes = .ok node → motive symbol input node rest)
    {symbol : Symbol} {input rest : List Token} {node : Node}
    (reads : Reads endLine symbol input node rest) : motive symbol input node rest := by
  refine Reads.rec (motive_1 := fun symbol input node rest _ => motive symbol input node rest)
    (motive_2 := fun symbols input nodes rest _ => InSequence motive symbols input nodes rest)
    ?_ ?_ ?_ ?_ reads
  · intro symbol input consumed
    exact token consumed
  · intro symbol input rest chosen nodes node expanded _ assembled parts
    exact production expanded parts assembled
  · exact .nil
  · intro symbol symbols input middle rest node nodes _ _ head tail
    exact .cons head tail

/-- What is left after symbols that leave a suffix each is a suffix. -/
theorem InSequence.suffix {symbols : List Symbol} {input rest : List Token} {nodes : List Node}
    (parts : InSequence (fun _ input _ rest => rest <:+ input) symbols input nodes rest) :
    rest <:+ input := by
  induction parts with
  | nil => exact List.suffix_refl _
  | cons head _ ih => exact ih.trans head

/-- Reading leaves a suffix of the input. -/
theorem Reads.suffix {endLine : Nat} {symbol : Symbol} {input rest : List Token} {node : Node}
    (reads : Reads endLine symbol input node rest) : rest <:+ input := by
  refine Reads.rule_induction (motive := fun _ input _ rest => rest <:+ input) ?_ ?_ reads
  · intro symbol input consumed
    exact input.tail_suffix
  · intro symbol input rest production nodes node _ parts _
    exact parts.suffix

namespace ParseState

variable {endLine : Nat}

/-- A run takes one step and goes on from there. -/
theorem run_cons {input : List Token} {finished : List Node} {pending : List Pending}
    {work : Pending} :
    run endLine input finished (work :: pending) =
      match step endLine input finished pending work with
      | .error error => .error error
      | .ok next => run endLine next.rest next.finished next.pending := by
  rw [run]
  split <;> simp only [*]

/-- With the children of a production on top of the finished stack, reducing puts its node in
their place. -/
theorem reduce_of_assemble (input : List Token) (pending : List Pending) (below : List Node)
    {production : Production} {nodes : List Node} {node : Node}
    (arity : nodes.length = production.rhs.length)
    (assembled : production.assemble nodes = .ok node) :
    reduce endLine input production pending (nodes.reverse ++ below) =
      .ok ⟨input, pending, node :: below⟩ := by
  have arity' : production.rhs.length = nodes.reverse.length := by
    rw [List.length_reverse, arity]
  have top : ((nodes.reverse ++ below).take production.rhs.length).reverse = nodes := by
    rw [arity', List.take_left, List.reverse_reverse]
  have bottom : (nodes.reverse ++ below).drop production.rhs.length = below := by
    rw [arity', List.drop_left]
  rw [reduce, top, bottom, if_neg (by omega), assembled]

/-- Reducing succeeds only with as many children on the finished stack as the production has
symbols. -/
theorem exists_of_reduce_eq_ok {input : List Token} {pending : List Pending}
    {finished : List Node} {production : Production} {next : ParseState}
    (reduced : reduce endLine input production pending finished = .ok next) :
    ∃ nodes node below, finished = nodes.reverse ++ below ∧
      nodes.length = production.rhs.length ∧ production.assemble nodes = .ok node ∧
        next = ⟨input, pending, node :: below⟩ := by
  rw [reduce] at reduced
  split at reduced
  · cases reduced
  · rename_i enough
    split at reduced
    · cases reduced
    · rename_i node assembled
      refine ⟨_, node, finished.drop production.rhs.length, ?_, ?_, assembled, ?_⟩
      · rw [List.reverse_reverse, List.take_append_drop]
      · rw [List.length_reverse, List.length_take] at enough ⊢
        omega
      · exact (Except.ok.inj reduced).symm

/-! ## What the pending stack asks for -/

/-- What completing the pending entries means: each symbol is read and its node is put on the
finished stack, each production replaces the nodes of its symbols by its own, and at the end
`last` is left. -/
def Completes (endLine : Nat) (last : ParseState) :
    List Pending → List Token → List Node → Prop
  | [], input, finished => last = ⟨input, [], finished⟩
  | .symbol symbol :: pending, input, finished =>
    ∃ node rest, Reads endLine symbol input node rest ∧
      Completes endLine last pending rest (node :: finished)
  | .reduce production :: pending, input, finished =>
    ∃ nodes node below, finished = nodes.reverse ++ below ∧
      nodes.length = production.rhs.length ∧ production.assemble nodes = .ok node ∧
        Completes endLine last pending input (node :: below)

/-- A run that completes an agenda reads its symbols in sequence. -/
theorem completes_symbols {last : ParseState} {symbols : List Symbol} {pending : List Pending}
    {input : List Token} {finished : List Node}
    (completes : Completes endLine last (symbols.map .symbol ++ pending) input finished) :
    ∃ nodes rest, InSequence (Reads endLine) symbols input nodes rest ∧
      Completes endLine last pending rest (nodes.reverse ++ finished) := by
  induction symbols generalizing input finished with
  | nil => exact ⟨[], input, .nil, completes⟩
  | cons symbol symbols ih =>
    obtain ⟨node, middle, head, completes⟩ := completes
    obtain ⟨nodes, rest, tail, completes⟩ := ih completes
    refine ⟨node :: nodes, rest, .cons head tail, ?_⟩
    rw [List.reverse_cons, List.append_assoc, List.singleton_append]
    exact completes

/-- An expanded symbol has been read when its production is completed. -/
theorem completes_expanded {last : ParseState} {symbol : Symbol} {production : Production}
    {pending : List Pending} {input : List Token} {finished : List Node}
    (expanded : symbol.rule.feed symbol (windowAt endLine input) = .ok (.expand production))
    (completes : Completes endLine last
      (production.rhs.map .symbol ++ .reduce production :: pending) input finished) :
    Completes endLine last (.symbol symbol :: pending) input finished := by
  obtain ⟨nodes, rest, parts, nodes', node, below, top, arity, assembled, completes⟩ :=
    completes_symbols completes
  have lengths : nodes.reverse.length = nodes'.reverse.length := by
    rw [List.length_reverse, List.length_reverse, arity, parts.length_eq]
  obtain ⟨same, rfl⟩ := List.append_inj top lengths
  obtain rfl := List.reverse_inj.mp same
  exact ⟨node, rest, .production expanded parts assembled, completes⟩

/-- A run that succeeds completes its agenda. -/
theorem completes_of_run {last : ParseState} {pending : List Pending} {input : List Token}
    {finished : List Node} (halts : run endLine input finished pending = .ok last) :
    Completes endLine last pending input finished := by
  -- The induction is on the run: what the next state completes, this one completes.
  induction input, finished, pending using run.induct endLine with
  | case1 input finished =>
    rw [run] at halts
    exact (Except.ok.inj halts).symm
  | case2 input finished work pending error failed =>
    rw [run_cons, failed] at halts
    cases halts
  | case3 input finished work pending next stepped ih =>
    rw [run_cons, stepped] at halts
    have completes := ih halts
    cases work with
    | reduce production =>
      obtain ⟨nodes, node, below, top, arity, assembled, rfl⟩ := exists_of_reduce_eq_ok stepped
      exact ⟨nodes, node, below, top, arity, assembled, completes⟩
    | symbol symbol =>
      rw [step, feed] at stepped
      split at stepped
      · cases stepped
      · rename_i consumed
        cases stepped
        exact ⟨_, _, .token consumed, completes⟩
      · rename_i production expanded
        cases stepped
        exact completes_expanded expanded completes

/-- The parser reads the symbol as the relation does, whatever is pending below it. -/
def RunsAs (endLine : Nat) (symbol : Symbol) (input : List Token) (node : Node)
    (rest : List Token) : Prop :=
  ∀ finished pending, run endLine input finished (.symbol symbol :: pending) =
    run endLine rest (node :: finished) pending

/-- Symbols in sequence are run one after the other. -/
theorem run_sequence {symbols : List Symbol} {input rest : List Token} {nodes : List Node}
    (parts : InSequence (RunsAs endLine) symbols input nodes rest) (finished : List Node)
    (pending : List Pending) :
    run endLine input finished (symbols.map .symbol ++ pending) =
      run endLine rest (nodes.reverse ++ finished) pending := by
  induction parts generalizing finished with
  | nil => rfl
  | cons head tail ih =>
    rw [List.map_cons, List.cons_append, head, ih, List.reverse_cons, List.append_assoc,
      List.singleton_append]

/-- What is read is run to its node. -/
theorem runsAs_of_reads {symbol : Symbol} {input rest : List Token} {node : Node}
    (reads : Reads endLine symbol input node rest) : RunsAs endLine symbol input node rest := by
  refine Reads.rule_induction ?_ ?_ reads
  · intro symbol input consumed finished pending
    rw [run_cons, step, feed]
    simp only [consumed]
  · intro symbol input rest production nodes node expanded parts assembled finished pending
    rw [run_cons, step, feed]
    simp only [expanded]
    rw [run_sequence parts, run_cons, step,
      reduce_of_assemble rest pending finished parts.length_eq assembled]

/-- An agenda that is completed is run to its end. -/
theorem run_of_completes {last : ParseState} {pending : List Pending} {input : List Token}
    {finished : List Node} (completes : Completes endLine last pending input finished) :
    run endLine input finished pending = .ok last := by
  induction pending generalizing input finished with
  | nil =>
    rw [run]
    exact congrArg Except.ok completes.symm
  | cons work pending ih =>
    cases work with
    | symbol symbol =>
      obtain ⟨node, rest, reads, completes⟩ := completes
      rw [runsAs_of_reads reads]
      exact ih completes
    | reduce production =>
      obtain ⟨nodes, node, below, rfl, arity, assembled, completes⟩ := completes
      rw [run_cons, step, reduce_of_assemble input pending below arity assembled]
      exact ih completes

/-- The parser ends in a state exactly when this is what its pending work asks for. -/
theorem run_eq_ok_iff {last : ParseState} {pending : List Pending} {input : List Token}
    {finished : List Node} :
    run endLine input finished pending = .ok last ↔
      Completes endLine last pending input finished :=
  ⟨completes_of_run, run_of_completes⟩

end ParseState

/-- Parsing a token list as a symbol yields a node exactly when the symbol can be read with this
node up to the end of the input. -/
theorem parseAs_eq_ok_iff {root : Symbol} {tokens : List Token} {node : Node} :
    parseAs root tokens = .ok node ↔
      ∃ rest, Reads (endLine tokens) root tokens node rest ∧
        (windowAt (endLine tokens) rest).current.kind = .eof := by
  constructor
  · intro parsed
    rw [parseAs] at parsed
    split at parsed
    · cases parsed
    · rename_i last halts
      obtain ⟨found, rest, reads, rfl⟩ := ParseState.completes_of_run halts
      simp only [ne_eq, ite_not] at parsed
      split at parsed
      · rename_i ended
        cases parsed
        exact ⟨rest, reads, ended⟩
      · cases parsed
  · rintro ⟨rest, reads, ended⟩
    have halts : ParseState.run (endLine tokens) tokens [] [.symbol root] =
        .ok ⟨rest, [], [node]⟩ :=
      ParseState.run_of_completes ⟨node, rest, reads, rfl⟩
    rw [parseAs, halts]
    simp only [ended, ne_eq, not_true_eq_false, ↓reduceIte]

end DimLang
