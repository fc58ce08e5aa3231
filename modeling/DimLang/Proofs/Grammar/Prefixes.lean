import DimLang.Proofs.Grammar.Completion
import DimLang.Proofs.Grammar.Kinds

/-!
# The first token that cannot be mended

A rejected token list is rejected at the first token that no continuation can mend. What the parser
has read before can always be completed to a program (`exists_completion`): the moves up to there
see no further token, with one exception, an item that begins with a name and so far has nothing
behind it, which is completed to an assignment. The rejection itself stands whatever follows
(`reaches_of_rejects`): a symbol that looks at two tokens takes every first one.

- `exists_index_of_parse_eq_error`: the error names the token behind the longest beginning of a
  program, and every list that agrees up to this token is rejected with the same error
-/

namespace DimLang

variable {endLine endLine' : Nat}

/-! ## What is read can be completed -/

/-- An item that begins with a name can be completed to an assignment. -/
theorem reaches_named_item (endLine : Nat) {pending : List Pending} {name : Token}
    (kind : name.kind = .identifier)
    (resumable : Pending.Resumable (.symbol .programItem :: pending)) :
    Reaches endLine ⟨.symbol .programItem :: pending,
      name :: TokenKind.asWord.sample :: TokenKind.intNumber.sample ::
        Pending.completion pending⟩ ⟨[], []⟩ := by
  have below : Pending.Resumable pending := fun later member =>
    resumable later (List.mem_of_mem_tail member)
  obtain ⟨tree, derives⟩ := exists_derives_assignment endLine
    (nextKind_flatMap_phrase resumable) name kind
  have item := Derives.itemStatement (by simp [StartsDeclaration, nextKind, TokenKind.sample, kind])
    (by simp [nextKind, kind]) (.statementAssignment derives)
  exact (reaches_of_reads (reads_of_derives item) pending).trans (reaches_completion endLine below)

/-- The pending symbols do not wait for the end of the input. -/
def Pending.Endless (pending : List Pending) : Prop :=
  ∀ symbol ∈ symbols pending, symbol ≠ .leaf .eof

/-- An agenda without the end of the input moves on to one without it. -/
theorem Moves.endless {agenda next : Agenda} (moves : Moves endLine agenda next)
    (endless : Pending.Endless agenda.pending) : Pending.Endless next.pending := by
  intro symbol member
  cases moves with
  | consume => exact endless symbol (List.mem_cons_of_mem _ member)
  | @expand _ production pending _ _ =>
    rw [Pending.symbols_append, Pending.symbols, List.mem_append] at member
    rcases member with inside | below
    · exact Production.ne_leaf_eof_of_mem_rhs inside
    · exact endless symbol (List.mem_cons_of_mem _ below)
  | reduce => exact endless symbol member

/-- The completion of an agenda without the end of the input does not end the input. -/
theorem Pending.Endless.ne_eof_of_mem_completion {pending : List Pending}
    (endless : Endless pending) {token : Token} (member : token ∈ completion pending) :
    token.kind ≠ .eof := by
  obtain ⟨symbol, pends, inside⟩ := List.mem_flatMap.mp member
  exact Symbol.ne_eof_of_mem_phrase (endless symbol pends) inside

/-- The moves up to some token can be repeated with other tokens behind, which complete what is
then pending. -/
theorem exists_completion {agenda later : Agenda} (reaches : Reaches endLine agenda later)
    {used : List Token} (read : agenda.rest = used ++ later.rest)
    (resumable : Pending.Resumable agenda.pending) (endless : Pending.Endless agenda.pending) :
    ∃ continuation, (∀ token ∈ continuation, token.kind ≠ .eof) ∧
      ∀ endLine', Reaches endLine' ⟨agenda.pending, used ++ continuation⟩ ⟨[], []⟩ := by
  induction reaches using Relation.ReflTransGen.head_induction_on generalizing used with
  | refl =>
    obtain rfl := List.self_eq_append_left.mp read
    exact ⟨_, fun _ => endless.ne_eof_of_mem_completion, fun _ => reaches_completion _ resumable⟩
  | head moves _ ih =>
    cases used with
    | nil =>
      exact ⟨_, fun _ => endless.ne_eof_of_mem_completion,
        fun _ => reaches_completion _ resumable⟩
    | cons token used =>
      have resumable' := moves.resumable resumable
      have endless' := moves.endless endless
      cases moves with
      | consume consumed =>
        cases read
        obtain ⟨continuation, noEnd, completes⟩ := ih rfl resumable' endless'
        refine ⟨continuation, noEnd, fun endLine' => .head (.consume ?_) (completes endLine')⟩
        have notItem := ne_programItem_of_consumed consumed
        exact feed_eq_ok_of_alike (seenAlike_cons notItem _ _ _) consumed
      | @expand symbol production pending input expanded =>
        obtain rfl : input = token :: used ++ later.rest := read
        by_cases named : symbol = .programItem ∧ token.kind = .identifier ∧ used = []
        -- The parser has looked beyond what is read, and what it saw there is gone.
        · obtain ⟨rfl, kind, rfl⟩ := named
          refine ⟨TokenKind.asWord.sample :: TokenKind.intNumber.sample ::
            Pending.completion pending, ?_, fun _ => reaches_named_item _ kind resumable⟩
          have below : Pending.Endless pending := fun symbol member =>
            endless symbol (List.mem_cons_of_mem _ member)
          intro token member
          simp only [List.mem_cons] at member
          rcases member with rfl | rfl | member
          · decide
          · decide
          · exact below.ne_eof_of_mem_completion member
        · obtain ⟨continuation, noEnd, completes⟩ := ih rfl resumable' endless'
          refine ⟨continuation, noEnd, fun endLine' => .head (.expand ?_) (completes endLine')⟩
          have alike : SeenAlike symbol (windowAt endLine (token :: used ++ later.rest))
              (windowAt endLine' (token :: used ++ continuation)) := by
            refine seenAlike_windowAt rfl fun item kind => ?_
            cases used with
            | nil => exact absurd ⟨item, kind, rfl⟩ named
            | cons next used => rfl
          exact feed_eq_ok_of_alike alike expanded
      | reduce =>
        obtain ⟨continuation, noEnd, completes⟩ := ih read resumable' endless'
        exact ⟨continuation, noEnd, fun endLine' => .head .reduce (completes endLine')⟩

/-! ## What is rejected stays rejected -/

/-- The symbols that take a name as their first token. -/
def Symbol.TakesName (symbol : Symbol) : Prop :=
  symbol ∈ [programItem, declaration, statement, assignment, identifierList, leaf .identifier]

/-- A symbol that takes a name consumes it, or begins with a symbol that takes it. -/
theorem Symbol.TakesName.feed {symbol : Symbol} (takes : symbol.TakesName) {input : List Token}
    (name : nextKind input = .identifier) :
    symbol.rule.feed symbol (windowAt endLine input) = .ok .consumed ∨
      ∃ production first others,
        symbol.rule.feed symbol (windowAt endLine input) = .ok (.expand production) ∧
          production.rhs = first :: others ∧ first.TakesName := by
  have chooses {table : List (Lookahead × Production)} {production : Production}
      (exact : ExactTable table) (entry : (.kind .identifier, production) ∈ table) :
      (Rule.choice table).feed symbol (windowAt endLine input) = .ok (.expand production) := by
    rw [feed_exact_iff exact, name]
    exact entry
  simp only [TakesName, List.mem_cons, List.not_mem_nil, or_false] at takes
  rcases takes with rfl | rfl | rfl | rfl | rfl | rfl
  · right
    by_cases declares : StartsDeclaration input
    · exact ⟨_, _, _, feed_programItem_iff.mpr (.inl ⟨declares, rfl⟩), rfl,
        by simp [TakesName]⟩
    · refine ⟨_, _, _, feed_programItem_iff.mpr (.inr (.inr ⟨declares, ?_, rfl⟩)), rfl,
        by simp [TakesName]⟩
      rw [name]
      decide
  · exact .inr ⟨.declarationColon, _, _, chooses (by decide) (by decide), rfl,
      by simp [TakesName]⟩
  · exact .inr ⟨.statementAssignment, _, _, chooses (by decide) (by decide), rfl,
      by simp [TakesName]⟩
  · exact .inr ⟨_, _, _, rfl, rfl, by simp [TakesName]⟩
  · exact .inr ⟨_, _, _, rfl, rfl, by simp [TakesName]⟩
  · left
    rw [Symbol.rule, Rule.feed, windowAt_current_kind, name]
    rfl

/-- The symbol on top takes a name. -/
def Agenda.TakesName (agenda : Agenda) : Prop :=
  ∃ symbol below, agenda.pending = .symbol symbol :: below ∧ symbol.TakesName

/-- In front of a name, an agenda that takes one still does, until it is read. -/
theorem Moves.takesName {agenda next : Agenda} (moves : Moves endLine agenda next)
    (takes : agenda.TakesName) (name : nextKind agenda.rest = .identifier) :
    next.TakesName ∧ next.rest = agenda.rest ∨ next.rest.length < agenda.rest.length := by
  obtain ⟨symbol, below, top, takes⟩ := takes
  cases moves with
  | @consume _ _ input =>
    right
    cases input with
    | nil => cases name
    | cons token rest => exact Nat.lt_succ_self _
  | expand expanded =>
    cases top
    obtain consumed | ⟨production, first, others, fed, rhs, takes'⟩ := takes.feed name
    · rw [consumed] at expanded
      cases expanded
    · rw [fed] at expanded
      cases expanded
      rw [rhs, List.map_cons, List.cons_append]
      exact .inl ⟨⟨first, _, rfl, takes'⟩, rfl⟩
  | reduce => cases top

/-- In front of a name, an agenda that takes one reads it sooner or later. -/
theorem Reaches.takesName {agenda later : Agenda} (reaches : Reaches endLine agenda later)
    (takes : agenda.TakesName) (name : nextKind agenda.rest = .identifier) :
    later.TakesName ∧ later.rest = agenda.rest ∨ later.rest.length < agenda.rest.length := by
  induction reaches with
  | refl => exact .inl ⟨takes, rfl⟩
  | tail _ moves ih =>
    obtain ⟨takes', same⟩ | shorter := ih
    · have step := moves.takesName takes' (by rw [same]; exact name)
      rwa [same] at step
    · exact .inr (Nat.lt_of_le_of_lt moves.suffix.length_le shorter)

/-- A name is not rejected by what takes it. -/
theorem Agenda.TakesName.not_rejects {agenda : Agenda} (takes : agenda.TakesName)
    (name : nextKind agenda.rest = .identifier) {error : ParseError} :
    ¬ agenda.Rejects endLine error := by
  obtain ⟨symbol, below, top, takes⟩ := takes
  intro rejects
  cases rejects with
  | symbol failed =>
    cases top
    obtain consumed | ⟨production, first, others, fed, _⟩ := takes.feed name
    · rw [consumed] at failed
      cases failed
    · rw [fed] at failed
      cases failed
  | trailing => cases top

/-- The moves up to a token that is rejected can be repeated with other tokens behind it. -/
theorem reaches_of_rejects {agenda stopped : Agenda} {error : ParseError}
    (reaches : Reaches endLine agenda stopped) (rejects : stopped.Rejects endLine error)
    {used rest : List Token} {token : Token} (read : agenda.rest = used ++ token :: rest)
    (left : stopped.rest = token :: rest) (endLine' : Nat) (continuation : List Token) :
    Reaches endLine' ⟨agenda.pending, used ++ token :: continuation⟩
      ⟨stopped.pending, token :: continuation⟩ := by
  induction reaches using Relation.ReflTransGen.head_induction_on generalizing used with
  | refl =>
    rw [left, List.self_eq_append_left] at read
    rw [read]
    exact .refl
  | head moves later ih =>
    cases moves with
    | @consume symbol pending input consumed =>
      cases used with
      | nil =>
        -- The rejected token would be behind the cursor.
        obtain rfl : input = token :: rest := read
        have suffix := (Reaches.suffix later).length_le
        rw [left] at suffix
        exact absurd suffix (Nat.not_succ_le_self _)
      | cons first used =>
        cases read
        refine .head (.consume ?_) (ih rfl)
        have notItem := ne_programItem_of_consumed consumed
        exact feed_eq_ok_of_alike (seenAlike_cons notItem _ _ _) consumed
    | @expand symbol production pending input expanded =>
      obtain rfl : input = used ++ token :: rest := read
      refine .head (.expand ?_) (ih rfl)
      have alike : SeenAlike symbol (windowAt endLine (used ++ token :: rest))
          (windowAt endLine' (used ++ token :: continuation)) := by
        match used with
        | [] =>
          refine seenAlike_windowAt rfl fun item name => ?_
          -- The item would take the token.
          have whole : Reaches endLine ⟨.symbol symbol :: pending, token :: rest⟩ stopped :=
            .head (.expand expanded) later
          obtain ⟨takes, same⟩ | shorter := whole.takesName
            ⟨symbol, pending, rfl, by rw [item]; simp [Symbol.TakesName]⟩ name
          · exact absurd rejects (takes.not_rejects (by rw [same]; exact name))
          · rw [left] at shorter
            exact absurd shorter (Nat.lt_irrefl _)
        | [first] => exact seenAlike_windowAt rfl fun _ _ => rfl
        | first :: second :: used => exact seenAlike_windowAt rfl fun _ _ => rfl
      exact feed_eq_ok_of_alike alike expanded
    | reduce => exact .head .reduce (ih read)

/-- Whether a token is rejected does not depend on what follows. -/
theorem Agenda.Rejects.of_append {pending : List Pending} {token : Token} {rest : List Token}
    {error : ParseError} (rejects : Agenda.Rejects endLine ⟨pending, token :: rest⟩ error)
    (endLine' : Nat) (continuation : List Token) :
    Agenda.Rejects endLine' ⟨pending, token :: continuation⟩ error := by
  have names := rejects.names
  rw [windowAt_current_cons] at names
  cases rejects with
  | @symbol symbol _ _ _ failed =>
    have notItem := ne_programItem_of_feed_eq_error failed
    have alike : SeenAlike symbol (windowAt endLine (token :: rest))
        (windowAt endLine' (token :: continuation)) :=
      seenAlike_cons notItem token rest continuation
    have failed' := feed_eq_error_of_alike alike failed
    rw [windowAt_current_cons, names.about_eq] at failed'
    exact .symbol failed'
  | trailing left =>
    have trailing : Agenda.Rejects endLine' ⟨[], token :: continuation⟩ _ := .trailing left
    rw [windowAt_current_cons] at trailing
    rwa [windowAt_current_cons]

/-! ## The first token that cannot be mended -/

/-- The tokens are the beginning of a program. -/
def BeginsProgram (tokens : List Token) : Prop :=
  ∃ continuation, (∀ token ∈ continuation, token.kind ≠ .eof) ∧
    ∃ program, parse (tokens ++ continuation) = .ok program

/-- Tokens that were read for a program begin one. -/
theorem beginsProgram_of_reaches {used rest : List Token} {pending : List Pending}
    (reaches : Reaches endLine ⟨[.symbol .program], used ++ rest⟩ ⟨pending, rest⟩) :
    BeginsProgram used := by
  have resumable : Pending.Resumable [.symbol .program] := fun _ member => nomatch member
  have endless : Pending.Endless [.symbol .program] := by
    intro symbol member
    rw [List.mem_singleton.mp member]
    simp
  obtain ⟨continuation, noEnd, completes⟩ := exists_completion reaches rfl resumable endless
  obtain ⟨node, ⟨program, rfl⟩, parsed⟩ := exists_parseAs_of_accepts (completes _) ⟨rfl, rfl⟩
  exact ⟨continuation, noEnd, program, parse_eq_ok_iff.mpr parsed⟩

/-- A rejected list is rejected at one of its tokens, or at its end: the error names this token, the
tokens before it begin a program, and with this token they begin none, since every continuation is
rejected with the same error. -/
theorem exists_index_of_parse_eq_error {tokens : List Token} {error : ParseError}
    (failed : parse tokens = .error error) :
    ∃ i ≤ tokens.length, error.Names (tokens[i]?.getD (.atEnd (DimLang.endLine tokens))) ∧
      BeginsProgram (tokens.take i) ∧
        (i < tokens.length →
          ∀ continuation, parse (tokens.take (i + 1) ++ continuation) = .error error) := by
  obtain ⟨⟨pending, rest⟩, reaches, rejects⟩ :=
    parseAs_eq_error_iff.mp (parse_eq_error_iff.mp failed)
  obtain ⟨used, rfl⟩ : ∃ used, used ++ rest = tokens := reaches.suffix
  have names := rejects.names
  refine ⟨used.length, by simp, ?_, ?_, ?_⟩
  · cases rest with
    | nil => simpa [windowAt] using names
    | cons token rest => simpa [windowAt_current_cons] using names
  · rw [List.take_left]
    exact beginsProgram_of_reaches reaches
  · intro inside continuation
    cases rest with
    | nil => simp at inside
    | cons token rest =>
      have taken : (used ++ token :: rest).take (used.length + 1) ++ continuation =
          used ++ token :: continuation := by
        rw [List.take_length_add_append]
        simp
      rw [taken]
      exact parse_eq_error_iff.mpr (parseAs_of_rejects
        (reaches_of_rejects reaches rejects rfl rfl _ _) (rejects.of_append _ _))

/-- A type name right behind a name is rejected, whatever follows it. -/
theorem exists_index_of_missing_colon :
    ∃ error, parse [⟨.identifier, "x", 1⟩, ⟨.typeName, "integer", 2⟩] = .error error ∧
      ∃ i ≤ 2, error.Names
          (([⟨.identifier, "x", 1⟩, ⟨.typeName, "integer", 2⟩] : List Token)[i]?.getD (.atEnd 2)) ∧
        BeginsProgram
          (([⟨.identifier, "x", 1⟩, ⟨.typeName, "integer", 2⟩] : List Token).take i) ∧
        (i < 2 → ∀ continuation,
          parse (([⟨.identifier, "x", 1⟩, ⟨.typeName, "integer", 2⟩] : List Token).take (i + 1) ++
            continuation) = .error error) := by
  have reaches : Reaches (DimLang.endLine [⟨.identifier, "x", 1⟩, ⟨.typeName, "integer", 2⟩])
      ⟨[.symbol .program], [⟨.identifier, "x", 1⟩, ⟨.typeName, "integer", 2⟩]⟩ _ :=
    .head (.expand rfl) (.head (.expand rfl) (.head (.expand rfl) (.head (.expand rfl)
      (.head (.consume rfl) .refl))))
  have failed := parse_eq_error_iff.mpr (parseAs_of_rejects reaches (.symbol rfl))
  exact ⟨_, failed, exists_index_of_parse_eq_error failed⟩

end DimLang
