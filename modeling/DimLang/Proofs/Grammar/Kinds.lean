import DimLang.Proofs.Grammar.Moves
import Mathlib.Data.List.Find

/-!
# What the parser sees of a token

The parser decides by the kinds of the next two tokens; texts and lines only enter its errors. A
rule therefore reacts alike to windows of the same kinds (`feed_about`), and the second token of a
window counts only for an item of a program that begins with a name. Renaming tokens without
changing their kinds keeps every move and every rejection (`Reaches.map`, `Agenda.Rejects.map`).
-/

namespace DimLang

/-- The error about another token, of which it has the text and the line. -/
def ParseError.about (token : Token) : ParseError → ParseError
  | unexpectedToken expected _ _ => unexpectedToken expected token.shown token.line
  | noAlternative symbol expected _ _ => noAlternative symbol expected token.shown token.line
  | trailingInput _ _ => trailingInput token.shown token.line
  | malformed production found line => malformed production found line

/-- An error is about the token that it names. -/
theorem ParseError.Names.about_eq {token : Token} {error : ParseError}
    (names : error.Names token) : error.about token = error := by
  cases error with
  | malformed => exact names.elim
  | _ =>
    obtain ⟨rfl, rfl⟩ := names
    rfl

/-! ## Windows of the same kinds -/

variable {window window' : Window}

/-- Whether an entry applies depends on the kinds that it looks at. -/
theorem Lookahead.applies_eq {lookahead : Lookahead}
    (current : window'.current.kind = window.current.kind)
    (next : ∀ kind followers, lookahead = .followed kind followers →
      window.current.kind = kind → window'.next.kind = window.next.kind) :
    lookahead.applies window' = lookahead.applies window := by
  cases lookahead with
  | kind wanted => rw [applies, applies, current]
  | followed wanted followers =>
    rw [applies, applies, current]
    by_cases same : window.current.kind = wanted
    · rw [next wanted followers rfl same]
    · simp [Ne.symm same]

/-- Where the same entries apply, the same one is chosen. -/
theorem chosen?_eq {table : List (Lookahead × Production)}
    (applies : ∀ entry ∈ table, entry.1.applies window' = entry.1.applies window) :
    chosen? table window' = chosen? table window := by
  have found : table.find? (fun entry => !entry.1.isWildcard && entry.1.applies window') =
      table.find? (fun entry => !entry.1.isWildcard && entry.1.applies window) :=
    List.find?_congr fun entry member => by rw [applies entry member]
  rw [chosen?, chosen?, found]

/-- A table without wildcards looks at the current kind only. -/
theorem ExactTable.chosen?_eq {table : List (Lookahead × Production)} (exact : ExactTable table)
    (current : window'.current.kind = window.current.kind) :
    chosen? table window' = chosen? table window := by
  refine DimLang.chosen?_eq fun entry member => Lookahead.applies_eq current ?_
  intro kind followers followed
  rw [(exact.1 entry member).1] at followed
  cases followed

/-- The table of items looks at the second kind only behind a name. -/
theorem chosen?_programItemTable_eq (current : window'.current.kind = window.current.kind)
    (next : window.current.kind = .identifier → window'.next.kind = window.next.kind) :
    chosen? programItemTable window' = chosen? programItemTable window := by
  refine chosen?_eq fun entry member => Lookahead.applies_eq current ?_
  intro kind followers followed same
  refine next (same.trans ?_)
  simp only [programItemTable, List.mem_cons, List.not_mem_nil, or_false] at member
  rcases member with rfl | rfl | rfl | rfl <;> cases followed
  rfl

/-- Of the second token of a window, a symbol sees at most the kind, and this only if it is an item
of a program that begins with a name. -/
def SeenAlike (symbol : Symbol) (window window' : Window) : Prop :=
  window'.current.kind = window.current.kind ∧
    (symbol = .programItem → window.current.kind = .identifier →
      window'.next.kind = window.next.kind)

/-- Windows are alike for a symbol if they show the kinds that it looks at. -/
theorem seenAlike_windowAt {endLine endLine' : Nat} {symbol : Symbol} {input input' : List Token}
    (first : nextKind input' = nextKind input)
    (second : symbol = .programItem → nextKind input = .identifier →
      nextKind input'.tail = nextKind input.tail) :
    SeenAlike symbol (windowAt endLine input) (windowAt endLine' input') := by
  refine ⟨?_, ?_⟩
  · rw [windowAt_current_kind, windowAt_current_kind, first]
  · rw [windowAt_current_kind, windowAt_next_kind, windowAt_next_kind]
    exact second

/-- Other symbols see one token only. -/
theorem seenAlike_cons {endLine endLine' : Nat} {symbol : Symbol} (notItem : symbol ≠ .programItem)
    (token : Token) (rest rest' : List Token) :
    SeenAlike symbol (windowAt endLine (token :: rest)) (windowAt endLine' (token :: rest')) :=
  seenAlike_windowAt rfl fun item => absurd item notItem

/-- An item is no leaf, so it consumes nothing itself. -/
theorem ne_programItem_of_consumed {symbol : Symbol}
    (consumed : symbol.rule.feed symbol window = .ok .consumed) : symbol ≠ .programItem := by
  rw [Symbol.eq_leaf_of_consumed consumed]
  simp

/-- A choice that is the same fails with the same error about another token. -/
theorem Rule.feed_choice_about {symbol : Symbol} {table : List (Lookahead × Production)}
    (same : chosen? table window' = chosen? table window) :
    (choice table).feed symbol window' =
      ((choice table).feed symbol window).mapError (ParseError.about window'.current) := by
  rw [feed, feed, same]
  cases chosen? table window <;> rfl

/-- A symbol reacts alike to windows that it sees alike, and its error is about the token that is
there. -/
theorem feed_about {symbol : Symbol} (alike : SeenAlike symbol window window') :
    symbol.rule.feed symbol window' =
      (symbol.rule.feed symbol window).mapError (ParseError.about window'.current) := by
  obtain ⟨current, next⟩ := alike
  have tail (kind : TokenKind) (more stop : Production) :
      (Rule.tail [kind] more stop).feed symbol window' =
        ((Rule.tail [kind] more stop).feed symbol window).mapError
          (ParseError.about window'.current) := by
    rw [Rule.feed, Rule.feed, current]
    split <;> rfl
  cases symbol with
  | leaf kind =>
    rw [Symbol.rule, Rule.feed, Rule.feed, current]
    split <;> rfl
  | programItem => exact Rule.feed_choice_about (chosen?_programItemTable_eq current (next rfl))
  | declaration | statement | factor | number =>
    exact Rule.feed_choice_about (ExactTable.chosen?_eq (by decide) current)
  | programTail | identifierListTail | statementListTail | conditionTail | expressionListTail
  | expressionTail | operandTail | addendTail => exact tail _ _ _
  | _ => rfl

/-- Windows that are alike are reacted to in the same way. -/
theorem feed_eq_ok_of_alike {symbol : Symbol} {reaction : Feed}
    (alike : SeenAlike symbol window window')
    (fed : symbol.rule.feed symbol window = .ok reaction) :
    symbol.rule.feed symbol window' = .ok reaction := by
  rw [feed_about alike, fed]
  rfl

/-- Windows that are alike are rejected with the same error about another token. -/
theorem feed_eq_error_of_alike {symbol : Symbol} {error : ParseError}
    (alike : SeenAlike symbol window window')
    (failed : symbol.rule.feed symbol window = .error error) :
    symbol.rule.feed symbol window' = .error (error.about window'.current) := by
  rw [feed_about alike, failed]
  rfl

/-- An item of a program takes every token. -/
theorem ne_programItem_of_feed_eq_error {symbol : Symbol} {error : ParseError}
    (failed : symbol.rule.feed symbol window = .error error) : symbol ≠ .programItem := by
  rintro rfl
  rw [Symbol.rule, Rule.feed] at failed
  split at failed
  · cases failed
  · rename_i chosen
    rw [chosen?, Option.or_eq_none_iff] at chosen
    cases chosen.2

/-! ## Renamed tokens -/

section Map

variable {endLine endLine' : Nat} {f : Token → Token}

/-- Changing tokens but for their kinds keeps the kind of the first one. -/
theorem nextKind_map (kinds : ∀ token, (f token).kind = token.kind) (input : List Token) :
    nextKind (input.map f) = nextKind input := by
  cases input with
  | nil => rfl
  | cons token rest => exact kinds token

/-- Changing tokens but for their kinds does not change what starts a declaration. -/
theorem startsDeclaration_map (kinds : ∀ token, (f token).kind = token.kind)
    (input : List Token) : StartsDeclaration (input.map f) ↔ StartsDeclaration input := by
  rw [StartsDeclaration, StartsDeclaration, ← List.map_tail, nextKind_map kinds,
    nextKind_map kinds]

/-- Changing tokens but for their kinds does not change what symbols see. -/
theorem seenAlike_map (kinds : ∀ token, (f token).kind = token.kind) (symbol : Symbol)
    (input : List Token) :
    SeenAlike symbol (windowAt endLine input) (windowAt endLine' (input.map f)) := by
  refine seenAlike_windowAt (nextKind_map kinds input) fun _ _ => ?_
  rw [← List.map_tail, nextKind_map kinds]

/-- An agenda moves in the same way on tokens that are changed but for their kinds. -/
theorem Moves.map (kinds : ∀ token, (f token).kind = token.kind) {agenda next : Agenda}
    (moves : Moves endLine agenda next) :
    Moves endLine' ⟨agenda.pending, agenda.rest.map f⟩ ⟨next.pending, next.rest.map f⟩ := by
  cases moves with
  | @consume symbol pending input consumed =>
    have moved : Moves endLine' ⟨.symbol symbol :: pending, input.map f⟩
        ⟨pending, (input.map f).tail⟩ :=
      .consume (feed_eq_ok_of_alike (seenAlike_map kinds _ _) consumed)
    rw [← List.map_tail] at moved
    exact moved
  | expand expanded => exact .expand (feed_eq_ok_of_alike (seenAlike_map kinds _ _) expanded)
  | reduce => exact .reduce

/-- An agenda gets as far on tokens that are changed but for their kinds. -/
theorem Reaches.map (kinds : ∀ token, (f token).kind = token.kind) {agenda later : Agenda}
    (reaches : Reaches endLine agenda later) :
    Reaches endLine' ⟨agenda.pending, agenda.rest.map f⟩ ⟨later.pending, later.rest.map f⟩ := by
  induction reaches with
  | refl => exact .refl
  | tail _ moves ih => exact ih.tail (moves.map kinds)

/-- A renamed token is rejected as the token was, with its own text and line. -/
theorem Agenda.Rejects.map (kinds : ∀ token, (f token).kind = token.kind) {agenda : Agenda}
    {error : ParseError} (rejects : agenda.Rejects endLine error) :
    Agenda.Rejects endLine' ⟨agenda.pending, agenda.rest.map f⟩
      (error.about (windowAt endLine' (agenda.rest.map f)).current) := by
  cases rejects with
  | symbol failed => exact .symbol (feed_eq_error_of_alike (seenAlike_map kinds _ _) failed)
  | trailing left => exact .trailing (by rwa [nextKind_map kinds])

end Map

end DimLang
