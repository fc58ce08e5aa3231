import DimLang.Grammar.Rule

/-!
# Choices by look-ahead

A choice takes the first exact entry of its table that applies to the tokens under the cursor, and
the first wildcard if there is none. Where the wildcards stand among the exact entries does not
matter. A choice fails exactly if its table has neither, and the error lists the kinds that the
entries start with.

- `IsFirst` is the first entry of a table with a property
- `MovesWildcards` relates tables that differ only in where the wildcards stand
- `FirstAppearances` is a list without repetition, in the order of another one
- `feed_choice` is the behaviour of a choice for any table, symbol and window
-/

namespace DimLang

variable {table table' : List (Lookahead × Production)} {entry : Lookahead × Production}
  {window : Window} {symbol : Symbol}

/-! ## The entry that is taken -/

/-- The entry is the first one of the table whose look-ahead has the property. -/
def IsFirst (property : Lookahead → Bool) (table : List (Lookahead × Production))
    (entry : Lookahead × Production) : Prop :=
  property entry.1 = true ∧ ∃ front back, table = front ++ entry :: back ∧
    ∀ earlier ∈ front, property earlier.1 = false

/-- The first entry with a property is the one that is found by it. -/
theorem isFirst_iff_find? {property : Lookahead → Bool} :
    IsFirst property table entry ↔
      table.find? (fun entry => property entry.1) = some entry := by
  simp only [IsFirst, List.find?_eq_some_iff_append, Bool.not_eq_true']

/-- The look-ahead applies to the tokens under the cursor and is not the wildcard. -/
def Lookahead.names (window : Window) (lookahead : Lookahead) : Bool :=
  !lookahead.isWildcard && lookahead.applies window

/-- The first entry that names the current token is chosen. -/
theorem chosen?_of_isFirst (first : IsFirst (Lookahead.names window) table entry) :
    chosen? table window = some entry := by
  have found : table.find? (fun entry => !entry.1.isWildcard && entry.1.applies window) =
      some entry := isFirst_iff_find?.mp first
  rw [chosen?, found, Option.some_or]

/-- Where no entry names the current token, the first wildcard is chosen. -/
theorem chosen?_of_isFirst_wildcard (unnamed : ∀ other ∈ table, other.1.names window = false)
    (first : IsFirst Lookahead.isWildcard table entry) : chosen? table window = some entry := by
  have noneFound : table.find? (fun entry => !entry.1.isWildcard && entry.1.applies window) =
      none := by
    rw [List.find?_eq_none]
    intro other member named
    rw [← Lookahead.names, unnamed other member] at named
    cases named
  rw [chosen?, noneFound, Option.none_or]
  exact isFirst_iff_find?.mp first

/-- A wildcard always applies. -/
theorem Lookahead.not_isWildcard {lookahead : Lookahead}
    (fails : lookahead.applies window = false) : lookahead.isWildcard = false := by
  rw [Bool.eq_false_iff]
  intro wildcard
  rw [isWildcard, decide_eq_true_eq] at wildcard
  rw [wildcard] at fails
  cases fails

/-- No entry is taken exactly if none applies. -/
theorem chosen?_eq_none_iff :
    chosen? table window = none ↔ ∀ entry ∈ table, entry.1.applies window = false := by
  rw [chosen?, Option.or_eq_none_iff, List.find?_eq_none, List.find?_eq_none]
  constructor
  · rintro ⟨unnamed, noWildcard⟩ entry member
    simpa [noWildcard entry member] using unnamed entry member
  · intro fails
    refine ⟨fun entry member => by simp [fails entry member], fun entry member => ?_⟩
    rw [Lookahead.not_isWildcard (fails entry member)]
    exact Bool.false_ne_true

/-! ## Moving the wildcards -/

/-- The tables have the same wildcards and the same exact entries, both in the same order. -/
structure MovesWildcards (table table' : List (Lookahead × Production)) : Prop where
  wildcards : table'.filter (fun entry => entry.1.isWildcard) =
    table.filter (fun entry => entry.1.isWildcard)
  exacts : table'.filter (fun entry => !entry.1.isWildcard) =
    table.filter (fun entry => !entry.1.isWildcard)

/-- Moving wildcards does not change the choice. -/
theorem MovesWildcards.chosen?_eq (moves : MovesWildcards table table') :
    chosen? table' window = chosen? table window := by
  have found (entries : List (Lookahead × Production)) :
      chosen? entries window =
        (((entries.filter fun entry => !entry.1.isWildcard).filter
          fun entry => entry.1.applies window).head?).or
            (entries.filter fun entry => entry.1.isWildcard).head? := by
    rw [chosen?, List.filter_filter, List.head?_filter, List.head?_filter]
    simp only [Bool.and_comm]
  rw [found table', found table, moves.wildcards, moves.exacts]

/-- Without wildcards there is nothing to move. -/
theorem MovesWildcards.eq_of_exact (moves : MovesWildcards table table')
    (exact : ∀ entry ∈ table, entry.1.isWildcard = false) : table' = table := by
  have noWildcards : table.filter (fun entry => entry.1.isWildcard) = [] := by
    rw [List.filter_eq_nil_iff]
    intro entry member
    rw [exact entry member]
    exact Bool.false_ne_true
  have exact' : ∀ entry ∈ table', entry.1.isWildcard = false := by
    intro entry member
    have none := List.filter_eq_nil_iff.mp (moves.wildcards.trans noWildcards) entry member
    exact Bool.eq_false_iff.mpr none
  have keeps {entries : List (Lookahead × Production)}
      (exact : ∀ entry ∈ entries, entry.1.isWildcard = false) :
      entries.filter (fun entry => !entry.1.isWildcard) = entries :=
    List.filter_eq_self.mpr fun entry member => by rw [exact entry member]; rfl
  rw [← keeps exact', moves.exacts, keeps exact]

/-- Moving wildcards does not change the reaction to a token. -/
theorem MovesWildcards.feed_eq (moves : MovesWildcards table table') :
    (Rule.choice table').feed symbol window = (Rule.choice table).feed symbol window := by
  cases chosen : chosen? table window with
  | some entry => rw [Rule.feed, Rule.feed, moves.chosen?_eq, chosen]
  | none =>
    have exact : ∀ entry ∈ table, entry.1.isWildcard = false := fun entry member =>
      Lookahead.not_isWildcard (chosen?_eq_none_iff.mp chosen entry member)
    rw [moves.eq_of_exact exact]

/-! ## The kinds that an error lists -/

/-- The second list has the members of the first one, in the order in which they appear there
first. -/
structure FirstAppearances (all kinds : List TokenKind) : Prop where
  mem_iff : ∀ kind, kind ∈ kinds ↔ kind ∈ all
  ordered : kinds.Pairwise fun kind kind' => all.idxOf kind < all.idxOf kind'

/-- Kinds in the order of their first appearance are listed once. -/
theorem FirstAppearances.nodup {all kinds : List TokenKind}
    (appearances : FirstAppearances all kinds) : kinds.Nodup := by
  refine appearances.ordered.imp fun {kind kind'} before => ?_
  rintro rfl
  exact Nat.lt_irrefl _ before

/-- A kind that is met is added behind those before it, unless it has been met already. -/
theorem FirstAppearances.concat {all kinds : List TokenKind}
    (appearances : FirstAppearances all kinds) (kind : TokenKind) :
    FirstAppearances (all ++ [kind]) (if kinds.contains kind then kinds else kinds ++ [kind]) := by
  obtain ⟨mem_iff, ordered⟩ := appearances
  -- What has been met before is met at the same place.
  have kept : kinds.Pairwise fun first second =>
      (all ++ [kind]).idxOf first < (all ++ [kind]).idxOf second := by
    refine ordered.imp_of_mem fun {first second} member member' before => ?_
    rw [List.idxOf_append, List.idxOf_append, if_pos ((mem_iff first).mp member),
      if_pos ((mem_iff second).mp member')]
    exact before
  split
  · rename_i met
    rw [List.contains_iff_mem] at met
    refine ⟨fun other => ?_, kept⟩
    rw [mem_iff, List.mem_append, List.mem_singleton]
    refine (or_iff_left_of_imp ?_).symm
    rintro rfl
    exact (mem_iff other).mp met
  · rename_i new
    rw [List.contains_iff_mem, mem_iff] at new
    refine ⟨fun other => ?_, ?_⟩
    · rw [List.mem_append, List.mem_append, mem_iff]
    · rw [List.pairwise_append]
      refine ⟨kept, List.pairwise_singleton _ _, fun other member last same => ?_⟩
      obtain rfl := List.mem_singleton.mp same
      have earlier := (mem_iff other).mp member
      rw [List.idxOf_append, List.idxOf_append, if_pos earlier, if_neg new]
      exact Nat.lt_add_left _ (List.idxOf_lt_length_of_mem earlier)

/-- Going through a table keeps the order of first appearance. -/
theorem firstAppearances_foldl {all kinds : List TokenKind}
    (appearances : FirstAppearances all kinds) (table : List (Lookahead × Production)) :
    FirstAppearances (all ++ table.map fun entry => entry.1.leading)
      (table.foldl (fun kinds entry =>
        if kinds.contains entry.1.leading then kinds else kinds ++ [entry.1.leading]) kinds) := by
  induction table generalizing all kinds with
  | nil =>
    rw [List.map_nil, List.append_nil]
    exact appearances
  | cons entry table ih =>
    rw [List.map_cons, List.append_cons, List.foldl_cons]
    exact ih (appearances.concat entry.1.leading)

/-- The leading kinds of a table stand in the order of their first appearance. -/
theorem firstAppearances_leadingKinds (table : List (Lookahead × Production)) :
    FirstAppearances (table.map fun entry => entry.1.leading) (leadingKinds table) :=
  firstAppearances_foldl ⟨fun _ => Iff.rfl, List.Pairwise.nil⟩ table

/-! ## Choices -/

/-- The production of the chosen entry is expanded. -/
theorem feed_choice_of_chosen (chosen : chosen? table window = some entry) :
    (Rule.choice table).feed symbol window = .ok (.expand entry.2) := by
  rw [Rule.feed, chosen]

/-- Where nothing is chosen, the error names the leading kinds. -/
theorem feed_choice_of_none (chosen : chosen? table window = none) :
    (Rule.choice table).feed symbol window = .error (.noAlternative symbol (leadingKinds table)
      window.current.shown window.current.line) := by
  rw [Rule.feed, chosen]

/-- A choice fails exactly if no entry of its table applies. -/
theorem exists_feed_choice_eq_error_iff :
    (∃ error, (Rule.choice table).feed symbol window = .error error) ↔
      ∀ entry ∈ table, entry.1.applies window = false := by
  rw [← chosen?_eq_none_iff]
  cases chosen : chosen? table window with
  | some entry => simp [feed_choice_of_chosen chosen]
  | none => simp [feed_choice_of_none chosen]

/-- For any table, a choice expands into the production of the first exact entry that applies, or
else into that of the first wildcard, wherever the wildcards stand. It fails exactly if the table
has neither, and then the error lists each kind that an entry starts with once, in the order of
their first appearance. -/
theorem feed_choice (table : List (Lookahead × Production)) (symbol : Symbol) (window : Window) :
    (∀ entry, IsFirst (Lookahead.names window) table entry →
      (Rule.choice table).feed symbol window = .ok (.expand entry.2)) ∧
    (∀ entry, (∀ other ∈ table, other.1.names window = false) →
      IsFirst Lookahead.isWildcard table entry →
      (Rule.choice table).feed symbol window = .ok (.expand entry.2)) ∧
    (∀ table', MovesWildcards table table' →
      (Rule.choice table').feed symbol window = (Rule.choice table).feed symbol window) ∧
    ((∃ error, (Rule.choice table).feed symbol window = .error error) ↔
      ∀ entry ∈ table, entry.1.isWildcard = false ∧ entry.1.applies window = false) ∧
    (∀ error, (Rule.choice table).feed symbol window = .error error →
      ∃ expected, error =
          .noAlternative symbol expected window.current.shown window.current.line ∧
        expected.Nodup ∧ FirstAppearances (table.map fun entry => entry.1.leading) expected) := by
  refine ⟨fun entry first => feed_choice_of_chosen (chosen?_of_isFirst first),
    fun entry unnamed first => feed_choice_of_chosen (chosen?_of_isFirst_wildcard unnamed first),
    fun table' moves => moves.feed_eq, ?_, fun error failed => ?_⟩
  · rw [exists_feed_choice_eq_error_iff]
    exact forall₂_congr fun entry _ => (and_iff_right_of_imp Lookahead.not_isWildcard).symm
  · have chosen := chosen?_eq_none_iff.mpr (exists_feed_choice_eq_error_iff.mp ⟨error, failed⟩)
    rw [feed_choice_of_none chosen] at failed
    cases failed
    have appearances := firstAppearances_leadingKinds table
    exact ⟨_, rfl, appearances.nodup, appearances⟩

/-- A wildcard in front of the entries of an item yields to that of a separator and takes a name
that no comma or colon follows. A number that begins with a word has no alternative. -/
theorem feed_choice_wildcard_in_front :
    MovesWildcards programItemTable
      ((.kind .any, .programItemStatement) :: programItemTable.dropLast) ∧
    (Rule.choice ((.kind .any, .programItemStatement) :: programItemTable.dropLast)).feed
      .programItem ⟨⟨.separator, ";", 1⟩, .atEnd 1⟩ = .ok (.expand .programItemEmpty) ∧
    (Rule.choice ((.kind .any, .programItemStatement) :: programItemTable.dropLast)).feed
      .programItem ⟨⟨.identifier, "x", 1⟩, ⟨.asWord, "as", 1⟩⟩ =
        .ok (.expand .programItemStatement) ∧
    ∃ error expected,
      (Rule.choice numberTable).feed .number ⟨⟨.thenWord, "then", 7⟩, .atEnd 7⟩ = .error error ∧
      error = .noAlternative .number expected "\"then\"" 7 ∧ expected.Nodup ∧
        FirstAppearances [.intNumber, .floatNumber] expected := by
  have moves : MovesWildcards programItemTable
      ((.kind .any, .programItemStatement) :: programItemTable.dropLast) := ⟨rfl, rfl⟩
  refine ⟨moves, ?_, ?_, ?_⟩
  · rw [(feed_choice programItemTable _ _).2.2.1 _ moves]
    refine (feed_choice programItemTable _ _).1 (.kind .separator, .programItemEmpty) ?_
    exact ⟨rfl, programItemTable.take 2, _, rfl, by decide⟩
  · rw [(feed_choice programItemTable _ _).2.2.1 _ moves]
    refine (feed_choice programItemTable _ _).2.1 (.kind .any, .programItemStatement) (by decide) ?_
    exact ⟨rfl, programItemTable.take 3, _, rfl, by decide⟩
  · have number := feed_choice numberTable .number ⟨⟨.thenWord, "then", 7⟩, .atEnd 7⟩
    obtain ⟨error, failed⟩ := number.2.2.2.1.mpr (by decide)
    obtain ⟨expected, lists⟩ := number.2.2.2.2 error failed
    exact ⟨error, expected, failed, lists⟩

end DimLang
