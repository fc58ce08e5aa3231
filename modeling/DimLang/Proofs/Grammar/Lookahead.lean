import DimLang.Grammar.Parser
import DimLang.Proofs.Grammar.Derivation

/-!
# What the next tokens decide

A rule sees the next two tokens only through their kinds. A choice among exact entries takes the
entry of the next kind (`feed_choice_iff`), a tail continues exactly on its own kind
(`feed_tail_iff`), and the items of a program are told apart as the grammar tells them apart
(`feed_programItem_iff`).
-/

namespace DimLang

variable {endLine : Nat} {input : List Token} {symbol : Symbol} {window : Window}
  {production : Production}

/-- The window shows the kind of the next token. -/
@[simp] theorem windowAt_current_kind : (windowAt endLine input).current.kind = nextKind input := by
  match input with
  | [] => rfl
  | [_] => rfl
  | _ :: _ :: _ => rfl

/-- The window shows the kind of the token behind the next one. -/
@[simp] theorem windowAt_next_kind :
    (windowAt endLine input).next.kind = nextKind input.tail := by
  match input with
  | [] => rfl
  | [_] => rfl
  | _ :: _ :: _ => rfl

/-- The window shows the next token. -/
theorem windowAt_current_cons (token : Token) (rest : List Token) :
    (windowAt endLine (token :: rest)).current = token := by
  cases rest <;> rfl

/-- Whether all entries of a choice name one kind of token each, and no two the same. -/
def ExactTable (table : List (Lookahead × Production)) : Prop :=
  (∀ entry ∈ table, entry.1 = .kind entry.1.leading ∧ entry.1.leading ≠ .any) ∧
    (table.map Prod.fst).Nodup

instance (table : List (Lookahead × Production)) : Decidable (ExactTable table) :=
  inferInstanceAs (Decidable (_ ∧ _))

/-- The rest of an exact table is exact. -/
theorem ExactTable.tail {entry : Lookahead × Production} {table : List (Lookahead × Production)}
    (exact : ExactTable (entry :: table)) : ExactTable table :=
  ⟨fun other member => exact.1 other (List.mem_cons_of_mem _ member),
    (List.nodup_cons.mp exact.2).2⟩

/-- An exact table has no wildcard. -/
theorem ExactTable.find?_isWildcard {table : List (Lookahead × Production)}
    (exact : ExactTable table) : table.find? (fun entry => entry.1.isWildcard) = none := by
  rw [List.find?_eq_none]
  intro entry member
  obtain ⟨named, notAny⟩ := exact.1 entry member
  rw [Lookahead.isWildcard, named]
  simpa using notAny

/-- Among exact entries the one of the next kind is found. -/
theorem ExactTable.find?_eq_some_iff {table : List (Lookahead × Production)}
    (exact : ExactTable table) {entry : Lookahead × Production} :
    table.find? (fun entry => !entry.1.isWildcard && entry.1.applies window) = some entry ↔
      entry ∈ table ∧ entry.1 = .kind window.current.kind := by
  induction table with
  | nil => simp
  | cons first table ih =>
    obtain ⟨named, notAny⟩ := exact.1 first List.mem_cons_self
    generalize first.1.leading = kind at named notAny
    have applies : (!first.1.isWildcard && first.1.applies window) =
        decide (kind = window.current.kind) := by
      simp [named, Lookahead.isWildcard, Lookahead.applies, notAny]
    rw [List.find?_cons, applies]
    by_cases same : kind = window.current.kind
    · rw [decide_eq_true same]
      constructor
      · intro found
        cases found
        exact ⟨List.mem_cons_self, by rw [named, same]⟩
      · rintro ⟨member, wanted⟩
        rcases List.mem_cons.mp member with rfl | later
        · rfl
        -- A later entry of the same kind would be named twice.
        · have twice : first.1 ∈ table.map Prod.fst := by
            rw [named, same, ← wanted]
            exact List.mem_map_of_mem later
          exact absurd twice (List.nodup_cons.mp exact.2).1
    · rw [decide_eq_false same]
      refine (ih exact.tail).trans (and_congr_left fun wanted => ?_)
      rw [List.mem_cons]
      refine (or_iff_right ?_).symm
      rintro rfl
      rw [named, Lookahead.kind.injEq] at wanted
      exact same wanted

/-- An exact table expands the production that is listed for the current kind. -/
theorem feed_choice_iff {table : List (Lookahead × Production)} (exact : ExactTable table) :
    (Rule.choice table).feed symbol window = .ok (.expand production) ↔
      (.kind window.current.kind, production) ∈ table := by
  have chosen : chosen? table window =
      table.find? (fun entry => !entry.1.isWildcard && entry.1.applies window) := by
    rw [chosen?, exact.find?_isWildcard, Option.or_none]
  rw [Rule.feed, chosen]
  constructor
  · intro fed
    split at fed
    · rename_i entry found
      obtain ⟨member, wanted⟩ := exact.find?_eq_some_iff.mp found
      cases fed
      rw [← wanted]
      exact member
    · cases fed
  · intro member
    rw [exact.find?_eq_some_iff.mpr ⟨member, rfl⟩]

/-- A choice among exact entries takes the entry of the next kind, and fails if there is none. -/
theorem feed_exact_iff {table : List (Lookahead × Production)} (exact : ExactTable table) :
    (Rule.choice table).feed symbol (windowAt endLine input) = .ok (.expand production) ↔
      (.kind (nextKind input), production) ∈ table := by
  rw [feed_choice_iff exact, windowAt_current_kind]

/-- An item is fed as the grammar tells the items apart. -/
theorem feed_programItem_iff :
    (Rule.choice programItemTable).feed symbol (windowAt endLine input) =
        .ok (.expand production) ↔
      StartsDeclaration input ∧ production = .programItemDeclaration ∨
        nextKind input = .separator ∧ production = .programItemEmpty ∨
          ¬ StartsDeclaration input ∧ nextKind input ≠ .separator ∧
            production = .programItemStatement := by
  rw [Rule.feed, chosen?, StartsDeclaration]
  simp only [programItemTable, List.find?_cons, Lookahead.isWildcard, Lookahead.applies,
    windowAt_current_kind, windowAt_next_kind]
  generalize nextKind input = first
  generalize nextKind input.tail = second
  by_cases word : first = .dimWord
  · simp [word, eq_comm]
  · by_cases name : first = .identifier
    · by_cases listed : second = .comma ∨ second = .colon
      · simp [name, listed, eq_comm]
      · simp [name, listed, eq_comm]
    · by_cases blank : first = .separator
      · simp [blank, eq_comm]
      · simp [eq_comm (a := TokenKind.dimWord), eq_comm (a := TokenKind.identifier),
          eq_comm (a := TokenKind.separator), word, name, blank, eq_comm (b := production)]

/-- A tail goes on behind its kind and stops in front of any other. -/
theorem feed_tail_iff {kind : TokenKind} {more stop : Production} :
    (Rule.tail [kind] more stop).feed symbol (windowAt endLine input) = .ok (.expand production) ↔
      nextKind input = kind ∧ production = more ∨ nextKind input ≠ kind ∧ production = stop := by
  rw [Rule.feed, windowAt_current_kind]
  by_cases same : nextKind input = kind
  · simp [same, eq_comm]
  · simp [same, eq_comm]

end DimLang
