import DimLang.Proofs.Grammar.Joined
import DimLang.Proofs.Typing.Annotations
import DimLang.Typing.Programs

/-!
# Programs one after the other

Programs may be analysed one after the other, each under the names that those before it have left,
and a program that is rejected leaves names, too. The table only grows (`SymbolTable.Extends`), so
a name keeps its type for good.

A rejected program is left with the types of the items in front of the failing one, and the items
behind it are as they were (`Program.EndsAt`). Of the failing item, the table has the names that a
declaration lists in front of one that is declared already, and nothing of a statement
(`ProgramItem.Leaves`).

- `symbolsAfter` is the table behind programs that are analysed one after the other
- `session_keeps`: what a session keeps, whichever of its programs are rejected
-/

namespace DimLang

/-- The names declared behind programs that are analysed one after the other, be they accepted or
not. -/
def symbolsAfter (operators : OperatorTable) (symbols : SymbolTable) (programs : List Program) :
    SymbolTable :=
  programs.foldl (fun symbols program => (program.check ⟨operators, symbols⟩).symbols) symbols

/-- A session goes on from the table it has reached. -/
theorem symbolsAfter_append (operators : OperatorTable) (symbols : SymbolTable)
    (earlier later : List Program) :
    symbolsAfter operators symbols (earlier ++ later) =
      symbolsAfter operators (symbolsAfter operators symbols earlier) later :=
  List.foldl_append

/-! ## The table only grows -/

namespace SymbolTable

/-- The later table has all names of the earlier one, with the same types. -/
def Extends (symbols later : SymbolTable) : Prop :=
  ∀ name ty, symbols.get? name = some ty → later.get? name = some ty

/-- Every table extends itself. -/
theorem Extends.refl (symbols : SymbolTable) : symbols.Extends symbols :=
  fun _ _ known => known

/-- What extends an extension extends the table. -/
theorem Extends.trans {symbols middle later : SymbolTable} (first : symbols.Extends middle)
    (second : middle.Extends later) : symbols.Extends later :=
  fun name ty known => second name ty (first name ty known)

/-- Names in front of those that are known hide none of them, since no name is declared twice. -/
theorem extends_of_suffix {symbols later : SymbolTable}
    (suffix : symbols.entries <:+ later.entries) : symbols.Extends later := by
  intro name ty known
  obtain ⟨added, entries⟩ := suffix
  have nodup := later.nodup
  rw [← entries, List.map_append, List.nodup_append] at nodup
  have listed : name ∈ symbols.entries.map Prod.fst :=
    List.mem_map_of_mem (f := Prod.fst) (mem_of_get?_eq_some known)
  have absent : added.lookup name = none := by
    rw [List.lookup_eq_none_iff]
    intro entry member
    rw [bne_iff_ne]
    exact fun same => nodup.2.2 _ (List.mem_map_of_mem member) _ listed same.symm
  rw [get?, ← entries, List.lookup_append, absent]
  exact known

end SymbolTable

/-- The names of a list are declared up to one that is declared already, which the error names. -/
theorem IdentifierList.declare_entries (ty : DataType) :
    (names : IdentifierList) → (symbols : SymbolTable) → (passed : List (Identifier × Leaf)) →
      ∃ declared others, names.toList = declared ++ others ∧
        (names.declare ty symbols passed).symbols.entries =
          (declared.map fun name => (name.name, ty)).reverse ++ symbols.entries ∧
        ∀ error, (names.declare ty symbols passed).verdict = .error error →
          ∃ name behind, others = name :: behind ∧
            (names.declare ty symbols passed).symbols.get? name.name ≠ none ∧
              error = .redeclared name.name name.token.line
  | ⟨head, .stop⟩, symbols, passed => by
    rw [declare, SymbolTable.declare]
    by_cases known : head.name ∈ symbols.entries.map Prod.fst
    · rw [dif_pos known]
      refine ⟨[], [head], rfl, rfl, ?_⟩
      rintro _ ⟨⟩
      exact ⟨head, [], rfl, mt symbols.get?_eq_none_iff.mp (not_not_intro known), rfl⟩
    · rw [dif_neg known]
      exact ⟨[head], [], rfl, rfl, fun _ failed => nomatch failed⟩
  | ⟨head, .more comma rest⟩, symbols, passed => by
    rw [declare, SymbolTable.declare]
    by_cases known : head.name ∈ symbols.entries.map Prod.fst
    · rw [dif_pos known]
      refine ⟨[], head :: rest.toList, toList_more .., rfl, ?_⟩
      rintro _ ⟨⟩
      exact ⟨head, _, rfl, mt symbols.get?_eq_none_iff.mp (not_not_intro known), rfl⟩
    · rw [dif_neg known]
      obtain ⟨declared, others, listed, added, clash⟩ := declare_entries ty rest
        (symbols.insert head.name ty known) ((⟨head.token, ty⟩, comma) :: passed)
      refine ⟨head :: declared, others, ?_, ?_, clash⟩
      · rw [toList_more, listed, List.cons_append]
      · rw [List.map_cons, List.reverse_cons, List.append_assoc]
        exact added

/-- A declaration only adds to the table, also one that fails. -/
theorem Declaration.extends_check (symbols : SymbolTable) (declaration : Declaration) :
    symbols.Extends (declaration.check symbols).symbols := by
  rw [check]
  dsimp only
  split
  · exact .refl symbols
  · rename_i ty _
    obtain ⟨declared, others, _, added, _⟩ :=
      declaration.identifiers.declare_entries ty symbols []
    exact SymbolTable.extends_of_suffix ⟨_, added.symm⟩

/-- An item only adds to the table, also one that fails. -/
theorem ProgramItem.extends_check (context : TypingContext) (item : ProgramItem) :
    context.symbols.Extends (item.check context).symbols := by
  cases item with
  | declaration tree => exact tree.extends_check context.symbols
  | statement tree => exact .refl _

/-- A program only adds to the table, also one that fails. -/
theorem Program.extends_checkFrom (operators : OperatorTable) :
    (program : Program) → (symbols : SymbolTable) → (passed : List (ProgramItem × Leaf)) →
      symbols.Extends (program.checkFrom operators symbols passed).symbols
  | ⟨item, .stop⟩, symbols, passed => by
    rw [checkFrom]
    exact item.extends_check ⟨operators, symbols⟩
  | ⟨item, .more separator rest⟩, symbols, passed => by
    have grows := item.extends_check ⟨operators, symbols⟩
    rw [checkFrom]
    generalize item.check ⟨operators, symbols⟩ = checked at grows ⊢
    rcases checked with ⟨item', middle, _ | _⟩
    · exact grows
    · exact grows.trans (extends_checkFrom operators rest middle _)

/-- A session only adds to the table. -/
theorem extends_symbolsAfter (operators : OperatorTable) (symbols : SymbolTable)
    (programs : List Program) : symbols.Extends (symbolsAfter operators symbols programs) := by
  induction programs generalizing symbols with
  | nil => exact .refl symbols
  | cons program programs ih =>
    exact (program.extends_checkFrom operators symbols []).trans (ih _)

/-! ## Where the analysis ends -/

/-- The table behind an item that fails: a declaration has added the names that it lists in front
of one that is declared already, and none if its type is unknown; a statement adds none. -/
inductive ProgramItem.Leaves (symbols : SymbolTable) :
    ProgramItem → SymbolTable → SemanticError → Prop
  | statement (tree : Statement) (error : SemanticError) :
      Leaves symbols (.statement tree) symbols error
  | unknownType {tree : Declaration}
      (unknown : DataType.ofTypeName? tree.typeName.token.text = none) :
      Leaves symbols (.declaration tree) symbols
        (.unknownType tree.typeName.token.text tree.typeName.token.line)
  | redeclared {tree : Declaration} {ty : DataType} {declared behind : List Identifier}
      {name : Identifier} {later : SymbolTable}
      (named : DataType.ofTypeName? tree.typeName.token.text = some ty)
      (listed : tree.identifiers.toList = declared ++ name :: behind)
      (added : later.entries =
        (declared.map fun name => (name.name, ty)).reverse ++ symbols.entries)
      (clash : later.get? name.name ≠ none) :
      Leaves symbols (.declaration tree) later (.redeclared name.name name.token.line)

/-- What an item that fails leaves in the table is as `Leaves` says. -/
theorem ProgramItem.leaves_of_check {context : TypingContext} {item typed : ProgramItem}
    {later : SymbolTable} {error : SemanticError}
    (failed : item.check context = ⟨typed, later, .error error⟩) :
    item.Leaves context.symbols later error := by
  cases item with
  | statement tree =>
    obtain ⟨-, rfl, -⟩ := Analysis.mk.inj failed
    exact .statement tree error
  | declaration tree =>
    rw [check, Declaration.check] at failed
    cases named : DataType.ofTypeName? tree.typeName.token.text with
    | none =>
      rw [named] at failed
      cases failed
      exact .unknownType named
    | some ty =>
      obtain ⟨declared, others, listed, added, clash⟩ :=
        tree.identifiers.declare_entries ty context.symbols []
      rw [named] at failed
      obtain ⟨-, rfl, verdict⟩ := Analysis.mk.inj failed
      obtain ⟨name, behind, rfl, known, rfl⟩ := clash error verdict
      exact .redeclared named listed added known

/-- The analysis of a program ends with an error at an item. If there are items in front of it, they
are a program that is accepted under the same names, and they have the types that they have there;
the items behind are left as they were. -/
inductive Program.EndsAt (operators : OperatorTable) (symbols : SymbolTable)
    (error : SemanticError) : Program → Analysis Program → Prop
  | first {item typed : ProgramItem} {tail : ProgramTail} {later : SymbolTable}
      (failed : item.check ⟨operators, symbols⟩ = ⟨typed, later, .error error⟩)
      (left : item.Leaves symbols later error) :
      EndsAt operators symbols error ⟨item, tail⟩ ⟨⟨typed, tail⟩, later, .error error⟩
  | behind {front accepted : Program} {middle : SymbolTable} {separator : Leaf}
      {item typed : ProgramItem} {tail : ProgramTail} {later : SymbolTable}
      (accepts : front.check ⟨operators, symbols⟩ = ⟨accepted, middle, .ok ()⟩)
      (failed : item.check ⟨operators, middle⟩ = ⟨typed, later, .error error⟩)
      (left : item.Leaves middle later error) :
      EndsAt operators symbols error (front.append separator ⟨item, tail⟩)
        ⟨accepted.append separator ⟨typed, tail⟩, later, .error error⟩

namespace Program

/-- What is passed stands in front of the outcome for the rest. -/
theorem checkFrom_eq (operators : OperatorTable) :
    (program : Program) → (symbols : SymbolTable) → (passed : List (ProgramItem × Leaf)) →
      program.checkFrom operators symbols passed =
        ⟨behind passed (program.check ⟨operators, symbols⟩).tree,
          (program.check ⟨operators, symbols⟩).symbols,
          (program.check ⟨operators, symbols⟩).verdict⟩
  | ⟨item, .stop⟩, symbols, passed => by
    rw [check, checkFrom, checkFrom]
    rfl
  | ⟨item, .more separator rest⟩, symbols, passed => by
    rw [check, checkFrom, checkFrom]
    rcases item.check ⟨operators, symbols⟩ with ⟨item', middle, _ | _⟩
    · rfl
    · dsimp only
      rw [checkFrom_eq operators rest middle, checkFrom_eq operators rest middle [_]]
      rfl

variable {operators : OperatorTable} {symbols middle later : SymbolTable}
  {item typed : ProgramItem} {separator : Leaf} {rest : Program} {error : SemanticError}

/-- Behind an accepted item the analysis goes on with the rest. -/
theorem check_more (accepts : item.check ⟨operators, symbols⟩ = ⟨typed, middle, .ok ()⟩) :
    check ⟨operators, symbols⟩ ⟨item, .more separator rest⟩ =
      ⟨⟨typed, .more separator (rest.check ⟨operators, middle⟩).tree⟩,
        (rest.check ⟨operators, middle⟩).symbols, (rest.check ⟨operators, middle⟩).verdict⟩ := by
  rw [check, checkFrom, accepts]
  exact checkFrom_eq operators rest middle [(typed, separator)]

/-- A program of one item is accepted if the item is. -/
theorem check_single (accepts : item.check ⟨operators, symbols⟩ = ⟨typed, middle, .ok ()⟩) :
    check ⟨operators, symbols⟩ ⟨item, .stop⟩ = ⟨⟨typed, .stop⟩, middle, .ok ()⟩ := by
  rw [check, checkFrom, accepts]
  rfl

/-- The analysis ends at the first item that fails, with the error of that item. -/
theorem check_failed {tail : ProgramTail}
    (failed : item.check ⟨operators, symbols⟩ = ⟨typed, later, .error error⟩) :
    check ⟨operators, symbols⟩ ⟨item, tail⟩ = ⟨⟨typed, tail⟩, later, .error error⟩ := by
  cases tail <;> (rw [check, checkFrom, failed]; rfl)

/-- An accepted item may be put in front of items among which the analysis ends. -/
theorem EndsAt.cons {analysis : Analysis Program}
    (accepts : item.check ⟨operators, symbols⟩ = ⟨typed, middle, .ok ()⟩)
    (ends : rest.EndsAt operators middle error analysis) :
    EndsAt operators symbols error ⟨item, .more separator rest⟩
      ⟨⟨typed, .more separator analysis.tree⟩, analysis.symbols, analysis.verdict⟩ := by
  cases ends with
  | first failed left => exact .behind (check_single accepts) failed left
  | @behind front accepted _ own _ _ _ _ accepts' failed left =>
    have front' : check ⟨operators, symbols⟩ ⟨item, .more separator front⟩ = _ := check_more accepts
    rw [accepts'] at front'
    exact .behind front' failed left

/-- A program that fails ends at its first failing item. -/
theorem endsAt_check : (program : Program) → (symbols : SymbolTable) →
    (program.check ⟨operators, symbols⟩).verdict = .error error →
      program.EndsAt operators symbols error (program.check ⟨operators, symbols⟩)
  | ⟨item, tail⟩, symbols, rejected => by
    rcases checked : item.check ⟨operators, symbols⟩ with ⟨typed, middle, found | _⟩
    · rw [check_failed checked] at rejected ⊢
      cases rejected
      exact .first checked (ProgramItem.leaves_of_check checked)
    · cases tail with
      | stop =>
        rw [check_single checked] at rejected
        cases rejected
      | more separator rest =>
        rw [check_more checked] at rejected ⊢
        exact (endsAt_check rest middle rejected).cons checked

end Program

/-- Whichever programs of a session are rejected, a name that is declared stays declared with its
type, and a rejected program is left as it was from the failing item on, with the types and names of
the items in front of it. -/
theorem session_keeps (operators : OperatorTable) (symbols : SymbolTable)
    (earlier : List Program) :
    (∀ later, (symbolsAfter operators symbols earlier).Extends
      (symbolsAfter operators symbols (earlier ++ later))) ∧
    ∀ (program : Program) (error : SemanticError),
      (program.check ⟨operators, symbolsAfter operators symbols earlier⟩).verdict = .error error →
        program.EndsAt operators (symbolsAfter operators symbols earlier) error
          (program.check ⟨operators, symbolsAfter operators symbols earlier⟩) := by
  refine ⟨fun later => ?_, fun program error => program.endsAt_check _⟩
  rw [symbolsAfter, symbolsAfter, List.foldl_append]
  exact extends_symbolsAfter operators _ later

/-- A list that declares a name twice leaves the names in front of it declared, and so does a later
one behind a statement that uses them. -/
theorem session_keeps_names :
    ∃ first second : Program,
      (first.check ⟨.standard, .empty⟩).verdict = .error (.redeclared "a" 1) ∧
      (symbolsAfter .standard .empty [first]).entries = [("b", .int), ("a", .int)] ∧
      (second.check ⟨.standard, symbolsAfter .standard .empty [first]⟩).verdict =
        .error (.redeclared "b" 3) ∧
      (symbolsAfter .standard .empty [first, second]).get? "c" = some .float ∧
      (symbolsAfter .standard .empty [first]).Extends
        (symbolsAfter .standard .empty [first, second]) ∧
      second.EndsAt .standard (symbolsAfter .standard .empty [first]) (.redeclared "b" 3)
        (second.check ⟨.standard, symbolsAfter .standard .empty [first]⟩) := by
  refine ⟨
    ⟨.declaration ⟨some ⟨⟨.dimWord, "dim", 1⟩⟩,
      ⟨⟨⟨.identifier, "a", 1⟩, .invalid⟩, .more ⟨⟨.comma, ",", 1⟩⟩
        ⟨⟨⟨.identifier, "b", 1⟩, .invalid⟩, .more ⟨⟨.comma, ",", 1⟩⟩
          ⟨⟨⟨.identifier, "a", 1⟩, .invalid⟩, .stop⟩⟩⟩, none, ⟨⟨.typeName, "integer", 1⟩⟩⟩, .stop⟩,
    ⟨.statement (.reading ⟨⟨⟨.readWord, "read", 2⟩⟩, ⟨⟨.openParen, "(", 2⟩⟩,
      ⟨⟨⟨.identifier, "a", 2⟩, .invalid⟩, .stop⟩, ⟨⟨.closeParen, ")", 2⟩⟩⟩),
      .more ⟨⟨.separator, "\n", 2⟩⟩
    ⟨.declaration ⟨none,
      ⟨⟨⟨.identifier, "c", 3⟩, .invalid⟩, .more ⟨⟨.comma, ",", 3⟩⟩
        ⟨⟨⟨.identifier, "b", 3⟩, .invalid⟩, .stop⟩⟩, some ⟨⟨.colon, ":", 3⟩⟩,
      ⟨⟨.typeName, "float", 3⟩⟩⟩, .more ⟨⟨.separator, "\n", 3⟩⟩ ⟨.statement .empty, .stop⟩⟩⟩,
    rfl, rfl, rfl, rfl, (session_keeps _ _ [_]).1 [_], (session_keeps _ _ [_]).2 _ _ rfl⟩

end DimLang
