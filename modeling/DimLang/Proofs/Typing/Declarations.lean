import DimLang.Proofs.Grammar.Language
import DimLang.Proofs.Grammar.Moves
import DimLang.Proofs.Typing.Agreement
import DimLang.Proofs.Typing.Annotations
import DimLang.Frontend
import Mathlib.Data.List.Nodup

/-!
# Declared names in typed programs

A typed program is a sequence of items that pass on a growing symbol table (`ItemsTyped`). The
table behind some items has the names that they declare, latest first, and no name twice; a
statement is typed under the table in front of it. What the analysis guarantees of a program as a
whole follows from this:

- `wellTyped_of_analyze`: in an analysed program everything is annotated, every name is declared
  once and before it is used, and all its occurrences have the declared type
-/

namespace DimLang

/-! ## Items -/

/-- What the symbol table holds of a declared name. -/
def Identifier.entry (name : Identifier) : String × DataType :=
  (name.name, name.ty)

/-- The names that the item declares. -/
def ProgramItem.declares : ProgramItem → List Identifier
  | declaration tree => tree.identifiers.toList
  | statement _ => []

/-- The item is typed under the first table, and leaves the second one. -/
inductive ItemTyped : SymbolTable → ProgramItem → SymbolTable → Prop
  | declaration {symbols later : SymbolTable} {tree : Declaration} {ty : DataType}
      (named : DataType.ofTypeName? tree.typeName.token.text = some ty)
      (types : ∀ name ∈ tree.identifiers.toList, name.ty = ty)
      (added : later.entries =
        (tree.identifiers.toList.map Identifier.entry).reverse ++ symbols.entries) :
      ItemTyped symbols (.declaration tree) later
  | statement {symbols : SymbolTable} {tree : Statement}
      (typed : (Node.statement tree).Everywhere (Node.TypedIn symbols)) :
      ItemTyped symbols (.statement tree) symbols

/-- The items are typed one after the other. -/
inductive ItemsTyped : SymbolTable → List ProgramItem → SymbolTable → Prop
  | nil (symbols : SymbolTable) : ItemsTyped symbols [] symbols
  | cons {symbols middle later : SymbolTable} {item : ProgramItem} {items : List ProgramItem}
      (first : ItemTyped symbols item middle) (more : ItemsTyped middle items later) :
      ItemsTyped symbols (item :: items) later

/-- All names of the table have proper types. -/
def SymbolTable.Resolved (symbols : SymbolTable) : Prop :=
  ∀ entry ∈ symbols.entries, entry.2.isResolved

variable {symbols later : SymbolTable} {item : ProgramItem} {items : List ProgramItem}

/-- The type that a type name stands for is resolved. -/
theorem DataType.isResolved_of_ofTypeName? {text : String} {ty : DataType}
    (named : ofTypeName? text = some ty) : ty.isResolved := by
  rw [ofTypeName?] at named
  split at named
  · cases named
    rfl
  · split at named
    · cases named
      rfl
    · split at named
      · cases named
        rfl
      · cases named

/-- Behind an item the table holds what the item declares in front of what it held. -/
theorem ItemTyped.entries (typed : ItemTyped symbols item later) :
    later.entries = (item.declares.map Identifier.entry).reverse ++ symbols.entries := by
  cases typed with
  | declaration _ _ added => exact added
  | statement => rfl

/-- A table of resolved types stays one. -/
theorem ItemTyped.resolved (typed : ItemTyped symbols item later) (resolved : symbols.Resolved) :
    later.Resolved := by
  cases typed with
  | declaration named types added =>
    intro entry member
    rw [added, List.mem_append, List.mem_reverse] at member
    rcases member with declared | known
    · obtain ⟨name, listed, rfl⟩ := List.mem_map.mp declared
      rw [Identifier.entry, types name listed]
      exact DataType.isResolved_of_ofTypeName? named
    · exact resolved entry known
  | statement => exact resolved

/-- The table behind the items has the names that they declare. -/
theorem ItemsTyped.entries (typed : ItemsTyped symbols items later) :
    later.entries =
      ((items.flatMap ProgramItem.declares).map Identifier.entry).reverse ++ symbols.entries := by
  induction typed with
  | nil => rfl
  | cons first _ ih =>
    rw [ih, first.entries, List.flatMap_cons, List.map_append, List.reverse_append,
      List.append_assoc]

/-- Every item is typed under the table that the items before it leave. -/
theorem ItemsTyped.split {before after : List ProgramItem}
    (typed : ItemsTyped symbols (before ++ item :: after) later) :
    ∃ middle next, ItemsTyped symbols before middle ∧ ItemTyped middle item next := by
  induction before generalizing symbols with
  | nil =>
    cases typed with
    | cons first _ => exact ⟨_, _, .nil _, first⟩
  | cons head before ih =>
    cases typed with
    | cons first more =>
      obtain ⟨middle, next, front, here⟩ := ih more
      exact ⟨middle, next, .cons first front, here⟩

/-! ## The rules type the items -/

/-- The item is a declaration with a type that the language does not have. -/
def ProgramItem.Unknown : ProgramItem → Prop
  | declaration tree => DataType.ofTypeName? tree.typeName.token.text = none
  | statement _ => False

/-- A declared name has the type of its declaration and is entered with it. -/
theorem Identifier.declared_delivers (ty : DataType) (symbols : SymbolTable) (name : Identifier) :
    Delivers SemanticError.Proper
      (fun result => result.1.ty = ty ∧ result.2.entries = result.1.entry :: symbols.entries)
      (name.declared ty symbols) := by
  rw [declared]
  split
  · exact trivial
  · exact ⟨rfl, rfl⟩

/-- The declared names have the type of their declaration and are entered in order. -/
theorem IdentifierList.declared_delivers (ty : DataType) :
    (names : IdentifierList) → (symbols : SymbolTable) →
      Delivers SemanticError.Proper
        (fun result => (∀ name ∈ result.1.toList, name.ty = ty) ∧ result.2.entries =
          (result.1.toList.map Identifier.entry).reverse ++ symbols.entries)
        (names.declared ty symbols)
  | ⟨head, .stop⟩, symbols => by
    rw [declared]
    refine (head.declared_delivers ty symbols).bind ?_
    rintro ⟨head, later⟩ ⟨headTy, entries⟩
    exact ⟨by simpa using headTy, entries⟩
  | ⟨head, .more comma rest⟩, symbols => by
    rw [declared]
    refine (head.declared_delivers ty symbols).bind ?_
    rintro ⟨head, middle⟩ ⟨headTy, entries⟩
    refine (rest.declared_delivers ty middle).bind ?_
    rintro ⟨rest, later⟩ ⟨restTy, entries'⟩
    refine ⟨?_, ?_⟩
    · rw [toList_more]
      exact List.forall_mem_cons.mpr ⟨headTy, restTy⟩
    · rw [entries', entries, toList_more, List.map_cons, List.reverse_cons, List.append_assoc,
        List.singleton_append]

/-- A typed item is as `ItemTyped` says; its error is proper unless a type is unknown. -/
theorem ProgramItem.infer_delivers {context : TypingContext} (proper : context.Proper)
    (item : ProgramItem) (grammatical : (Node.programItem item).Everywhere Node.Grammatical) :
    Delivers (fun error => error.Proper ∨ item.Unknown)
      (fun result => ItemTyped context.symbols result.1 result.2) (item.infer context) := by
  cases item with
  | declaration tree =>
    rw [infer, Declaration.infer]
    cases named : DataType.ofTypeName? tree.typeName.token.text with
    | none => exact .inr named
    | some ty =>
      rw [bind_assoc]
      refine Delivers.bind ((tree.identifiers.declared_delivers ty context.symbols).widen
        fun error => Or.inl) ?_
      rintro ⟨names, later⟩ ⟨types, added⟩
      exact .declaration named types added
  | statement tree =>
    rw [infer]
    have part : (Node.statement tree).Everywhere Node.Grammatical :=
      grammatical.child (List.mem_singleton.mpr rfl)
    exact Delivers.bind ((tree.infer_delivers proper part).widen fun error => Or.inl)
      fun tree typed => .statement typed

/-- The rules type the items of a grammatical program, or they are violated by proper types, or the
program names a type that the language does not have. -/
theorem Program.infer_delivers {operators : OperatorTable} :
    (program : Program) → (symbols : SymbolTable) → TypingContext.Proper ⟨operators, symbols⟩ →
      (Node.program program).Everywhere Node.Grammatical →
        Delivers (fun error => error.Proper ∨ ∃ item ∈ program.items, item.Unknown)
          (fun result => ItemsTyped symbols result.1.items result.2)
          (program.infer operators symbols)
  | ⟨item, .stop⟩, symbols, proper, grammatical => by
    rw [infer]
    have here : (Node.programItem item).Everywhere Node.Grammatical :=
      grammatical.child (by simp [Node.children])
    refine Delivers.bind ((item.infer_delivers proper here).widen fun error => ?_)
      fun result typed => .cons typed (.nil _)
    exact Or.imp_right fun unknown => ⟨item, by simp, unknown⟩
  | ⟨item, .more separator rest⟩, symbols, proper, grammatical => by
    rw [infer]
    have here : (Node.programItem item).Everywhere Node.Grammatical :=
      grammatical.child (by simp [Node.children])
    have behind : (Node.programTail (.more separator rest)).Everywhere Node.Grammatical :=
      grammatical.child (by simp [Node.children])
    refine Delivers.bind ((item.infer_delivers proper here).widen fun error => ?_) ?_
    · exact Or.imp_right fun unknown => ⟨item, by simp, unknown⟩
    · rintro ⟨item, middle⟩ typed
      have further := rest.infer_delivers middle ⟨proper.operators, typed.resolved proper.symbols⟩
        (behind.child (by simp [Node.children]))
      refine Delivers.bind (further.widen fun error => Or.imp_right ?_) ?_
      · rintro ⟨other, member, unknown⟩
        exact ⟨other, by simp [member], unknown⟩
      · rintro ⟨rest, later⟩ more
        change ItemsTyped symbols (Program.items ⟨item, .more separator rest⟩) later
        rw [items_more]
        exact .cons typed more

/-! ## Occurrences of names -/

section Occurrences

variable {property : Node → Prop}

/-- What holds of marks, lists and each name holds everywhere in a list of names. -/
theorem everywhere_identifierList (marks : ∀ tree, property (.leaf tree))
    (lists : ∀ tree, property (.identifierList tree))
    (tails : ∀ tree, property (.identifierListTail tree)) :
    (names : IdentifierList) → (∀ name ∈ names.toList, property (.identifier name)) →
      (Node.identifierList names).Everywhere property
  | ⟨head, .stop⟩, all => by
    have tail : (Node.identifierListTail .stop).Everywhere property :=
      (Node.everywhere_iff_of_children rfl).mpr (tails _)
    exact Node.everywhere_iff.mpr ⟨lists _, by simpa [Node.children, tail] using all⟩
  | ⟨head, .more comma rest⟩, all => by
    rw [IdentifierList.toList_more, List.forall_mem_cons] at all
    have behind := everywhere_identifierList marks lists tails rest all.2
    have tail : (Node.identifierListTail (.more comma rest)).Everywhere property :=
      Node.everywhere_iff.mpr ⟨tails _, by simp [Node.children, marks, behind]⟩
    exact Node.everywhere_iff.mpr ⟨lists _, by simp [Node.children, all.1, tail]⟩

/-- What holds of marks and names holds everywhere in a declaration. -/
theorem everywhere_declaration (marks : ∀ tree, property (.leaf tree)) {tree : Declaration}
    (here : property (.declaration tree))
    (names : (Node.identifierList tree.identifiers).Everywhere property) :
    (Node.declaration tree).Everywhere property := by
  refine Node.everywhere_iff.mpr ⟨here, ?_⟩
  rw [Node.children, List.forall_mem_append, List.forall_mem_cons, List.forall_mem_append]
  refine ⟨?_, names, ?_, ?_⟩ <;> simp [marks]

/-- What holds of separators, programs and each item holds everywhere in a program. -/
theorem everywhere_program (marks : ∀ tree, property (.leaf tree))
    (programs : ∀ tree, property (.program tree)) (tails : ∀ tree, property (.programTail tree)) :
    (program : Program) →
      (∀ item ∈ program.items, (Node.programItem item).Everywhere property) →
        (Node.program program).Everywhere property
  | ⟨item, .stop⟩, all => by
    have tail : (Node.programTail .stop).Everywhere property :=
      (Node.everywhere_iff_of_children rfl).mpr (tails _)
    exact Node.everywhere_iff.mpr ⟨programs _, by simpa [Node.children, tail] using all⟩
  | ⟨item, .more separator rest⟩, all => by
    rw [Program.items_more, List.forall_mem_cons] at all
    have behind := everywhere_program marks programs tails rest all.2
    have tail : (Node.programTail (.more separator rest)).Everywhere property :=
      Node.everywhere_iff.mpr ⟨tails _, by simp [Node.children, marks, behind]⟩
    exact Node.everywhere_iff.mpr ⟨programs _, by simp [Node.children, all.1, tail]⟩

end Occurrences

/-- The names of a declaration are those of its list. -/
theorem mem_toList_of_within {declaration : Declaration} {name : Identifier}
    (inside : (Node.identifier name).Within (.declaration declaration)) :
    name ∈ declaration.identifiers.toList := by
  have everywhere : (Node.declaration declaration).Everywhere
      fun part => ∀ name, part = .identifier name → name ∈ declaration.identifiers.toList := by
    refine everywhere_declaration (fun _ _ => nofun) (fun _ => nofun) ?_
    refine everywhere_identifierList (fun _ _ => nofun) (fun _ _ => nofun) (fun _ _ => nofun) _ ?_
    rintro name member _ ⟨⟩
    exact member
  exact everywhere _ inside name rfl

/-- A name that occurs in a program occurs in an item. -/
theorem exists_item_of_within {program : Program} {name : Identifier}
    (inside : (Node.identifier name).Within (.program program)) :
    ∃ item ∈ program.items, (Node.identifier name).Within (.programItem item) := by
  have everywhere : (Node.program program).Everywhere fun part => ∀ name,
      part = .identifier name → ∃ item ∈ program.items, part.Within (.programItem item) :=
    everywhere_program (fun _ _ => nofun) (fun _ _ => nofun) (fun _ _ => nofun) _
      fun item member part within _ _ => ⟨item, member, within⟩
  exact everywhere _ inside name rfl

/-- A typed item is annotated at every node. -/
theorem ItemTyped.annotated (typed : ItemTyped symbols item later) :
    (Node.programItem item).Everywhere Node.Annotated := by
  cases typed with
  | @declaration _ tree _ named types _ =>
    have resolved := DataType.isResolved_of_ofTypeName? named
    have names : (Node.identifierList tree.identifiers).Everywhere Node.Annotated := by
      refine everywhere_identifierList (fun _ => trivial) (fun _ => trivial) (fun _ => trivial) _ ?_
      intro name member
      rw [← types name member] at resolved
      exact resolved
    have declaration := everywhere_declaration (fun _ => trivial) trivial names
    exact Node.everywhere_iff.mpr ⟨trivial, by simpa [Node.children] using declaration⟩
  | statement everywhere =>
    have annotated := everywhere.imp fun part typed => typed.1
    exact Node.everywhere_iff.mpr ⟨trivial, by simpa [Node.children] using annotated⟩

/-- A name that occurs in an item is declared by it or known before it, with the same type. -/
theorem ItemTyped.entry_mem (typed : ItemTyped symbols item later) {name : Identifier}
    (inside : (Node.identifier name).Within (.programItem item)) :
    name.entry ∈ later.entries := by
  cases typed with
  | declaration _ _ added =>
    obtain _ | ⟨member, within⟩ := inside
    obtain rfl := List.mem_singleton.mp member
    rw [added]
    exact List.mem_append_left _ (List.mem_reverse.mpr
      (List.mem_map_of_mem (mem_toList_of_within within)))
  | statement everywhere =>
    obtain _ | ⟨member, within⟩ := inside
    obtain rfl := List.mem_singleton.mp member
    exact SymbolTable.mem_of_get?_eq_some (everywhere _ within).2

/-! ## Well-typed programs -/

/-- What the analysis guarantees of a program. -/
structure Program.WellTyped (program : Program) : Prop where
  annotated : (Node.program program).Everywhere Node.Annotated
  /-- A name that occurs is declared by exactly one occurrence. -/
  declared_once : ∀ name, (Node.identifier name).Within (.program program) →
    ((program.items.flatMap ProgramItem.declares).map Identifier.name).count name.name = 1
  /-- A name that a statement uses is declared by an earlier item. -/
  declared_before : ∀ {before after statement},
    program.items = before ++ .statement statement :: after →
      ∀ name, (Node.identifier name).Within (.statement statement) →
        ∃ item ∈ before, ∃ declared ∈ item.declares, declared.name = name.name
  /-- Every occurrence of a name has the type that its declaration names. -/
  declared_type : ∀ {declaration}, .declaration declaration ∈ program.items →
    ∀ declared ∈ declaration.identifiers.toList,
      ∀ name, (Node.identifier name).Within (.program program) → name.name = declared.name →
        DataType.ofTypeName? declaration.typeName.token.text = some name.ty

section WellTyped

variable {program : Program}

/-- A name that occurs is declared with its type. -/
theorem ItemsTyped.exists_declared (typed : ItemsTyped .empty items later) (item : ProgramItem)
    (member : item ∈ items) {name : Identifier}
    (inside : (Node.identifier name).Within (.programItem item)) :
    ∃ declared ∈ items.flatMap ProgramItem.declares, declared.entry = name.entry := by
  obtain ⟨before, after, rfl⟩ := List.append_of_mem member
  obtain ⟨middle, next, front, here⟩ := typed.split
  have known := here.entry_mem inside
  rw [here.entries, front.entries, List.mem_append, List.mem_reverse, List.mem_append,
    List.mem_reverse] at known
  obtain declared | declared | absent := known
  · obtain ⟨found, listed, same⟩ := List.mem_map.mp declared
    exact ⟨found, by simp [listed], same⟩
  · obtain ⟨found, listed, same⟩ := List.mem_map.mp declared
    exact ⟨found, by rw [List.flatMap_append]; exact List.mem_append_left _ listed, same⟩
  · cases absent

/-- No name is declared twice. -/
theorem ItemsTyped.nodup_declares (typed : ItemsTyped .empty items later) :
    ((items.flatMap ProgramItem.declares).map Identifier.name).Nodup := by
  have nodup := later.nodup
  rw [typed.entries, SymbolTable.empty, List.append_nil, List.map_reverse, List.nodup_reverse,
    List.map_map] at nodup
  exact nodup

/-- A program of typed items is well typed. -/
theorem wellTyped_of_itemsTyped (typed : ItemsTyped .empty program.items later) :
    program.WellTyped where
  annotated := by
    refine everywhere_program (fun _ => trivial) (fun _ => trivial) (fun _ => trivial) _ ?_
    intro item member
    obtain ⟨before, after, split⟩ := List.append_of_mem member
    rw [split] at typed
    obtain ⟨middle, next, _, here⟩ := typed.split
    exact here.annotated
  declared_once := by
    intro name inside
    obtain ⟨item, member, within⟩ := exists_item_of_within inside
    obtain ⟨declared, listed, same⟩ := typed.exists_declared item member within
    refine List.count_eq_one_of_mem typed.nodup_declares ?_
    exact List.mem_map.mpr ⟨declared, listed, congrArg Prod.fst same⟩
  declared_before := by
    intro before after statement split name inside
    rw [split] at typed
    obtain ⟨middle, next, front, here⟩ := typed.split
    cases here with
    | statement everywhere =>
      have known := SymbolTable.mem_of_get?_eq_some (everywhere _ inside).2
      rw [front.entries, SymbolTable.empty, List.append_nil, List.mem_reverse] at known
      obtain ⟨declared, listed, same⟩ := List.mem_map.mp known
      obtain ⟨item, member, declares⟩ := List.mem_flatMap.mp listed
      exact ⟨item, member, declared, declares, congrArg Prod.fst same⟩
  declared_type := by
    intro declaration member declared listed name inside named
    obtain ⟨item, itemMember, within⟩ := exists_item_of_within inside
    obtain ⟨other, otherListed, same⟩ := typed.exists_declared item itemMember within
    have once := typed.nodup_declares
    have here : declared ∈ program.items.flatMap ProgramItem.declares :=
      List.mem_flatMap.mpr ⟨_, member, listed⟩
    -- The declaring occurrence is the same, since the name is declared only once.
    obtain rfl : other = declared :=
      List.inj_on_of_nodup_map once otherListed here ((congrArg Prod.fst same).trans named)
    obtain ⟨before, after, split⟩ := List.append_of_mem member
    rw [split] at typed
    obtain ⟨middle, next, _, itemTyped⟩ := typed.split
    cases itemTyped with
    | declaration typeName types _ =>
      rw [typeName, ← types other listed]
      exact congrArg some (congrArg Prod.snd same)

end WellTyped

/-- The standard rules give resolved types, and an empty table holds no others. -/
theorem proper_standard : TypingContext.Proper ⟨.standard, .empty⟩ where
  operators := by
    intro left operator right ty found
    have resolved : ∀ rule ∈ OperatorTable.standard.rules, rule.result.isResolved := by decide
    obtain ⟨rule, chosen, rfl⟩ := Option.map_eq_some_iff.mp found
    exact resolved rule (List.mem_of_find?_eq_some chosen)
  symbols := fun _ member => nomatch member

/-- A parsed program is grammatical at every node. -/
theorem grammatical_of_parse {tokens : List Token} {program : Program}
    (parsed : parse tokens = .ok program) :
    (Node.program program).Everywhere Node.Grammatical := by
  obtain ⟨rest, reads, _⟩ := parseAs_eq_ok_iff.mp (parse_eq_ok_iff.mp parsed)
  exact (derives_of_reads reads).grammatical

/-- The analysis follows the rules. -/
theorem analyze_eq_infer (program : Program) :
    analyze program = (program.infer .standard .empty).map Prod.fst := by
  have agrees := program.check_agrees ⟨.standard, .empty⟩
  rw [analyze]
  generalize program.check ⟨.standard, .empty⟩ = checked,
    program.infer .standard .empty = rule at agrees
  cases agrees with
  | ok typed symbols => rfl
  | error => rfl

/-- What the analysis returns for a parsed program is well typed. -/
theorem wellTyped_of_parse {tokens : List Token} {program typed : Program}
    (parsed : parse tokens = .ok program) (analyzed : analyze program = .ok typed) :
    typed.WellTyped := by
  have delivers := program.infer_delivers .empty proper_standard (grammatical_of_parse parsed)
  rw [analyze_eq_infer] at analyzed
  generalize program.infer .standard .empty = rule at delivers analyzed
  cases rule with
  | ok result =>
    cases analyzed
    exact wellTyped_of_itemsTyped delivers
  | error error => cases analyzed

/-- Whatever is parsed and analysed is well typed, be it given as tokens or as a source text. -/
theorem wellTyped_of_analyze :
    (∀ tokens program typed, parse tokens = .ok program → analyze program = .ok typed →
      typed.WellTyped) ∧
    ∀ source typed, check source = .ok typed → typed.WellTyped := by
  refine ⟨fun _ _ _ => wellTyped_of_parse, fun source typed checked => ?_⟩
  obtain ⟨tokens, program, _, parsed, analyzed⟩ := check_eq_ok_iff.mp checked
  exact wellTyped_of_parse parsed analyzed

/-- An integer is stored under the name of a float. -/
theorem wellTyped_widened_assignment :
    ∃ program typed, parse [⟨.dimWord, "dim", 1⟩, ⟨.identifier, "x", 1⟩, ⟨.typeName, "float", 1⟩,
        ⟨.separator, "\n", 1⟩, ⟨.identifier, "x", 2⟩, ⟨.asWord, "as", 2⟩, ⟨.intNumber, "2", 2⟩] =
          .ok program ∧
      analyze program = .ok typed ∧ typed.WellTyped := by
  have names : Derives 2 .identifierList [⟨.identifier, "x", 1⟩, ⟨.typeName, "float", 1⟩,
      ⟨.separator, "\n", 1⟩, ⟨.identifier, "x", 2⟩, ⟨.asWord, "as", 2⟩, ⟨.intNumber, "2", 2⟩] _ _ :=
    .identifierList rfl (.identifierStop (by simp [nextKind]))
  have value : Derives 2 .expression [⟨.intNumber, "2", 2⟩] _ [] :=
    .expression (.operand (.addend (.factorNumber (.number (.inl rfl))) (.addendStop (by decide)))
      (.operandStop (by decide))) (.comparisonStop (by decide))
  have assignment : Derives 2 .assignment
      [⟨.identifier, "x", 2⟩, ⟨.asWord, "as", 2⟩, ⟨.intNumber, "2", 2⟩] _ [] :=
    .assignment rfl rfl value
  have statement := Derives.itemStatement (by simp [StartsDeclaration, nextKind])
    (by simp [nextKind]) (.statementAssignment assignment)
  have derives : Derives 2 .program [⟨.dimWord, "dim", 1⟩, ⟨.identifier, "x", 1⟩,
      ⟨.typeName, "float", 1⟩, ⟨.separator, "\n", 1⟩, ⟨.identifier, "x", 2⟩, ⟨.asWord, "as", 2⟩,
      ⟨.intNumber, "2", 2⟩] _ [] :=
    .program (.itemDeclaration (.inl rfl) (.declarationKeyword rfl names rfl))
      (.programMore rfl (.program statement (.programStop (by decide))))
  have parsed := parse_of_derives derives rfl
  exact ⟨_, _, parsed, rfl, wellTyped_of_analyze.1 _ _ _ parsed rfl⟩

end DimLang
