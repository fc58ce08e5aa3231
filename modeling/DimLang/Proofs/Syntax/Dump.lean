import DimLang.Proofs.Lexing.Spelling
import DimLang.Proofs.Syntax.Preorder
import DimLang.Proofs.Syntax.WellFormed
import DimLang.Proofs.Typing.Erasure
import DimLang.Syntax.Dump

/-!
# What a dump shows

A dump has one line for each node, in the order of `Node.preorder` (`dump_eq`). A line is made of
the depth of the node and its label only, and both can be read off it: names have no blanks, a type
follows the last blank, and escapes are told apart from texts that have no backslash
(`Label.line_inj`). Texts of tokens never have one, so that the dump of a program determines it up
to the lines of its tokens:

- `dump_faithful`: a dump lists the nodes of a tree, and programs that are obtained from source
  texts are equal up to lines if their dumps are equal
-/

namespace DimLang

/-! ## The nodes on the stack -/

/-- The nodes on the stack are shown one after the other, each in front of its children. -/
theorem dumpLines_eq (shown : List String) (stack : List (Node × Nat)) :
    dumpLines shown stack = shown.reverse ++
      (stack.flatMap fun entry => entry.1.preorder entry.2).map
        fun entry => entry.2.dumpLine entry.1 := by
  induction shown, stack using dumpLines.induct with
  | case1 shown =>
    rw [dumpLines]
    simp
  | case2 shown node depth stack ih =>
    rw [dumpLines, ih, List.flatMap_append, List.flatMap_map, List.flatMap_cons,
      node.preorder_eq depth]
    simp

/-- A dump has one line for each node of the tree. -/
theorem dump_eq (root : Node) :
    dump root =
      "\n".intercalate ((root.preorder 0).map fun entry => entry.2.dumpLine entry.1) := by
  rw [dump, dumpLines_eq, List.flatMap_singleton]
  rfl

/-! ## Escapes -/

/-- A character as it is shown. -/
def escaped (c : Char) : List Char :=
  if c = '\n' then ['\\', 'n'] else if c = '\t' then ['\\', 't'] else [c]

/-- The characters that are shown. -/
def unescaped : List Char → List Char
  | '\\' :: 'n' :: cs => '\n' :: unescaped cs
  | '\\' :: 't' :: cs => '\t' :: unescaped cs
  | c :: cs => c :: unescaped cs
  | [] => []

/-- A text without backslashes can be read back from its escaped form. -/
theorem unescaped_flatMap {cs : List Char} (plain : '\\' ∉ cs) :
    unescaped (cs.flatMap escaped) = cs := by
  induction cs with
  | nil => rfl
  | cons c cs ih =>
    rw [List.mem_cons, not_or] at plain
    rw [List.flatMap_cons, escaped]
    by_cases newline : c = '\n'
    · subst newline
      exact congrArg ('\n' :: ·) (ih plain.2)
    · by_cases tab : c = '\t'
      · subst tab
        exact congrArg ('\t' :: ·) (ih plain.2)
      · rw [if_neg newline, if_neg tab, List.singleton_append, unescaped, ih plain.2]
        · exact fun _ isBackslash => absurd isBackslash.symm plain.1
        · exact fun _ isBackslash => absurd isBackslash.symm plain.1

/-- Texts are escaped character by character. -/
theorem toList_escapeText (text : String) :
    (escapeText text).toList = text.toList.flatMap escaped :=
  String.toList_ofList

/-- No escaped character holds a newline. -/
theorem newline_notMem_escaped (c : Char) : '\n' ∉ escaped c := by
  rw [escaped]
  split
  · decide
  · split
    · decide
    · rw [List.mem_singleton]
      exact Ne.symm ‹_›

/-! ## Lines and labels -/

/-- The characters make up one word on a line. -/
def IsWord (cs : List Char) : Prop :=
  cs ≠ [] ∧ ∀ c ∈ cs, c ≠ ' ' ∧ c ≠ '\n'

namespace Node.Label

/-- The text of a token as it is shown. -/
def textNote : Option String → List Char
  | some text => [' ', '\x7b', ' '] ++ (text.toList.flatMap escaped ++ [' ', '\x7d'])
  | none => []

/-- A type as it is shown. -/
def tyNote : Option DataType → List Char
  | some ty => [' ', '(', 't', 'y', 'p', 'e', ' ', '=', ' '] ++ (ty.name.toList ++ [')'])
  | none => []

/-- The line of a node with the label at the given depth. -/
def line (depth : Nat) (label : Label) : List Char :=
  List.replicate (2 * depth) ' ' ++
    (label.name.toList ++ (textNote label.text? ++ tyNote label.ty?))

/-- The name is a word, and the text has no backslash. -/
def Legible (label : Label) : Prop :=
  IsWord label.name.toList ∧ ∀ text ∈ label.text?, '\\' ∉ text.toList

/-- The note of a text determines it. -/
theorem textNote_inj {text? text?' : Option String} (plain : ∀ text ∈ text?, '\\' ∉ text.toList)
    (plain' : ∀ text ∈ text?', '\\' ∉ text.toList) (same : textNote text? = textNote text?') :
    text? = text?' := by
  cases text? with
  | none =>
    cases text?' with
    | none => rfl
    | some text' => cases same
  | some text =>
    cases text?' with
    | none => cases same
    | some text' =>
      have shown := List.append_cancel_right (List.append_cancel_left same)
      have chars : text.toList = text'.toList := by
        rw [← unescaped_flatMap (plain text rfl), shown, unescaped_flatMap (plain' text' rfl)]
      rw [String.toList_inj.mp chars]

end Node.Label

/-- Where the condition last fails, a list can be cut in one way only. -/
theorem append_inj_of_last {α : Type} (condition : α → Prop) {front front' back back' : List α}
    (holds : ∀ item ∈ back, condition item) (holds' : ∀ item ∈ back', condition item)
    (fails : ∀ item ∈ front.getLast?, ¬ condition item)
    (fails' : ∀ item ∈ front'.getLast?, ¬ condition item)
    (same : front ++ back = front' ++ back') : front = front' ∧ back = back' := by
  have reversed : back.reverse ++ front.reverse = back'.reverse ++ front'.reverse := by
    rw [← List.reverse_append, same, List.reverse_append]
  obtain ⟨backs, fronts⟩ := append_inj_of_first condition
    (fun item member => holds item (List.mem_reverse.mp member))
    (fun item member => holds' item (List.mem_reverse.mp member))
    (by rwa [List.head?_reverse]) (by rwa [List.head?_reverse]) reversed
  exact ⟨List.reverse_inj.mp fronts, List.reverse_inj.mp backs⟩

namespace Node.Label

/-- A type's name has no blank in it. -/
theorem name_ne_blank (ty : DataType) : ∀ c ∈ ty.name.toList ++ [')'], c ≠ ' ' := by
  cases ty <;> simp [DataType.name]

/-- A line with a type ends in a parenthesis. -/
theorem getLast?_tyNote (text? : Option String) (ty : DataType) :
    (textNote text? ++ tyNote (some ty)).getLast? = some ')' := by
  rw [tyNote, ← List.append_assoc, ← List.append_assoc]
  exact List.getLast?_concat

/-- The note of a text does not end in a parenthesis. -/
theorem getLast?_textNote (text? : Option String) : (textNote text?).getLast? ≠ some ')' := by
  cases text? with
  | none => simp [textNote]
  | some text =>
    have last : (textNote (some text)).getLast? = some '\x7d' := by
      rw [textNote, List.append_cons _ ' ' ['\x7d'], ← List.append_assoc]
      exact List.getLast?_concat
    simp [last]

/-- What follows the name can be read: the type follows the last blank. -/
theorem notes_inj {text? text?' : Option String} {ty? ty?' : Option DataType}
    (plain : ∀ text ∈ text?, '\\' ∉ text.toList) (plain' : ∀ text ∈ text?', '\\' ∉ text.toList)
    (same : textNote text? ++ tyNote ty? = textNote text?' ++ tyNote ty?') :
    text? = text?' ∧ ty? = ty?' := by
  cases ty? with
  | none =>
    cases ty?' with
    | none =>
      rw [tyNote, List.append_nil, List.append_nil] at same
      exact ⟨textNote_inj plain plain' same, rfl⟩
    | some ty' =>
      have last := getLast?_tyNote text?' ty'
      rw [← same, tyNote, List.append_nil] at last
      exact absurd last (getLast?_textNote text?)
  | some ty =>
    cases ty?' with
    | none =>
      have last := getLast?_tyNote text? ty
      rw [same, tyNote, List.append_nil] at last
      exact absurd last (getLast?_textNote text?')
    | some ty' =>
      rw [tyNote, tyNote, ← List.append_assoc, ← List.append_assoc (textNote text?')] at same
      have blank (front : List Char) :
          ∀ c ∈ (front ++ [' ', '(', 't', 'y', 'p', 'e', ' ', '=', ' ']).getLast?, ¬ c ≠ ' ' := by
        simp
      obtain ⟨fronts, types⟩ := append_inj_of_last (· ≠ ' ') (name_ne_blank ty) (name_ne_blank ty')
        (blank _) (blank _) same
      have names := String.toList_inj.mp (List.append_cancel_right types)
      exact ⟨textNote_inj plain plain' (List.append_cancel_right fronts),
        congrArg some (DataType.eq_of_name names)⟩

/-- The notes begin with a blank. -/
theorem head?_notes (text? : Option String) (ty? : Option DataType) :
    ∀ c ∈ (textNote text? ++ tyNote ty?).head?, c = ' ' := by
  cases text? <;> cases ty? <;> simp [textNote, tyNote]

/-- A line's name does not begin with a blank. -/
theorem head?_name {label : Label} (legible : label.Legible) (notes : List Char) :
    ∀ c ∈ (label.name.toList ++ notes).head?, c ≠ ' ' := by
  obtain ⟨⟨nonempty, letters⟩, _⟩ := legible
  obtain ⟨first, more, name⟩ := List.exists_cons_of_ne_nil nonempty
  intro c isFirst
  rw [name] at isFirst letters
  cases isFirst
  exact (letters first List.mem_cons_self).1

/-- A line shows the depth and the label of a node. -/
theorem line_inj {depth depth' : Nat} {label label' : Label} (legible : label.Legible)
    (legible' : label'.Legible) (same : label.line depth = label'.line depth') :
    depth = depth' ∧ label = label' := by
  have blanks (count : Nat) : ∀ c ∈ List.replicate count ' ', c = ' ' :=
    fun _ => List.eq_of_mem_replicate
  obtain ⟨indents, rest⟩ := append_inj_of_first (· = ' ') (blanks _) (blanks _)
    (head?_name legible _) (head?_name legible' _) same
  have depths : 2 * depth = 2 * depth' := by
    simpa using congrArg List.length indents
  obtain ⟨names, notes⟩ := append_inj_of_first (· ≠ ' ')
    (fun c member => (legible.1.2 c member).1) (fun c member => (legible'.1.2 c member).1)
    (fun c first => not_not_intro (head?_notes _ _ c first))
    (fun c first => not_not_intro (head?_notes _ _ c first)) rest
  obtain ⟨texts, types⟩ := notes_inj legible.2 legible'.2 notes
  refine ⟨by omega, ?_⟩
  cases label
  cases label'
  rw [mk.injEq]
  exact ⟨String.toList_inj.mp names, texts, types⟩

/-- A line of the dump is a single line. -/
theorem newline_notMem_line {label : Label} (word : IsWord label.name.toList) (depth : Nat) :
    '\n' ∉ label.line depth := by
  have name : '\n' ∉ label.name.toList := fun member => (word.2 _ member).2 rfl
  have text : '\n' ∉ textNote label.text? := by
    cases label.text? with
    | none => simp [textNote]
    | some text => simp [textNote, newline_notMem_escaped]
  have ty : '\n' ∉ tyNote label.ty? := by
    cases label.ty? with
    | none => simp [tyNote]
    | some ty => cases ty <;> decide
  simp [line, name, text, ty]

end Node.Label

/-- A node's line is the line of its label. -/
theorem Node.toList_dumpLine (depth : Nat) (node : Node) :
    (node.dumpLine depth).toList = node.label.line depth := by
  rw [dumpLine, tokenNote, typeNote, label, Label.line]
  cases node.token? <;> cases node.ty? <;>
    simp [indentation, toList_escapeText, Label.textNote, Label.tyNote]

/-! ## Trees and their dumps -/

/-- The name of a token kind is a word. -/
theorem TokenKind.isWord_name (kind : TokenKind) : IsWord kind.name.toList := by
  cases kind <;> simp [IsWord, TokenKind.name]

/-- The name of a node is a word. -/
theorem Node.isWord_name (node : Node) : IsWord node.name.toList := by
  cases node with
  | leaf tree | literal tree => exact tree.token.kind.isWord_name
  | _ => simp [IsWord, Node.name]

namespace Node

/-- The kind and the text of a token can be read off its node. -/
def Legible (node : Node) : Prop :=
  node.OfKind ∧ ∀ token ∈ node.token?, '\\' ∉ token.text.toList

variable {node node' : Node}

/-- A legible node has a legible label. -/
theorem Legible.label (legible : node.Legible) : node.label.Legible := by
  refine ⟨node.isWord_name, ?_⟩
  intro text shown
  obtain ⟨token, held, rfl⟩ := Option.map_eq_some_iff.mp shown
  exact legible.2 token held

/-- Every label in the outline of a legible tree is legible. -/
theorem legible_of_mem_outline (legible : node.Everywhere Legible) {entry : Nat × Label}
    (member : entry ∈ outline 0 [node]) : entry.2.Legible := by
  obtain ⟨_, listed, rfl⟩ := List.mem_map.mp member
  rw [List.flatMap_singleton] at listed
  exact (legible _ (within_of_mem_preorder listed).2).label

/-- Lines show the depths and labels that they are made of. -/
theorem Label.eq_of_map_line {entries entries' : List (Nat × Label)}
    (legible : ∀ entry ∈ entries, entry.2.Legible)
    (legible' : ∀ entry ∈ entries', entry.2.Legible)
    (same : entries.map (fun entry => entry.2.line entry.1) =
      entries'.map fun entry => entry.2.line entry.1) : entries = entries' := by
  induction entries generalizing entries' with
  | nil => exact (List.map_eq_nil_iff.mp same.symm).symm
  | cons entry entries ih =>
    cases entries' with
    | nil => cases same
    | cons entry' entries' =>
      obtain ⟨here, further⟩ := List.forall_mem_cons.mp legible
      obtain ⟨here', further'⟩ := List.forall_mem_cons.mp legible'
      obtain ⟨first, rest⟩ := List.cons_eq_cons.mp same
      obtain ⟨depths, labels⟩ := line_inj here here' first
      rw [ih further further' rest, Prod.ext depths labels]

/-- No line has a newline inside, so that a dump can be cut into the lines of the nodes. -/
theorem splitOn_dump (root : Node) :
    (dump root).toList.splitOn '\n' =
      (root.preorder 0).map fun entry => entry.2.label.line entry.1 := by
  have lines : ((root.preorder 0).map fun entry => entry.2.dumpLine entry.1).map String.toList =
      (root.preorder 0).map fun entry => entry.2.label.line entry.1 := by
    simp only [List.map_map, Function.comp_def, toList_dumpLine]
  rw [dump_eq, String.toList_intercalate, lines]
  refine List.splitOn_intercalate '\n' ?_ ?_
  · intro line listed
    obtain ⟨entry, _, rfl⟩ := List.mem_map.mp listed
    exact Label.newline_notMem_line entry.2.isWord_name entry.1
  · rw [preorder_eq]
    exact List.cons_ne_nil _ _

/-- Trees with the same dump have the same outline. -/
theorem outline_eq_of_dump (legible : node.Everywhere Legible)
    (legible' : node'.Everywhere Legible) (same : dump node = dump node') :
    outline 0 [node] = outline 0 [node'] := by
  have lines (root : Node) : (outline 0 [root]).map (fun entry => entry.2.line entry.1) =
      (dump root).toList.splitOn '\n' := by
    rw [splitOn_dump, outline, List.flatMap_singleton, List.map_map]
    rfl
  refine Label.eq_of_map_line (fun _ => legible_of_mem_outline legible)
    (fun _ => legible_of_mem_outline legible') ?_
  rw [lines node, same, lines node']

/-- Trees with the same dump are equal up to lines. -/
theorem mapTokens_eq_of_dump (legible : node.Everywhere Legible)
    (legible' : node'.Everywhere Legible) (same : dump node = dump node') :
    node.mapTokens Token.forgetLine = node'.mapTokens Token.forgetLine := by
  have ofKind {root : Node} (legible : root.Everywhere Legible) :
      ∀ tree ∈ [root], tree.Everywhere OfKind :=
    List.forall_mem_singleton.mpr (legible.imp fun _ => And.left)
  exact List.singleton_inj.mp (map_mapTokens_eq_of_outline [node] [node'] (ofKind legible)
    (ofKind legible') (outline_eq_of_dump legible legible' same))

/-- Trees that are equal up to lines have the same dump. -/
theorem dump_eq_of_mapTokens (same : node.mapTokens Token.forgetLine =
    node'.mapTokens Token.forgetLine) : dump node = dump node' := by
  have shown (root : Node) : dump root = "\n".intercalate
      ((outline 0 [root]).map fun entry => String.ofList (entry.2.line entry.1)) := by
    have line (depth : Nat) (part : Node) :
        part.dumpLine depth = String.ofList (part.label.line depth) := by
      rw [← toList_dumpLine, String.ofList_toList]
    simp only [dump_eq, line, outline, List.flatMap_singleton, List.map_map, Function.comp_def]
  have bare (root : Node) : outline 0 [root.mapTokens Token.forgetLine] = outline 0 [root] :=
    outline_map_mapTokens Token.kind_forgetLine (fun _ => rfl) 0 [root]
  rw [shown node, ← bare node, same, bare node', ← shown node']

end Node

/-! ## Programs from source texts -/

namespace Node

variable {node : Node}

/-- A token in a well-formed tree is in a leaf of the form that its kind calls for. -/
theorem WellFormed.ofKind_child (wellFormed : node.WellFormed) {child : Node}
    (member : child ∈ node.children) (part : child.WellFormed) : child.OfKind := by
  cases child with
  | leaf tree =>
    have named : tree.token.kind ∈ node.leafKinds := by
      rw [← wellFormed.marked]
      exact List.mem_filterMap.mpr ⟨_, member, rfl⟩
    exact plain_of_mem_leafKinds named
  | identifier | literal => exact part.spelled
  | _ => trivial

/-- Every node in a well-formed tree is of its kind. -/
theorem Within.ofKind {part : Node} (inside : part.Within node)
    (wellFormed : node.Everywhere WellFormed) (ofKind : node.OfKind) : part.OfKind := by
  induction inside with
  | here => exact ofKind
  | deeper member _ ih =>
    have below := wellFormed.child member
    exact ih below (wellFormed.here.ofKind_child member below.here)

/-- Types say nothing about a node's kind. -/
theorem ofKind_erase_iff : node.erase.OfKind ↔ node.OfKind := by
  cases node <;> exact Iff.rfl

end Node

/-- The programs that are made of source texts: the parsed and the analysed ones. -/
inductive Program.FromSource : Program → Prop
  | parsed {source : String} {tokens : List Token} {program : Program}
      (tokenized : tokenize source = .ok tokens) (parsed : parse tokens = .ok program) :
      FromSource program
  | analyzed {source : String} {tokens : List Token} {program typed : Program}
      (tokenized : tokenize source = .ok tokens) (parsed : parse tokens = .ok program)
      (analyzed : analyze program = .ok typed) : FromSource typed

/-- Without its types, a program from a source text is a parsed one. -/
theorem Program.FromSource.exists_parse {tree : Program} (fromSource : tree.FromSource) :
    ∃ source tokens, tokenize source = .ok tokens ∧ parse tokens = .ok tree.erase := by
  cases fromSource with
  | @parsed source tokens _ tokenized parsed =>
    exact ⟨source, tokens, tokenized, (erase_of_parse parsed).symm ▸ parsed⟩
  | @analyzed source tokens program _ tokenized parsed analyzed =>
    refine ⟨source, tokens, tokenized, ?_⟩
    rw [erase_of_analyze analyzed, erase_of_parse parsed, parsed]

/-- A program read from a source is legible at every node. -/
theorem Program.FromSource.legible {tree : Program} (fromSource : tree.FromSource) :
    (Node.program tree).Everywhere Node.Legible := by
  obtain ⟨source, tokens, tokenized, parsed⟩ := fromSource.exists_parse
  obtain ⟨rest, reads, _⟩ := parseAs_eq_ok_iff.mp (parse_eq_ok_iff.mp parsed)
  intro part inside
  have bare : part.erase.Within (.program tree.erase) := inside.erase
  have wellFormed := (derives_of_reads reads).wellFormed
  refine ⟨Node.ofKind_erase_iff.mp (bare.ofKind wellFormed trivial), ?_⟩
  intro token held
  have leaf : token ∈ part.erase.leaves := by
    rw [Node.leaves_of_token? (part.token?_erase.trans held)]
    exact List.mem_singleton_self token
  have member : token ∈ tokens := by
    rw [← reads.leaves_append (by simp)]
    exact List.mem_append_left rest (bare.leaves_subset leaf)
  exact backslash_notMem_of_recognises (recognises_of_tokenize tokenized member)

/-- A dump has one line for each node, each in front of its children, indented by two blanks for
each level. Programs from source texts are equal up to lines if their dumps are equal. -/
theorem dump_faithful :
    (∀ root : Node,
      dump root =
        "\n".intercalate ((root.preorder 0).map fun entry => entry.2.dumpLine entry.1) ∧
      (dump root).toList.splitOn '\n' =
        (root.preorder 0).map fun entry => entry.2.label.line entry.1) ∧
    ∀ tree tree' : Program, tree.FromSource → tree'.FromSource →
      dump (.program tree) = dump (.program tree') →
        tree.mapTokens Token.forgetLine = tree'.mapTokens Token.forgetLine := by
  refine ⟨fun root => ⟨dump_eq root, root.splitOn_dump⟩, ?_⟩
  intro tree tree' fromSource fromSource' same
  exact Node.program.inj (Node.mapTokens_eq_of_dump fromSource.legible fromSource'.legible same)

/-- A comment over two lines is not seen in the dump of the typed tree. -/
theorem dump_faithful_behind_comment :
    ∃ tokens tokens' program program' typed typed',
      tokenize "write(1)" = .ok tokens ∧ parse tokens = .ok program ∧
        analyze program = .ok typed ∧
      tokenize "\x7b\n\x7d write(1)" = .ok tokens' ∧ parse tokens' = .ok program' ∧
        analyze program' = .ok typed' ∧
      program ≠ program' ∧ dump (.program typed) = dump (.program typed') ∧
        typed.mapTokens Token.forgetLine = typed'.mapTokens Token.forgetLine := by
  have tokenized : tokenize "write(1)" =
      .ok [⟨.writeWord, "write", 1⟩, ⟨.openParen, "(", 1⟩, ⟨.intNumber, "1", 1⟩,
        ⟨.closeParen, ")", 1⟩] := by
    rw [tokenize_eq_ok_iff, lex]
    iterate 4 rw [lexFrom_of_lexeme rfl]
    rw [lexFrom_of_end rfl]
    rfl
  have tokenized' : tokenize "\x7b\n\x7d write(1)" =
      .ok [⟨.writeWord, "write", 2⟩, ⟨.openParen, "(", 2⟩, ⟨.intNumber, "1", 2⟩,
        ⟨.closeParen, ")", 2⟩] := by
    rw [tokenize_eq_ok_iff, lex]
    iterate 4 rw [lexFrom_of_lexeme rfl]
    rw [lexFrom_of_end rfl]
    rfl
  have writes (line : Nat) :
      Derives line .program [⟨.writeWord, "write", line⟩, ⟨.openParen, "(", line⟩,
        ⟨.intNumber, "1", line⟩, ⟨.closeParen, ")", line⟩] _ [] :=
    .program (.itemStatement (by simp [StartsDeclaration, nextKind]) (by simp [nextKind])
      (.statementWrite (.writing rfl rfl (.expressionList (.expression (.operand
        (.addend (.factorNumber (.number (.inl rfl))) (.addendStop (by simp [nextKind])))
          (.operandStop (by simp [nextKind]))) (.comparisonStop (by simp [nextKind])))
            (.expressionStop (by simp [nextKind]))) rfl))) (.programStop (by simp [nextKind]))
  have parsed := parse_of_derives (writes 1) rfl
  have parsed' := parse_of_derives (writes 2) rfl
  have alike {typed typed' : Program} (first : typed.FromSource) (second : typed'.FromSource)
      (same : dump (.program typed) = dump (.program typed')) :
      dump (.program typed) = dump (.program typed') ∧
        typed.mapTokens Token.forgetLine = typed'.mapTokens Token.forgetLine :=
    ⟨same, dump_faithful.2 _ _ first second same⟩
  exact ⟨_, _, _, _, _, _, tokenized, parsed, rfl, tokenized', parsed', rfl, by simp,
    alike (.analyzed tokenized parsed rfl) (.analyzed tokenized' parsed' rfl)
      (Node.dump_eq_of_mapTokens rfl)⟩

end DimLang
