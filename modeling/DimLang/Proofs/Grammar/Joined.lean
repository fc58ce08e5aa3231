import DimLang.Proofs.Grammar.MapTokens
import DimLang.Proofs.Grammar.Leaves
import DimLang.Proofs.Lexing.Tokens

/-!
# Joined programs

A separator behind a program ends it wherever it could end, unless its last statement is left open:
the body of a loop or a branch that is empty at the end of the input would go on behind the
separator. Otherwise (`Closed`) the derivation of the program stays the same with a separator and
anything else behind it (`Derives.extend`), and what follows the separator is parsed as a program of
its own.

- `parse_joined`: parsing two token lists with a separator between them yields the items of both,
  or the error of the second
-/

namespace DimLang

/-! ## Closed statements -/

mutual

/-- The right edge of the statement, through loops, separators and last branches, does not end in
an empty statement. -/
def Statement.Closed : Statement → Prop
  | .assignment _ => True
  | .nestedBlock _ => True
  | .condition tree => tree.Closed
  | .forLoop tree => tree.Closed
  | .whileLoop tree => tree.Closed
  | .reading _ => True
  | .writing _ => True
  | .skip _ inner => inner.Closed
  | .empty => False

/-- The last branch is closed. -/
def Condition.Closed : Condition → Prop
  | ⟨_, _, _, branch, .stop⟩ => branch.Closed
  | ⟨_, _, _, _, .more _ branch⟩ => branch.Closed

/-- The body is closed. -/
def ForLoop.Closed : ForLoop → Prop
  | ⟨_, _, _, _, _, body⟩ => body.Closed

/-- The body is closed. -/
def WhileLoop.Closed : WhileLoop → Prop
  | ⟨_, _, _, body⟩ => body.Closed

end

/-- A statement at the top level may also be empty. -/
def ProgramItem.Closed : ProgramItem → Prop
  | declaration _ => True
  | statement tree => tree = .empty ∨ tree.Closed

/-- The last item of the program is closed. -/
def Program.Closed : Program → Prop
  | ⟨item, .stop⟩ => item.Closed
  | ⟨_, .more _ rest⟩ => rest.Closed

/-- At the end of the input, the node would be the same in front of a separator. Lists of statements
and of items would go on. -/
def Node.Closed : Node → Prop
  | statement tree => tree.Closed
  | condition tree => tree.Closed
  | conditionTail .stop => True
  | conditionTail (.more _ branch) => branch.Closed
  | forLoop tree => tree.Closed
  | whileLoop tree => tree.Closed
  | statementList _ => False
  | statementListTail _ => False
  | programItem tree => tree.Closed
  | program _ => False
  | programTail _ => False
  | _ => True

/-! ## A separator behind a phrase -/

section Extend

variable {endLine : Nat} {input rest more : List Token}

/-- A derivation leaves a suffix of its input. -/
theorem Derives.suffix {symbol : Symbol} {node : Node}
    (derives : Derives endLine symbol input node rest) : rest <:+ input :=
  (reads_of_derives derives).suffix

/-- More tokens behind an input do not change its first one. -/
theorem nextKind_append (more : List Token) (nonempty : input ≠ []) :
    nextKind (input ++ more) = nextKind input := by
  cases input with
  | nil => exact absurd rfl nonempty
  | cons token input => rfl

/-- A kind that neither begins the input nor is a separator does not begin the joined input. -/
theorem nextKind_append_ne {kind : TokenKind} (separated : nextKind more = .separator)
    (stops : nextKind input ≠ kind) (other : TokenKind.separator ≠ kind) :
    nextKind (input ++ more) ≠ kind := by
  cases input with
  | nil =>
    rw [List.nil_append, separated]
    exact other
  | cons token input => exact stops

/-- A separator behind the input does not start a declaration. -/
theorem startsDeclaration_append (separated : nextKind more = .separator) :
    StartsDeclaration (input ++ more) ↔ StartsDeclaration input := by
  have ended : nextKind [] = .eof := rfl
  match input with
  | [] => simp [StartsDeclaration, separated, ended]
  | [name] =>
    have first : nextKind (name :: more) = nextKind [name] := rfl
    simp [StartsDeclaration, separated, first, ended]
  | name :: next :: input => rfl

/-- At the end of the input there is only the empty statement. -/
theorem Derives.eq_empty {statement : Statement}
    (derives : Derives endLine .statement [] (.statement statement) rest) :
    statement = .empty ∧ rest = [] := by
  generalize nothing : ([] : List Token) = input at derives
  cases derives with
  | statementAssignment part | statementBlock part | statementCondition part
  | statementFor part | statementWhile part | statementRead part | statementWrite part =>
    subst nothing
    cases part.nextKind_eq rfl
  | statementSkip nonempty => exact absurd (List.append_eq_nil_iff.mp nothing.symm).1 nonempty
  | statementEmpty => exact ⟨rfl, rfl⟩

/-- An empty statement takes no tokens. -/
theorem Derives.eq_of_empty
    (derives : Derives endLine .statement input (.statement .empty) rest) : input = rest := by
  generalize tree : Node.statement .empty = node at derives
  cases derives with
  | statementEmpty => rfl
  | _ => cases tree

/-- In front of a separator a phrase is the same as at the end of the input, if its tree is
closed. -/
theorem Derives.extend {symbol : Symbol} {node : Node}
    (derives : Derives endLine symbol input node rest) (notEnd : symbol ≠ .leaf .eof)
    (closed : rest = [] → node.Closed) (separated : nextKind more = .separator) (endLine' : Nat) :
    Derives endLine' symbol (input ++ more) node (rest ++ more) := by
  have stops {rest : List Token} {kind : TokenKind} (was : nextKind rest ≠ kind)
      (other : TokenKind.separator ≠ kind) : nextKind (rest ++ more) ≠ kind :=
    nextKind_append_ne separated was other
  -- A part ends at the end of the input only if the whole does, and is then closed like the whole.
  induction derives with
  | name kind => exact .name kind
  | constant kind isConstant => exact .constant kind isConstant
  | mark kind notName notConstant => exact .mark kind notName notConstant
  | inputEnd => exact absurd rfl notEnd
  | program _ behind first tail =>
    refine .program (first nofun fun ended => ?_) (tail nofun fun ended => (closed ended).elim)
    have suffix := behind.suffix
    rw [ended, List.suffix_nil] at suffix
    exact (closed suffix).elim
  | programMore kind _ part => exact .programMore kind (part nofun fun ended => (closed ended).elim)
  | @programStop rest stop =>
    have nonempty : rest ≠ [] := fun ended => closed ended
    exact .programStop (by rwa [nextKind_append more nonempty])
  | itemDeclaration start _ declares =>
    exact .itemDeclaration ((startsDeclaration_append separated).mpr start)
      (declares nofun fun _ => trivial)
  | @itemEmpty rest blank =>
    have nonempty : rest ≠ [] := by
      rintro rfl
      cases blank
    exact .itemEmpty (by rwa [nextKind_append more nonempty])
  | @itemStatement input rest statement noDeclaration notBlank derives states =>
    by_cases nothing : input = []
    · subst nothing
      obtain ⟨rfl, rfl⟩ := derives.eq_empty
      exact .itemEmpty separated
    · refine .itemStatement (mt (startsDeclaration_append separated).mp noDeclaration)
        (by rwa [nextKind_append more nothing]) (states nofun fun ended => ?_)
      obtain rfl | edge := closed ended
      · exact absurd (derives.eq_of_empty.trans ended) nothing
      · exact edge
  | declarationKeyword word _ typeKind list =>
    exact .declarationKeyword word (list nofun nofun) typeKind
  | declarationColon _ mark typeKind list =>
    exact .declarationColon (list nofun nofun) mark typeKind
  | identifierList kind _ tail => exact .identifierList kind (tail nofun fun _ => trivial)
  | identifierMore kind _ list => exact .identifierMore kind (list nofun fun _ => trivial)
  | identifierStop stop => exact .identifierStop (stops stop (by decide))
  | statementAssignment _ part => exact .statementAssignment (part nofun fun _ => trivial)
  | statementBlock _ part => exact .statementBlock (part nofun fun _ => trivial)
  | statementCondition _ part => exact .statementCondition (part nofun closed)
  | statementFor _ part => exact .statementFor (part nofun closed)
  | statementWhile _ part => exact .statementWhile (part nofun closed)
  | statementRead _ part => exact .statementRead (part nofun fun _ => trivial)
  | statementWrite _ part => exact .statementWrite (part nofun fun _ => trivial)
  | @statementSkip separators input rest inner nonempty kinds behind derives part =>
    have goesOn : input ≠ [] := by
      rintro rfl
      obtain ⟨rfl, ended⟩ := derives.eq_empty
      exact closed ended
    rw [List.append_assoc]
    exact .statementSkip nonempty kinds (by rwa [nextKind_append more goesOn]) (part nofun closed)
  | @statementEmpty rest ends =>
    have nonempty : rest ≠ [] := fun ended => closed ended
    exact .statementEmpty (by rwa [nextKind_append more nonempty])
  | assignment target asKind _ part => exact .assignment target asKind (part nofun fun _ => trivial)
  | @condition _ _ _ _ later rest _ branch tail ifKind _ thenKind _ behind tests states more =>
    refine .condition ifKind (tests nofun nofun) thenKind (states nofun fun ended => ?_)
      (more nofun fun ended => ?_)
    · cases behind with
      | conditionElse => cases ended
      | conditionStop => exact closed ended
    · cases tail with
      | stop => exact trivial
      | more elseWord other => exact closed ended
  | conditionElse kind _ part => exact .conditionElse kind (part nofun closed)
  | conditionStop stop => exact .conditionStop (stops stop (by decide))
  | forLoop forKind _ toKind _ doKind _ begins limits states =>
    exact .forLoop forKind (begins nofun nofun) toKind (limits nofun nofun) doKind
      (states nofun closed)
  | whileLoop whileKind _ doKind _ tests states =>
    exact .whileLoop whileKind (tests nofun nofun) doKind (states nofun closed)
  | nestedBlock beginKind _ endKind list =>
    exact .nestedBlock beginKind (list nofun nofun) endKind
  | statementList _ behind states tail =>
    refine .statementList (states nofun fun ended => ?_)
      (tail nofun fun ended => (closed ended).elim)
    have suffix := behind.suffix
    rw [ended, List.suffix_nil] at suffix
    exact (closed suffix).elim
  | statementMore kind _ list =>
    exact .statementMore kind (list nofun fun ended => (closed ended).elim)
  | @statementStop rest stop =>
    have nonempty : rest ≠ [] := fun ended => closed ended
    exact .statementStop (by rwa [nextKind_append more nonempty])
  | reading readKind openKind _ closeKind list =>
    exact .reading readKind openKind (list nofun nofun) closeKind
  | writing writeKind openKind _ closeKind list =>
    exact .writing writeKind openKind (list nofun nofun) closeKind
  | expressionList _ _ first tail =>
    exact .expressionList (first nofun fun _ => trivial) (tail nofun fun _ => trivial)
  | expressionMore kind _ list => exact .expressionMore kind (list nofun fun _ => trivial)
  | expressionStop stop => exact .expressionStop (stops stop (by decide))
  | expression _ _ first tail =>
    exact .expression (first nofun fun _ => trivial) (tail nofun fun _ => trivial)
  | comparison kind _ part => exact .comparison kind (part nofun fun _ => trivial)
  | comparisonStop stop => exact .comparisonStop (stops stop (by decide))
  | operand _ _ first tail =>
    exact .operand (first nofun fun _ => trivial) (tail nofun fun _ => trivial)
  | operandMore kind _ part => exact .operandMore kind (part nofun fun _ => trivial)
  | operandStop stop => exact .operandStop (stops stop (by decide))
  | addend _ _ first tail =>
    exact .addend (first nofun fun _ => trivial) (tail nofun fun _ => trivial)
  | addendMore kind _ part => exact .addendMore kind (part nofun fun _ => trivial)
  | addendStop stop => exact .addendStop (stops stop (by decide))
  | factorIdentifier kind => exact .factorIdentifier kind
  | factorNumber _ part => exact .factorNumber (part nofun fun _ => trivial)
  | factorBool kind => exact .factorBool kind
  | factorNot kind _ part => exact .factorNot kind (part nofun fun _ => trivial)
  | factorGroup openKind _ closeKind part =>
    exact .factorGroup openKind (part nofun nofun) closeKind
  | number kind => exact .number kind

end Extend

/-! ## Joining -/

/-- The program with a separator and another program behind it. -/
def Program.append : Program → Leaf → Program → Program
  | ⟨item, .stop⟩, separator, later => ⟨item, .more separator later⟩
  | ⟨item, .more own rest⟩, separator, later => ⟨item, .more own (rest.append separator later)⟩

/-- Joined programs have the items of both. -/
theorem Program.items_append :
    (program : Program) → (separator : Leaf) → (later : Program) →
      (program.append separator later).items = program.items ++ later.items
  | ⟨item, .stop⟩, separator, later => by
    rw [append, items_more, items_stop, List.singleton_append]
  | ⟨item, .more own rest⟩, separator, later => by
    rw [append, items_more, items_more, items_append rest, List.cons_append]

section Joined

variable {endLine : Nat} {separator : Token}

/-- The first item of a closed program is also derived in front of a separator, and behind it the
program ends or continues with a closed program. -/
theorem Derives.exists_item {tokens : List Token} {item : ProgramItem} {tail : ProgramTail}
    (derives : Derives endLine .program tokens (.program ⟨item, tail⟩) [])
    (closed : Program.Closed ⟨item, tail⟩) (kind : separator.kind = .separator)
    (later : List Token) (endLine' : Nat) :
    ∃ middle, Derives endLine' .programItem (tokens ++ separator :: later) (.programItem item)
        (middle ++ separator :: later) ∧
      (tail = .stop ∧ middle = [] ∨
        ∃ own rest program, tail = .more ⟨own⟩ program ∧ middle = own :: rest ∧
          own.kind = .separator ∧ Derives endLine .program rest (.program program) [] ∧
            program.Closed) := by
  have separated : nextKind (separator :: later) = .separator := kind
  cases derives with
  | program first behind =>
    cases behind with
    | programStop =>
      exact ⟨[], first.extend nofun (fun _ => closed) separated endLine', .inl ⟨rfl, rfl⟩⟩
    | programMore kind part =>
      exact ⟨_, first.extend nofun nofun separated endLine',
        .inr ⟨_, _, _, rfl, rfl, kind, part, closed⟩⟩

/-- A closed program, a separator and another program are derived one after the other. -/
theorem Derives.append (kind : separator.kind = .separator) {later : List Token}
    {program' : Program} {endLine' : Nat}
    (derives' : Derives endLine' .program later (.program program') []) :
    (program : Program) → {tokens : List Token} → program.Closed →
      Derives endLine .program tokens (.program program) [] →
        Derives endLine' .program (tokens ++ separator :: later)
          (.program (program.append ⟨separator⟩ program')) []
  | ⟨item, .stop⟩, tokens, closed, derives => by
    obtain ⟨middle, first, ⟨_, rfl⟩ | ⟨_, _, _, tail, _⟩⟩ :=
      derives.exists_item closed kind later endLine'
    · exact .program first (.programMore kind derives')
    · cases tail
  | ⟨item, .more own rest⟩, tokens, closed, derives => by
    obtain ⟨middle, first, ⟨tail, _⟩ | ⟨_, _, _, tail, rfl, ownKind, part, closed'⟩⟩ :=
      derives.exists_item closed kind later endLine'
    · cases tail
    · cases tail
      exact .program first (.programMore ownKind (Derives.append kind derives' rest closed' part))

/-- The pending entries only assemble nodes. -/
def Pending.OnlyReduces (pending : List Pending) : Prop :=
  ∀ work ∈ pending, ∃ production, work = .reduce production

/-- An agenda without symbols is worked off without reading. -/
theorem reaches_onlyReduces {pending : List Pending} (reduces : Pending.OnlyReduces pending)
    (rest : List Token) : Reaches endLine ⟨pending, rest⟩ ⟨[], rest⟩ := by
  induction pending with
  | nil => exact .refl
  | cons work pending ih =>
    obtain ⟨⟨production, rfl⟩, others⟩ := List.forall_mem_cons.mp reduces
    exact .head .reduce (ih others)

/-- Behind an item and a separator, the parser expects a program. -/
theorem reaches_behind_item (kind : separator.kind = .separator) {tokens later : List Token}
    {item : Node}
    (derives : Derives endLine .programItem tokens item (separator :: later)) :
    Reaches endLine ⟨[.symbol .program], tokens⟩
      ⟨[.symbol .program, .reduce .programTailMore, .reduce .program], later⟩ := by
  have continues : Symbol.programTail.rule.feed .programTail
      (windowAt endLine (separator :: later)) = .ok (.expand .programTailMore) :=
    feed_tail_iff.mpr (.inl ⟨kind, rfl⟩)
  have consumes : (Symbol.leaf .separator).rule.feed (.leaf .separator)
      (windowAt endLine (separator :: later)) = .ok .consumed := by
    rw [Symbol.rule, Rule.feed, windowAt_current_cons, kind]
    rfl
  have item := reaches_of_reads (reads_of_derives derives) [.symbol .programTail, .reduce .program]
  exact .head (.expand rfl) (item.trans (.head (.expand continues) (.single (.consume consumes))))

/-- Behind a closed program and a separator, the parser expects a program and nothing else. -/
theorem exists_reaches_behind (kind : separator.kind = .separator) (later : List Token)
    (endLine' : Nat) :
    (program : Program) → {tokens : List Token} → program.Closed →
      Derives endLine .program tokens (.program program) [] →
        ∃ below, Pending.OnlyReduces below ∧
          Reaches endLine' ⟨[.symbol .program], tokens ++ separator :: later⟩
            ⟨.symbol .program :: below, later⟩
  | ⟨item, .stop⟩, tokens, closed, derives => by
    obtain ⟨middle, first, ⟨_, rfl⟩ | ⟨_, _, _, tail, _⟩⟩ :=
      derives.exists_item closed kind later endLine'
    · exact ⟨_, by simp [Pending.OnlyReduces], reaches_behind_item kind first⟩
    · cases tail
  | ⟨item, .more own rest⟩, tokens, closed, derives => by
    obtain ⟨middle, first, ⟨tail, _⟩ | ⟨_, _, _, tail, rfl, ownKind, part, closed'⟩⟩ :=
      derives.exists_item closed kind later endLine'
    · cases tail
    · cases tail
      obtain ⟨below, reduces, reaches⟩ :=
        exists_reaches_behind kind later endLine' rest closed' part
      refine ⟨below ++ [.reduce .programTailMore, .reduce .program], ?_, ?_⟩
      · intro work member
        rcases List.mem_append.mp member with inside | outside
        · exact reduces work inside
        · simp only [List.mem_cons, List.not_mem_nil, or_false] at outside
          rcases outside with rfl | rfl <;> exact ⟨_, rfl⟩
      · exact (reaches_behind_item ownKind first).trans (reaches.append _)

/-- What is rejected is also rejected in front of nodes that only have to be assembled. -/
theorem Agenda.Rejects.exists_append {agenda : Agenda} {error : ParseError}
    (rejects : agenda.Rejects endLine error) {below : List Pending}
    (reduces : Pending.OnlyReduces below) :
    ∃ stopped, Reaches endLine ⟨agenda.pending ++ below, agenda.rest⟩ stopped ∧
      stopped.Rejects endLine error := by
  cases rejects with
  | symbol failed => exact ⟨_, .refl, .symbol failed⟩
  | trailing left => exact ⟨_, reaches_onlyReduces reduces _, .trailing left⟩

end Joined

/-! ## Parsing joined lists -/

/-- The error, some lines later. -/
def ParseError.shift (lines : Nat) : ParseError → ParseError
  | unexpectedToken expected found line => unexpectedToken expected found (line + lines)
  | noAlternative symbol expected found line => noAlternative symbol expected found (line + lines)
  | trailingInput found line => trailingInput found (line + lines)
  | malformed production found line => malformed production found (line + lines)

/-- An error about a token moves with the token. -/
theorem ParseError.Names.about_shift {token : Token} {error : ParseError}
    (names : error.Names token) (lines : Nat) :
    error.about (token.shift lines) = error.shift lines := by
  cases error with
  | malformed => exact names.elim
  | _ =>
    obtain ⟨rfl, rfl⟩ := names
    rfl

/-- The window moves with the tokens, the end of the input included. -/
theorem windowAt_shift (endLine lines : Nat) (rest : List Token) :
    (windowAt (endLine + lines) (rest.map (Token.shift lines))).current =
      (windowAt endLine rest).current.shift lines := by
  match rest with
  | [] => rfl
  | [_] => rfl
  | _ :: _ :: _ => rfl

/-- The last line of joined tokens is the moved last line of the second part. -/
theorem endLine_append_shift (tokens : List Token) (separator : Token) {later : List Token}
    (nonempty : later ≠ []) (lines : Nat) :
    endLine (tokens ++ separator :: later.map (Token.shift lines)) = endLine later + lines := by
  obtain ⟨front, last, rfl⟩ := (List.eq_nil_or_concat' later).resolve_left nonempty
  have split : tokens ++ separator :: (front ++ [last]).map (Token.shift lines) =
      tokens ++ separator :: front.map (Token.shift lines) ++ [last.shift lines] := by
    simp
  rw [split, endLine, endLine, List.getLast?_concat, List.getLast?_concat]
  rfl

/-- Without tokens there is one empty statement. -/
theorem parse_nil : parse [] = .ok ⟨.statement .empty, .stop⟩ :=
  parse_of_derives (.program (.itemStatement (by simp [StartsDeclaration, nextKind])
    (by simp [nextKind]) (.statementEmpty (.inr rfl))) (.programStop (by simp [nextKind]))) rfl

/-- A closed program and, behind a separator, another token list some lines later are parsed one by
one. -/
theorem parse_joined {tokens : List Token} {program : Program} {separator : Token}
    (noEnd : ∀ token ∈ tokens, token.kind ≠ .eof) (parsed : parse tokens = .ok program)
    (closed : program.Closed) (kind : separator.kind = .separator) {later : List Token}
    (noEnd' : ∀ token ∈ later, token.kind ≠ .eof) (lines : Nat) :
    parse (tokens ++ separator :: later.map (Token.shift lines)) =
      ((parse later).map fun program' =>
        program.append ⟨separator⟩ (program'.mapTokens (Token.shift lines))).mapError
          (ParseError.shift lines) := by
  have derives_of_parse {tokens : List Token} {program : Program}
      (noEnd : ∀ token ∈ tokens, token.kind ≠ .eof) (parsed : parse tokens = .ok program) :
      Derives (endLine tokens) .program tokens (.program program) [] :=
    derives_of_reads ((parseAs_eq_ok_iff_reads noEnd).mp (parse_eq_ok_iff.mp parsed))
  have kinds (token : Token) : (token.shift lines).kind = token.kind := rfl
  have derives := derives_of_parse noEnd parsed
  cases outcome : parse later with
  | ok program' =>
    have derives' := (derives_of_parse noEnd' outcome).mapTokens kinds nofun
      (endLine (tokens ++ separator :: later.map (Token.shift lines)))
    exact parse_of_derives (.append kind derives' program closed derives) rfl
  | error error =>
    have nonempty : later ≠ [] := by
      rintro rfl
      rw [parse_nil] at outcome
      cases outcome
    have last := endLine_append_shift tokens separator nonempty lines
    obtain ⟨stopped, reaches, rejects⟩ :=
      parseAs_eq_error_iff.mp (parse_eq_error_iff.mp outcome)
    obtain ⟨below, reduces, front⟩ := exists_reaches_behind kind (later.map (Token.shift lines))
      (endLine later + lines) program closed derives
    have moved : Reaches (endLine later + lines) _ _ := (reaches.map kinds).append below
    have rejects' : Agenda.Rejects (endLine later + lines) _ _ := rejects.map kinds
    rw [windowAt_shift, rejects.names.about_shift] at rejects'
    obtain ⟨final, back, rejects'⟩ := rejects'.exists_append reduces
    rw [← last] at front moved back rejects'
    exact parse_eq_error_iff.mpr
      (parseAs_of_rejects (front.trans (moved.trans back)) rejects')

end DimLang
