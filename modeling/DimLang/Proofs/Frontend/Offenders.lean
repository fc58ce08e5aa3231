import DimLang.Proofs.Frontend.InternalErrors
import DimLang.Proofs.Grammar.Joined
import DimLang.Proofs.Grammar.Prefixes
import DimLang.Proofs.Lexing.Places
import DimLang.Proofs.Typing.Verdicts

/-!
# What an error is about

Every error of a source text is about one of its lexemes: an invalid lexeme, the brace of a comment
that is left open, the first token with which no program begins, the last token if the text ends too
early, or the token that breaks a rule of names and types. `Offender` names this lexeme by its text
and by the tokens in front of it, without reference to lines.

The line that is reported is the line of this lexeme in the source text, which therefore exists and
has the lexeme (`exists_offender_of_check_eq_error`).
-/

namespace DimLang

/-- The lexeme that the error is about: the tokens of the source text in front of it, and its
text. -/
inductive Offender (source : String) : FrontendError → List Token → String → Prop
  | invalidToken {earlier : List Token} {lexeme : String} {line : Nat}
      {later : List (Except LexError Token)}
      (lexed : lex source = earlier.map .ok ++ .error (.invalidToken lexeme line) :: later) :
      Offender source (.lex (.invalidToken lexeme line)) earlier lexeme
  | unclosedComment {earlier : List Token} {line : Nat} {later : List (Except LexError Token)}
      (lexed : lex source = earlier.map .ok ++ .error (.unterminatedComment line) :: later) :
      Offender source (.lex (.unterminatedComment line)) earlier "\x7b"
  | unusable {earlier later : List Token} {token : Token} {error : ParseError}
      (tokenized : tokenize source = .ok (earlier ++ token :: later))
      (begins : BeginsProgram earlier)
      (fails : ∀ continuation, parse (earlier ++ token :: continuation) = .error error)
      (names : error.Names token) :
      Offender source (.parse error) earlier token.text
  | inputEnd {earlier : List Token} {last : Token} {error : ParseError}
      (tokenized : tokenize source = .ok (earlier ++ [last]))
      (begins : BeginsProgram (earlier ++ [last]))
      (fails : parse (earlier ++ [last]) = .error error)
      (names : error.Names (.atEnd last.line)) :
      Offender source (.parse error) earlier last.text
  | violation {tokens earlier : List Token} {program : Program} {token : Token}
      {error : SemanticError} (tokenized : tokenize source = .ok tokens)
      (parsed : parse tokens = .ok program) (proper : error.Proper)
      (first : program.FirstViolation .standard .empty error earlier token)
      (kind : error.AboutKind token.kind) :
      Offender source (.semantic error) earlier token.text

/-! ## Every error has an offender -/

/-- The error is that of the first invalid item. -/
theorem exists_of_tokenize_eq_error {source : String} {error : LexError}
    (failed : tokenize source = .error error) :
    ∃ (earlier : List Token) (later : List (Except LexError Token)),
      lex source = earlier.map .ok ++ .error error :: later := by
  rw [tokenize] at failed
  generalize lex source = items at failed ⊢
  induction items with
  | nil => cases failed
  | cons item items ih =>
    cases item with
    | error found =>
      cases failed
      exact ⟨[], items, rfl⟩
    | ok token =>
      rw [mapM_ok_cons] at failed
      cases rest : items.mapM id with
      | ok tokens =>
        rw [rest] at failed
        cases failed
      | error found =>
        rw [rest] at failed
        cases failed
        obtain ⟨earlier, later, lexed⟩ := ih rest
        exact ⟨token :: earlier, later, congrArg (.ok token :: ·) lexed⟩

/-- A syntax error has the line of the token that it names. -/
theorem ParseError.Names.line_eq {error : ParseError} {token : Token} (names : error.Names token) :
    error.line = token.line := by
  cases error with
  | malformed => exact names.elim
  | _ => exact names.2

/-- A list is rejected at a token with which no program begins, or at its end. -/
theorem exists_split_of_parse_eq_error {tokens : List Token} {error : ParseError}
    (failed : parse tokens = .error error) :
    (∃ earlier token later, tokens = earlier ++ token :: later ∧ BeginsProgram earlier ∧
      (∀ continuation, parse (earlier ++ token :: continuation) = .error error) ∧
        error.Names token) ∨
    ∃ earlier last, tokens = earlier ++ [last] ∧ BeginsProgram tokens ∧
      error.Names (.atEnd last.line) := by
  obtain ⟨⟨pending, rest⟩, reaches, rejects⟩ :=
    parseAs_eq_error_iff.mp (parse_eq_error_iff.mp failed)
  obtain ⟨used, rfl⟩ : ∃ used, used ++ rest = tokens := reaches.suffix
  have names := rejects.names
  cases rest with
  | cons token later =>
    rw [windowAt_current_cons] at names
    refine .inl ⟨used, token, later, rfl, beginsProgram_of_reaches reaches, ?_, names⟩
    intro continuation
    exact parse_eq_error_iff.mpr (parseAs_of_rejects
      (reaches_of_rejects reaches rejects rfl rfl _ _) (rejects.of_append _ _))
  | nil =>
    have begins : BeginsProgram used := beginsProgram_of_reaches reaches
    rw [List.append_nil] at failed names ⊢
    -- Without tokens there is no error, so an early end has a last token.
    rcases List.eq_nil_or_concat used with rfl | ⟨earlier, last, rfl⟩
    · rw [parse_nil] at failed
      cases failed
    · have endLine : DimLang.endLine (earlier.concat last) = last.line := by
        simp [DimLang.endLine]
      rw [endLine] at names
      exact .inr ⟨earlier, last, List.concat_eq_append, begins, names⟩

/-- In a parsed program, names and operators stand where they belong. -/
theorem placed_of_parse {tokens : List Token} {program : Program}
    (parsed : parse tokens = .ok program) : (Node.program program).Everywhere Node.Placed := by
  obtain ⟨rest, reads, _⟩ := parseAs_eq_ok_iff.mp (parse_eq_ok_iff.mp parsed)
  exact (derives_of_reads reads).placed

/-- A source text that is rejected has a lexeme that the error is about. -/
theorem exists_offender {source : String} {error : FrontendError}
    (failed : check source = .error error) :
    ∃ earlier lexeme, Offender source error earlier lexeme := by
  obtain ⟨cause, lexing, rfl⟩ | ⟨tokens, cause, tokenized, parsing, rfl⟩ |
    ⟨tokens, program, cause, tokenized, parsed, analysing, rfl⟩ := exists_of_check_eq_error failed
  · obtain ⟨earlier, later, lexed⟩ := exists_of_tokenize_eq_error lexing
    cases cause with
    | invalidToken lexeme line => exact ⟨earlier, lexeme, .invalidToken lexed⟩
    | unterminatedComment line => exact ⟨earlier, _, .unclosedComment lexed⟩
  · obtain ⟨earlier, token, later, rfl, begins, fails, names⟩ |
      ⟨earlier, last, rfl, begins, names⟩ := exists_split_of_parse_eq_error parsing
    · exact ⟨earlier, token.text, .unusable tokenized begins fails names⟩
    · exact ⟨earlier, last.text, .inputEnd tokenized begins parsing names⟩
  · have proper := proper_of_analyze tokenized parsed analysing
    rw [analyze_eq_infer] at analysing
    cases inferred : program.infer .standard .empty with
    | ok result =>
      rw [inferred] at analysing
      cases analysing
    | error found =>
      rw [inferred] at analysing
      cases analysing
      obtain ⟨earlier, token, first⟩ := Program.exists_firstViolation inferred
      have kind := first.aboutKind (placed_of_parse parsed)
      exact ⟨earlier, token.text, .violation tokenized parsed proper first kind⟩

/-! ## The line of an offender -/

/-- The leaves of a parsed source text are its tokens. -/
theorem leaves_of_parse {source : String} {tokens : List Token} {program : Program}
    (tokenized : tokenize source = .ok tokens) (parsed : parse tokens = .ok program) :
    (Node.program program).leaves = tokens := by
  have reads := (parseAs_eq_ok_iff_reads (ne_eof_of_tokenize tokenized)).mp
    (parse_eq_ok_iff.mp parsed)
  rw [← reads.leaves_append (by decide), List.append_nil]

namespace Offender

variable {source lexeme : String} {error : FrontendError} {earlier : List Token}

/-- The offender is an item of the source text, on the line of the error. -/
theorem exists_item (offender : Offender source error earlier lexeme) :
    ∃ item later, lex source = earlier.map .ok ++ item :: later ∧
      lexemeOf item = ⟨lexeme, error.line⟩ := by
  cases offender with
  | invalidToken lexed => exact ⟨_, _, lexed, rfl⟩
  | unclosedComment lexed => exact ⟨_, _, lexed, rfl⟩
  | @unusable _ later token _ tokenized _ _ names =>
    refine ⟨.ok token, later.map .ok, ?_, ?_⟩
    · rw [tokenize_eq_ok_iff.mp tokenized, List.map_append, List.map_cons]
    · rw [lexemeOf, FrontendError.line, names.line_eq]
  | @inputEnd _ last _ tokenized _ _ names =>
    refine ⟨.ok last, [], ?_, ?_⟩
    · rw [tokenize_eq_ok_iff.mp tokenized, List.map_append, List.map_cons, List.map_nil]
    · rw [lexemeOf, FrontendError.line, names.line_eq]
      rfl
  | @violation tokens _ program token _ tokenized parsed _ first _ =>
    obtain ⟨later, leaves⟩ := first.exists_leaves
    rw [leaves_of_parse tokenized parsed] at leaves
    refine ⟨.ok token, later.map .ok, ?_, ?_⟩
    · rw [tokenize_eq_ok_iff.mp tokenized, leaves, List.map_append, List.map_cons]
    · rw [lexemeOf, FrontendError.line, first.names.line_eq]

/-- The offender has a place in the source text, and the line of the error is counted there. -/
theorem exists_lexemeAt (offender : Offender source error earlier lexeme) :
    ∃ before after, LexemeAt source earlier before lexeme.toList after ∧
      error.line = lineAfter before := by
  obtain ⟨item, later, lexed, named⟩ := offender.exists_item
  obtain ⟨before, chars, after, place, rfl⟩ := DimLang.exists_lexemeAt lexed
  rw [lexemeOf_lexedAs] at named
  obtain ⟨rfl, line⟩ := Lexeme.mk.inj named
  rw [String.toList_ofList]
  exact ⟨before, after, place, line.symm⟩

end Offender

/-- An error has the line of the lexeme that it is about, counted by the newlines in front of it.
The source text has this line, and the line has the lexeme. -/
theorem exists_offender_of_check_eq_error {source : String} {error : FrontendError}
    (failed : check source = .error error) :
    ∃ (earlier : List Token) (lexeme : String) (before after : List Char),
      Offender source error earlier lexeme ∧
      LexemeAt source earlier before lexeme.toList after ∧
      error.line = 1 + before.count '\n' ∧
      ∃ line, (textLines source.toList)[error.line - 1]? = some line ∧
        lexeme.toList <:+: line := by
  obtain ⟨earlier, lexeme, offender⟩ := exists_offender failed
  obtain ⟨before, after, place, counted⟩ := offender.exists_lexemeAt
  refine ⟨earlier, lexeme, before, after, offender, place, counted, ?_⟩
  rw [counted]
  exact place.exists_line

/-- Writing a name is rejected where nothing is declared. -/
theorem check_write_name {source name : String} {line : Nat}
    (tokenized : tokenize source = .ok [⟨.writeWord, "write", line⟩, ⟨.openParen, "(", line⟩,
      ⟨.identifier, name, line⟩, ⟨.closeParen, ")", line⟩]) :
    check source = .error (.semantic (.undeclared name line)) := by
  have value : Derives line .expression [⟨.identifier, name, line⟩, ⟨.closeParen, ")", line⟩] _
      [⟨.closeParen, ")", line⟩] :=
    .expression (.operand (.addend (.factorIdentifier rfl) (.addendStop (by simp [nextKind])))
      (.operandStop (by simp [nextKind]))) (.comparisonStop (by simp [nextKind]))
  have item : Derives line .programItem [⟨.writeWord, "write", line⟩, ⟨.openParen, "(", line⟩,
      ⟨.identifier, name, line⟩, ⟨.closeParen, ")", line⟩] _ [] :=
    .itemStatement (by simp [StartsDeclaration, nextKind]) (by simp [nextKind])
      (.statementWrite (.writing rfl rfl (.expressionList value (.expressionStop
        (by simp [nextKind]))) rfl))
  have parsed := parse_of_derives (.program item (.programStop (by simp [nextKind]))) rfl
  rw [check, tokenized]
  change (parse _).mapError _ >>= _ = _
  rw [parsed]
  rfl

/-- A comment over two lines counts, and the name in it does not matter. -/
theorem exists_offender_behind_comment :
    check "\x7b i\n\x7d write(i)" = .error (.semantic (.undeclared "i" 2)) ∧
    ∃ (earlier : List Token) (lexeme : String) (before after : List Char),
      Offender "\x7b i\n\x7d write(i)" (.semantic (.undeclared "i" 2)) earlier lexeme ∧
      LexemeAt "\x7b i\n\x7d write(i)" earlier before lexeme.toList after ∧
      2 = 1 + before.count '\n' ∧
      ∃ line, (textLines "\x7b i\n\x7d write(i)".toList)[1]? = some line ∧
        lexeme.toList <:+: line := by
  have tokenized : tokenize "\x7b i\n\x7d write(i)" =
      .ok [⟨.writeWord, "write", 2⟩, ⟨.openParen, "(", 2⟩, ⟨.identifier, "i", 2⟩,
        ⟨.closeParen, ")", 2⟩] := by
    rw [tokenize_eq_ok_iff, lex]
    iterate 4 rw [lexFrom_of_lexeme rfl]
    rw [lexFrom_of_end rfl]
    rfl
  have failed := check_write_name tokenized
  exact ⟨failed, exists_offender_of_check_eq_error failed⟩

end DimLang
