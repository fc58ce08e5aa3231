import DimLang.Pattern.Lemmas
import DimLang.Proofs.Lexing.Segments
import DimLang.Syntax.DataType

/-!
# Tokens of a source text

Every token of a source text is of a kind whose pattern its text matches
(`recognises_of_tokenize`). In particular the end of the input is no token, and the type names are
those that the language has.

A newline is a lexeme of its own that ends every other one, so that two texts with a newline
between them are lexed one by one, the second with its lines counted on (`lex_newline`,
`tokenize_newline`).
-/

namespace DimLang

/-! ## Kinds and texts -/

/-- A token's kind recognises the token's text. -/
theorem recognises_of_classify {lexeme : String} {line : Nat} {token : Token}
    (classified : classify lexeme line = .ok token) :
    token.kind.recognises token.text.toList = true := by
  rw [classify] at classified
  split at classified
  · rename_i kind found
    cases classified
    rw [TokenKind.kindAmong?] at found
    exact List.find?_some (p := fun kind => TokenKind.recognises kind lexeme.toList) found
  · cases classified

/-- Every token of a segmentation has a kind that recognises its text. -/
theorem Segmented.recognises {before text : List Char} {items : List (Except LexError Token)}
    (segmented : Segmented before text items) {token : Token} (member : .ok token ∈ items) :
    token.kind.recognises token.text.toList = true := by
  induction segmented with
  | finish => cases member
  | unclosed => simp at member
  | lexeme _ _ _ _ _ ih =>
    rcases List.mem_cons.mp member with same | later
    · exact recognises_of_classify same.symm
    · exact ih later

/-- A token in front is a token of the whole list. -/
theorem mapM_ok_cons (token : Token) (items : List (Except LexError Token)) :
    (.ok token :: items).mapM id = (items.mapM id).map (token :: ·) := by
  rw [List.mapM_cons]
  cases items.mapM id <;> rfl

/-- A source has tokens exactly if all its items are these. -/
theorem tokenize_eq_ok_iff {source : String} {tokens : List Token} :
    tokenize source = .ok tokens ↔ lex source = tokens.map .ok := by
  rw [tokenize]
  induction lex source generalizing tokens with
  | nil => simp [pure, Except.pure, eq_comm]
  | cons item items ih =>
    cases item with
    | error error => cases tokens <;> simp [bind, Except.bind]
    | ok token =>
      rw [mapM_ok_cons]
      cases tokens with
      | nil => cases items.mapM id <;> simp [Except.map]
      | cons first others =>
        rw [List.map_cons, List.cons.injEq, ← ih]
        cases items.mapM id <;> simp [Except.map]

/-- The text of a token matches the pattern of its kind. -/
theorem recognises_of_tokenize {source : String} {tokens : List Token}
    (tokenized : tokenize source = .ok tokens) {token : Token} (member : token ∈ tokens) :
    token.kind.recognises token.text.toList = true := by
  have segmented := segmented_lexFrom [] source.toList
  refine segmented.recognises ?_
  change .ok token ∈ lex source
  rw [tokenize_eq_ok_iff.mp tokenized]
  exact List.mem_map_of_mem member

/-- The lexer makes no end marker. -/
theorem ne_eof_of_tokenize {source : String} {tokens : List Token}
    (tokenized : tokenize source = .ok tokens) : ∀ token ∈ tokens, token.kind ≠ .eof := by
  intro token member ended
  have recognised := recognises_of_tokenize tokenized member
  rw [ended] at recognised
  cases recognised

/-- The pattern of type names matches the names of types. -/
theorem exists_ofTypeName?_of_recognises {text : String}
    (recognised : TokenKind.typeName.recognises text.toList = true) :
    ∃ ty, DataType.ofTypeName? text = some ty := by
  have matched := (Pattern.accepts_iff _ _).mp recognised
  simp only [Pattern.words, Pattern.matches_alt_iff, Pattern.matches_word_iff,
    String.toList_inj] at matched
  rcases matched with rfl | rfl | rfl
  · exact ⟨.int, rfl⟩
  · exact ⟨.float, rfl⟩
  · exact ⟨.bool, rfl⟩

/-! ## Counting lines on -/

/-- The token, some lines later. -/
def Token.shift (lines : Nat) (token : Token) : Token :=
  ⟨token.kind, token.text, token.line + lines⟩

/-- The error, some lines later. -/
def LexError.shift (lines : Nat) : LexError → LexError
  | unterminatedComment line => unterminatedComment (line + lines)
  | invalidToken lexeme line => invalidToken lexeme (line + lines)

/-- What a text consists of, some lines later. -/
def shiftItem (lines : Nat) : Except LexError Token → Except LexError Token
  | .ok token => .ok (token.shift lines)
  | .error error => .error (error.shift lines)

/-- A text on a later line is the same item on that line. -/
theorem classify_add (lexeme : String) (line lines : Nat) :
    classify lexeme (line + lines) = shiftItem lines (classify lexeme line) := by
  rw [classify, classify]
  cases TokenKind.kindAmong? TokenKind.priority lexeme.toList <;> rfl

/-- Further text in front only counts the lines on. -/
theorem Segmented.behind {before text : List Char} {items : List (Except LexError Token)}
    (segmented : Segmented before text items) (earlier : List Char) :
    Segmented (earlier ++ before) text (items.map (shiftItem (earlier.count '\n'))) := by
  have later (chars : List Char) : lineAfter (earlier ++ chars) =
      lineAfter chars + earlier.count '\n' := by
    rw [lineAfter, lineAfter, List.count_append]
    omega
  induction segmented with
  | finish isGap => exact .finish isGap
  | @unclosed before gap inside isGap opened =>
    have unclosed : Segmented (earlier ++ before) (gap ++ '\x7b' :: inside) _ :=
      .unclosed isGap opened
    rw [List.append_assoc, later] at unclosed
    exact unclosed
  | @lexeme before gap more behind first items isGap begins longest _ others ih =>
    rw [← List.append_assoc, ← List.append_assoc] at ih
    have lexeme := Segmented.cons isGap begins longest ih
    rw [List.append_assoc, later, classify_add] at lexeme
    exact lexeme

/-! ## Newlines -/

/-- No run extends over a character that ends lexemes. -/
theorem IsLongestRun.append {run behind more : List Char} (longest : IsLongestRun run behind)
    (ends : ∀ c ∈ more.head?, endsLexeme c = true) : IsLongestRun run (behind ++ more) := by
  refine ⟨longest.1, fun longer isRun front => ?_⟩
  rw [← List.append_assoc] at front
  by_cases inside : longer.length ≤ (run ++ behind).length
  · exact longest.2 longer isRun
      (List.prefix_of_prefix_length_le front (List.prefix_append _ _) inside)
  · -- The run would have the character that ends it behind its first one.
    obtain ⟨beyond, rfl⟩ :=
      List.prefix_of_prefix_length_le (List.prefix_append _ _) front (Nat.le_of_not_le inside)
    rw [List.prefix_append_right_inj] at front
    cases beyond with
    | nil => simp at inside
    | cons c beyond =>
      obtain ⟨others, rfl⟩ := front
      have ended : endsLexeme c = true := ends c rfl
      cases run with
      | nil => exact longest.1.elim
      | cons first run =>
        have inLexeme := isRun.2.not_ends (List.mem_append_right (run ++ behind) List.mem_cons_self)
        rw [ended] at inLexeme
        cases inLexeme

/-- A text with all comments closed, a newline and another text are segmented one by one. -/
theorem Segmented.newline {before first second : List Char}
    {items items' : List (Except LexError Token)} (segmented : Segmented before first items)
    (closed : ∀ line, .error (.unterminatedComment line) ∉ items)
    (next : Segmented (before ++ first ++ ['\n']) second items') :
    Segmented before (first ++ '\n' :: second)
      (items ++ .ok ⟨.separator, "\n", lineAfter (before ++ first)⟩ :: items') := by
  induction segmented with
  | @finish before gap isGap =>
    exact .cons isGap ⟨by decide, .inl rfl⟩ (isLongestRun_singleton (by decide) second) next
  | unclosed => exact absurd List.mem_cons_self (closed _)
  | @lexeme before gap more behind c items isGap begins longest _ _ ih =>
    have others := ih (fun line member => closed line (List.mem_cons_of_mem _ member))
      (by simpa [List.append_assoc] using next)
    have longest : IsLongestRun (c :: more) (behind ++ '\n' :: second) :=
      longest.append fun _ first => Option.some.inj first ▸ rfl
    have whole := Segmented.cons isGap begins longest others
    simpa [List.append_assoc] using whole

/-- Behind a text with all comments closed, a newline is a separator, and lexing starts afresh. -/
theorem lex_newline {first second : String}
    (closed : ∀ line, .error (.unterminatedComment line) ∉ lex first) :
    lex (first ++ "\n" ++ second) =
      lex first ++ .ok ⟨.separator, "\n", lineAfter first.toList⟩ ::
        (lex second).map (shiftItem (1 + first.toList.count '\n')) := by
  have later := (segmented_lexFrom [] second.toList).behind (first.toList ++ ['\n'])
  rw [List.append_nil, List.count_append, List.count_singleton_self, Nat.add_comm] at later
  have whole := (segmented_lexFrom [] first.toList).newline closed later
  have source : (first ++ "\n" ++ second).toList = first.toList ++ '\n' :: second.toList := by
    simp [String.toList_append]
  rw [lex, source]
  exact lexFrom_eq_of_segmented whole

/-- Tokens in front are tokens of the whole list. -/
theorem mapM_ok_append (tokens : List Token) (items : List (Except LexError Token)) :
    (tokens.map Except.ok ++ items).mapM id = (items.mapM id).map (tokens ++ ·) := by
  induction tokens with
  | nil =>
    rw [List.map_nil, List.nil_append]
    cases items.mapM id <;> rfl
  | cons token tokens ih =>
    rw [List.map_cons, List.cons_append, mapM_ok_cons, ih]
    cases items.mapM id <;> rfl

/-- Items moved down give the same tokens or the same first error, moved down. -/
theorem mapM_shiftItem (lines : Nat) (items : List (Except LexError Token)) :
    (items.map (shiftItem lines)).mapM id =
      ((items.mapM id).map (List.map (Token.shift lines))).mapError (LexError.shift lines) := by
  induction items with
  | nil => rfl
  | cons item items ih =>
    cases item with
    | error error => rfl
    | ok token =>
      rw [List.map_cons, shiftItem, mapM_ok_cons, mapM_ok_cons, ih]
      cases items.mapM id <;> rfl

/-- Behind tokens and a newline, the tokens of another text follow with their lines counted on, or
its error. -/
theorem tokenize_newline {first : String} {tokens : List Token}
    (tokenized : tokenize first = .ok tokens) (second : String) :
    tokenize (first ++ "\n" ++ second) =
      ((tokenize second).map fun later =>
        tokens ++ ⟨.separator, "\n", lineAfter first.toList⟩ ::
          later.map (Token.shift (1 + first.toList.count '\n'))).mapError
            (LexError.shift (1 + first.toList.count '\n')) := by
  have items := tokenize_eq_ok_iff.mp tokenized
  have closed : ∀ line, .error (.unterminatedComment line) ∉ lex first := by
    rw [items]
    simp
  rw [tokenize, lex_newline closed, items, mapM_ok_append, mapM_ok_cons, mapM_shiftItem, tokenize]
  cases (lex second).mapM id <;> rfl

end DimLang
