import DimLang.Diagnostic.Basic
import DimLang.Proofs.Diagnostic.Spans
import DimLang.Proofs.Frontend.Offenders

/-!
# Labels of diagnostics

An error has the line and the text of the lexeme that it is about, but not its place on the line.
The label of a diagnostic marks the first occurrence of the text on the line, which may be part of
another word, of a longer operator or of a comment. So it marks the lexeme that the error is about
exactly if its text does not occur further to the left (`labels_of_check_eq_error`).

- `OnLine` splits the text in front of a place into the lines above and the beginning of its line
-/

namespace DimLang

open Text

/-! ## The beginning of a line -/

/-- What stands in front of a place: the lines above, and the beginning of its line. -/
structure OnLine (before above left : List Char) : Prop where
  split : before = above ++ left
  complete : above = [] ∨ ∃ lines, above = lines ++ ['\n']
  inLine : '\n' ∉ left

/-- What stands in front of a place consists of the lines above and the beginning of its own
line. -/
theorem exists_onLine (before : List Char) : ∃ above left, OnLine before above left := by
  induction before with
  | nil => exact ⟨[], [], rfl, .inl rfl, List.not_mem_nil⟩
  | cons c before ih =>
    obtain ⟨above, left, rfl, complete, inLine⟩ := ih
    rcases complete with rfl | ⟨lines, rfl⟩
    · by_cases newline : c = '\n'
      · subst newline
        exact ⟨['\n'], left, rfl, .inr ⟨[], rfl⟩, inLine⟩
      · exact ⟨[], c :: left, rfl, .inl rfl,
          List.not_mem_cons_of_ne_of_not_mem (Ne.symm newline) inLine⟩
    · exact ⟨c :: (lines ++ ['\n']), left, rfl, .inr ⟨c :: lines, rfl⟩, inLine⟩

/-- The line of a place begins behind the lines above. -/
theorem OnLine.fromLine_eq {before above left : List Char} (onLine : OnLine before above left)
    (rest : List Char) :
    fromLine (before ++ rest) (lineAfter before) = ⟨byteLength above, left ++ rest⟩ := by
  obtain ⟨rfl, complete, inLine⟩ := onLine
  rw [lineAfter, List.count_append, List.count_eq_zero.mpr inLine, List.append_assoc]
  apply LineBegins.fromLine_eq
  rcases complete with rfl | ⟨lines, rfl⟩
  · exact .first (Nat.le_refl 1)
  · refine .behind (List.prefix_append _ _) ?_
    rw [List.count_append, List.count_singleton_self]
    omega

/-! ## The range of a label -/

/-- The byte range of a text that stands behind another one. -/
def spanBehind (before text : List Char) : Span :=
  ⟨byteLength before, byteLength (before ++ text)⟩

/-- On one line, spans of the same text are equal exactly if they begin at the same place. -/
theorem spanBehind_inj {text above front front' : List Char} (needle : List Char)
    (within : front <+: text) (within' : front' <+: text) :
    spanBehind (above ++ front) needle = spanBehind (above ++ front') needle ↔ front = front' := by
  constructor
  · intro same
    have starts := (Span.mk.inj same).1
    rw [byteLength_append, byteLength_append] at starts
    exact eq_of_byteLength_eq within within' (Nat.add_left_cancel starts)
  · rintro rfl
    rfl

/-- The rest of a line is cut at the newline behind it. -/
theorem takeWhile_line {front : List Char} (inLine : '\n' ∉ front) (after : List Char) :
    (front ++ after).takeWhile (· ≠ '\n') = front ++ after.takeWhile (· ≠ '\n') := by
  refine List.takeWhile_append_of_pos ?_
  intro c member
  exact decide_eq_true fun newline => inLine (newline ▸ member)

/-- Looking for a lexeme on its line finds the first occurrence of its text there. -/
theorem OnLine.exists_lineSpan {before above left : List Char} (onLine : OnLine before above left)
    {lexeme : List Char} (nonempty : lexeme ≠ []) (oneLine : '\n' ∉ lexeme) (after : List Char) :
    ∃ front,
      FirstOccurrence lexeme (left ++ (lexeme ++ after.takeWhile (· ≠ '\n'))) front ∧
      lineSpan (before ++ (lexeme ++ after)) (lineAfter before) (some lexeme) =
        spanBehind (above ++ front) lexeme := by
  have line : (left ++ (lexeme ++ after)).takeWhile (· ≠ '\n') =
      left ++ (lexeme ++ after.takeWhile (· ≠ '\n')) := by
    rw [takeWhile_line onLine.inLine, takeWhile_line oneLine]
  have occurs : lexeme <:+: left ++ (lexeme ++ after.takeWhile (· ≠ '\n')) :=
    ⟨left, after.takeWhile (· ≠ '\n'), by rw [List.append_assoc]⟩
  have selected := selects_lineSpan (onLine.fromLine_eq (lexeme ++ after)) (some lexeme)
  rw [line] at selected
  obtain ⟨front, first, span⟩ := selected.exists_first nonempty occurs
  refine ⟨front, first, ?_⟩
  rw [span, spanBehind, List.append_assoc, byteLength_append above, byteLength_append above]

/-! ## What a label looks for -/

/-- The label looks for the lexeme that the error is about. A syntax error marks its line, and a
value that does not fit marks its target. -/
def FrontendError.Marked : FrontendError → Prop
  | lex _ => True
  | semantic (.redeclared _ _) => True
  | semantic (.undeclared _ _) => True
  | semantic (.incompatibleOperands _ _ _ _) => True
  | semantic (.undefinedUnary _ _ _) => True
  | _ => False

section Marked

variable {source lexeme : String} {error : FrontendError} {earlier : List Token}

/-- An error that marks a lexeme looks for the text of its offender. -/
theorem Offender.needle_eq (offender : Offender source error earlier lexeme)
    (marked : error.Marked) : error.needle = some lexeme := by
  cases offender with
  | invalidToken => rfl
  | unclosedComment => rfl
  | unusable => exact marked.elim
  | inputEnd => exact marked.elim
  | @violation _ _ _ _ error _ _ _ first =>
    have names := first.names
    cases error with
    | incompatibleAssignment => exact marked.elim
    | unknownType => exact marked.elim
    | _ => exact congrArg some names.1

/-- Only a separator is written as a newline. -/
theorem kind_eq_separator_of_recognises {kind : TokenKind}
    (recognised : kind.recognises "\n".toList = true) : kind = .separator := by
  cases kind <;> first | rfl | exact absurd recognised (by decide)

/-- Only a syntax error is about a newline. -/
theorem Offender.ne_newline_of_ne_parse (offender : Offender source error earlier lexeme)
    (other : ∀ cause, error ≠ .parse cause) : lexeme ≠ "\n" := by
  intro newline
  cases offender with
  | invalidToken lexed =>
    obtain ⟨before, chars, after, _, found⟩ := DimLang.exists_lexemeAt lexed
    have named := congrArg lexemeOf found
    rw [lexemeOf_lexedAs] at named
    obtain rfl : chars = ['\n'] :=
      String.ofList_injective ((Lexeme.mk.inj named).1.symm.trans newline)
    cases found
  | unclosedComment => exact absurd newline (by decide)
  | unusable => exact other _ rfl
  | inputEnd => exact other _ rfl
  | @violation tokens _ _ token error tokenized parsed _ first kind =>
    obtain ⟨later, leaves⟩ := first.exists_leaves
    have member : token ∈ tokens := by
      rw [← leaves_of_parse tokenized parsed, leaves]
      exact List.mem_append_right _ List.mem_cons_self
    have recognised := recognises_of_tokenize tokenized member
    -- Where the rules name a token, the grammar has no separator.
    rw [newline] at recognised
    rw [kind_eq_separator_of_recognises recognised] at kind
    cases error <;> simp [SemanticError.AboutKind] at kind

/-- An error that marks a lexeme is not about a newline. -/
theorem Offender.ne_newline (offender : Offender source error earlier lexeme)
    (marked : error.Marked) : lexeme ≠ "\n" := by
  refine offender.ne_newline_of_ne_parse fun cause parsing => ?_
  subst parsing
  exact marked.elim

end Marked

/-- The label of a diagnostic marks the first occurrence of the text that the error is about on the
line of the error. This is the lexeme that the error is about exactly if the text does not occur
further to the left on this line. -/
theorem labels_of_check_eq_error {source : String} {error : FrontendError} (path : Option String)
    (failed : check source = .error error) (marked : error.Marked) :
    ∃ (earlier : List Token) (lexeme : String) (before after above left front : List Char),
      Offender source error earlier lexeme ∧
      LexemeAt source earlier before lexeme.toList after ∧ OnLine before above left ∧
      FirstOccurrence lexeme.toList
        (left ++ (lexeme.toList ++ after.takeWhile (· ≠ '\n'))) front ∧
      (Diagnostic.ofError source path error).labels =
        [⟨fileName path, spanBehind (above ++ front) lexeme.toList, error.message⟩] ∧
      (spanBehind (above ++ front) lexeme.toList = spanBehind before lexeme.toList ↔
        FirstOccurrence lexeme.toList
          (left ++ (lexeme.toList ++ after.takeWhile (· ≠ '\n'))) left) := by
  obtain ⟨earlier, lexeme, offender⟩ := exists_offender failed
  obtain ⟨before, after, place, counted⟩ := offender.exists_lexemeAt
  obtain ⟨above, left, onLine⟩ := exists_onLine before
  have oneLine : '\n' ∉ lexeme.toList := by
    refine place.isLexeme.newline_not_mem fun newline => ?_
    exact offender.ne_newline marked (String.toList_injective newline)
  obtain ⟨front, first, span⟩ := onLine.exists_lineSpan place.isLexeme.ne_nil oneLine after
  refine ⟨earlier, lexeme, before, after, above, left, front, offender, place, onLine, first,
    ?_, ?_⟩
  · rw [Diagnostic.ofError, offender.needle_eq marked, counted, place.whole, Option.map_some, span]
  · have within : front <+: left ++ (lexeme.toList ++ after.takeWhile (· ≠ '\n')) :=
      (List.prefix_append front _).trans first.1
    rw [onLine.split, spanBehind_inj _ within (List.prefix_append left _)]
    constructor
    · rintro rfl
      exact first
    · exact first.unique

/-- The text of an invalid token is found on the second line. -/
theorem labels_invalid_token :
    check "dim a integer\na as 1 +- 2\n" = .error (.lex (.invalidToken "+-" 2)) ∧
    ∃ (earlier : List Token) (lexeme : String) (before after above left front : List Char),
      Offender "dim a integer\na as 1 +- 2\n" (.lex (.invalidToken "+-" 2)) earlier lexeme ∧
      LexemeAt "dim a integer\na as 1 +- 2\n" earlier before lexeme.toList after ∧
      OnLine before above left ∧
      FirstOccurrence lexeme.toList
        (left ++ (lexeme.toList ++ after.takeWhile (· ≠ '\n'))) front ∧
      (Diagnostic.ofError "dim a integer\na as 1 +- 2\n" none
          (.lex (.invalidToken "+-" 2))).labels =
        [⟨fileName none, spanBehind (above ++ front) lexeme.toList,
          FrontendError.message (.lex (.invalidToken "+-" 2))⟩] ∧
      (spanBehind (above ++ front) lexeme.toList = spanBehind before lexeme.toList ↔
        FirstOccurrence lexeme.toList
          (left ++ (lexeme.toList ++ after.takeWhile (· ≠ '\n'))) left) := by
  have failed : check "dim a integer\na as 1 +- 2\n" = .error (.lex (.invalidToken "+-" 2)) := by
    rw [check, tokenize, lex]
    iterate 10 rw [lexFrom_of_lexeme rfl]
    rw [lexFrom_of_end rfl]
    rfl
  exact ⟨failed, labels_of_check_eq_error none failed trivial⟩

/-- The name `i` is not declared, but the label marks a letter of the word in front of it. -/
theorem labels_letter_of_word :
    check "write(i)" = .error (.semantic (.undeclared "i" 1)) ∧
    (Diagnostic.ofError "write(i)" none (.semantic (.undeclared "i" 1))).labels.map Label.span =
      [⟨2, 3⟩] ∧
    ∀ (earlier : List Token) (lexeme : String) (before after : List Char),
      Offender "write(i)" (.semantic (.undeclared "i" 1)) earlier lexeme →
        LexemeAt "write(i)" earlier before lexeme.toList after →
          spanBehind before lexeme.toList = ⟨6, 7⟩ := by
  have tokenized : tokenize "write(i)" =
      .ok [⟨.writeWord, "write", 1⟩, ⟨.openParen, "(", 1⟩, ⟨.identifier, "i", 1⟩,
        ⟨.closeParen, ")", 1⟩] := by
    rw [tokenize_eq_ok_iff, lex]
    iterate 4 rw [lexFrom_of_lexeme rfl]
    rw [lexFrom_of_end rfl]
    rfl
  refine ⟨check_write_name tokenized, by decide, ?_⟩
  intro earlier lexeme before after offender place
  obtain rfl : "i" = lexeme := Option.some.inj (offender.needle_eq trivial)
  have whole : "write(i)".toList = before ++ ('i' :: after) := place.whole
  have letter : "write(i)".toList[before.length]? = some 'i' := by
    rw [whole, List.getElem?_append_right (Nat.le_refl _), Nat.sub_self]
    rfl
  have bound : before.length < 8 := by
    have length : 8 = (before ++ 'i' :: after).length := congrArg List.length whole
    rw [List.length_append, List.length_cons] at length
    omega
  have taken : before = "write(i)".toList.take before.length := by rw [whole, List.take_left]
  have places : ∀ n < 8, "write(i)".toList[n]? = some 'i' → n = 2 ∨ n = 6 := by decide
  rcases places _ bound letter with inWord | behind
  · -- The run of the word is longer than the letter.
    rw [inWord] at taken
    rw [taken] at whole
    have word : ['t', 'e'] <+: after := ⟨"(i)".toList, by cases whole; rfl⟩
    have isRun : IsRun ['i', 't', 'e'] :=
      ⟨fun ends => absurd ends (by decide), rfl, rfl, rfl, rfl, trivial⟩
    cases place.isLexeme with
    | run _ longest =>
      have shorter := longest.2 _ isRun (List.cons_prefix_cons.mpr ⟨rfl, word⟩)
      exact absurd shorter (by decide)
  · rw [behind] at taken
    rw [taken]
    decide

end DimLang
