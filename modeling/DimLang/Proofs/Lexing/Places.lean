import DimLang.Proofs.Lexing.Tokens

/-!
# Places of lexemes

What is found in a source text has a place there: the text in front of a lexeme consists of the
lexemes before it and of gaps (`LexemeAt`), which tells apart two occurrences of the same text. The
line of an item is the line of its lexeme, and this line has the whole lexeme, because only a
newline ends a line and no other lexeme has one inside.

- `exists_lexemeAt`: every item of a source text is made of a lexeme at some place
- `LexemeAt.exists_line`: the line of this place has the lexeme
-/

namespace DimLang

open Text

/-- The characters are a lexeme in front of `after`: the longest run there, or a brace that is
never closed. -/
inductive IsLexeme : List Char → List Char → Prop
  | run {first : Char} {more after : List Char} (begins : BeginsLexeme first)
      (longest : IsLongestRun (first :: more) after) : IsLexeme (first :: more) after
  | brace {after : List Char} (opened : '\x7d' ∉ after) : IsLexeme ['\x7b'] after

/-- The lexeme stands between `before` and `after` in the source text, behind the given tokens. -/
structure LexemeAt (source : String) (earlier : List Token) (before lexeme after : List Char) :
    Prop where
  whole : source.toList = before ++ (lexeme ++ after)
  tokenized : tokenize (String.ofList before) = .ok earlier
  isLexeme : IsLexeme lexeme after

/-- What is found where the lexeme stands on the line. -/
def lexedAs (lexeme : List Char) (line : Nat) : Except LexError Token :=
  if lexeme = ['\x7b'] then .error (.unterminatedComment line)
  else classify (String.ofList lexeme) line

/-- The item of a lexeme keeps the lexeme's text and its line. -/
theorem lexemeOf_lexedAs (lexeme : List Char) (line : Nat) :
    lexemeOf (lexedAs lexeme line) = ⟨String.ofList lexeme, line⟩ := by
  rw [lexedAs]
  split
  · rename_i brace
    rw [brace]
    rfl
  · exact lexemeOf_classify _ _

/-! ## The place of an item -/

/-- A run that is longest before a text is longest before each beginning of it. -/
theorem IsLongestRun.of_append {run behind more : List Char}
    (longest : IsLongestRun run (behind ++ more)) : IsLongestRun run behind := by
  refine ⟨longest.1, ?_⟩
  intro longer isRun front
  apply longest.2 longer isRun
  rw [← List.append_assoc]
  exact front.trans (List.prefix_append _ _)

/-- A segmented text can be cut in front of the lexeme of any of its items. -/
theorem Segmented.exists_place {front text : List Char}
    {earlier later : List (Except LexError Token)} {item : Except LexError Token}
    (segmented : Segmented front text (earlier ++ item :: later)) :
    ∃ before lexeme after, text = before ++ (lexeme ++ after) ∧ Segmented front before earlier ∧
      IsLexeme lexeme after ∧ item = lexedAs lexeme (lineAfter (front ++ before)) := by
  generalize items : earlier ++ item :: later = found at segmented
  induction segmented generalizing earlier with
  | finish => simp at items
  | @unclosed _ gap inside isGap opened =>
    obtain ⟨rfl, last⟩ | ⟨_, ⟨⟩⟩ := List.append_eq_singleton_iff.mp items
    exact ⟨gap, _, inside, rfl, .finish isGap, .brace opened, (List.cons.inj last).1⟩
  | @lexeme front gap more behind first items' isGap begins longest _ _ ih =>
    cases earlier with
    | nil =>
      obtain ⟨rfl, -⟩ := List.cons.inj items
      refine ⟨gap, first :: more, behind, rfl, .finish isGap, .run begins longest, ?_⟩
      have notBrace : first :: more ≠ ['\x7b'] := fun brace => begins.1 (List.cons.inj brace).1
      rw [lexedAs, if_neg notBrace]
    | cons _ earlier =>
      obtain ⟨rfl, others⟩ := List.cons.inj items
      obtain ⟨before, lexeme, after, rfl, segmented, isLexeme, found⟩ := ih others
      -- With less text behind it, a longest run is still one.
      refine ⟨gap ++ (first :: more ++ before), lexeme, after, by simp, ?_, isLexeme, ?_⟩
      · exact .cons isGap begins longest.of_append segmented
      · simpa using found

/-- A segmentation into tokens is what the lexer returns. -/
theorem tokenize_of_segmented {text : List Char} {tokens : List Token}
    (segmented : Segmented [] text (tokens.map .ok)) :
    tokenize (String.ofList text) = .ok tokens := by
  rw [tokenize_eq_ok_iff, lex, String.toList_ofList]
  exact lexFrom_eq_of_segmented segmented

/-- What is found behind tokens of a source text is made of a lexeme at some place. -/
theorem exists_lexemeAt {source : String} {earlier : List Token} {item : Except LexError Token}
    {later : List (Except LexError Token)}
    (lexed : lex source = earlier.map .ok ++ item :: later) :
    ∃ before lexeme after, LexemeAt source earlier before lexeme after ∧
      item = lexedAs lexeme (lineAfter before) := by
  have segmented := segmented_lexFrom [] source.toList
  change Segmented _ _ (lex source) at segmented
  rw [lexed] at segmented
  obtain ⟨before, lexeme, after, whole, segmented, isLexeme, found⟩ := segmented.exists_place
  exact ⟨before, lexeme, after, ⟨whole, tokenize_of_segmented segmented, isLexeme⟩, found⟩

/-! ## The line of a lexeme -/

/-- A lexeme is a newline or has none. -/
theorem IsLexeme.newline_not_mem {lexeme after : List Char} (isLexeme : IsLexeme lexeme after)
    (other : lexeme ≠ ['\n']) : '\n' ∉ lexeme := by
  cases isLexeme with
  | brace => decide
  | @run first more _ _ longest =>
    obtain ⟨alone, continues⟩ := longest.1
    refine List.not_mem_cons_of_ne_of_not_mem ?_ continues.newline_not_mem
    rintro rfl
    exact other (congrArg _ (alone rfl))

/-- A lexeme other than the newline has a character that is not blank. -/
theorem IsLexeme.exists_not_blank {lexeme after : List Char} (isLexeme : IsLexeme lexeme after)
    (other : lexeme ≠ ['\n']) : ∃ c ∈ lexeme, isBlank c = false := by
  cases isLexeme with
  | brace => exact ⟨'\x7b', List.mem_cons_self, by decide⟩
  | @run first more _ begins longest =>
    refine ⟨first, List.mem_cons_self, begins.2.resolve_left ?_⟩
    rintro rfl
    exact other (congrArg _ (longest.1.1 rfl))

/-- A lexeme is not empty. -/
theorem IsLexeme.ne_nil {lexeme after : List Char} (isLexeme : IsLexeme lexeme after) :
    lexeme ≠ [] := by
  cases isLexeme <;> exact List.cons_ne_nil _ _

/-- The lines of a text with the newlines that end them. -/
def textLines : List Char → List (List Char)
  | [] => []
  | c :: cs =>
    if c = '\n' then [c] :: textLines cs
    else (c :: (textLines cs).headD []) :: (textLines cs).tail

/-- A newline is a line of its own when it comes first. -/
theorem textLines_newline (cs : List Char) : textLines ('\n' :: cs) = ['\n'] :: textLines cs := by
  rw [textLines, if_pos rfl]

/-- A character within a line comes in front of the first line. -/
theorem textLines_cons {c : Char} (inLine : c ≠ '\n') (cs : List Char) :
    textLines (c :: cs) = (c :: (textLines cs).headD []) :: (textLines cs).tail := by
  rw [textLines, if_neg inLine]

/-- A text that is not empty has a line. -/
theorem textLines_ne_nil {cs : List Char} (nonempty : cs ≠ []) : textLines cs ≠ [] := by
  cases cs with
  | nil => exact absurd rfl nonempty
  | cons c cs =>
    rw [textLines]
    split <;> exact List.cons_ne_nil _ _

/-- The first line has what the text begins with, if this has no newline. -/
theorem prefix_head_textLines {lexeme : List Char} (oneLine : '\n' ∉ lexeme)
    (after : List Char) : lexeme <+: (textLines (lexeme ++ after)).headD [] := by
  induction lexeme with
  | nil => exact List.nil_prefix
  | cons c cs ih =>
    obtain ⟨inLine, oneLine⟩ := List.ne_and_not_mem_of_not_mem_cons oneLine
    rw [List.cons_append, textLines_cons (Ne.symm inLine)]
    exact List.cons_prefix_cons.mpr ⟨rfl, ih oneLine⟩

/-- Where a text begins on a line, the line ends with its first line. -/
theorem exists_textLine {rest : List Char} (nonempty : rest ≠ []) (before : List Char) :
    ∃ line, (textLines (before ++ rest))[before.count '\n']? = some line ∧
      (textLines rest).headD [] <:+ line := by
  induction before with
  | nil =>
    obtain ⟨first, lines, split⟩ := List.exists_cons_of_ne_nil (textLines_ne_nil nonempty)
    exact ⟨first, by rw [List.nil_append, split]; rfl, by rw [split]; exact List.suffix_refl _⟩
  | cons c before ih =>
    obtain ⟨line, found, suffix⟩ := ih
    by_cases newline : c = '\n'
    · subst newline
      rw [List.cons_append, textLines_newline, List.count_cons_self, List.getElem?_cons_succ]
      exact ⟨line, found, suffix⟩
    · rw [List.cons_append, textLines_cons newline, List.count_cons_of_ne newline]
      cases count : before.count '\n' with
      | zero =>
        have first : (textLines (before ++ rest)).headD [] = line := by
          rw [List.headD_eq_head?_getD, List.head?_eq_getElem?, ← count, found]
          rfl
        exact ⟨_, rfl, by rw [first]; exact suffix.trans (List.suffix_cons c line)⟩
      | succ others =>
        rw [count] at found
        refine ⟨line, ?_, suffix⟩
        rw [List.getElem?_cons_succ, List.getElem?_tail, found]

/-- The line that a lexeme stands on exists and has the lexeme. -/
theorem LexemeAt.exists_line {source : String} {earlier : List Token}
    {before lexeme after : List Char} (place : LexemeAt source earlier before lexeme after) :
    ∃ line, (textLines source.toList)[lineAfter before - 1]? = some line ∧ lexeme <:+: line := by
  have nonempty : lexeme ++ after ≠ [] := by
    intro empty
    exact place.isLexeme.ne_nil (List.append_eq_nil_iff.mp empty).1
  have begins : lexeme <+: (textLines (lexeme ++ after)).headD [] := by
    by_cases newline : lexeme = ['\n']
    · subst newline
      rw [List.singleton_append, textLines_newline]
      exact List.prefix_refl _
    · exact prefix_head_textLines (place.isLexeme.newline_not_mem newline) after
  obtain ⟨line, found, suffix⟩ := exists_textLine nonempty before
  refine ⟨line, ?_, begins.isInfix.trans suffix.isInfix⟩
  rw [place.whole, lineAfter, Nat.add_sub_cancel_left]
  exact found

end DimLang
