import DimLang.Proofs.Diagnostic.Labels

/-!
# Extents of labels

The span of a label is never empty, begins between two characters of the source text, and lies on
the line of the error or on the newline that ends this line. So it can be cut out of the text unless
it ends inside a character. This happens on a blank line, of which the span has the first byte, if
the first blank has several bytes (`WideBlank`). Only a syntax error marks such a line.

- `label_within_of_check_eq_error`: what the span of a label covers, and when it can be cut out
-/

namespace DimLang

open Text

/-- The line is blank, and its first blank has several bytes. -/
def WideBlank (text : List Char) : Prop :=
  (∀ c ∈ text, isBlank c = true) ∧ ∃ c ∈ text.head?, c.utf8Size ≠ 1

/-- The span is not empty. It begins between two characters, on the line or at its end, and ends on
the line or with the newline that ends the line. -/
structure Span.Within (before text after : List Char) (span : Span) : Prop where
  begins : byteLength before ≤ span.start
  boundary : IsBoundary (before ++ (text ++ after)) span.start
  nonempty : span.start < span.stop
  ends : span.stop ≤ byteLength (before ++ (text ++ after.take 1))

section Within

variable {before text after : List Char} {span : Span}

/-- A span within a part of a text ends within the text. -/
theorem Span.Within.stop_le (within : span.Within before text after) :
    span.stop ≤ byteLength (before ++ (text ++ after)) := by
  have line : before ++ (text ++ after) = before ++ (text ++ after.take 1) ++ after.drop 1 := by
    rw [List.append_assoc, List.append_assoc, List.take_append_drop]
  rw [line, byteLength_append]
  exact Nat.le_trans within.ends (Nat.le_add_right _ _)

/-- A part of the line can be cut out. -/
theorem within_of_part {front part : List Char} (inside : front ++ part <+: text)
    (nonempty : part ≠ []) :
    (Span.mk (byteLength before + byteLength front)
        (byteLength before + byteLength (front ++ part))).Within before text after ∧
      IsBoundary (before ++ (text ++ after)) (byteLength before + byteLength (front ++ part)) := by
  obtain ⟨behind, rfl⟩ := inside
  have positive := byteLength_pos nonempty
  refine ⟨⟨?_, ?_, ?_, ?_⟩, ?_⟩
  · exact Nat.le_add_right _ _
  · exact isBoundary_iff.mpr ⟨before ++ front, part ++ behind ++ after, by simp,
      (byteLength_append before front).symm⟩
  · simp only [byteLength_append]
    omega
  · simp only [byteLength_append]
    omega
  · exact isBoundary_iff.mpr ⟨before ++ (front ++ part), behind ++ after, by simp,
      (byteLength_append before (front ++ part)).symm⟩

/-- The first byte of the line is the first byte of the newline if there is nothing else. -/
theorem within_of_byte {c : Char} {more : List Char} (rest : text ++ after = c :: more) :
    (Span.mk (byteLength before) (byteLength before + 1)).Within before text after := by
  have some : text ++ after.take 1 ≠ [] := by
    intro nothing
    obtain ⟨rfl, none⟩ := List.append_eq_nil_iff.mp nothing
    rw [List.nil_append] at rest
    rw [rest] at none
    cases none
  have positive := byteLength_pos some
  refine ⟨Nat.le_refl _, ?_, Nat.lt_succ_self _, ?_⟩
  · exact isBoundary_iff.mpr ⟨before, text ++ after, rfl, rfl⟩
  · rw [byteLength_append]
    exact Nat.add_le_add_left positive _

/-- The first byte of a blank line is all of a character exactly if the line is not wide. -/
theorem isBoundary_byte_iff {line : Nat} {source : List Char}
    (lineAt : LineAt source line before text after) (blank : ∀ c ∈ text, isBlank c = true)
    {c : Char} {more : List Char} (rest : text ++ after = c :: more) :
    IsBoundary source (byteLength before + 1) ↔ ¬ WideBlank text := by
  rw [lineAt.split, rest, isBoundary_behind_byte]
  cases text with
  | nil =>
    obtain rfl : c = '\n' := by
      apply lineAt.ends
      rw [List.nil_append] at rest
      rw [rest]
      rfl
    simp [WideBlank, show Char.utf8Size '\n' = 1 by decide]
  | cons d text =>
    obtain ⟨rfl, -⟩ := List.cons.inj rest
    have wide : WideBlank (d :: text) ↔ d.utf8Size ≠ 1 := by
      constructor
      · rintro ⟨-, c, head, size⟩
        rwa [Option.some.inj head]
      · intro size
        exact ⟨blank, d, rfl, size⟩
    rw [wide, not_not]

end Within

/-- The line of an error that is no syntax error has a character that is no blank. -/
theorem Offender.exists_not_blank {source lexeme : String} {error : FrontendError}
    {earlier : List Token} (offender : Offender source error earlier lexeme)
    (other : ∀ cause, error ≠ .parse cause) {left back : List Char} (inLine : '\n' ∉ left)
    (isLexeme : IsLexeme lexeme.toList back) :
    ∃ c ∈ (left ++ (lexeme.toList ++ back)).takeWhile (· ≠ '\n'), isBlank c = false := by
  have notNewline : lexeme.toList ≠ ['\n'] := fun newline =>
    offender.ne_newline_of_ne_parse other (String.toList_injective newline)
  obtain ⟨c, member, notBlank⟩ := isLexeme.exists_not_blank notNewline
  refine ⟨c, ?_, notBlank⟩
  rw [takeWhile_line inLine, takeWhile_line (isLexeme.newline_not_mem notNewline)]
  exact List.mem_append_right _ (List.mem_append_left _ member)

/-- An error that looks for a text is no syntax error. -/
theorem FrontendError.ne_parse_of_needle {error : FrontendError} {needle : String}
    (searched : error.needle = some needle) (cause : ParseError) : error ≠ .parse cause := by
  rintro rfl
  cases searched

/-- A text with a character that is shown is no blank of several bytes. -/
theorem not_wideBlank {text : List Char} (shown : ∃ c ∈ text, isBlank c = false) :
    ¬ WideBlank text := by
  obtain ⟨c, member, notBlank⟩ := shown
  rintro ⟨blank, -⟩
  rw [blank c member] at notBlank
  cases notBlank

/-- What is selected is within the line, and only the first byte of a blank line may end inside a
character. A line on which something is looked for has to have more than blanks. -/
theorem Selects.within {source before text after : List Char} {line : Nat} {span : Span}
    {needle : Option (List Char)} (lineAt : LineAt source line before text after)
    (selected : Selects (byteLength before) (byteLength before + 1) text needle span)
    (shown : ∀ chars ∈ needle, ∃ c ∈ text, isBlank c = false) (rest : text ++ after ≠ []) :
    span.Within before text after ∧ (IsBoundary source span.stop ↔ ¬ WideBlank text) := by
  cases selected with
  | needle nonempty first =>
    obtain ⟨within, boundary⟩ := within_of_part first.1 nonempty
    rw [← lineAt.split] at boundary
    exact ⟨within, iff_of_true boundary (not_wideBlank (shown _ rfl))⟩
  | @trimmed _ leading core trailing _ split _ solid =>
    have inside : leading ++ core <+: text := ⟨trailing, by rw [split, List.append_assoc]⟩
    obtain ⟨within, boundary⟩ := within_of_part inside solid.ne_nil
    obtain ⟨c, cs, begins, notBlank⟩ := solid.first
    have member : c ∈ text := inside.subset (by simp [begins])
    rw [← lineAt.split] at boundary
    exact ⟨within, iff_of_true boundary (not_wideBlank ⟨c, member, notBlank⟩)⟩
  | blank _ blank =>
    obtain ⟨c, more, first⟩ := List.exists_cons_of_ne_nil rest
    exact ⟨within_of_byte first, isBoundary_byte_iff lineAt blank first⟩

/-- The span of the label for a rejected source text is on the line of the error. It can be cut out
of the text exactly if the line does not consist of blanks of which the first one has several
bytes, as it can only for a syntax error. -/
theorem label_within_of_check_eq_error {source : String} {error : FrontendError}
    (path : Option String) (fits : byteLength source.toList < maxOffset)
    (failed : check source = .error error) :
    ∃ (span : Span) (before text after : List Char),
      (Diagnostic.ofError source path error).labels =
        [⟨fileName path, span, error.message⟩] ∧
      LineAt source.toList error.line before text after ∧
      span.Within before text after ∧ span.stop ≤ byteLength source.toList ∧
      (IsBoundary source.toList span.stop ↔ ¬ WideBlank text) ∧
      (WideBlank text → ∃ cause, error = .parse cause) := by
  obtain ⟨earlier, lexeme, offender⟩ := exists_offender failed
  obtain ⟨front, back, place, counted⟩ := offender.exists_lexemeAt
  obtain ⟨above, left, onLine⟩ := exists_onLine front
  obtain ⟨before, text, after, lineAt, passed, inLine⟩ := exists_lineAt source.toList error.line
  have rest : text ++ after = left ++ (lexeme.toList ++ back) := by
    have found := onLine.fromLine_eq (lexeme.toList ++ back)
    rw [← place.whole, ← counted, passed] at found
    exact (Suffix.mk.inj found).2
  have nonempty : text ++ after ≠ [] := by simp [rest, place.isLexeme.ne_nil]
  have shown (other : ∀ cause, error ≠ .parse cause) : ∃ c ∈ text, isBlank c = false := by
    have notBlank := offender.exists_not_blank other onLine.inLine place.isLexeme
    rwa [← rest, inLine] at notBlank
  have named : ∀ chars ∈ error.needle.map String.toList, ∃ c ∈ text, isBlank c = false := by
    intro chars searched
    obtain ⟨name, needle, -⟩ := Option.map_eq_some_iff.mp searched
    exact shown (FrontendError.ne_parse_of_needle needle)
  have selected := selects_lineSpan passed (error.needle.map String.toList)
  rw [inLine, lineAt.nextOffset_eq fits] at selected
  obtain ⟨within, boundary⟩ := selected.within lineAt named nonempty
  have stop := within.stop_le
  rw [← lineAt.split] at stop
  refine ⟨_, before, text, after, rfl, lineAt, within, stop, boundary, ?_⟩
  intro wide
  by_contra other
  exact not_wideBlank (shown fun cause parsing => other ⟨cause, parsing⟩) wide

/-- Tokens that cannot be parsed are reported as such. -/
theorem check_eq_of_parse_eq_error {source : String} {tokens : List Token} {cause : ParseError}
    (tokenized : tokenize source = .ok tokens) (failed : parse tokens = .error cause) :
    check source = .error (.parse cause) := by
  rw [check, tokenized]
  change (parse tokens).mapError _ >>= _ = _
  rw [failed]
  rfl

/-- The wide blank is in front of the parenthesis, which the label marks. -/
theorem label_within_behind_blank :
    byteLength "\u00a0)".toList < maxOffset ∧
    ∃ error, check "\u00a0)" = .error error ∧
      ∃ (span : Span) (before text after : List Char),
        (Diagnostic.ofError "\u00a0)" none error).labels =
          [⟨fileName none, span, error.message⟩] ∧
        LineAt "\u00a0)".toList error.line before text after ∧
        span.Within before text after ∧ span.stop ≤ byteLength "\u00a0)".toList ∧
        (IsBoundary "\u00a0)".toList span.stop ↔ ¬ WideBlank text) ∧
        (WideBlank text → ∃ cause, error = .parse cause) := by
  have tokenized : tokenize "\u00a0)" = .ok [⟨.closeParen, ")", 1⟩] := by
    rw [tokenize_eq_ok_iff, lex, lexFrom_of_lexeme rfl, lexFrom_of_end rfl]
    rfl
  have reaches : Reaches (endLine [⟨.closeParen, ")", 1⟩])
      ⟨[.symbol .program], [⟨.closeParen, ")", 1⟩]⟩ _ :=
    .head (.expand rfl) (.head (.expand rfl) .refl)
  have failed := check_eq_of_parse_eq_error tokenized
    (parse_eq_error_iff.mpr (parseAs_of_rejects reaches (.symbol rfl)))
  have fits : byteLength "\u00a0)".toList < maxOffset := by decide
  exact ⟨fits, _, failed, label_within_of_check_eq_error none fits failed⟩

/-- The second line of an unfinished block consists of a blank of two bytes, and the label marks the
first of them. -/
theorem label_ends_inside_blank :
    check "begin\n\u00a0\n" = .error (.parse (.unexpectedToken .endWord "end of input" 2)) ∧
    (Diagnostic.ofError "begin\n\u00a0\n" none
        (.parse (.unexpectedToken .endWord "end of input" 2))).labels.map Label.span =
      [⟨6, 7⟩] ∧
    ¬ IsBoundary "begin\n\u00a0\n".toList 7 := by
  have tokenized : tokenize "begin\n\u00a0\n" =
      .ok [⟨.beginWord, "begin", 1⟩, ⟨.separator, "\n", 1⟩, ⟨.separator, "\n", 2⟩] := by
    rw [tokenize_eq_ok_iff, lex]
    iterate 3 rw [lexFrom_of_lexeme rfl]
    rw [lexFrom_of_end rfl]
    rfl
  have opened : Reaches 2 ⟨[.symbol .program],
      [⟨.beginWord, "begin", 1⟩, ⟨.separator, "\n", 1⟩, ⟨.separator, "\n", 2⟩]⟩ _ :=
    .head (.expand rfl) (.head (.expand rfl) (.head (.expand rfl) (.head (.expand rfl)
      (.head (.consume rfl) .refl))))
  have skipped : Reaches 2 _ _ :=
    opened.trans (.head (.expand rfl) (.head (.expand rfl) (.head (.consume rfl)
      (.head (.expand rfl) (.head (.consume rfl) (.head (.expand rfl) .refl))))))
  have finished : Reaches 2 _ _ :=
    skipped.trans (.head .reduce (.head .reduce (.head .reduce (.head (.expand rfl)
      (.head .reduce (.head .reduce .refl))))))
  have failed := check_eq_of_parse_eq_error tokenized
    (parse_eq_error_iff.mpr (parseAs_of_rejects finished (.symbol rfl)))
  refine ⟨failed, by decide, ?_⟩
  unfold IsBoundary
  decide

end DimLang
