import DimLang.Diagnostic.Report
import DimLang.Proofs.Diagnostic.Labels

/-!
# Lines of reports

A report splits the source text behind every line end, of which there are more than the language
has. Where the only line ends are newlines, perhaps with carriage returns in front of them
(`PlainBreaks`), its lines are the lines of the language, and the line of a place is counted by the
newlines in front of it (`number_lineAt`).

The label of a diagnostic begins on the line of its error, whatever the error is
(`exists_label_of_check_eq_error`).
-/

namespace DimLang

open Text

/-! ## Lines of a text -/

/-- The only line ends of the text are newlines and carriage returns in front of newlines. -/
def PlainBreaks : List Char → Prop
  | [] => True
  | c :: cs =>
    (isLineEnd c = true → c = '\n' ∨ c = '\r' ∧ cs.head? = some '\n') ∧ PlainBreaks cs

instance decidablePlainBreaks : (text : List Char) → Decidable (PlainBreaks text)
  | [] => .isTrue trivial
  | c :: cs =>
    have := decidablePlainBreaks cs
    inferInstanceAs (Decidable ((isLineEnd c = true → _ = _ ∨ _ = _ ∧ cs.head? = some '\n') ∧ _))

/-- The first line ends with the first newline. -/
theorem textLines_line {front : List Char} (inLine : '\n' ∉ front) (cs : List Char) :
    textLines (front ++ '\n' :: cs) = (front ++ ['\n']) :: textLines cs := by
  induction front with
  | nil => exact textLines_newline cs
  | cons c front ih =>
    obtain ⟨other, inLine⟩ := List.ne_and_not_mem_of_not_mem_cons inLine
    rw [List.cons_append, textLines_cons (Ne.symm other), ih inLine]
    rfl

/-- A text without newlines is a single line. -/
theorem textLines_single {text : List Char} (nonempty : text ≠ []) (inLine : '\n' ∉ text) :
    textLines text = [text] := by
  induction text with
  | nil => exact absurd rfl nonempty
  | cons c cs ih =>
    obtain ⟨other, inLine⟩ := List.ne_and_not_mem_of_not_mem_cons inLine
    rw [textLines_cons (Ne.symm other)]
    cases cs with
    | nil => rfl
    | cons d cs => rw [ih (List.cons_ne_nil d cs) inLine]; rfl

/-- A text is a single line, or it begins with one. -/
theorem textLines_cases {text : List Char} (nonempty : text ≠ []) :
    '\n' ∉ text ∧ textLines text = [text] ∨
      ∃ front cs, '\n' ∉ front ∧ text = front ++ '\n' :: cs ∧
        textLines text = (front ++ ['\n']) :: textLines cs := by
  by_cases newline : '\n' ∈ text
  · obtain ⟨front, cs, rfl, inLine⟩ := List.eq_append_cons_of_mem newline
    exact .inr ⟨front, cs, inLine, rfl, textLines_line inLine cs⟩
  · exact .inl ⟨newline, textLines_single nonempty newline⟩

/-! ## Lines of a report -/

/-- With plain line ends, the lines of a report are those of the language. -/
theorem splitLines_eq {text : List Char} (plain : PlainBreaks text) {current : List Char}
    (inLine : '\n' ∉ current) (found : List (List Char)) :
    splitLines found current text = found.reverse ++ textLines (current.reverse ++ text) := by
  fun_induction splitLines found current text with
  | case1 found current =>
    rw [List.append_nil]
    cases current with
    | nil => simp [textLines]
    | cons c current =>
      rw [textLines_single (by simp) (mt List.mem_reverse.mp inLine)]
      simp
  | case2 found current cs ih =>
    have front : '\n' ∉ current.reverse ++ ['\r'] := by simpa using inLine
    have lines := textLines_line front cs
    rw [List.append_assoc, List.singleton_append] at lines
    rw [ih plain.2.2 List.not_mem_nil, lines]
    simp
  | case3 found current c cs notPair ends ih =>
    obtain rfl : c = '\n' := by
      rcases plain.1 ends with newline | ⟨rfl, behind⟩
      · exact newline
      · obtain ⟨rest, rfl⟩ := List.head?_eq_some_iff.mp behind
        exact (notPair rest rfl rfl).elim
    rw [ih plain.2 List.not_mem_nil, textLines_line (mt List.mem_reverse.mp inLine)]
    simp
  | case4 found current c cs notPair inside ih =>
    have other : '\n' ≠ c := by
      rintro rfl
      exact inside rfl
    rw [ih plain.2 (List.not_mem_cons_of_ne_of_not_mem other inLine)]
    simp

/-- A text with plain line ends has the lines of the language. -/
theorem reportLines_eq {text : List Char} (plain : PlainBreaks text) (nonempty : text ≠ []) :
    reportLines text = textLines text := by
  have split : splitLines [] [] text = textLines text := splitLines_eq plain List.not_mem_nil []
  rw [reportLines, split]
  cases lines : textLines text with
  | nil => exact absurd lines (textLines_ne_nil nonempty)
  | cons first rest => rfl

/-- The line of a place counts the newlines in front of it. Behind the end of the text is its last
line. -/
theorem number_containing {text first : List Char} {rest : List (List Char)} (nonempty : text ≠ [])
    (lines : textLines text = first :: rest) {place offset : Nat} (begun : offset ≤ place)
    (number : Nat) :
    (ReportLine.containing place ⟨number, offset, first⟩ rest).number =
      number + (text.take (min (place - offset) (text.length - 1))).count '\n' := by
  have inFront {front cs : List Char} (inLine : '\n' ∉ front) {n : Nat} (short : n ≤ front.length) :
      ((front ++ cs).take n).count '\n' = 0 := by
    rw [List.take_append_of_le_length short, List.count_eq_zero]
    exact fun member => inLine (List.mem_of_mem_take member)
  -- The induction is on the lines behind the first one, with which the rest of the text begins.
  induction rest generalizing text first offset number with
  | nil =>
    rw [ReportLine.containing]
    rcases textLines_cases nonempty with ⟨inLine, _⟩ | ⟨front, cs, inLine, rfl, split⟩
    · have none : ((text ++ []).take _).count '\n' = 0 :=
        inFront inLine (Nat.le_trans (Nat.min_le_right (place - offset) _) (Nat.sub_le _ 1))
      rw [List.append_nil] at none
      rw [none, Nat.add_zero]
    · rw [split] at lines
      have last : cs = [] := by
        by_contra more
        exact textLines_ne_nil more (List.cons.inj lines).2
      subst last
      rw [inFront inLine (by simp), Nat.add_zero]
  | cons next rest ih =>
    rcases textLines_cases nonempty with ⟨_, single⟩ | ⟨front, cs, inLine, rfl, split⟩
    · rw [single] at lines
      cases lines
    · rw [split] at lines
      obtain ⟨rfl, behind⟩ := List.cons.inj lines
      have more : cs ≠ [] := by
        rintro rfl
        cases behind
      have positive : 0 < cs.length := List.length_pos_iff.mpr more
      rw [ReportLine.containing]
      split
      · rename_i beyond
        simp only [List.length_append, List.length_singleton] at beyond
        rw [ih more behind (by simpa using beyond)]
        dsimp only
        have places : min (place - offset) ((front ++ '\n' :: cs).length - 1) =
            (front ++ ['\n']).length +
              min (place - (offset + (front ++ ['\n']).length)) (cs.length - 1) := by
          simp only [List.length_append, List.length_cons, List.length_nil]
          omega
        have text : front ++ '\n' :: cs = front ++ ['\n'] ++ cs := by simp
        rw [places, text, List.take_length_add_append, List.count_append, List.count_append,
          List.count_eq_zero.mpr inLine, List.count_singleton_self]
        omega
      · rename_i within
        simp only [List.length_append, List.length_singleton] at within
        rw [inFront inLine (by omega), Nat.add_zero]

/-- The line of a place has as many newlines above it as stand in front of the place. -/
theorem number_lineAt {text : List Char} (plain : PlainBreaks text) (nonempty : text ≠ [])
    (place : Nat) :
    (lineAt place text).number =
      1 + (text.take (min place (text.length - 1))).count '\n' := by
  rw [lineAt, reportLines_eq plain nonempty]
  cases lines : textLines text with
  | nil => exact absurd lines (textLines_ne_nil nonempty)
  | cons first rest => exact number_containing nonempty lines (Nat.zero_le place) 1

/-! ## The place of a label -/

/-- The range begins on the first line of the text at an offset, and ends with the characters that
it marks or inside the last of them. -/
def Marks (start : Nat) (text : List Char) (span : Span) : Prop :=
  ∃ front marked after, text = front ++ (marked ++ after) ∧ marked ≠ [] ∧ '\n' ∉ front ∧
    span.start = start + byteLength front ∧
    span.widened.stop ≤ start + byteLength (front ++ marked)

section Marks

variable {rest : List Char} {start : Nat}

/-- The range of some characters of a line marks them. -/
theorem marks_of_front {front marked : List Char}
    (inLine : front ++ marked <+: rest.takeWhile (· ≠ '\n')) (nonempty : marked ≠ []) :
    Marks start rest ⟨start + byteLength front, start + byteLength (front ++ marked)⟩ := by
  obtain ⟨after, text⟩ := inLine.trans (List.takeWhile_prefix (· ≠ '\n'))
  have positive := byteLength_pos nonempty
  refine ⟨front, marked, after, ?_, nonempty, ?_, rfl, ?_⟩
  · rw [← text, List.append_assoc]
  · intro member
    have inside := inLine.subset (List.mem_append_left marked member)
    simpa using List.all_eq_true.mp List.all_takeWhile _ inside
  · rw [Span.widened, if_neg (by simp only [byteLength_append]; omega)]

/-- The one byte that is marked on a blank line belongs to its first character. -/
theorem marks_blank (nonempty : rest ≠ []) : Marks start rest ⟨start, nextOffset start⟩ := by
  obtain ⟨c, after, rfl⟩ := List.exists_cons_of_ne_nil nonempty
  have positive := c.utf8Size_pos
  have short : nextOffset start ≤ start + 1 := Nat.min_le_left _ _
  refine ⟨[], [c], after, rfl, List.cons_ne_nil _ _, List.not_mem_nil, rfl, ?_⟩
  rw [List.nil_append, byteLength_cons, byteLength_nil, Span.widened]
  split <;> dsimp only <;> omega

/-- The range of a label marks something on its line. -/
theorem marks_lineSpan {source : List Char} {line : Nat}
    (begins : fromLine source line = ⟨start, rest⟩) (nonempty : rest ≠ [])
    (needle : Option (List Char)) : Marks start rest (lineSpan source line needle) := by
  have selected := selects_lineSpan begins needle
  generalize lineSpan source line needle = span at selected ⊢
  cases selected with
  | needle searched first => exact marks_of_front first.1 searched
  | @trimmed _ leading core trailing _ split _ solid =>
    have inLine : leading ++ core <+: rest.takeWhile (· ≠ '\n') :=
      ⟨trailing, by rw [split, List.append_assoc]⟩
    exact marks_of_front inLine solid.ne_nil
  | blank => exact marks_blank nonempty

end Marks

/-- The label of a rejected source text begins on the line of the error and marks some of its
characters. -/
theorem exists_label_of_check_eq_error {source : String} {error : FrontendError}
    (path : Option String) (failed : check source = .error error) :
    ∃ (span : Span) (before marked after : List Char),
      (Diagnostic.ofError source path error).labels =
        [⟨fileName path, span, error.message⟩] ∧
      source.toList = before ++ (marked ++ after) ∧ marked ≠ [] ∧
      error.line = 1 + before.count '\n' ∧ span.start = byteLength before ∧
      span.widened.stop ≤ byteLength (before ++ marked) := by
  obtain ⟨earlier, lexeme, offender⟩ := exists_offender failed
  obtain ⟨front, back, place, counted⟩ := offender.exists_lexemeAt
  obtain ⟨above, left, onLine⟩ := exists_onLine front
  have nonempty : left ++ (lexeme.toList ++ back) ≠ [] := by
    simp [place.isLexeme.ne_nil]
  obtain ⟨column, marked, after, text, some, inLine, starts, stops⟩ :=
    marks_lineSpan (onLine.fromLine_eq (lexeme.toList ++ back)) nonempty
      (error.needle.map String.toList)
  refine ⟨_, above ++ column, marked, after, rfl, ?_, some, ?_, ?_, ?_⟩
  · rw [place.whole, onLine.split, List.append_assoc, text, List.append_assoc]
  · rw [counted, lineAfter, onLine.split, List.count_append, List.count_append,
      List.count_eq_zero.mpr onLine.inLine, List.count_eq_zero.mpr inLine]
  · rw [counted, place.whole, starts, byteLength_append]
  · rw [counted, place.whole, List.append_assoc, byteLength_append]
    exact stops

end DimLang
