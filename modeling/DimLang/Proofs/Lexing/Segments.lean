import DimLang.Token.Lexing

/-!
# Segments of a source text

A source text is a sequence of gaps and lexemes, of which nothing is lost. `Segmented before text
items` says that `text`, which stands behind `before` in the source, falls apart in this way and
that the items are what its lexemes yield, each with the line of its first character. Every text
has exactly one segmentation, and lexing finds it (`lex_eq_iff_segmented`).

- a gap consists of blanks other than the newline and of closed comments, which do not nest
- a lexeme is a newline, or the longest run that the scan mode of its first character admits
- only the last gap may end in a comment that is left open
-/

namespace DimLang

open Text

/-! ## Gaps and runs -/

/-- Blanks on the same line and closed comments. -/
inductive IsGap : List Char → Prop
  | nil : IsGap []
  | blank {c : Char} {cs : List Char} (blank : isBlank c = true) (sameLine : c ≠ '\n')
      (others : IsGap cs) : IsGap (c :: cs)
  | comment {inside cs : List Char} (closed : '\x7d' ∉ inside) (others : IsGap cs) :
      IsGap ('\x7b' :: (inside ++ '\x7d' :: cs))

/-- A lexeme begins with a newline or with a character that cannot belong to a gap. -/
def BeginsLexeme (c : Char) : Prop :=
  c ≠ '\x7b' ∧ (c = '\n' ∨ isBlank c = false)

/-- The characters continue a lexeme of the mode behind the given one. -/
def ScanMode.Continues (mode : ScanMode) (previous : Char) : List Char → Prop
  | [] => True
  | c :: cs => endsLexeme c = false ∧ mode.accepts (some previous) c = true ∧ mode.Continues c cs

/-- The characters are a run that the scan mode of the first one admits. A character that ends
other lexemes, such as the newline, stands alone. -/
def IsRun : List Char → Prop
  | [] => False
  | first :: more =>
    (endsLexeme first = true → more = []) ∧ (ScanMode.ofFirst first).Continues first more

/-- No run at the beginning of the text is longer than this one, behind which `behind` is left. -/
def IsLongestRun (run behind : List Char) : Prop :=
  IsRun run ∧ ∀ longer, IsRun longer → longer <+: run ++ behind → longer.length ≤ run.length

/-- The line of the character behind the given ones. -/
def lineAfter (before : List Char) : Nat :=
  1 + before.count '\n'

/-- The lexeme that an item was made of: what a token or an error shows of it. -/
def lexemeOf : Except LexError Token → Lexeme
  | .ok token => ⟨token.text, token.line⟩
  | .error (.invalidToken lexeme line) => ⟨lexeme, line⟩
  | .error (.unterminatedComment line) => ⟨"\x7b", line⟩

/-- The item of a lexeme, a token or an error, shows its whole text and its line. -/
theorem lexemeOf_classify (lexeme : String) (line : Nat) :
    lexemeOf (classify lexeme line) = ⟨lexeme, line⟩ := by
  rw [classify]
  split <;> rfl

/-- The text that stands behind `before` consists of gaps and of the lexemes of the items. Each
item shows the text of its lexeme and the line on which the lexeme begins. -/
inductive Segmented : List Char → List Char → List (Except LexError Token) → Prop
  | finish {before gap : List Char} (isGap : IsGap gap) : Segmented before gap []
  | unclosed {before gap inside : List Char} (isGap : IsGap gap) (opened : '\x7d' ∉ inside) :
      Segmented before (gap ++ '\x7b' :: inside)
        [.error (.unterminatedComment (lineAfter (before ++ gap)))]
  | lexeme {before gap more behind : List Char} {first : Char}
      {items : List (Except LexError Token)} (isGap : IsGap gap) (begins : BeginsLexeme first)
      (longest : IsLongestRun (first :: more) behind)
      (shows : lexemeOf (classify (String.ofList (first :: more)) (lineAfter (before ++ gap))) =
        ⟨String.ofList (first :: more), lineAfter (before ++ gap)⟩)
      (others : Segmented (before ++ gap ++ first :: more) behind items) :
      Segmented before (gap ++ (first :: more ++ behind))
        (classify (String.ofList (first :: more)) (lineAfter (before ++ gap)) :: items)

/-- A gap and a lexeme in front of a segmented text. -/
theorem Segmented.cons {before gap more behind : List Char} {first : Char}
    {items : List (Except LexError Token)} (isGap : IsGap gap) (begins : BeginsLexeme first)
    (longest : IsLongestRun (first :: more) behind)
    (others : Segmented (before ++ gap ++ first :: more) behind items) :
    Segmented before (gap ++ (first :: more ++ behind))
      (classify (String.ofList (first :: more)) (lineAfter (before ++ gap)) :: items) :=
  .lexeme isGap begins longest (lexemeOf_classify _ _) others

/-! ## Passing over a gap -/

/-- The part of a comment in front of its closing brace only counts lines. -/
theorem skipGap_inside {inside : List Char} (closed : '\x7d' ∉ inside) (opened line : Nat)
    (cs : List Char) :
    skipGap (some opened) line (inside ++ cs) =
      skipGap (some opened) (line + inside.count '\n') cs := by
  induction inside generalizing line with
  | nil => rfl
  | cons c inside ih =>
    obtain ⟨notBrace, stillClosed⟩ := List.ne_and_not_mem_of_not_mem_cons closed
    rw [List.cons_append, skipGap, if_neg (Ne.symm notBrace)]
    by_cases newline : c = '\n'
    · subst newline
      rw [if_pos rfl, ih stillClosed, List.count_cons_self]
      congr 1
      omega
    · rw [if_neg newline, ih stillClosed, List.count_cons_of_ne newline]

/-- A gap is skipped, its newlines counted. -/
theorem skipGap_append {gap : List Char} (isGap : IsGap gap) (line : Nat) (cs : List Char) :
    skipGap none line (gap ++ cs) = skipGap none (line + gap.count '\n') cs := by
  induction isGap generalizing line with
  | nil => rfl
  | @blank c gap blank sameLine _ ih =>
    have notBrace : c ≠ '\x7b' := by
      rintro rfl
      cases blank
    rw [List.cons_append, skipGap, if_neg notBrace, if_pos ⟨sameLine, blank⟩, ih,
      List.count_cons_of_ne sameLine]
  | @comment inside gap closed _ ih =>
    have lines : ('\x7b' :: (inside ++ '\x7d' :: gap)).count '\n' =
        inside.count '\n' + gap.count '\n' := by
      rw [List.count_cons_of_ne (by decide), List.count_append,
        List.count_cons_of_ne (by decide)]
    rw [List.cons_append, skipGap, if_pos rfl, List.append_assoc, skipGap_inside closed,
      List.cons_append, skipGap, if_pos rfl, ih, lines, Nat.add_assoc]

/-- Skipping stops where a lexeme begins. -/
theorem skipGap_lexeme {c : Char} (begins : BeginsLexeme c) (line : Nat) (cs : List Char) :
    skipGap none line (c :: cs) = .ok ⟨line, c :: cs⟩ := by
  obtain ⟨notBrace, next⟩ := begins
  have noGap : ¬ (c ≠ '\n' ∧ isBlank c = true) := by
    rintro ⟨sameLine, blank⟩
    rcases next with newline | notBlank
    · exact sameLine newline
    · rw [notBlank] at blank
      cases blank
  rw [skipGap, if_neg notBrace, if_neg noGap]

/-- Every text begins with a gap, behind which it ends, leaves a comment open or continues with a
lexeme. -/
theorem exists_gap (text : List Char) :
    ∃ gap behind, IsGap gap ∧ text = gap ++ behind ∧
      (behind = [] ∨ (∃ inside, behind = '\x7b' :: inside ∧ '\x7d' ∉ inside) ∨
        ∃ c cs, behind = c :: cs ∧ BeginsLexeme c) := by
  induction length : text.length using Nat.strongRecOn generalizing text with
  | ind size ih =>
    cases text with
    | nil => exact ⟨[], [], .nil, rfl, .inl rfl⟩
    | cons c cs =>
      rw [List.length_cons] at length
      by_cases brace : c = '\x7b'
      · subst brace
        by_cases closed : '\x7d' ∈ cs
        · obtain ⟨inside, cs, rfl, notInside⟩ := List.eq_append_cons_of_mem closed
          rw [List.length_append, List.length_cons] at length
          obtain ⟨gap, behind, isGap, rfl, next⟩ := ih cs.length (by omega) cs rfl
          refine ⟨'\x7b' :: (inside ++ '\x7d' :: gap), behind, .comment notInside isGap, ?_, next⟩
          rw [List.cons_append, List.append_assoc, List.cons_append]
        · exact ⟨[], '\x7b' :: cs, .nil, rfl, .inr (.inl ⟨cs, rfl, closed⟩)⟩
      · by_cases begins : c = '\n' ∨ isBlank c = false
        · exact ⟨[], c :: cs, .nil, rfl, .inr (.inr ⟨c, cs, rfl, brace, begins⟩)⟩
        · obtain ⟨sameLine, blank⟩ := not_or.mp begins
          rw [Bool.not_eq_false] at blank
          obtain ⟨gap, behind, isGap, rfl, next⟩ := ih cs.length (by omega) cs rfl
          exact ⟨c :: gap, behind, .blank blank sameLine isGap, rfl, next⟩

/-! ## Cutting a lexeme -/

/-- Extending a lexeme takes the longest continuation. -/
theorem exists_extend (mode : ScanMode) (previous : Char) (taken cs : List Char) :
    ∃ more behind, cs = more ++ behind ∧ mode.Continues previous more ∧
      (∀ longer, mode.Continues previous longer → longer <+: cs → longer.length ≤ more.length) ∧
        mode.extend (previous :: taken) cs = ((previous :: taken).reverse ++ more, behind) := by
  induction cs generalizing previous taken with
  | nil =>
    refine ⟨[], [], rfl, trivial, ?_, ?_⟩
    · intro longer _ front
      exact front.length_le
    · rw [ScanMode.extend, List.append_nil]
  | cons c cs ih =>
    by_cases stops : (endsLexeme c || !mode.accepts (some previous) c) = true
    · refine ⟨[], c :: cs, rfl, trivial, ?_, ?_⟩
      · intro longer continues front
        cases longer with
        | nil => exact Nat.le_refl _
        | cons d longer =>
          obtain ⟨rfl, _⟩ := List.cons_prefix_cons.mp front
          obtain ⟨inLexeme, accepted, _⟩ := continues
          rw [inLexeme, accepted] at stops
          cases stops
      · rw [ScanMode.extend, List.head?_cons, if_pos stops, List.append_nil]
    · obtain ⟨more, behind, rfl, continues, longest, extended⟩ := ih c (previous :: taken)
      rw [Bool.or_eq_true, not_or, Bool.not_eq_true, Bool.not_eq_true, Bool.not_eq_false'] at stops
      refine ⟨c :: more, behind, rfl, ⟨stops.1, stops.2, continues⟩, ?_, ?_⟩
      · intro longer follows front
        cases longer with
        | nil => exact Nat.zero_le _
        | cons d longer =>
          obtain ⟨rfl, front'⟩ := List.cons_prefix_cons.mp front
          exact Nat.succ_le_succ (longest longer follows.2.2 front')
      · rw [ScanMode.extend, List.head?_cons, stops.1, stops.2, if_neg (by decide), extended,
          List.reverse_cons, List.append_assoc, List.singleton_append]

/-- No character that continues a lexeme ends it. -/
theorem ScanMode.Continues.not_ends {mode : ScanMode} {previous : Char} {cs : List Char}
    (continues : mode.Continues previous cs) {c : Char} (member : c ∈ cs) :
    endsLexeme c = false := by
  induction cs generalizing previous with
  | nil => cases member
  | cons d cs ih =>
    obtain ⟨inLexeme, _, continues⟩ := continues
    rcases List.mem_cons.mp member with rfl | later
    · exact inLexeme
    · exact ih continues later

/-- A lexeme does not run over the end of a line. -/
theorem ScanMode.Continues.newline_not_mem {mode : ScanMode} {previous : Char} {cs : List Char}
    (continues : mode.Continues previous cs) : '\n' ∉ cs := by
  intro member
  exact absurd (continues.not_ends member) (by decide)

/-- A character that ends other lexemes is a longest run by itself. -/
theorem isLongestRun_singleton {c : Char} (ends : endsLexeme c = true) (behind : List Char) :
    IsLongestRun [c] behind := by
  refine ⟨⟨fun _ => rfl, trivial⟩, ?_⟩
  intro longer isRun front
  cases longer with
  | nil => exact Nat.zero_le _
  | cons d longer =>
    obtain ⟨rfl, _⟩ := List.cons_prefix_cons.mp front
    obtain rfl : longer = [] := isRun.1 ends
    exact Nat.le_refl _

/-- At the beginning of a text there is only one longest run. -/
theorem IsLongestRun.unique {run run' behind behind' : List Char}
    (longest : IsLongestRun run behind) (longest' : IsLongestRun run' behind')
    (same : run ++ behind = run' ++ behind') : run = run' ∧ behind = behind' := by
  have shorter : run.length ≤ run'.length :=
    longest'.2 run longest.1 (same ▸ List.prefix_append run behind)
  have longer : run'.length ≤ run.length :=
    longest.2 run' longest'.1 (same ▸ List.prefix_append run' behind')
  exact List.append_inj same (Nat.le_antisymm shorter longer)

/-- What is cut off is the longest run. -/
theorem exists_cutLexeme {c : Char} (begins : BeginsLexeme c) (line : Nat) (cs : List Char) :
    ∃ more behind, cs = more ++ behind ∧ IsLongestRun (c :: more) behind ∧
      cutLexeme line c cs = (⟨String.ofList (c :: more), line⟩,
        ⟨line + (c :: more).count '\n', behind⟩) := by
  by_cases newline : c = '\n'
  · subst newline
    exact ⟨[], cs, rfl, isLongestRun_singleton (by decide) cs, rfl⟩
  by_cases parenthesis : c = '(' ∨ c = ')'
  · have ends : endsLexeme c = true := by rcases parenthesis with rfl | rfl <;> decide
    refine ⟨[], cs, rfl, isLongestRun_singleton ends cs, ?_⟩
    rw [cutLexeme, if_neg newline, if_pos parenthesis, List.count_cons_of_ne newline]
    rfl
  · have inLexeme : endsLexeme c = false := by
      obtain ⟨notBrace, newline' | notBlank⟩ := begins
      · exact absurd newline' newline
      · rw [not_or] at parenthesis
        simp [endsLexeme, notBlank, notBrace, parenthesis]
    obtain ⟨more, behind, rfl, continues, longest, extended⟩ :=
      exists_extend (ScanMode.ofFirst c) c [] cs
    refine ⟨more, behind, rfl, ⟨⟨?_, continues⟩, ?_⟩, ?_⟩
    · intro ends
      rw [inLexeme] at ends
      cases ends
    · intro longer isRun front
      cases longer with
      | nil => exact Nat.zero_le _
      | cons d longer =>
        obtain ⟨rfl, front'⟩ := List.cons_prefix_cons.mp front
        exact Nat.succ_le_succ (longest longer isRun.2 front')
    · have noNewline : (c :: more).count '\n' = 0 := by
        rw [List.count_cons_of_ne newline]
        exact List.count_eq_zero.mpr continues.newline_not_mem
      rw [cutLexeme, if_neg newline, if_neg parenthesis, extended, noNewline]
      rfl

/-- What is cut at the beginning of a lexeme is its longest run. -/
theorem cutLexeme_append {c : Char} {more behind : List Char} (begins : BeginsLexeme c)
    (longest : IsLongestRun (c :: more) behind) (line : Nat) :
    cutLexeme line c (more ++ behind) = (⟨String.ofList (c :: more), line⟩,
      ⟨line + (c :: more).count '\n', behind⟩) := by
  obtain ⟨more', behind', split, longest', cut⟩ := exists_cutLexeme begins line (more ++ behind)
  have same : c :: more ++ behind = c :: more' ++ behind' := congrArg (c :: ·) split
  obtain ⟨sameRun, rfl⟩ := longest.unique longest' same
  cases sameRun
  exact cut

/-! ## Lexing a segmented text -/

section LexFrom

variable {found : List (Except LexError Token)} {place : Cursor}

/-- A comment that stays open is the last item. -/
theorem lexFrom_of_error {error : LexError}
    (skipped : skipGap none place.line place.rest = .error error) :
    lexFrom found place = (.error error :: found).reverse := by
  rw [lexFrom]
  split <;> simp_all

/-- Where only a gap is left, the items found are all there are. -/
theorem lexFrom_of_end {line : Nat}
    (skipped : skipGap none place.line place.rest = .ok ⟨line, []⟩) :
    lexFrom found place = found.reverse := by
  rw [lexFrom]
  split <;> simp_all

/-- Where a lexeme begins, its item is found and lexing goes on behind it. -/
theorem lexFrom_of_lexeme {line : Nat} {c : Char} {cs : List Char}
    (skipped : skipGap none place.line place.rest = .ok ⟨line, c :: cs⟩) :
    lexFrom found place =
      lexFrom (classify (cutLexeme line c cs).1.text (cutLexeme line c cs).1.line :: found)
        (cutLexeme line c cs).2 := by
  rw [lexFrom]
  split <;> simp_all

/-- The items found before do not change those found later. -/
theorem lexFrom_eq_append (found : List (Except LexError Token)) (place : Cursor) :
    lexFrom found place = found.reverse ++ lexFrom [] place := by
  refine lexFrom.induct
    (fun _ place => ∀ found, lexFrom found place = found.reverse ++ lexFrom [] place)
    ?_ ?_ ?_ [] place found
  · intro _ place error skipped found
    rw [lexFrom_of_error skipped, lexFrom_of_error skipped, List.reverse_cons]
    rfl
  · intro _ place line skipped found
    rw [lexFrom_of_end skipped, lexFrom_of_end skipped, List.reverse_nil, List.append_nil]
  · intro _ place line c cs skipped cut ih found
    rw [lexFrom_of_lexeme skipped, lexFrom_of_lexeme skipped, ih, ih [_], List.reverse_cons,
      List.append_assoc]
    rfl

end LexFrom

section Items

variable {gap : List Char}

/-- A gap has no items. -/
theorem lexFrom_gap (isGap : IsGap gap) (line : Nat) : lexFrom [] ⟨line, gap⟩ = [] := by
  have skipped := skipGap_append isGap line []
  rw [List.append_nil, skipGap] at skipped
  exact lexFrom_of_end skipped

/-- A comment without its end is one error, on the line it begins on. -/
theorem lexFrom_unclosed (isGap : IsGap gap) (line : Nat) {inside : List Char}
    (opened : '\x7d' ∉ inside) :
    lexFrom [] ⟨line, gap ++ '\x7b' :: inside⟩ =
      [.error (.unterminatedComment (line + gap.count '\n'))] := by
  have skipped := skipGap_append isGap line ('\x7b' :: inside)
  have unclosed := skipGap_inside opened (line + gap.count '\n') (line + gap.count '\n') []
  rw [List.append_nil, skipGap] at unclosed
  rw [skipGap, if_pos rfl, unclosed] at skipped
  exact lexFrom_of_error skipped

/-- A longest run behind a gap is the first item. -/
theorem lexFrom_lexeme (isGap : IsGap gap) (line : Nat) {c : Char} {more behind : List Char}
    (begins : BeginsLexeme c) (longest : IsLongestRun (c :: more) behind) :
    lexFrom [] ⟨line, gap ++ (c :: more ++ behind)⟩ =
      classify (String.ofList (c :: more)) (line + gap.count '\n') ::
        lexFrom [] ⟨line + gap.count '\n' + (c :: more).count '\n', behind⟩ := by
  have skipped := skipGap_append isGap line (c :: more ++ behind)
  rw [List.cons_append, skipGap_lexeme begins] at skipped
  have cut := cutLexeme_append begins longest (line + gap.count '\n')
  rw [List.cons_append, lexFrom_of_lexeme skipped, cut, lexFrom_eq_append]
  rfl

end Items

/-- Lines are counted piece by piece. -/
theorem lineAfter_append (before after : List Char) :
    lineAfter (before ++ after) = lineAfter before + after.count '\n' := by
  rw [lineAfter, lineAfter, List.count_append, Nat.add_assoc]

/-- The items of a segmentation are those the lexer finds. -/
theorem lexFrom_eq_of_segmented {before text : List Char} {items : List (Except LexError Token)}
    (segmented : Segmented before text items) : lexFrom [] ⟨lineAfter before, text⟩ = items := by
  induction segmented with
  | finish isGap => exact lexFrom_gap isGap _
  | unclosed isGap opened => rw [lexFrom_unclosed isGap _ opened, lineAfter_append]
  | lexeme isGap begins longest _ _ ih =>
    rw [lexFrom_lexeme isGap _ begins longest, ← lineAfter_append, ← lineAfter_append, ih]

/-- The items that the lexer finds segment the text. -/
theorem segmented_lexFrom (before text : List Char) :
    Segmented before text (lexFrom [] ⟨lineAfter before, text⟩) := by
  -- The induction is on the length of the text; behind a lexeme it is shorter.
  induction length : text.length using Nat.strongRecOn generalizing before text with
  | ind size ih =>
    obtain ⟨gap, behind, isGap, rfl, next⟩ := exists_gap text
    rcases next with rfl | ⟨inside, rfl, opened⟩ | ⟨c, cs, rfl, begins⟩
    · rw [List.append_nil, lexFrom_gap isGap]
      exact .finish isGap
    · rw [lexFrom_unclosed isGap _ opened, ← lineAfter_append]
      exact .unclosed isGap opened
    · obtain ⟨more, behind, rfl, longest, _⟩ := exists_cutLexeme begins 1 cs
      rw [← List.cons_append, lexFrom_lexeme isGap _ begins longest, ← lineAfter_append,
        ← lineAfter_append]
      refine .cons isGap begins longest (ih behind.length ?_ _ behind rfl)
      rw [List.length_append, List.length_cons, List.length_append] at length
      omega

/-- Lexing yields exactly the items of the one segmentation of the source text. -/
theorem lex_eq_iff_segmented {source : String} {items : List (Except LexError Token)} :
    lex source = items ↔ Segmented [] source.toList items := by
  constructor
  · rintro rfl
    exact segmented_lexFrom [] source.toList
  · exact lexFrom_eq_of_segmented

end DimLang
