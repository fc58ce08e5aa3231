import DimLang.Proofs.Diagnostic.Rendering

/-!
# What a report shows

The range of a label counts bytes, and a renderer takes it as a range of characters. Behind
characters of several bytes the two differ, and the report shows a later place: one on a later line,
or none at all if it lies behind the end of the text. So as long as the range stays within the
text, a report shows the line of the error and as many lines more as end between the label and the
place that it is taken for (`showsPlace_iff_of_check_eq_error`); this is the line of the error if
all characters up to the end of the label have one byte.

- `Diagnostic.ShowsPlace` says that a report names a place and has a note
-/

namespace DimLang

open Text

/-! ## What a diagnostic is shown as -/

namespace Diagnostic

/-- The report has a header for a line of the file, and it has the note. -/
def ShowsPlace (renderer : Renderer) (diagnostic : Diagnostic) (file : String) (number : Nat)
    (note : String) : Prop :=
  ∃ pieces column, renderer (diagnostic.toReport false) = some pieces ∧
    .header file number column ∈ pieces ∧ .noteLine note.toList ∈ pieces ∧
    (Piece.header file number column).text <:+: (diagnostic.renderPlain renderer).toList ∧
    note.toList <:+: (diagnostic.renderPlain renderer).toList

/-- The report has neither headers nor notes. -/
def ShowsNoPlace (renderer : Renderer) (diagnostic : Diagnostic) : Prop :=
  ∃ pieces, renderer (diagnostic.toReport false) = some pieces ∧
    ∀ piece ∈ pieces, ∃ shown, piece = .plain shown

end Diagnostic

/-- What a text has in front of its trailing blanks is kept. -/
theorem infix_trimEnd {cs : List Char} {c : Char} (shown : isBlank c = false)
    (front behind : List Char) : cs ++ [c] <:+: trimEnd (front ++ (cs ++ [c] ++ behind)) := by
  have kept : trimEnd (front ++ (cs ++ [c] ++ behind)) =
      front ++ (cs ++ [c] ++ trimEnd behind) := by
    by_cases blank : behind.reverse.dropWhile isBlank = []
    · simp [trimEnd, List.dropWhile_append, blank, shown]
    · simp [trimEnd, List.dropWhile_append, blank]
  rw [kept]
  exact ⟨front, trimEnd behind, by rw [List.append_assoc]⟩

/-- A piece that does not end in a blank is in the text of the report. -/
theorem text_infix_renderPlain {renderer : Renderer} {diagnostic : Diagnostic}
    {pieces : List Piece} (drawn : renderer (diagnostic.toReport false) = some pieces)
    {piece : Piece} (member : piece ∈ pieces) {cs : List Char} {c : Char}
    (ends : piece.text = cs ++ [c]) (shown : isBlank c = false) :
    piece.text <:+: (diagnostic.renderPlain renderer).toList := by
  obtain ⟨front, behind, rfl⟩ := List.append_of_mem member
  rw [Diagnostic.renderPlain, Diagnostic.renderWith, drawn]
  dsimp only
  rw [String.toList_ofList, List.flatMap_append, List.flatMap_cons, ends]
  exact infix_trimEnd shown _ _

/-! ## Bytes and characters -/

/-- Widening a span moves its end only. -/
@[simp] theorem Span.start_widened (span : Span) : span.widened.start = span.start := by
  rw [widened]
  split <;> rfl

/-- A widened span that ends within a text begins before the text's end. -/
theorem Span.start_widened_lt {span : Span} {length : Nat}
    (nonempty : span.start < span.widened.stop) (stops : span.widened.stop ≤ length) :
    span.widened.start < length :=
  span.start_widened ▸ Nat.lt_of_lt_of_le nonempty stops

/-- A text has at least as many bytes as characters. -/
theorem length_le_byteLength (cs : List Char) : cs.length ≤ byteLength cs := by
  induction cs with
  | nil => exact Nat.le_refl 0
  | cons c cs ih =>
    have positive := c.utf8Size_pos
    rw [List.length_cons, byteLength_cons]
    omega

/-- Characters of one byte each can be counted as bytes. -/
theorem byteLength_eq_length {cs : List Char} (single : ∀ c ∈ cs, c.utf8Size = 1) :
    byteLength cs = cs.length := by
  induction cs with
  | nil => rfl
  | cons c cs ih =>
    obtain ⟨byte, single⟩ := List.forall_mem_cons.mp single
    rw [byteLength_cons, byte, ih single, List.length_cons, Nat.add_comm]

/-! ## Diagnostics of rejected source texts -/

section Rejected

variable {renderer : Renderer} {source : String} {path : Option String} {error : FrontendError}
  {span : Span}

/-- Digits are no blanks. -/
theorem isBlank_of_isDigit {c : Char} (digit : c.isDigit = true) : isBlank c = false := by
  have bounds : 48 ≤ c.toNat ∧ c.toNat ≤ 57 := by
    simpa [Char.isDigit, UInt32.le_iff_toNat_le] using digit
  simp [isBlank]
  omega

/-- The note of an error is text in a single line that ends in a digit. -/
theorem exists_note_eq (line : Nat) :
    '\n' ∉ ("at line " ++ toString line).toList ∧
      ∃ cs c, ("at line " ++ toString line).toList = cs ++ [c] ∧ isBlank c = false := by
  have digits : (toString line).toList = Nat.toDigits 10 line := by
    rw [Nat.toString_eq_ofList_toDigits, String.toList_ofList]
  have digit {c : Char} (member : c ∈ Nat.toDigits 10 line) : c.isDigit = true :=
    Nat.isDigit_of_mem_toDigits (by decide) (by decide) member
  rw [String.toList_append, digits]
  constructor
  · rw [List.mem_append, not_or]
    exact ⟨by decide, fun member => absurd (digit member) (by decide)⟩
  · obtain ⟨cs, c, last⟩ := (List.eq_nil_or_concat (Nat.toDigits 10 line)).resolve_left
      Nat.toDigits_ne_nil
    refine ⟨"at line ".toList ++ cs, c, by rw [last, List.concat_eq_append, List.append_assoc], ?_⟩
    exact isBlank_of_isDigit (digit (by simp [last]))

/-- The report of a rejected source text is about its label. -/
theorem toReport_of_labels
    (labels : (Diagnostic.ofError source path error).labels =
      [⟨fileName path, span, error.message⟩]) :
    (Diagnostic.ofError source path error).toReport false =
      ⟨fileName path, span.widened, error.code, (Diagnostic.ofError source path error).headline,
        false, [⟨fileName path, span.widened, error.message⟩], ["at line " ++ toString error.line],
        error.help, [(fileName path, source)]⟩ := by
  have primary : (Diagnostic.ofError source path error).primary =
      (fileName path, span.widened) := by
    rw [Diagnostic.primary, labels]
  rw [Diagnostic.toReport, primary, labels]
  simp [Diagnostic.ofError]

/-- The report of a rejected source text is about its label, as one of characters. -/
theorem about_toReport
    (labels : (Diagnostic.ofError source path error).labels =
      [⟨fileName path, span, error.message⟩])
    (ordered : span.start ≤ span.widened.stop) (plain : PlainBreaks source.toList) :
    ((Diagnostic.ofError source path error).toReport false).About source.toList := by
  rw [toReport_of_labels labels]
  exact ⟨rfl, ⟨_, rfl⟩, ⟨source, by simp, rfl⟩, by rwa [Span.start_widened], plain⟩

/-- For a range within the text, the headers are those of the line that holds the beginning of the
range. -/
theorem exists_header_iff (conforms : renderer.Conforms)
    (labels : (Diagnostic.ofError source path error).labels =
      [⟨fileName path, span, error.message⟩])
    (plain : PlainBreaks source.toList) (nonempty : span.start < span.widened.stop)
    (stops : span.widened.stop ≤ source.toList.length) {pieces : List Piece}
    (drawn : renderer ((Diagnostic.ofError source path error).toReport false) = some pieces)
    (number : Nat) :
    (∃ column, .header (fileName path) number column ∈ pieces) ↔
      number = 1 + (source.toList.take span.start).count '\n' := by
  have about := about_toReport labels nonempty.le plain
  rw [toReport_of_labels labels] at about drawn
  rw [← Span.start_widened]
  exact conforms.exists_header_iff about drawn (Span.start_widened_lt nonempty stops) stops number

/-- For a range within the text, the report has the note. -/
theorem noteLine_mem (conforms : renderer.Conforms)
    (labels : (Diagnostic.ofError source path error).labels =
      [⟨fileName path, span, error.message⟩])
    (plain : PlainBreaks source.toList) (nonempty : span.start < span.widened.stop)
    (stops : span.widened.stop ≤ source.toList.length) {pieces : List Piece}
    (drawn : renderer ((Diagnostic.ofError source path error).toReport false) = some pieces) :
    .noteLine ("at line " ++ toString error.line).toList ∈ pieces := by
  have about := about_toReport labels nonempty.le plain
  rw [toReport_of_labels labels] at about drawn
  exact conforms.notes about drawn (Span.start_widened_lt nonempty stops) stops _
    (List.mem_singleton_self _) (by simp) (exists_note_eq error.line).1

/-- For a range within the text, the report shows the line that holds the beginning of the range,
and the note. -/
theorem showsPlace_iff (conforms : renderer.Conforms)
    (labels : (Diagnostic.ofError source path error).labels =
      [⟨fileName path, span, error.message⟩])
    (plain : PlainBreaks source.toList) (nonempty : span.start < span.widened.stop)
    (stops : span.widened.stop ≤ source.toList.length) (number : Nat) :
    (Diagnostic.ofError source path error).ShowsPlace renderer (fileName path) number
        ("at line " ++ toString error.line) ↔
      number = 1 + (source.toList.take span.start).count '\n' := by
  obtain ⟨pieces, drawn⟩ := conforms.writes (about_toReport labels nonempty.le plain)
  rw [← exists_header_iff conforms labels plain nonempty stops drawn]
  constructor
  · rintro ⟨others, column, drawn', named, -⟩
    obtain rfl := Option.some.inj (drawn.symm.trans drawn')
    exact ⟨column, named⟩
  · rintro ⟨column, named⟩
    have noted := noteLine_mem conforms labels plain nonempty stops drawn
    have ends : (Piece.header (fileName path) number column).text =
        linePlace (fileName path) number ++ ((toString column).toList ++ [' ']) ++ [']'] := by
      rw [Piece.text, List.append_assoc, List.append_assoc]
      rfl
    obtain ⟨-, cs, c, note, shown⟩ := exists_note_eq error.line
    exact ⟨pieces, column, drawn, named, noted,
      text_infix_renderPlain drawn named ends (by decide),
      text_infix_renderPlain drawn noted note shown⟩

/-- For a range that leaves the text, the report has neither headers nor notes. -/
theorem showsNoPlace_of_outside (conforms : renderer.Conforms)
    (labels : (Diagnostic.ofError source path error).labels =
      [⟨fileName path, span, error.message⟩])
    (plain : PlainBreaks source.toList) (nonempty : span.start < span.widened.stop)
    (leaves : source.toList.length < span.start ∨ source.toList.length + 1 < span.widened.stop) :
    (Diagnostic.ofError source path error).ShowsNoPlace renderer := by
  have about := about_toReport labels nonempty.le plain
  obtain ⟨pieces, drawn⟩ := conforms.writes about
  have outside : source.toList.length < span.widened.start ∨
      source.toList.length + 1 < span.widened.stop := by rwa [Span.start_widened]
  rw [toReport_of_labels labels] at about drawn
  exact ⟨pieces, by rw [toReport_of_labels labels, drawn], conforms.outside about drawn outside⟩

end Rejected

/-! ## The line of an error -/

/-- An offset that is not the largest one is in front of the end of its widened span. -/
theorem Span.start_lt_stop_widened {span : Span} (below : span.start < maxOffset) :
    span.start < span.widened.stop := by
  rw [widened]
  split
  · exact Nat.lt_min.mpr ⟨Nat.lt_succ_self _, below⟩
  · omega

/-- The characters in front of a place are those in front of an earlier one and those between the
two. -/
theorem count_take_of_prefix {text before rest : List Char} (split : text = before ++ rest)
    {place : Nat} (behind : before.length ≤ place) :
    (text.take place).count '\n' =
      before.count '\n' + ((text.take place).drop before.length).count '\n' := by
  have front : (text.take place).take before.length = before := by
    rw [List.take_take, Nat.min_eq_left behind, split, List.take_left]
  have counted := congrArg (List.count '\n')
    (List.take_append_drop before.length (text.take place))
  rw [List.count_append, front] at counted
  exact counted.symm

/-- As long as the range of the label is within the text also as a range of characters, the report
of a rejected source text shows the line of the error and as many lines more as end between the
label and the place that is taken for its beginning. When the range leaves the text, the report
shows no line and no note. If all characters up to the end of the label have one byte, it is the
line of the error. -/
theorem showsPlace_iff_of_check_eq_error {renderer : Renderer} (conforms : renderer.Conforms)
    {source : String} {error : FrontendError} (path : Option String)
    (failed : check source = .error error) (plain : PlainBreaks source.toList)
    (fits : byteLength source.toList < maxOffset) :
    ∃ (span : Span) (before marked after : List Char),
      (Diagnostic.ofError source path error).labels =
        [⟨fileName path, span, error.message⟩] ∧
      source.toList = before ++ (marked ++ after) ∧ marked ≠ [] ∧
      error.line = 1 + before.count '\n' ∧ span.start = byteLength before ∧
      span.start < span.widened.stop ∧ span.widened.stop ≤ byteLength (before ++ marked) ∧
      (span.widened.stop ≤ source.toList.length → ∀ number,
        (Diagnostic.ofError source path error).ShowsPlace renderer (fileName path) number
            ("at line " ++ toString error.line) ↔
          number = error.line +
            ((source.toList.take span.start).drop before.length).count '\n') ∧
      (source.toList.length < span.start ∨ source.toList.length + 1 < span.widened.stop →
        (Diagnostic.ofError source path error).ShowsNoPlace renderer) ∧
      ((∀ c ∈ before ++ marked, c.utf8Size = 1) →
        (Diagnostic.ofError source path error).ShowsPlace renderer (fileName path) error.line
          ("at line " ++ toString error.line)) := by
  obtain ⟨span, before, marked, after, labels, text, some, line, starts, stops⟩ :=
    exists_label_of_check_eq_error path failed
  have inFront : byteLength before ≤ byteLength source.toList := by
    rw [text, byteLength_append]
    exact Nat.le_add_right _ _
  have nonempty : span.start < span.widened.stop :=
    Span.start_lt_stop_widened (starts ▸ Nat.lt_of_le_of_lt inFront fits)
  have behind : before.length ≤ span.start := starts ▸ length_le_byteLength before
  have shows (within : span.widened.stop ≤ source.toList.length) (number : Nat) :
      (Diagnostic.ofError source path error).ShowsPlace renderer (fileName path) number
          ("at line " ++ toString error.line) ↔
        number = error.line +
          ((source.toList.take span.start).drop before.length).count '\n' := by
    rw [showsPlace_iff conforms labels plain nonempty within, line,
      count_take_of_prefix text behind, Nat.add_assoc]
  refine ⟨span, before, marked, after, labels, text, some, line, starts, nonempty, stops, shows,
    showsNoPlace_of_outside conforms labels plain nonempty, ?_⟩
  intro single
  rw [byteLength_eq_length single] at stops
  have start : span.start = before.length := by
    rw [starts, byteLength_eq_length fun c member => single c (List.mem_append_left _ member)]
  have within : span.widened.stop ≤ source.toList.length := by
    have length := congrArg List.length text
    simp only [List.length_append] at length stops
    omega
  have between : (source.toList.take span.start).drop before.length = [] := by
    rw [start, List.drop_eq_nil_of_le (List.length_take_le _ _)]
  rw [shows within, between, List.count_nil, Nat.add_zero]

/-- A comment contains a line end of two characters. -/
theorem showsPlace_second_line :
    check "\x7b\r\n\x7d write(x)" = .error (.semantic (.undeclared "x" 2)) ∧
    PlainBreaks "\x7b\r\n\x7d write(x)".toList ∧
    byteLength "\x7b\r\n\x7d write(x)".toList < maxOffset ∧
    (Diagnostic.ofError "\x7b\r\n\x7d write(x)" none (.semantic (.undeclared "x" 2))).ShowsPlace
      Report.layout (fileName none) 2 ("at line " ++ toString 2) := by
  have tokenized : tokenize "\x7b\r\n\x7d write(x)" =
      .ok [⟨.writeWord, "write", 2⟩, ⟨.openParen, "(", 2⟩, ⟨.identifier, "x", 2⟩,
        ⟨.closeParen, ")", 2⟩] := by
    rw [tokenize_eq_ok_iff, lex]
    iterate 4 rw [lexFrom_of_lexeme rfl]
    rw [lexFrom_of_end rfl]
    rfl
  have failed := check_write_name tokenized
  have plain : PlainBreaks "\x7b\r\n\x7d write(x)".toList := by decide
  have fits : byteLength "\x7b\r\n\x7d write(x)".toList < maxOffset := by decide
  obtain ⟨_, before, marked, after, _, text, _, _, _, _, _, _, _, shows⟩ :=
    showsPlace_iff_of_check_eq_error Report.layout_conforms none failed plain fits
  have single : ∀ c ∈ "\x7b\r\n\x7d write(x)".toList, c.utf8Size = 1 := by
    simp [Char.utf8Size_eq_one_iff]
  have line : FrontendError.line (.semantic (.undeclared "x" 2)) = 2 := rfl
  rw [line] at shows
  refine ⟨failed, plain, fits, shows fun c member => single c ?_⟩
  rw [text, ← List.append_assoc]
  exact List.mem_append_left after member

/-- The comment in front of `x` has four characters of two bytes each, so the report shows a line
of the comment behind it, and no header for the line of the error. -/
theorem showsPlace_later_line :
    check "\x7béééé\x7d write(x)\x7b\n\n\x7d" = .error (.semantic (.undeclared "x" 1)) ∧
    PlainBreaks "\x7béééé\x7d write(x)\x7b\n\n\x7d".toList ∧
    (Diagnostic.ofError "\x7béééé\x7d write(x)\x7b\n\n\x7d" none
      (.semantic (.undeclared "x" 1))).ShowsPlace Report.layout (fileName none) 2
        ("at line " ++ toString 1) ∧
    ∀ pieces, Report.layout ((Diagnostic.ofError "\x7béééé\x7d write(x)\x7b\n\n\x7d" none
      (.semantic (.undeclared "x" 1))).toReport false) = some pieces →
        ∀ column, .header (fileName none) 1 column ∉ pieces := by
  have tokenized : tokenize "\x7béééé\x7d write(x)\x7b\n\n\x7d" =
      .ok [⟨.writeWord, "write", 1⟩, ⟨.openParen, "(", 1⟩, ⟨.identifier, "x", 1⟩,
        ⟨.closeParen, ")", 1⟩] := by
    rw [tokenize_eq_ok_iff, lex]
    iterate 4 rw [lexFrom_of_lexeme rfl]
    rw [lexFrom_of_end rfl]
    rfl
  have plain : PlainBreaks "\x7béééé\x7d write(x)\x7b\n\n\x7d".toList := by decide
  have labels : (Diagnostic.ofError "\x7béééé\x7d write(x)\x7b\n\n\x7d" none
      (.semantic (.undeclared "x" 1))).labels =
        [⟨fileName none, ⟨17, 18⟩, FrontendError.message (.semantic (.undeclared "x" 1))⟩] := by
    decide
  have within : (⟨17, 18⟩ : Span).widened.stop ≤
      "\x7béééé\x7d write(x)\x7b\n\n\x7d".toList.length := by decide
  have counted : ("\x7béééé\x7d write(x)\x7b\n\n\x7d".toList.take 17).count '\n' = 1 := by decide
  have line : FrontendError.line (.semantic (.undeclared "x" 1)) = 1 := rfl
  -- The premise on the breaks is found by its type, which is not evaluated then.
  have shows := (showsPlace_iff Report.layout_conforms labels (by assumption) (by decide)
    within 2).mpr (congrArg (1 + ·) counted.symm)
  rw [line] at shows
  refine ⟨check_write_name tokenized, plain, shows, ?_⟩
  intro pieces drawn column named
  have number := (exists_header_iff Report.layout_conforms labels (by assumption) (by decide)
    within drawn 1).mp ⟨column, named⟩
  rw [counted] at number
  cases number

end DimLang
