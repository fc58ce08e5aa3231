import DimLang.Diagnostic.Report
import DimLang.Proofs.Diagnostic.Lines

/-!
# Renderers that show ranges of characters

`Renderer.Conforms` is what is relied on of a renderer: it takes the range of a report as one of
characters, names a place and shows the notes for a range within the text only, and counts the
lines up to the beginning of the range. Nothing is relied on for a range that ends just behind the
text. The layout conforms to this (`Report.layout_conforms`).
-/

namespace DimLang

open Text

/-! ## What is relied on -/

/-- The report is about its primary range, which is one of a text that only newlines break, and it
has no colours. -/
structure Report.About (report : Report) (text : List Char) : Prop where
  uncolored : report.colored = false
  labeled : ∃ message, report.labels = [⟨report.file, report.span, message⟩]
  known : ∃ source, report.sources.lookup report.file = some source ∧ source.toList = text
  ordered : report.span.start ≤ report.span.stop
  breaks : PlainBreaks text

/-- The renderer reads the primary range of a report as one of characters of its text. -/
structure Renderer.Conforms (renderer : Renderer) : Prop where
  /-- What is drawn can be written. -/
  writes {report : Report} {text : List Char} (about : report.About text) :
    ∃ pieces, renderer report = some pieces
  /-- For a range within the text there is a header. -/
  header {report : Report} {text : List Char} {pieces : List Piece} (about : report.About text)
    (drawn : renderer report = some pieces) (starts : report.span.start < text.length)
    (stops : report.span.stop ≤ text.length) :
    ∃ number column, .header report.file number column ∈ pieces
  /-- For a range within the text there are the notes; those of one line are shown as they are. -/
  notes {report : Report} {text : List Char} {pieces : List Piece} (about : report.About text)
    (drawn : renderer report = some pieces) (starts : report.span.start < text.length)
    (stops : report.span.stop ≤ text.length) :
    ∀ note ∈ report.notes, note.toList ≠ [] → '\n' ∉ note.toList → .noteLine note.toList ∈ pieces
  /-- For a range that leaves the text there are neither headers nor notes. -/
  outside {report : Report} {text : List Char} {pieces : List Piece} (about : report.About text)
    (drawn : renderer report = some pieces)
    (leaves : text.length < report.span.start ∨ text.length + 1 < report.span.stop) :
    ∀ piece ∈ pieces, ∃ shown, piece = .plain shown
  /-- A header has the number of the line that holds the beginning of the range. -/
  number {report : Report} {text : List Char} {pieces : List Piece} (about : report.About text)
    (drawn : renderer report = some pieces) (starts : report.span.start < text.length)
    {file : String} {number column : Nat} (named : .header file number column ∈ pieces) :
    number = 1 + (text.take report.span.start).count '\n'

/-- For a range within the text, the headers are those of the line at its beginning. -/
theorem Renderer.Conforms.exists_header_iff {renderer : Renderer} (conforms : renderer.Conforms)
    {report : Report} {text : List Char} {pieces : List Piece} (about : report.About text)
    (drawn : renderer report = some pieces) (starts : report.span.start < text.length)
    (stops : report.span.stop ≤ text.length) (number : Nat) :
    (∃ column, .header report.file number column ∈ pieces) ↔
      number = 1 + (text.take report.span.start).count '\n' := by
  constructor
  · rintro ⟨column, named⟩
    exact conforms.number about drawn starts named
  · rintro rfl
    obtain ⟨number, column, named⟩ := conforms.header about drawn starts stops
    rw [← conforms.number about drawn starts named]
    exact ⟨column, named⟩

/-! ## The layout -/

/-- A text in a single line is not broken. -/
theorem plainLines_single {text : List Char} (inLine : '\n' ∉ text) (nonempty : text ≠ []) :
    plainLines [] [] text = [text] := by
  have collects (current : List Char) :
      plainLines [] current text =
        if (text.reverse ++ current).isEmpty then [] else [(text.reverse ++ current).reverse] := by
    clear nonempty
    induction text generalizing current with
    | nil =>
      rw [plainLines]
      cases current <;> simp
    | cons c text ih =>
      obtain ⟨other, inLine⟩ := List.ne_and_not_mem_of_not_mem_cons inLine
      rw [plainLines, if_neg (Ne.symm other), ih inLine]
      simp
  rw [collects]
  simp [nonempty]

/-- A remark consists of plain pieces and of pieces of its own form. -/
theorem cases_of_mem_remarkLines {form : List Char → Piece} {margin title : List Char}
    {text : String} {line : List Piece} (listed : line ∈ remarkLines form margin title text)
    {piece : Piece} (member : piece ∈ line) :
    ∃ shown, piece = .plain shown ∨ piece = form shown := by
  rcases List.mem_cons.mp listed with rfl | listed
  · exact ⟨_, .inl (List.mem_singleton.mp member)⟩
  · obtain ⟨entry, _, rfl⟩ := List.mem_map.mp listed
    rcases List.mem_pair.mp member with rfl | rfl
    · exact ⟨_, .inl rfl⟩
    · exact ⟨_, .inr rfl⟩

/-- A text in a single line is a piece of its remark. -/
theorem exists_mem_remarkLines (form : List Char → Piece) (margin title : List Char)
    {text : String} (inLine : '\n' ∉ text.toList) (nonempty : text.toList ≠ []) :
    ∃ line ∈ remarkLines form margin title text, form text.toList ∈ line := by
  rw [remarkLines, plainLines_single inLine nonempty]
  exact ⟨_, List.mem_cons_of_mem _ List.mem_cons_self, List.mem_cons_of_mem _ List.mem_cons_self⟩

namespace Report

variable {report : Report} {text : List Char}

/-- The text of a report is the one that is registered for its file. -/
theorem About.sourceOf_eq (about : report.About text) : report.sourceOf report.file = text := by
  obtain ⟨source, known, rfl⟩ := about.known
  rw [sourceOf, known]

/-- The body begins with the header. -/
theorem exists_header_mem_bodyLines (report : Report) (label : Label) (text : List Char) :
    ∃ line ∈ report.bodyLines label text, ∃ number column,
      .header label.file number column ∈ line := by
  rw [bodyLines, List.append_assoc, List.append_assoc, List.append_assoc]
  exact ⟨_, List.mem_cons_self, _, _, List.mem_pair.mpr (.inr rfl)⟩

/-- The only header is that of the line at the beginning of the label. -/
theorem number_of_mem_bodyLines {label : Label} {line : List Piece}
    (listed : line ∈ report.bodyLines label text) {file : String} {number column : Nat}
    (member : .header file number column ∈ line) :
    number = (lineAt label.span.start text).number := by
  rw [bodyLines] at listed
  simp only [List.mem_append, List.mem_pair, List.mem_map, List.mem_flatten,
    List.mem_singleton] at listed
  obtain ((((rfl | rfl) | ⟨_, _, rfl⟩) | help) | ⟨_, ⟨_, _, rfl⟩, note⟩) | rfl := listed
  · simp only [List.mem_pair, reduceCtorEq, false_or, Piece.header.injEq] at member
    exact member.2.1
  · simp at member
  · simp at member
  · cases advice : report.help with
    | none => simp [advice] at help
    | some remark =>
      simp only [advice] at help
      obtain ⟨_, same | same⟩ := cases_of_mem_remarkLines help member <;> cases same
  · obtain ⟨_, same | same⟩ := cases_of_mem_remarkLines note member <;> cases same
  · simp at member

/-- A note in a single line is shown as it is. -/
theorem exists_noteLine_mem_bodyLines (label : Label) (text : List Char) {note : String}
    (noted : note ∈ report.notes) (nonempty : note.toList ≠ []) (inLine : '\n' ∉ note.toList) :
    ∃ line ∈ report.bodyLines label text, .noteLine note.toList ∈ line := by
  obtain ⟨index, place⟩ := List.mem_iff_getElem?.mp noted
  have entry := List.mk_mem_zipIdx_iff_getElem?.mpr place
  obtain ⟨line, listed, member⟩ := exists_mem_remarkLines .noteLine
    (blanks ((toString (lineAt label.span.start text).number).length + 2) ++ "│ ".toList)
    (noteTitle report.notes.length index) inLine nonempty
  exact ⟨line, List.mem_append_left _ (List.mem_append_right _ (List.mem_flatten.mpr
    ⟨_, List.mem_map.mpr ⟨_, entry, rfl⟩, listed⟩)), member⟩

variable {pieces : List Piece}

/-- The layout draws the headline, and below it the lines of the body with newlines in front of
them. -/
theorem mem_of_layout (drawn : layout report = some pieces) {piece : Piece} :
    piece ∈ pieces ↔ piece = .plain report.headline ∨
      ∃ line ∈ report.shownLines, piece = .plain ['\n'] ∨ piece ∈ line := by
  rw [← Option.some.inj drawn]
  simp only [List.mem_cons, List.mem_flatMap]

/-- For a range within the text, the body is shown. -/
theorem About.shownLines_eq (about : report.About text) :
    ∃ message, report.shownLines =
      if text.length < report.span.start ∨ text.length < report.span.stop - 1 then []
      else report.bodyLines ⟨report.file, report.span, message⟩ text := by
  obtain ⟨message, labeled⟩ := about.labeled
  refine ⟨message, ?_⟩
  rw [shownLines, labeled]
  dsimp only
  rw [about.sourceOf_eq]

/-- The layout reads ranges as ranges of characters. -/
theorem layout_conforms : Renderer.Conforms layout where
  writes _ := ⟨_, rfl⟩
  header {report text pieces} about drawn starts stops := by
    obtain ⟨message, shown⟩ := about.shownLines_eq
    rw [if_neg (by omega)] at shown
    obtain ⟨line, listed, number, column, member⟩ :=
      exists_header_mem_bodyLines report ⟨report.file, report.span, message⟩ text
    exact ⟨number, column, (mem_of_layout drawn).mpr (.inr ⟨line, shown ▸ listed, .inr member⟩)⟩
  notes {report text pieces} about drawn starts stops := by
    obtain ⟨message, shown⟩ := about.shownLines_eq
    rw [if_neg (by omega)] at shown
    intro note noted nonempty inLine
    obtain ⟨line, listed, member⟩ := exists_noteLine_mem_bodyLines
      ⟨report.file, report.span, message⟩ text noted nonempty inLine
    exact (mem_of_layout drawn).mpr (.inr ⟨line, shown ▸ listed, .inr member⟩)
  outside {report text pieces} about drawn leaves := by
    obtain ⟨message, shown⟩ := about.shownLines_eq
    rw [if_pos (by omega)] at shown
    intro piece member
    rcases (mem_of_layout drawn).mp member with rfl | ⟨line, listed, _⟩
    · exact ⟨_, rfl⟩
    · rw [shown] at listed
      cases listed
  number {report text pieces} about drawn starts {file number column} named := by
    obtain ⟨message, shown⟩ := about.shownLines_eq
    rcases (mem_of_layout drawn).mp named with same | ⟨line, listed, same | member⟩
    · cases same
    · cases same
    · rw [shown] at listed
      split at listed
      · cases listed
      · have nonempty : text ≠ [] := List.ne_nil_of_length_pos (by omega)
        have last : min report.span.start (text.length - 1) = report.span.start := by omega
        rw [number_of_mem_bodyLines listed member, number_lineAt about.breaks nonempty, last]

end Report

end DimLang
