import DimLang.Diagnostic.Span
import DimLang.Proofs.Text.Slices

/-!
# Spans of lines

The span for a line is the first occurrence of a text on it, or the line without the blanks around
it, or one byte if it is blank (`Selects`). The line begins behind the newline that ends the line
above it, wherever the text has this newline, and ends in front of the next one (`LineAt`).

To find the span, the source text is cut at offsets that were computed, and offsets are added and
subtracted. `lineSpan?` does so step by step, where each step may fail; on a text whose length is an
offset, none of them does.

- `lineSpan_selects`: what the span of a line is, and that it is found without a failing step
-/

namespace DimLang

open Text

/-! ## The beginning of a line -/

/-- The line begins behind the given part of the source text: lines zero and one at its beginning,
every other one behind the newline that ends the line above it, or at the end of the text if this
has fewer newlines. -/
inductive LineBegins (source : List Char) (line : Nat) : List Char → Prop
  | first (first : line ≤ 1) : LineBegins source line []
  | behind {above : List Char} (within : above ++ ['\n'] <+: source)
      (counted : above.count '\n' + 2 = line) : LineBegins source line (above ++ ['\n'])
  | beyond (fewer : source.count '\n' + 1 < line) : LineBegins source line source

/-- The line stands between the given parts of the source text, without the newline that ends it. -/
structure LineAt (source : List Char) (line : Nat) (before text after : List Char) : Prop where
  split : source = before ++ (text ++ after)
  begins : LineBegins source line before
  inLine : '\n' ∉ text
  ends : ∀ c ∈ after.head?, c = '\n'

section LineBegins

variable {source before : List Char} {line : Nat}

/-- A newline in front makes every line one later. -/
theorem LineBegins.newline (begins : LineBegins source (line + 1) before) :
    LineBegins ('\n' :: source) (line + 2) ('\n' :: before) := by
  cases begins with
  | first first =>
    refine @LineBegins.behind _ _ [] (List.cons_prefix_cons.mpr ⟨rfl, List.nil_prefix⟩) ?_
    rw [List.count_nil]
    omega
  | @behind above within counted =>
    refine @LineBegins.behind _ _ ('\n' :: above) (List.cons_prefix_cons.mpr ⟨rfl, within⟩) ?_
    rw [List.count_cons_self]
    omega
  | beyond fewer =>
    apply LineBegins.beyond
    rw [List.count_cons_self]
    omega

/-- Another character in front belongs to the first line. -/
theorem LineBegins.cons {c : Char} (other : c ≠ '\n')
    (begins : LineBegins source (line + 2) before) :
    LineBegins (c :: source) (line + 2) (c :: before) := by
  cases begins with
  | first first => omega
  | @behind above within counted =>
    refine @LineBegins.behind _ _ (c :: above) (List.cons_prefix_cons.mpr ⟨rfl, within⟩) ?_
    rw [List.count_cons_of_ne other]
    exact counted
  | beyond fewer =>
    apply LineBegins.beyond
    rw [List.count_cons_of_ne other]
    exact fewer

end LineBegins

/-- A newline is found again by the number of newlines in front of it. -/
theorem eq_of_newline_within {above above' : List Char}
    (front : above ++ ['\n'] <+: above' ++ ['\n'])
    (same : above.count '\n' = above'.count '\n') : above = above' := by
  rcases List.prefix_concat_iff.mp front with whole | shorter
  · exact List.append_cancel_right whole
  · have fewer := shorter.sublist.count_le '\n'
    rw [List.count_append, List.count_singleton_self] at fewer
    omega

/-- A line begins at one place. -/
theorem LineBegins.unique {source before before' : List Char} {line : Nat}
    (begins : LineBegins source line before) (begins' : LineBegins source line before') :
    before = before' := by
  have counts {above : List Char} (within : above ++ ['\n'] <+: source) :
      above.count '\n' + 1 ≤ source.count '\n' := by
    have most := within.sublist.count_le '\n'
    rwa [List.count_append, List.count_singleton_self] at most
  cases begins with
  | first =>
    cases begins' with
    | first => rfl
    | behind => omega
    | beyond => omega
  | @behind above within counted =>
    have most := counts within
    cases begins' with
    | first => omega
    | @behind above' within' counted' =>
      have same : above.count '\n' = above'.count '\n' := by omega
      rcases List.prefix_or_prefix_of_prefix within within' with front | front
      · rw [eq_of_newline_within front same]
      · rw [eq_of_newline_within front same.symm]
    | beyond => omega
  | beyond =>
    cases begins' with
    | first => omega
    | behind within' =>
      have most := counts within'
      omega
    | beyond => rfl

/-- No newlines are passed over without moving. -/
theorem passNewlines_zero (offset : Nat) (text : List Char) :
    passNewlines 0 offset text = ⟨offset, text⟩ := by
  cases text <;> rfl

/-- Passing over newlines ends where the line behind them begins. -/
theorem exists_passNewlines (count offset : Nat) (text : List Char) :
    ∃ before rest, text = before ++ rest ∧ LineBegins text (count + 1) before ∧
      passNewlines count offset text = ⟨offset + byteLength before, rest⟩ := by
  induction text generalizing count offset with
  | nil =>
    refine ⟨[], [], rfl, ?_, rfl⟩
    by_cases none : count = 0
    · exact .first (by omega)
    · exact .beyond (by rw [List.count_nil]; omega)
  | cons c text ih =>
    cases count with
    | zero => exact ⟨[], c :: text, rfl, .first (Nat.le_refl 1), rfl⟩
    | succ count =>
      rw [passNewlines, if_neg (Nat.succ_ne_zero count)]
      by_cases newline : c = '\n'
      · subst newline
        obtain ⟨before, rest, rfl, begins, passed⟩ := ih count (offset + Char.utf8Size '\n')
        refine ⟨'\n' :: before, rest, rfl, begins.newline, ?_⟩
        rw [if_pos rfl, Nat.add_sub_cancel, passed, byteLength_cons, Nat.add_assoc]
      · obtain ⟨before, rest, rfl, begins, passed⟩ := ih (count + 1) (offset + c.utf8Size)
        refine ⟨c :: before, rest, rfl, begins.cons newline, ?_⟩
        rw [if_neg newline, passed, byteLength_cons, Nat.add_assoc]

/-- The text from a line on is what stands behind the beginning of the line. -/
theorem exists_fromLine (source : List Char) (line : Nat) :
    ∃ before rest, source = before ++ rest ∧ LineBegins source line before ∧
      fromLine source line = ⟨byteLength before, rest⟩ := by
  cases line with
  | zero => exact ⟨[], source, rfl, .first (Nat.zero_le 1), passNewlines_zero 0 source⟩
  | succ line =>
    obtain ⟨before, rest, split, begins, passed⟩ := exists_passNewlines line 0 source
    rw [Nat.zero_add] at passed
    exact ⟨before, rest, split, begins, passed⟩

/-- The source text is cut where the line begins. -/
theorem LineBegins.fromLine_eq {before rest : List Char} {line : Nat}
    (begins : LineBegins (before ++ rest) line before) :
    fromLine (before ++ rest) line = ⟨byteLength before, rest⟩ := by
  obtain ⟨before', rest', split, begins', passed⟩ := exists_fromLine (before ++ rest) line
  obtain rfl := begins.unique begins'
  rw [passed, List.append_cancel_left split]

/-- Every line is found where it begins, and ends somewhere. -/
theorem exists_lineAt (source : List Char) (line : Nat) :
    ∃ before text after, LineAt source line before text after ∧
      fromLine source line = ⟨byteLength before, text ++ after⟩ ∧
      (text ++ after).takeWhile (· ≠ '\n') = text := by
  obtain ⟨before, rest, split, begins, passed⟩ := exists_fromLine source line
  have parts : rest.takeWhile (· ≠ '\n') ++ rest.dropWhile (· ≠ '\n') = rest :=
    List.takeWhile_append_dropWhile
  refine ⟨before, rest.takeWhile (· ≠ '\n'), rest.dropWhile (· ≠ '\n'),
    ⟨?_, begins, ?_, ?_⟩, ?_, ?_⟩
  · rw [parts, split]
  · intro member
    simpa using List.mem_takeWhile_imp member
  · intro c head
    have stops := List.head?_dropWhile_not (· ≠ '\n') rest
    rw [Option.mem_def] at head
    rw [head] at stops
    simpa using stops
  · rw [parts, passed]
  · rw [parts]

/-! ## What a span selects -/

/-- The span for a line with the given text, which begins at `start`, where `next` is the offset
behind `start`: the first occurrence of a needle that is not empty, else the text from its first to
its last character that is no blank, else what is between `start` and `next`. -/
inductive Selects (start next : Nat) (text : List Char) : Option (List Char) → Span → Prop
  | needle {needle front : List Char} (nonempty : needle ≠ [])
      (first : FirstOccurrence needle text front) :
      Selects start next text (some needle)
        ⟨start + byteLength front, start + byteLength (front ++ needle)⟩
  | trimmed {needle : Option (List Char)} {leading core trailing : List Char}
      (absent : ∀ chars ∈ needle, chars ≠ [] → ¬ chars <:+: text)
      (split : text = leading ++ (core ++ trailing))
      (blank : ∀ c ∈ leading ++ trailing, isBlank c = true) (solid : Solid core) :
      Selects start next text needle
        ⟨start + byteLength leading, start + byteLength (leading ++ core)⟩
  | blank {needle : Option (List Char)}
      (absent : ∀ chars ∈ needle, chars ≠ [] → ¬ chars <:+: text)
      (blank : ∀ c ∈ text, isBlank c = true) : Selects start next text needle ⟨start, next⟩

/-- A needle on the line is selected where it occurs first. -/
theorem Selects.exists_first {start next : Nat} {text needle : List Char} {span : Span}
    (selected : Selects start next text (some needle) span) (nonempty : needle ≠ [])
    (occurs : needle <:+: text) :
    ∃ front, FirstOccurrence needle text front ∧
      span = ⟨start + byteLength front, start + byteLength (front ++ needle)⟩ := by
  cases selected with
  | @needle _ front _ first => exact ⟨front, first, rfl⟩
  | trimmed absent => exact absurd occurs (absent needle rfl nonempty)
  | blank absent => exact absurd occurs (absent needle rfl nonempty)

/-- An empty span is widened by one byte. -/
theorem widened_empty (start : Nat) : (Span.mk start start).widened = ⟨start, nextOffset start⟩ :=
  if_pos (Nat.le_refl start)

/-- Where the needle is absent, the line without the blanks around it is selected. -/
theorem selects_trimmedSpan (start : Nat) {text : List Char} {needle : Option (List Char)}
    (absent : ∀ chars ∈ needle, chars ≠ [] → ¬ chars <:+: text) :
    Selects start (nextOffset start) text needle (trimmedSpan start text) := by
  unfold trimmedSpan
  obtain ⟨trailing, split, blank, solid⟩ := exists_trim text
  by_cases empty : trim text = []
  · simp only [empty, List.isEmpty_nil, if_true, widened_empty]
    exact .blank absent (trim_eq_nil_iff.mp empty)
  · have around : ∀ c ∈ text.takeWhile isBlank ++ trailing, isBlank c = true := by
      intro c member
      rcases List.mem_append.mp member with leading | trailing
      · exact List.mem_takeWhile_imp leading
      · exact blank c trailing
    have selected : Selects start (nextOffset start) text needle _ :=
      .trimmed absent split around (solid empty)
    rw [byteLength_append, ← Nat.add_assoc] at selected
    simp only [List.isEmpty_iff, empty, if_false]
    exact selected

/-- The span of a line selects something on it. -/
theorem selects_lineSpan {source rest : List Char} {line start : Nat}
    (passed : fromLine source line = ⟨start, rest⟩) (needle : Option (List Char)) :
    Selects start (nextOffset start) (rest.takeWhile (· ≠ '\n')) needle
      (lineSpan source line needle) := by
  unfold lineSpan
  simp only [passed]
  cases needle with
  | none =>
    refine selects_trimmedSpan _ fun chars member => ?_
    cases member
  | some needle =>
    by_cases empty : needle = []
    · simp only [empty, List.isEmpty_nil, if_true]
      refine selects_trimmedSpan _ fun chars member nonempty => ?_
      exact absurd (Option.some.inj member).symm nonempty
    · simp only [List.isEmpty_iff, empty, if_false]
      rcases offsetOf?_cases needle (rest.takeWhile (· ≠ '\n')) with
        ⟨front, first, offset⟩ | ⟨absent, offset⟩
      · have selected : Selects start (nextOffset start) (rest.takeWhile (· ≠ '\n')) _ _ :=
          .needle empty first
        rw [byteLength_append, ← Nat.add_assoc] at selected
        rw [offset]
        exact selected
      · rw [offset]
        refine selects_trimmedSpan _ fun chars member _ => ?_
        rw [← Option.some.inj member]
        exact absent

/-! ## Finding the span step by step -/

/-- The sum of two offsets, if it is an offset. -/
def addOffsets? (a b : Nat) : Option Nat :=
  if a + b ≤ maxOffset then some (a + b) else none

/-- The difference of two offsets, if it is an offset. -/
def subOffsets? (a b : Nat) : Option Nat :=
  if b ≤ a then some (a - b) else none

/-- The offset of the newline that has so many newlines in front of it. -/
def newlineFrom? (count offset : Nat) : List Char → Option Nat
  | [] => none
  | c :: cs =>
    if c = '\n' ∧ count = 0 then some offset
    else newlineFrom? (if c = '\n' then count - 1 else count) (offset + c.utf8Size) cs

/-- The beginning of a line, which is behind the newline that ends the line above it. -/
def lineStart? (source : List Char) (line : Nat) : Option Nat :=
  if line ≤ 1 then some 0
  else (newlineFrom? (line - 2) 0 source).elim (some (byteLength source)) (addOffsets? · 1)

/-- The beginning of a line and its text, cut out of the source text. -/
def lineText? (source : List Char) (line : Nat) : Option Suffix := do
  let start ← lineStart? source line
  let rest ← slice? source start (byteLength source)
  let stop ← (offsetOf? ['\n'] rest).elim (some (byteLength source)) (addOffsets? start)
  let text ← slice? source start stop
  return ⟨start, text⟩

/-- The range of so many bytes behind a start that is moved on. -/
def movedSpan? (start front size : Nat) : Option Span := do
  let start ← addOffsets? start front
  let stop ← addOffsets? start size
  return ⟨start, stop⟩

/-- The range of a text without the blanks around it. -/
def trimmedSpan? (start : Nat) (text : List Char) : Option Span := do
  let leading ← subOffsets? (byteLength text) (byteLength (trimStart text))
  if trim text = [] then return (Span.mk start start).widened
  movedSpan? start leading (byteLength (trim text))

/-- The span of a line, where every step may fail. -/
def lineSpan? (source : List Char) (line : Nat) (needle : Option (List Char)) : Option Span := do
  let ⟨start, text⟩ ← lineText? source line
  match (needle.filter (· ≠ [])).bind (offsetOf? · text) with
  | some offset => movedSpan? start offset (needle.elim 0 byteLength)
  | none => trimmedSpan? start text

/-- Offsets can be added as long as the sum is one. -/
theorem addOffsets?_eq {a b : Nat} (fits : a + b ≤ maxOffset) : addOffsets? a b = some (a + b) :=
  if_pos fits

/-- A span can be moved as long as its end is an offset. -/
theorem movedSpan?_eq {start offset size : Nat} (fits : start + offset + size ≤ maxOffset) :
    movedSpan? start offset size = some ⟨start + offset, start + offset + size⟩ := by
  have begins : addOffsets? start offset = some (start + offset) := addOffsets?_eq (by omega)
  simp only [movedSpan?, begins, addOffsets?_eq fits, Option.bind_eq_bind, Option.bind_some,
    Option.pure_def]

/-- The line below a newline begins behind it, and where there is none, at the end of the text. -/
theorem passNewlines_offset (count offset : Nat) (text : List Char) :
    (passNewlines (count + 1) offset text).offset =
        (newlineFrom? count offset text).elim (offset + byteLength text) (· + 1) ∧
      ∀ newline ∈ newlineFrom? count offset text, newline < offset + byteLength text := by
  induction text generalizing count offset with
  | nil => exact ⟨rfl, fun newline member => by cases member⟩
  | cons c text ih =>
    have positive := c.utf8Size_pos
    rw [passNewlines, if_neg (Nat.succ_ne_zero count), newlineFrom?, byteLength_cons,
      ← Nat.add_assoc]
    by_cases newline : c = '\n'
    · subst newline
      cases count with
      | zero =>
        rw [if_pos rfl, if_pos ⟨rfl, rfl⟩, passNewlines_zero]
        refine ⟨rfl, fun newline member => ?_⟩
        rw [← Option.some.inj member]
        omega
      | succ count =>
        rw [if_pos rfl, if_neg (fun both => Nat.succ_ne_zero count both.2), if_pos rfl]
        exact ih count _
    · rw [if_neg newline, if_neg (fun both => newline both.1), if_neg newline]
      exact ih count _

section Steps

variable {source : List Char} (fits : byteLength source < maxOffset)

include fits

/-- The beginning of a line is found with checked operations, too. -/
theorem lineStart?_eq (line : Nat) : lineStart? source line = some (lineStart source line) := by
  unfold lineStart? lineStart fromLine
  by_cases first : line ≤ 1
  · rw [if_pos first, Nat.sub_eq_zero_of_le first, passNewlines_zero]
  · obtain ⟨count, rfl⟩ := Nat.exists_eq_add_of_lt (Nat.lt_of_not_le first)
    obtain ⟨offset, inside⟩ := passNewlines_offset count 0 source
    have passed : 1 + count + 1 - 1 = count + 1 := by omega
    have counted : 1 + count + 1 - 2 = count := by omega
    rw [if_neg first, passed, counted, offset]
    cases found : newlineFrom? count 0 source with
    | none => rw [Option.elim_none, Option.elim_none, Nat.zero_add]
    | some newline =>
      have before := inside newline found
      exact addOffsets?_eq (by omega)

/-- A byte behind the beginning of a line is still an offset. -/
theorem LineAt.nextOffset_eq {line : Nat} {before text after : List Char}
    (lineAt : LineAt source line before text after) :
    nextOffset (byteLength before) = byteLength before + 1 := by
  rw [lineAt.split, byteLength_append] at fits
  exact Nat.min_eq_left (by omega)

/-- The line ends in front of the next newline, or at the end of the text. -/
theorem LineAt.stop_eq {line : Nat} {before text after : List Char}
    (lineAt : LineAt source line before text after) :
    (offsetOf? ['\n'] (text ++ after)).elim (some (byteLength source))
      (addOffsets? (byteLength before)) = some (byteLength (before ++ text)) := by
  obtain ⟨rfl, -, inLine, ends⟩ := lineAt
  rcases offsetOf?_cases ['\n'] (text ++ after) with ⟨front, first, offset⟩ | ⟨absent, offset⟩
  · obtain rfl : front = text := first.eq_of_ends inLine ends
    rw [byteLength_append, byteLength_append] at fits
    rw [offset, Option.elim_some, addOffsets?_eq (by omega), byteLength_append]
  · have last : after = [] := by
      cases after with
      | nil => rfl
      | cons c after =>
        obtain rfl : c = '\n' := ends c rfl
        exact absurd ⟨text, after, by simp⟩ absent
    rw [offset, last, List.append_nil, Option.elim_none]

/-- The text of a line is cut out with checked operations, too. -/
theorem LineAt.lineText?_eq {line : Nat} {before text after : List Char}
    (lineAt : LineAt source line before text after)
    (passed : fromLine source line = ⟨byteLength before, text ++ after⟩) :
    lineText? source line = some ⟨byteLength before, text⟩ := by
  have start : lineStart? source line = some (byteLength before) := by
    rw [lineStart?_eq fits, lineStart, passed]
  have rest : slice? source (byteLength before) (byteLength source) = some (text ++ after) :=
    slice?_eq_some_iff.mpr ⟨before, [], by simp [lineAt.split], rfl, by rw [lineAt.split]⟩
  have cut : slice? source (byteLength before) (byteLength (before ++ text)) = some text :=
    slice?_eq_some_iff.mpr ⟨before, after, lineAt.split, rfl, rfl⟩
  simp only [lineText?, start, rest, lineAt.stop_eq fits, cut, Option.bind_eq_bind,
    Option.bind_some, Option.pure_def]

end Steps

/-- The range of a line without the blanks around it is found with checked operations, too. -/
theorem trimmedSpan?_eq {start : Nat} {text : List Char}
    (fits : start + byteLength text ≤ maxOffset) :
    trimmedSpan? start text = some (trimmedSpan start text) := by
  obtain ⟨trailing, split, -, -⟩ := exists_trim text
  have size : byteLength text = byteLength (text.takeWhile isBlank) +
      (byteLength (trim text) + byteLength trailing) := by
    rw [← byteLength_append, ← byteLength_append, ← split]
  have whole : byteLength text =
      byteLength (text.takeWhile isBlank) + byteLength (trimStart text) := by
    rw [← byteLength_append, trimStart, List.takeWhile_append_dropWhile]
  have leading : subOffsets? (byteLength text) (byteLength (trimStart text)) =
      some (byteLength (text.takeWhile isBlank)) := by
    rw [subOffsets?, if_pos (by omega), whole, Nat.add_sub_cancel]
  unfold trimmedSpan? trimmedSpan
  simp only [leading, Option.bind_eq_bind, Option.bind_some, List.isEmpty_iff]
  by_cases blank : trim text = []
  · rw [if_pos blank, if_pos blank]
    rfl
  · rw [if_neg blank, if_neg blank]
    exact movedSpan?_eq (by omega)

/-- On a text whose length is an offset, no step fails. -/
theorem lineSpan?_eq {source : List Char} (fits : byteLength source < maxOffset) (line : Nat)
    (needle : Option (List Char)) :
    lineSpan? source line needle = some (lineSpan source line needle) := by
  obtain ⟨before, text, after, lineAt, passed, front⟩ := exists_lineAt source line
  have within : byteLength before + byteLength text ≤ maxOffset := by
    rw [lineAt.split, byteLength_append, byteLength_append] at fits
    omega
  unfold lineSpan? lineSpan
  simp only [lineAt.lineText?_eq fits passed, passed, front, Option.bind_eq_bind, Option.bind_some]
  cases needle with
  | none => exact trimmedSpan?_eq within
  | some needle =>
    by_cases empty : needle = []
    · subst empty
      exact trimmedSpan?_eq within
    · have search : ((some needle).filter (· ≠ [])).bind (offsetOf? · text) =
          offsetOf? needle text := by simp [Option.filter, empty]
      simp only [search, List.isEmpty_iff, empty, if_false, Option.elim_some]
      rcases offsetOf?_cases needle text with ⟨front, first, offset⟩ | ⟨absent, offset⟩
      · rw [offset]
        have inside : byteLength front + byteLength needle ≤ byteLength text := by
          obtain ⟨behind, split⟩ := first.1
          rw [← split, byteLength_append, byteLength_append]
          exact Nat.le_add_right _ _
        exact movedSpan?_eq (by omega)
      · rw [offset]
        exact trimmedSpan?_eq within

/-- The span of a line is found on every text whose length is an offset, whatever the line and the
needle are, and it selects the needle, the text without the blanks around it, or one byte. -/
theorem lineSpan_selects {source : List Char} (fits : byteLength source < maxOffset) (line : Nat)
    (needle : Option (List Char)) :
    lineSpan? source line needle = some (lineSpan source line needle) ∧
    ∃ before text after, LineAt source line before text after ∧
      Selects (byteLength before) (byteLength before + 1) text needle
        (lineSpan source line needle) := by
  obtain ⟨before, text, after, lineAt, passed, front⟩ := exists_lineAt source line
  have selected := selects_lineSpan passed needle
  rw [front, lineAt.nextOffset_eq fits] at selected
  exact ⟨lineSpan?_eq fits line needle, before, text, after, lineAt, selected⟩

/-- The needle is on the line above, so the span is the line without its wide blank. -/
theorem lineSpan_selects_trimmed :
    byteLength "é\n\u00a0x".toList < maxOffset ∧
    lineSpan "é\n\u00a0x".toList 2 (some "é".toList) = ⟨5, 6⟩ ∧
    lineSpan? "é\n\u00a0x".toList 2 (some "é".toList) =
      some (lineSpan "é\n\u00a0x".toList 2 (some "é".toList)) ∧
    ∃ before text after, LineAt "é\n\u00a0x".toList 2 before text after ∧
      Selects (byteLength before) (byteLength before + 1) text (some "é".toList)
        (lineSpan "é\n\u00a0x".toList 2 (some "é".toList)) :=
  ⟨by decide, by decide, lineSpan_selects (by decide) 2 _⟩

end DimLang
