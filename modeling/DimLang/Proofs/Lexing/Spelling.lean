import DimLang.Proofs.Lexing.Tokens

/-!
# Writing tokens down

The scanner cuts a source text into runs, and patterns classify them; neither refers to the other.
They agree on what a token looks like: every text that a pattern matches is one run
(`isSpelled_of_recognises`). A space ends every run, so the texts of tokens with single spaces
between them are lexed as these tokens again (`tokenize_intercalate`).

- `ScanMode.Takes` are the characters that continue a lexeme wherever they stand
- `IsSpelled` says that the scanner takes a text as one piece
- `Pattern.Over` bounds the characters of a pattern
-/

namespace DimLang

open Text

/-! ## Runs in front of a blank -/

/-- A run is the longest one where the text ends or goes on with a character that ends lexemes. -/
theorem IsRun.isLongestRun {run behind : List Char} (isRun : IsRun run)
    (ends : ∀ c ∈ behind.head?, endsLexeme c = true) : IsLongestRun run behind := by
  have alone : IsLongestRun run [] := by
    refine ⟨isRun, fun longer _ front => ?_⟩
    rw [List.append_nil] at front
    exact front.length_le
  exact alone.append ends

/-- The text is taken as one piece: it begins a lexeme and is a run. -/
def IsSpelled : List Char → Prop
  | [] => False
  | first :: more => BeginsLexeme first ∧ IsRun (first :: more)

instance decidableContinues (mode : ScanMode) : (previous : Char) → (cs : List Char) →
    Decidable (mode.Continues previous cs)
  | _, [] => .isTrue trivial
  | previous, c :: cs =>
    have := decidableContinues mode c cs
    inferInstanceAs (Decidable (endsLexeme c = false ∧ mode.accepts (some previous) c = true ∧ _))

instance : (cs : List Char) → Decidable (IsSpelled cs)
  | [] => .isFalse id
  | _ :: _ => inferInstanceAs (Decidable (((_ ≠ _) ∧ (_ = _ ∨ _ = _)) ∧ (_ → _) ∧ _))

/-! ## Characters of a mode -/

/-- A lexeme of the mode continues with the character, whatever stands before it. -/
def ScanMode.Takes (mode : ScanMode) (c : Char) : Prop :=
  endsLexeme c = false ∧ ∀ previous, mode.accepts previous c = true

/-- Characters that are always taken can be put in front of those that continue a lexeme. -/
theorem ScanMode.continues_append {mode : ScanMode} {cs behind : List Char}
    (takes : ∀ c ∈ cs, mode.Takes c) (continues : ∀ previous, mode.Continues previous behind)
    (previous : Char) : mode.Continues previous (cs ++ behind) := by
  induction cs generalizing previous with
  | nil => exact continues previous
  | cons c cs ih =>
    obtain ⟨⟨inLexeme, accepted⟩, takes⟩ := List.forall_mem_cons.mp takes
    exact ⟨inLexeme, accepted _, ih takes c⟩

/-- Characters that are always taken continue a lexeme. -/
theorem ScanMode.continues_of_takes {mode : ScanMode} {cs : List Char}
    (takes : ∀ c ∈ cs, mode.Takes c) (previous : Char) : mode.Continues previous cs := by
  have nothing : ∀ previous, mode.Continues previous [] := fun _ => trivial
  have continues := mode.continues_append takes nothing previous
  rwa [List.append_nil] at continues

/-- What continues a lexeme everywhere is a lexeme itself, if its first character is of the
mode. -/
theorem isSpelled_of_continues {mode : ScanMode} {first : Char} {more : List Char}
    (begins : ScanMode.ofFirst first = mode)
    (continues : ∀ previous, mode.Continues previous (first :: more)) :
    IsSpelled (first :: more) := by
  obtain ⟨inLexeme, _, others⟩ := continues first
  have begun : BeginsLexeme first := by
    simp only [endsLexeme, Bool.or_eq_false_iff, beq_eq_false_iff_ne] at inLexeme
    exact ⟨inLexeme.2, .inr inLexeme.1.1.1⟩
  refine ⟨begun, fun ends => ?_, begins ▸ others⟩
  rw [inLexeme] at ends
  cases ends

/-- The alphanumeric characters by their codes. -/
theorem isAlphanum_iff {c : Char} :
    c.isAlphanum = true ↔ (48 ≤ c.toNat ∧ c.toNat ≤ 57) ∨ (65 ≤ c.toNat ∧ c.toNat ≤ 90) ∨
      (97 ≤ c.toNat ∧ c.toNat ≤ 122) := by
  have codes : c.isAlphanum =
      (decide (65 ≤ c.val ∧ c.val ≤ 90) || (decide (97 ≤ c.val) && decide (c.val ≤ 122)) ||
        (decide (48 ≤ c.val) && decide (c.val ≤ 57))) := rfl
  simp only [codes, UInt32.le_iff_toNat_le, Bool.or_eq_true, Bool.and_eq_true, decide_eq_true_eq,
    Char.toNat_val, UInt32.reduceToNat]
  omega

/-- Letters and digits end no lexeme. -/
theorem endsLexeme_of_isAlphanum {c : Char} (alphanum : c.isAlphanum = true) :
    endsLexeme c = false := by
  have codes := isAlphanum_iff.mp alphanum
  have differs (d : Char) (outside : d.toNat < 48 ∨ 122 < d.toNat) : (c == d) = false := by
    rw [beq_eq_false_iff_ne]
    rintro rfl
    omega
  have notBlank : isBlank c = false := by
    simp only [isBlank, Bool.or_eq_false_iff, Bool.and_eq_false_iff, decide_eq_false_iff_not,
      beq_eq_false_iff_ne]
    omega
  rw [endsLexeme, notBlank, differs '(' (by decide), differs ')' (by decide),
    differs '\x7b' (by decide)]
  rfl

/-- A word takes every letter and digit. -/
theorem ScanMode.alphanumeric_takes {c : Char} (alphanum : c.isAlphanum = true) :
    ScanMode.alphanumeric.Takes c :=
  ⟨endsLexeme_of_isAlphanum alphanum, fun _ => alphanum⟩

/-- A number takes every letter, digit and point. -/
theorem ScanMode.numeric_takes {c : Char} (inNumber : c.isAlphanum = true ∨ c = '.') :
    ScanMode.numeric.Takes c := by
  rcases inNumber with alphanum | rfl
  · exact ⟨endsLexeme_of_isAlphanum alphanum, fun _ => by simp [accepts, alphanum]⟩
  · exact ⟨rfl, fun _ => rfl⟩

/-! ## Texts of patterns -/

namespace Pattern

/-- All characters of the pattern are allowed. -/
def Over (allowed : Char → Prop) : Pattern → Prop
  | word cs => ∀ c ∈ cs, allowed c
  | oneOf ranges => ∀ c, inClass ranges c = true → allowed c
  | seq p q => p.Over allowed ∧ q.Over allowed
  | alt p q => p.Over allowed ∧ q.Over allowed
  | star p => p.Over allowed
  | plus p => p.Over allowed
  | opt p => p.Over allowed

/-- What a pattern over some characters matches is made of them. -/
theorem Matches.forall_mem {allowed : Char → Prop} {p : Pattern} {cs : List Char}
    (matched : Matches p cs) (within : p.Over allowed) : ∀ c ∈ cs, allowed c := by
  induction matched with
  | word => exact within
  | oneOf member => simpa using within _ member
  | seq _ _ first second =>
    exact fun c member => (List.mem_append.mp member).elim (first within.1 c) (second within.2 c)
  | left _ ih => exact ih within.1
  | right _ ih => exact ih within.2
  | none => exact List.forall_mem_nil _
  | some _ _ first rest | plus _ _ first rest =>
    exact fun c member => (List.mem_append.mp member).elim (first within c) (rest within c)
  | absent => exact List.forall_mem_nil _
  | present _ ih => exact ih within

/-- Whether the character may occur in a text of the pattern. -/
def allows (c : Char) : Pattern → Bool
  | word cs => cs.contains c
  | oneOf ranges => inClass ranges c
  | seq p q => p.allows c || q.allows c
  | alt p q => p.allows c || q.allows c
  | star p => p.allows c
  | plus p => p.allows c
  | opt p => p.allows c

/-- What a pattern matches is made of the characters it allows. -/
theorem Matches.allows_of_mem {p : Pattern} {cs : List Char} {c : Char} (matched : Matches p cs)
    (member : c ∈ cs) : p.allows c = true := by
  induction matched with
  | word => exact List.contains_iff_mem.mpr member
  | oneOf inside =>
    obtain rfl := List.mem_singleton.mp member
    exact inside
  | seq _ _ first second =>
    rw [allows, Bool.or_eq_true]
    exact (List.mem_append.mp member).imp first second
  | left _ ih => exact Bool.or_eq_true_iff.mpr (.inl (ih member))
  | right _ ih => exact Bool.or_eq_true_iff.mpr (.inr (ih member))
  | none | absent => cases member
  | some _ _ first rest | plus _ _ first rest => exact (List.mem_append.mp member).elim first rest
  | present _ ih => exact ih member

/-- A choice of words matches these words. -/
theorem matches_words_iff {texts : List String} {cs : List Char} :
    Matches (words texts) cs ↔ ∃ text ∈ texts, cs = text.toList := by
  induction texts with
  | nil => simpa [words] using not_matches_nothing cs
  | cons text texts ih =>
    cases texts with
    | nil => simp [words, matches_word_iff]
    | cons next texts =>
      rw [words, matches_alt_iff, matches_word_iff, ih]
      · simp
      · exact List.cons_ne_nil _ _

/-- What a repeated class matches begins with a character of the class. -/
theorem exists_cons_of_matches_plus {ranges : List (Char × Char)} {cs : List Char}
    (matched : Matches (plus (oneOf ranges)) cs) :
    ∃ c more, cs = c :: more ∧ inClass ranges c = true := by
  obtain ⟨_, more, rfl, item, _⟩ := matches_plus_iff.mp matched
  obtain ⟨c, rfl, member⟩ := matches_oneOf_iff.mp item
  exact ⟨c, more, rfl, member⟩

end Pattern

open Pattern TokenKind

section Classes

variable {c : Char} {ranges : List (Char × Char)}

/-- A character of a class lies in one of its ranges. -/
theorem exists_range_of_inClass (member : inClass ranges c = true) :
    ∃ range ∈ ranges, range.1.toNat ≤ c.toNat ∧ c.toNat ≤ range.2.toNat := by
  obtain ⟨range, listed, inside⟩ := List.any_eq_true.mp member
  simp only [Bool.and_eq_true, decide_eq_true_eq, Char.le_def, UInt32.le_iff_toNat_le,
    Char.toNat_val] at inside
  exact ⟨range, listed, inside⟩

/-- Ranges of digits have digits only. -/
theorem isDigit_of_inClass
    (within : ∀ range ∈ ranges, 48 ≤ range.1.toNat ∧ range.2.toNat ≤ 57)
    (member : inClass ranges c = true) : c.isDigit = true := by
  obtain ⟨range, listed, inside⟩ := exists_range_of_inClass member
  have bounds := within range listed
  simp only [Char.isDigit, ge_iff_le, UInt32.le_iff_toNat_le, Bool.and_eq_true, decide_eq_true_eq,
    Char.toNat_val, Char.reduceToNat]
  omega

/-- Ranges of letters and digits have letters and digits only. -/
theorem isAlphanum_of_inClass
    (within : ∀ range ∈ ranges, (48 ≤ range.1.toNat ∧ range.2.toNat ≤ 57) ∨
      (65 ≤ range.1.toNat ∧ range.2.toNat ≤ 90) ∨ (97 ≤ range.1.toNat ∧ range.2.toNat ≤ 122))
    (member : inClass ranges c = true) : c.isAlphanum = true := by
  obtain ⟨range, listed, inside⟩ := exists_range_of_inClass member
  have bounds := within range listed
  rw [isAlphanum_iff]
  omega

/-- A letter begins a word. -/
theorem ofFirst_of_letter (letter : inClass [('A', 'Z'), ('a', 'z')] c = true) :
    ScanMode.ofFirst c = .alphanumeric := by
  have alphanum : c.isAlphanum = true := isAlphanum_of_inClass (by decide) letter
  obtain ⟨range, listed, inside⟩ := exists_range_of_inClass letter
  have letters : ∀ range ∈ [('A', 'Z'), ('a', 'z')], 65 ≤ range.1.toNat := by decide
  have lowest := letters range listed
  have notDigit : c.isDigit = false := by
    simp only [Char.isDigit, ge_iff_le, UInt32.le_iff_toNat_le, Bool.and_eq_false_iff,
      decide_eq_false_iff_not, Char.toNat_val, Char.reduceToNat]
    omega
  have notPoint : (c == '.') = false := by
    rw [beq_eq_false_iff_ne]
    rintro rfl
    cases alphanum
  rw [ScanMode.ofFirst, notDigit, notPoint, alphanum]
  rfl

/-- A digit begins a number. -/
theorem ofFirst_of_isDigit (isDigit : c.isDigit = true) : ScanMode.ofFirst c = .numeric := by
  rw [ScanMode.ofFirst, isDigit]
  rfl

end Classes

section Kinds

variable {cs : List Char}

/-- A name is a letter with letters and digits behind it. -/
theorem isSpelled_of_name (matched : Matches namePattern cs) : IsSpelled cs := by
  have alphanum : ∀ c ∈ cs, c.isAlphanum = true := by
    refine matched.forall_mem ⟨?_, ?_⟩ <;>
      exact fun c member => isAlphanum_of_inClass (by decide) member
  obtain ⟨_, more, rfl, letter, _⟩ := matches_seq_iff.mp matched
  obtain ⟨first, rfl, member⟩ := matches_oneOf_iff.mp letter
  exact isSpelled_of_continues (ofFirst_of_letter member)
    (ScanMode.continues_of_takes fun c member => ScanMode.alphanumeric_takes (alphanum c member))

/-- An integer begins with a digit. -/
theorem exists_digit_of_int (matched : Matches intPattern cs) :
    ∃ first more, cs = first :: more ∧ first.isDigit = true := by
  have ofPlus {ranges : List (Char × Char)} {p : Pattern}
      (within : ∀ range ∈ ranges, 48 ≤ range.1.toNat ∧ range.2.toNat ≤ 57)
      (matched : Matches (seq (plus (oneOf ranges)) p) cs) :
      ∃ first more, cs = first :: more ∧ first.isDigit = true := by
    obtain ⟨_, v, rfl, digits, _⟩ := matches_seq_iff.mp matched
    obtain ⟨first, more, rfl, member⟩ := exists_cons_of_matches_plus digits
    exact ⟨first, more ++ v, rfl, isDigit_of_inClass within member⟩
  simp only [intPattern, matches_alt_iff] at matched
  rcases matched with binary | octal | hexadecimal | decimal
  · exact ofPlus (by decide) binary
  · exact ofPlus (by decide) octal
  · obtain ⟨_, v, rfl, digits, _⟩ := matches_seq_iff.mp hexadecimal
    obtain ⟨first, rfl, member⟩ := matches_oneOf_iff.mp digits
    exact ⟨first, v, rfl, isDigit_of_inClass (by decide) member⟩
  · exact ofPlus (by decide) decimal

/-- An integer is a digit with letters and digits behind it. -/
theorem isSpelled_of_int (matched : Matches intPattern cs) : IsSpelled cs := by
  have alphanum : ∀ c ∈ cs, c.isAlphanum = true := by
    refine matched.forall_mem ?_
    simp only [intPattern, digit, Over]
    refine ⟨⟨?_, ?_⟩, ⟨?_, ?_⟩, ⟨?_, ?_, ?_⟩, ?_, ?_⟩ <;>
      exact fun c member => isAlphanum_of_inClass (by decide) member
  obtain ⟨first, more, rfl, isDigit⟩ := exists_digit_of_int matched
  exact isSpelled_of_continues (ofFirst_of_isDigit isDigit)
    (ScanMode.continues_of_takes fun c member => ScanMode.numeric_takes (.inl (alphanum c member)))

/-- Repeated digits are digits. -/
theorem isDigit_of_matches_digits {p : Pattern} (digits : p = star digit ∨ p = plus digit)
    (matched : Matches p cs) : ∀ c ∈ cs, c.isDigit = true := by
  refine matched.forall_mem ?_
  have ofClass (c : Char) (member : inClass [('0', '9')] c = true) : c.isDigit = true :=
    isDigit_of_inClass (by decide) member
  rcases digits with rfl | rfl <;> exact ofClass

/-- A number takes repeated digits. -/
theorem takes_of_digits {p : Pattern} (digits : p = star digit ∨ p = plus digit)
    (matched : Matches p cs) : ∀ c ∈ cs, ScanMode.numeric.Takes c := by
  intro c member
  have isDigit := isDigit_of_matches_digits digits matched c member
  exact ScanMode.numeric_takes (.inl (Bool.or_eq_true_iff.mpr (.inr isDigit)))

/-- A class of two single characters holds just these. -/
theorem eq_or_eq_of_inClass {c d e : Char} (member : inClass [(d, d), (e, e)] c = true) :
    c = d ∨ c = e := by
  simp only [inClass, List.any_cons, List.any_nil, Bool.or_false, Bool.or_eq_true,
    Bool.and_eq_true, decide_eq_true_eq] at member
  exact member.imp (fun same => Char.le_antisymm same.2 same.1)
    (fun same => Char.le_antisymm same.2 same.1)

/-- A number continues with an exponent, of which only the mark allows a sign behind it. -/
theorem continues_of_exponent (matched : Matches exponent cs) (previous : Char) :
    ScanMode.numeric.Continues previous cs := by
  obtain ⟨_, _, rfl, marked, behind⟩ := matches_seq_iff.mp matched
  obtain ⟨_, digits, rfl, signed, numerals⟩ := matches_seq_iff.mp behind
  obtain ⟨mark, rfl, marks⟩ := matches_oneOf_iff.mp marked
  have takes := takes_of_digits (.inr rfl) numerals
  obtain ⟨inLexeme, accepted⟩ : ScanMode.numeric.Takes mark :=
    ScanMode.numeric_takes (.inl (isAlphanum_of_inClass (by decide) marks))
  refine ⟨inLexeme, accepted _, ?_⟩
  rcases matches_opt_iff.mp signed with rfl | signed
  · exact ScanMode.continues_of_takes takes mark
  · obtain ⟨sign, rfl, signs⟩ := matches_oneOf_iff.mp signed
    have follows : endsLexeme sign = false ∧ ScanMode.numeric.accepts (some mark) sign = true := by
      rcases eq_or_eq_of_inClass marks with rfl | rfl <;>
        rcases eq_or_eq_of_inClass signs with rfl | rfl <;> decide
    exact ⟨follows.1, follows.2, ScanMode.continues_of_takes takes sign⟩

/-- A float is made of digits, a point and an exponent. -/
theorem isSpelled_of_float (matched : Matches floatPattern cs) : IsSpelled cs := by
  rcases matches_alt_iff.mp matched with scaled | fraction
  · obtain ⟨_, _, rfl, digits, scale⟩ := matches_seq_iff.mp scaled
    have takes := takes_of_digits (.inr rfl) digits
    have continues := ScanMode.continues_append takes (continues_of_exponent scale)
    obtain ⟨first, more, rfl, member⟩ := exists_cons_of_matches_plus digits
    exact isSpelled_of_continues (ofFirst_of_isDigit (isDigit_of_inClass (by decide) member))
      continues
  · obtain ⟨whole, _, rfl, digits, behind⟩ := matches_seq_iff.mp fraction
    obtain ⟨_, _, rfl, point, decimal⟩ := matches_seq_iff.mp behind
    obtain rfl := matches_word_iff.mp point
    obtain ⟨places, scale, rfl, decimals, scaled⟩ := matches_seq_iff.mp decimal
    have scales (previous : Char) : ScanMode.numeric.Continues previous scale := by
      rcases matches_opt_iff.mp scaled with rfl | scaled
      · exact trivial
      · exact continues_of_exponent scaled previous
    have pointed : ∀ c ∈ ['.'], ScanMode.numeric.Takes c := by
      simpa using ScanMode.numeric_takes (.inr rfl)
    have behindPoint := ScanMode.continues_append (takes_of_digits (.inr rfl) decimals) scales
    have continues := ScanMode.continues_append (takes_of_digits (.inl rfl) digits)
      (ScanMode.continues_append pointed behindPoint)
    cases whole with
    | nil => exact isSpelled_of_continues rfl continues
    | cons first whole =>
      have isDigit : first.isDigit = true := by
        obtain ⟨_, _, split, item, _⟩ := matches_star_cons digits
        obtain ⟨c, single, member⟩ := matches_oneOf_iff.mp item
        obtain ⟨rfl, _⟩ := List.cons.inj single
        exact isDigit_of_inClass (by decide) member
      exact isSpelled_of_continues (ofFirst_of_isDigit isDigit) continues

/-- A choice of spelled words matches spelled texts only. -/
theorem isSpelled_of_words {texts : List String} (spelled : ∀ text ∈ texts, IsSpelled text.toList)
    (matched : Matches (words texts) cs) : IsSpelled cs := by
  obtain ⟨text, listed, rfl⟩ := matches_words_iff.mp matched
  exact spelled text listed

/-- Whatever the pattern of a kind matches is taken as one piece. -/
theorem isSpelled_of_recognises {kind : TokenKind} (recognised : kind.recognises cs = true) :
    IsSpelled cs := by
  have matched {pattern : Pattern} (accepted : pattern.accepts cs = true) : Matches pattern cs :=
    (accepts_iff pattern cs).mp accepted
  cases kind with
  | identifier => exact isSpelled_of_name (matched recognised)
  | intNumber => exact isSpelled_of_int (matched recognised)
  | floatNumber => exact isSpelled_of_float (matched recognised)
  | eof | any => cases recognised
  | _ => exact isSpelled_of_words (by decide) (matched recognised)

/-- No token has a backslash. -/
theorem backslash_notMem_of_recognises {kind : TokenKind}
    (recognised : kind.recognises cs = true) : '\\' ∉ cs := by
  intro member
  have others : ∀ kind ∈ TokenKind.all, ∀ pattern ∈ kind.pattern?,
      pattern.allows '\\' = false := by decide
  rw [recognises] at recognised
  split at recognised
  · rename_i pattern named
    have allowed := ((accepts_iff pattern cs).mp recognised).allows_of_mem member
    rw [others kind kind.mem_all pattern named] at allowed
    cases allowed
  · cases recognised

end Kinds

/-! ## Texts with spaces between them -/

/-- What the texts yield one after the other, the first one on the given line. -/
def lexedTexts (line : Nat) : List String → List (Except LexError Token)
  | [] => []
  | text :: texts => classify text line :: lexedTexts (line + text.toList.count '\n') texts

/-- A spelled text is a run that begins a lexeme. -/
theorem IsSpelled.exists_ofList {text : String} (spelled : IsSpelled text.toList) :
    ∃ first more, text = String.ofList (first :: more) ∧ BeginsLexeme first ∧
      IsRun (first :: more) := by
  cases chars : text.toList with
  | nil =>
    rw [chars] at spelled
    exact spelled.elim
  | cons first more =>
    rw [chars] at spelled
    exact ⟨first, more, by rw [← chars, String.ofList_toList], spelled⟩

/-- Texts that are taken as one piece each are taken one by one behind a gap, if there are spaces
between them. -/
theorem segmented_intercalate {texts : List String}
    (spelled : ∀ text ∈ texts, IsSpelled text.toList) (before : List Char) {gap : List Char}
    (isGap : IsGap gap) :
    Segmented before (gap ++ [' '].intercalate (texts.map String.toList))
      (lexedTexts (lineAfter (before ++ gap)) texts) := by
  induction texts generalizing before gap with
  | nil =>
    rw [List.map_nil, List.intercalate_nil, List.append_nil]
    exact .finish isGap
  | cons text texts ih =>
    obtain ⟨here, others⟩ := List.forall_mem_cons.mp spelled
    obtain ⟨first, more, rfl, begins, isRun⟩ := here.exists_ofList
    rw [lexedTexts, ← lineAfter_append, List.map_cons, String.toList_ofList]
    cases texts with
    | nil =>
      have last : Segmented before (gap ++ (first :: more ++ [])) _ :=
        .cons isGap begins (isRun.isLongestRun (by simp)) (.finish .nil)
      rw [List.append_nil] at last
      rwa [List.map_nil, List.intercalate_singleton]
    | cons next texts =>
      -- The space in front of the next text is the gap there.
      have blank : IsGap [' '] := .blank rfl (by decide) .nil
      have behind := ih others (before ++ gap ++ first :: more) blank
      rw [lineAfter_append _ [' '], List.count_singleton, if_neg (by decide), Nat.add_zero]
        at behind
      rw [List.map_cons, List.intercalate_cons_cons, List.append_assoc]
      exact .cons isGap begins (isRun.isLongestRun (by simp [endsLexeme, isBlank])) behind

/-- A spelled text has a newline only if it is one. -/
theorem IsSpelled.count_newline {text : String} (spelled : IsSpelled text.toList) :
    text.toList.count '\n' = [text].count "\n" := by
  obtain ⟨first, more, rfl, _, alone, continues⟩ := spelled.exists_ofList
  have later : more.count '\n' = 0 := List.count_eq_zero.mpr continues.newline_not_mem
  rw [String.toList_ofList]
  by_cases newline : first = '\n'
  · subst newline
    obtain rfl : more = [] := alone rfl
    rfl
  · have other : String.ofList (first :: more) ≠ "\n" := by
      intro same
      exact newline (List.cons.inj (String.ofList_injective same)).1
    rw [List.count_cons_of_ne newline, later, List.count_cons_of_ne other, List.count_nil]

/-! ## Classified texts -/

/-- A text becomes the token of its first kind, with its own text and line. -/
theorem classify_eq_ok_iff {text : String} {line : Nat} {token : Token} :
    classify text line = .ok token ↔
      TokenKind.kindAmong? TokenKind.priority text.toList = some token.kind ∧ token.text = text ∧
        token.line = line := by
  rw [classify]
  cases TokenKind.kindAmong? TokenKind.priority text.toList with
  | none => simp
  | some kind =>
    cases token
    simp only [Except.ok.injEq, Token.mk.injEq, Option.some.injEq, eq_comm]

/-- What becomes a token is spelled as a lexeme. -/
theorem isSpelled_of_classify {text : String} {line : Nat} {token : Token}
    (classified : classify text line = .ok token) : IsSpelled text.toList := by
  have recognised := recognises_of_classify classified
  rw [(classify_eq_ok_iff.mp classified).2.1] at recognised
  exact isSpelled_of_recognises recognised

/-- Each text yields its token, on the line behind the newlines among the texts before it. -/
theorem exists_tokens_of_lexedTexts {texts : List String}
    (classified : ∀ text ∈ texts, ∃ token, classify text 1 = .ok token) (line : Nat) :
    ∃ tokens : List Token, lexedTexts line texts = tokens.map .ok ∧
      tokens.length = texts.length ∧ ∀ (i : Nat) (text : String), texts[i]? = some text →
        ∃ token, tokens[i]? = some token ∧
          classify text (line + (texts.take i).count "\n") = .ok token := by
  induction texts generalizing line with
  | nil => exact ⟨[], rfl, rfl, by simp⟩
  | cons text texts ih =>
    obtain ⟨⟨token, here⟩, others⟩ := List.forall_mem_cons.mp classified
    have count := (isSpelled_of_classify here).count_newline
    obtain ⟨kind, named, _⟩ := classify_eq_ok_iff.mp here
    have first : classify text line = .ok ⟨token.kind, text, line⟩ :=
      classify_eq_ok_iff.mpr ⟨kind, rfl, rfl⟩
    obtain ⟨tokens, lexed, length, each⟩ := ih others (line + [text].count "\n")
    refine ⟨⟨token.kind, text, line⟩ :: tokens, ?_, ?_, ?_⟩
    · rw [lexedTexts, first, count, lexed, List.map_cons]
    · rw [List.length_cons, List.length_cons, length]
    · intro i other listed
      cases i with
      | zero =>
        obtain rfl : text = other := by simpa using listed
        exact ⟨_, rfl, first⟩
      | succ i =>
        rw [List.getElem?_cons_succ] at listed ⊢
        rw [List.take_succ_cons, ← List.singleton_append, List.count_append, ← Nat.add_assoc]
        exact each i other listed

/-- Every token of a segmentation is what its own text and line are classified as. -/
theorem Segmented.classified {before text : List Char} {items : List (Except LexError Token)}
    (segmented : Segmented before text items) {token : Token} (member : .ok token ∈ items) :
    classify token.text token.line = .ok token := by
  induction segmented with
  | finish => cases member
  | unclosed => simp at member
  | lexeme _ _ _ _ _ ih =>
    rcases List.mem_cons.mp member with same | later
    · obtain ⟨_, named, line⟩ := classify_eq_ok_iff.mp same.symm
      rw [named, line]
      exact same.symm
    · exact ih later

/-- The texts of the tokens of a source text are classified as they were there. -/
theorem classify_of_tokenize {source : String} {tokens : List Token}
    (tokenized : tokenize source = .ok tokens) {token : Token} (member : token ∈ tokens) :
    classify token.text 1 = .ok ⟨token.kind, token.text, 1⟩ := by
  have found : .ok token ∈ lex source := by
    rw [tokenize_eq_ok_iff.mp tokenized]
    exact List.mem_map_of_mem member
  have classified := (segmented_lexFrom [] source.toList).classified found
  exact classify_eq_ok_iff.mpr ⟨(classify_eq_ok_iff.mp classified).1, rfl, rfl⟩

/-- Texts that are classified one by one are lexed as the same tokens when they are written with
single spaces between them. -/
theorem exists_tokenize_intercalate {texts : List String}
    (classified : ∀ text ∈ texts, ∃ token, classify text 1 = .ok token) :
    ∃ tokens : List Token, tokenize (" ".intercalate texts) = .ok tokens ∧
      tokens.length = texts.length ∧ ∀ (i : Nat) (text : String), texts[i]? = some text →
        ∃ token, tokens[i]? = some token ∧
          classify text (1 + (texts.take i).count "\n") = .ok token := by
  have spelled : ∀ text ∈ texts, IsSpelled text.toList := by
    intro text member
    obtain ⟨token, here⟩ := classified text member
    exact isSpelled_of_classify here
  obtain ⟨tokens, lexed, each⟩ := exists_tokens_of_lexedTexts classified 1
  refine ⟨tokens, ?_, each⟩
  rw [tokenize_eq_ok_iff, ← lexed, lex, String.toList_intercalate]
  exact lexFrom_eq_of_segmented (segmented_intercalate spelled [] .nil)

/-- Writing tokens with single spaces between them and lexing them again is the identity: for all
texts that are classified one by one, the tokens have these texts, the kinds that they are
classified as, and the lines that the newlines among them begin. In particular the tokens of a
source text are found again, up to their lines. -/
theorem tokenize_intercalate :
    (∀ texts : List String, (∀ text ∈ texts, ∃ token, classify text 1 = .ok token) →
      ∃ tokens : List Token, tokenize (" ".intercalate texts) = .ok tokens ∧
        tokens.length = texts.length ∧ ∀ (i : Nat) (text : String), texts[i]? = some text →
          ∃ token, tokens[i]? = some token ∧ token.text = text ∧
            classify text 1 = .ok ⟨token.kind, text, 1⟩ ∧
            token.line = 1 + (texts.take i).count "\n") ∧
    ∀ (source : String) (tokens : List Token), tokenize source = .ok tokens →
      ∃ again : List Token, tokenize (" ".intercalate (tokens.map Token.text)) = .ok again ∧
        again.map (fun token => (token.kind, token.text)) =
          tokens.map (fun token => (token.kind, token.text)) := by
  constructor
  · intro texts classified
    obtain ⟨tokens, tokenized, length, each⟩ := exists_tokenize_intercalate classified
    refine ⟨tokens, tokenized, length, fun i text listed => ?_⟩
    obtain ⟨token, found, here⟩ := each i text listed
    obtain ⟨kind, named, line⟩ := classify_eq_ok_iff.mp here
    exact ⟨token, found, named, classify_eq_ok_iff.mpr ⟨kind, rfl, rfl⟩, line⟩
  · intro source tokens tokenized
    have classified : ∀ text ∈ tokens.map Token.text, ∃ token, classify text 1 = .ok token := by
      intro text member
      obtain ⟨token, listed, rfl⟩ := List.mem_map.mp member
      exact ⟨_, classify_of_tokenize tokenized listed⟩
    obtain ⟨again, relexed, length, each⟩ := exists_tokenize_intercalate classified
    refine ⟨again, relexed, List.ext_getElem? fun i => ?_⟩
    rw [List.getElem?_map, List.getElem?_map]
    cases listed : tokens[i]? with
    | none =>
      rw [List.getElem?_eq_none_iff, ← List.length_map Token.text, ← length] at listed
      rw [List.getElem?_eq_none_iff.mpr listed]
    | some token =>
      obtain ⟨found, same, here⟩ := each i token.text (by rw [List.getElem?_map, listed]; rfl)
      have once := classify_of_tokenize tokenized (List.mem_of_getElem? listed)
      obtain ⟨kind, _, _⟩ := classify_eq_ok_iff.mp once
      obtain ⟨kind', named, _⟩ := classify_eq_ok_iff.mp here
      rw [same, Option.map_some, Option.map_some, named, Option.some.inj (kind'.symm.trans kind)]

/-- A signed exponent and a newline survive, and the line is counted behind the newline. -/
theorem tokenize_intercalate_exponent :
    (∀ text ∈ ["1e+5", "\n", "<>"], ∃ token, classify text 1 = .ok token) ∧
    ∃ tokens : List Token, tokenize "1e+5 \n <>" = .ok tokens ∧
      ∃ token, tokens[2]? = some token ∧ token.text = "<>" ∧
        classify "<>" 1 = .ok ⟨token.kind, "<>", 1⟩ ∧ token.line = 2 := by
  have classified : ∀ text ∈ ["1e+5", "\n", "<>"], ∃ token, classify text 1 = .ok token := by
    simp only [List.forall_mem_cons]
    exact ⟨⟨_, rfl⟩, ⟨_, rfl⟩, ⟨_, rfl⟩, List.forall_mem_nil _⟩
  obtain ⟨tokens, tokenized, _, each⟩ := tokenize_intercalate.1 _ classified
  exact ⟨classified, tokens, tokenized, each 2 _ rfl⟩

end DimLang
