import DimLang.Proofs.Lexing.Spelling

/-!
# Lexical classes

Apart from names, the classes of lexemes have no text in common, so that the order in which they
are tried does not matter as long as names come last. Most classes have a few fixed texts each,
which are compared one by one; of the others, a float ends in a digit but does not consist of
digits only, while an integer that ends in a digit does.

- `TokenKind.Describes` is the class of texts of a kind
- `IsFloat` is the shape of a float
- `kinds_unambiguous`: a text belongs to one class at most, unless it is a reserved word and also
  looks like a name
-/

namespace DimLang

open Pattern TokenKind

/-- The whole text belongs to the pattern of the kind. -/
def TokenKind.Describes (kind : TokenKind) (text : String) : Prop :=
  ∃ pattern, kind.pattern? = some pattern ∧ pattern.Matches text.toList

/-- A kind's pattern recognises exactly the texts the kind describes. -/
theorem TokenKind.recognises_iff {kind : TokenKind} {text : String} :
    kind.recognises text.toList = true ↔ kind.Describes text := by
  rw [recognises, Describes]
  cases kind.pattern? with
  | none => simp
  | some pattern => simp [accepts_iff]

/-! ## Fixed texts -/

/-- The words of a union of words. -/
def Pattern.listed : Pattern → List (List Char)
  | word cs => [cs]
  | alt p q => p.listed ++ q.listed
  | _ => []

/-- Whether the pattern is a union of words. -/
def Pattern.isListed : Pattern → Bool
  | word _ => true
  | alt p q => p.isListed && q.isListed
  | _ => false

/-- A pattern that lists its texts matches only those it lists. -/
theorem Pattern.mem_listed_of_matches {p : Pattern} {cs : List Char}
    (listed : p.isListed = true) (matched : Matches p cs) : cs ∈ p.listed := by
  induction matched with
  | word cs => exact List.mem_singleton_self cs
  | left _ ih =>
    rw [isListed, Bool.and_eq_true] at listed
    exact List.mem_append_left _ (ih listed.1)
  | right _ ih =>
    rw [isListed, Bool.and_eq_true] at listed
    exact List.mem_append_right _ (ih listed.2)
  | _ => cases listed

/-- The texts of a kind that has fixed texts only. -/
def TokenKind.fixedTexts (kind : TokenKind) : List (List Char) :=
  match kind.pattern? with
  | some pattern => pattern.listed
  | none => []

/-- A name, a number, or a fixed text. -/
theorem TokenKind.Describes.cases {kind : TokenKind} {text : String}
    (describes : kind.Describes text) :
    kind = identifier ∨ kind = intNumber ∨ kind = floatNumber ∨
      text.toList ∈ kind.fixedTexts := by
  obtain ⟨pattern, named, matched⟩ := describes
  cases kind with
  | identifier => exact .inl rfl
  | intNumber => exact .inr (.inl rfl)
  | floatNumber => exact .inr (.inr (.inl rfl))
  | eof | any => cases named
  | _ =>
    cases named
    exact .inr (.inr (.inr (mem_listed_of_matches rfl matched)))

/-- No fixed text belongs to two kinds. -/
theorem eq_of_mem_fixedTexts {kind kind' : TokenKind} {cs : List Char}
    (fixed : cs ∈ kind.fixedTexts) (fixed' : cs ∈ kind'.fixedTexts) : kind = kind' := by
  have distinct : ∀ kind ∈ TokenKind.all, ∀ kind' ∈ TokenKind.all, ∀ cs ∈ kind.fixedTexts,
      cs ∈ kind'.fixedTexts → kind = kind' := by
    decide +kernel
  exact distinct kind kind.mem_all kind' kind'.mem_all cs fixed fixed'

/-- No fixed text begins like a number. -/
theorem not_numeric_of_mem_fixedTexts {kind : TokenKind} {first : Char} {more : List Char}
    (fixed : first :: more ∈ kind.fixedTexts) : ScanMode.ofFirst first ≠ .numeric := by
  have others : ∀ kind ∈ TokenKind.all, ∀ cs ∈ kind.fixedTexts,
      cs.head?.map ScanMode.ofFirst ≠ some .numeric := by
    decide +kernel
  exact fun numeric => others kind kind.mem_all _ fixed (congrArg some numeric)

/-- The fixed texts that look like names. -/
def reservedWords : List String :=
  ["begin", "end", "true", "false", "if", "then", "else", "for", "to", "do", "dim", "var",
   "while", "read", "write", "as", "not", "integer", "float", "bool", "or", "and"]

/-- A fixed text that could be a name is a reserved word. -/
theorem mem_reservedWords {kind : TokenKind} {text : String}
    (name : identifier.Describes text) (fixed : text.toList ∈ kind.fixedTexts) :
    text ∈ reservedWords := by
  have reserved : ∀ kind ∈ TokenKind.all, ∀ cs ∈ kind.fixedTexts,
      identifier.recognises cs = true → String.ofList cs ∈ reservedWords := by
    decide +kernel
  have listed := reserved kind kind.mem_all _ fixed (recognises_iff.mpr name)
  rwa [String.ofList_toList] at listed

/-! ## Numbers -/

/-- The marks behind integers. -/
def intMarks : List Char :=
  ['b', 'B', 'o', 'O', 'h', 'H', 'd', 'D']

section Numbers

variable {cs : List Char}

/-- An integer consists of digits or ends in a mark. -/
theorem isDigit_or_mark_of_int (matched : Matches intPattern cs) :
    (∀ c ∈ cs, c.isDigit = true) ∨ ∃ front, ∃ mark ∈ intMarks, cs = front ++ [mark] := by
  have ofMark {p : Pattern} {d e : Char} {cs : List Char}
      (matched : Matches (seq p (oneOf [(d, d), (e, e)])) cs) :
      ∃ front mark, (mark = d ∨ mark = e) ∧ cs = front ++ [mark] := by
    obtain ⟨front, _, rfl, _, marked⟩ := matches_seq_iff.mp matched
    obtain ⟨mark, rfl, member⟩ := matches_oneOf_iff.mp marked
    exact ⟨front, mark, eq_or_eq_of_inClass member, rfl⟩
  simp only [intPattern, matches_alt_iff] at matched
  rcases matched with binary | octal | hexadecimal | decimal
  · obtain ⟨front, mark, rfl | rfl, rfl⟩ := ofMark binary <;>
      exact .inr ⟨front, _, by decide, rfl⟩
  · obtain ⟨front, mark, rfl | rfl, rfl⟩ := ofMark octal <;>
      exact .inr ⟨front, _, by decide, rfl⟩
  · obtain ⟨first, _, rfl, _, behind⟩ := matches_seq_iff.mp hexadecimal
    obtain ⟨front, mark, rfl | rfl, rfl⟩ := ofMark behind <;>
      exact .inr ⟨first ++ front, _, by decide, (List.append_assoc _ _ _).symm⟩
  · obtain ⟨digits, _, rfl, numerals, marked⟩ := matches_seq_iff.mp decimal
    rcases matches_opt_iff.mp marked with rfl | marked
    · rw [List.append_nil]
      exact .inl (isDigit_of_matches_digits (.inr rfl) numerals)
    · obtain ⟨mark, rfl, member⟩ := matches_oneOf_iff.mp marked
      obtain rfl | rfl := eq_or_eq_of_inClass member <;>
        exact .inr ⟨digits, _, by decide, rfl⟩

/-- A float is a fraction without exponent, or digits, perhaps with a point, and an exponent. -/
inductive IsFloat : List Char → Prop
  | plain {whole places : List Char} (wholeDigits : ∀ c ∈ whole, c.isDigit = true)
      (placeDigits : ∀ c ∈ places, c.isDigit = true) (nonempty : places ≠ []) :
      IsFloat (whole ++ '.' :: places)
  | scaled {mantissa sign digits : List Char} {mark : Char} (begun : mantissa ≠ [])
      (inMantissa : ∀ c ∈ mantissa, c.isDigit = true ∨ c = '.') (marks : mark = 'e' ∨ mark = 'E')
      (signs : sign = [] ∨ sign = ['+'] ∨ sign = ['-'])
      (scaleDigits : ∀ c ∈ digits, c.isDigit = true) (nonempty : digits ≠ []) :
      IsFloat (mantissa ++ mark :: (sign ++ digits))

/-- A repeated class matches at least one character. -/
theorem ne_nil_of_matches_plus {ranges : List (Char × Char)}
    (matched : Matches (plus (oneOf ranges)) cs) : cs ≠ [] := by
  obtain ⟨first, more, rfl, _⟩ := exists_cons_of_matches_plus matched
  exact List.cons_ne_nil _ _

/-- A mantissa of digits and points followed by an exponent is a `Float` text. -/
theorem isFloat_append_exponent {mantissa scale : List Char} (begun : mantissa ≠ [])
    (inMantissa : ∀ c ∈ mantissa, c.isDigit = true ∨ c = '.') (matched : Matches exponent scale) :
    IsFloat (mantissa ++ scale) := by
  obtain ⟨_, _, rfl, marked, behind⟩ := matches_seq_iff.mp matched
  obtain ⟨sign, digits, rfl, signed, numerals⟩ := matches_seq_iff.mp behind
  obtain ⟨mark, rfl, marks⟩ := matches_oneOf_iff.mp marked
  have scaleDigits := isDigit_of_matches_digits (.inr rfl) numerals
  have nonempty := ne_nil_of_matches_plus numerals
  have signs : sign = [] ∨ sign = ['+'] ∨ sign = ['-'] := by
    rcases matches_opt_iff.mp signed with rfl | signed
    · exact .inl rfl
    · obtain ⟨c, rfl, member⟩ := matches_oneOf_iff.mp signed
      exact .inr ((eq_or_eq_of_inClass member).imp (congrArg ([·])) (congrArg ([·])))
  change IsFloat (mantissa ++ mark :: (sign ++ digits))
  exact .scaled begun inMantissa (eq_or_eq_of_inClass marks) signs scaleDigits nonempty

/-- What the `Float` pattern matches holds a point or an exponent, as `IsFloat` says. -/
theorem isFloat_of_matches (matched : Matches floatPattern cs) : IsFloat cs := by
  rcases matches_alt_iff.mp matched with scaled | fraction
  · obtain ⟨digits, scale, rfl, numerals, exponent⟩ := matches_seq_iff.mp scaled
    have inMantissa := isDigit_of_matches_digits (.inr rfl) numerals
    exact isFloat_append_exponent (ne_nil_of_matches_plus numerals)
      (fun c member => .inl (inMantissa c member)) exponent
  · obtain ⟨whole, _, rfl, numerals, behind⟩ := matches_seq_iff.mp fraction
    obtain ⟨_, _, rfl, point, decimal⟩ := matches_seq_iff.mp behind
    obtain rfl := matches_word_iff.mp point
    obtain ⟨places, scale, rfl, decimals, scaled⟩ := matches_seq_iff.mp decimal
    have wholeDigits := isDigit_of_matches_digits (.inl rfl) numerals
    have placeDigits := isDigit_of_matches_digits (.inr rfl) decimals
    rcases matches_opt_iff.mp scaled with rfl | exponent
    · rw [List.append_nil]
      exact .plain wholeDigits placeDigits (ne_nil_of_matches_plus decimals)
    · have inMantissa : ∀ c ∈ whole ++ '.' :: places, c.isDigit = true ∨ c = '.' := by
        intro c member
        rcases List.mem_append.mp member with inWhole | behind
        · exact .inl (wholeDigits c inWhole)
        · rcases List.mem_cons.mp behind with rfl | inPlaces
          · exact .inr rfl
          · exact .inl (placeDigits c inPlaces)
      have isFloat := isFloat_append_exponent (by simp) inMantissa exponent
      rwa [List.append_assoc, List.cons_append] at isFloat

/-- A float begins with a digit or a point. -/
theorem IsFloat.exists_first (isFloat : IsFloat cs) :
    ∃ first more, cs = first :: more ∧ (first.isDigit = true ∨ first = '.') := by
  cases isFloat with
  | @plain whole places wholeDigits =>
    cases whole with
    | nil => exact ⟨_, _, rfl, .inr rfl⟩
    | cons first whole => exact ⟨first, _, rfl, .inl (wholeDigits first List.mem_cons_self)⟩
  | @scaled mantissa _ _ _ begun inMantissa =>
    obtain ⟨first, mantissa, rfl⟩ := List.exists_cons_of_ne_nil begun
    exact ⟨first, _, rfl, inMantissa first List.mem_cons_self⟩

/-- A float ends in a digit. -/
theorem IsFloat.exists_last (isFloat : IsFloat cs) :
    ∃ front last, last.isDigit = true ∧ cs = front ++ [last] := by
  have ofDigits (front : List Char) {digits : List Char}
      (numerals : ∀ c ∈ digits, c.isDigit = true) (nonempty : digits ≠ []) :
      ∃ before last, last.isDigit = true ∧ front ++ digits = before ++ [last] := by
    obtain ⟨others, last, rfl⟩ := (List.eq_nil_or_concat digits).resolve_left nonempty
    rw [List.concat_eq_append] at numerals ⊢
    exact ⟨front ++ others, last, numerals last (by simp), (List.append_assoc _ _ _).symm⟩
  cases isFloat with
  | @plain whole places _ placeDigits nonempty =>
    rw [List.append_cons]
    exact ofDigits _ placeDigits nonempty
  | @scaled mantissa sign digits mark _ _ _ _ scaleDigits nonempty =>
    rw [List.append_cons, ← List.append_assoc]
    exact ofDigits _ scaleDigits nonempty

/-- A float does not consist of digits. -/
theorem IsFloat.exists_not_digit (isFloat : IsFloat cs) : ∃ c ∈ cs, c.isDigit = false := by
  cases isFloat with
  | plain => exact ⟨'.', by simp, rfl⟩
  | @scaled mantissa sign digits mark _ _ marks =>
    refine ⟨mark, by simp, ?_⟩
    rcases marks with rfl | rfl <;> rfl

/-- No integer is a float: what ends in a digit like a float would consist of digits. -/
theorem IsFloat.not_int (isFloat : IsFloat cs) : ¬ Matches intPattern cs := by
  intro matched
  obtain ⟨front, last, lastDigit, rfl⟩ := isFloat.exists_last
  rcases isDigit_or_mark_of_int matched with digits | ⟨front', mark, marks, same⟩
  · obtain ⟨c, member, notDigit⟩ := isFloat.exists_not_digit
    rw [digits c member] at notDigit
    cases notDigit
  · obtain ⟨_, same⟩ := List.append_inj' same rfl
    obtain rfl := (List.cons.inj same).1
    have notDigits : ∀ mark ∈ intMarks, mark.isDigit = false := by simp [intMarks]
    rw [notDigits last marks] at lastDigit
    cases lastDigit

end Numbers

/-! ## One class for each text -/

section Texts

variable {kind kind' : TokenKind} {text : String}

/-- The text of a number begins like one. -/
theorem exists_numeric_of_number (number : kind = intNumber ∨ kind = floatNumber)
    (describes : kind.Describes text) :
    ∃ first more, text.toList = first :: more ∧ ScanMode.ofFirst first = .numeric := by
  obtain ⟨_, named, matched⟩ := describes
  rcases number with rfl | rfl
  · cases named
    obtain ⟨first, more, chars, isDigit⟩ := exists_digit_of_int matched
    exact ⟨first, more, chars, ofFirst_of_isDigit isDigit⟩
  · cases named
    obtain ⟨first, more, chars, isDigit | rfl⟩ := (isFloat_of_matches matched).exists_first
    · exact ⟨first, more, chars, ofFirst_of_isDigit isDigit⟩
    · exact ⟨'.', more, chars, rfl⟩

/-- The text of a name does not begin like a number. -/
theorem not_numeric_of_name (name : identifier.Describes text) {first : Char} {more : List Char}
    (chars : text.toList = first :: more) : ScanMode.ofFirst first ≠ .numeric := by
  obtain ⟨_, named, matched⟩ := name
  cases named
  obtain ⟨_, _, split, letter, _⟩ := matches_seq_iff.mp matched
  obtain ⟨c, rfl, member⟩ := matches_oneOf_iff.mp letter
  obtain ⟨rfl, _⟩ := List.cons.inj (chars.symm.trans split)
  rw [ofFirst_of_letter member]
  decide

/-- Two classes apart from names have no text in common. -/
theorem TokenKind.Describes.unique (describes : kind.Describes text)
    (describes' : kind'.Describes text) (other : kind ≠ identifier)
    (other' : kind' ≠ identifier) : kind = kind' := by
  have ofNumber {kind kind' : TokenKind} (number : kind = intNumber ∨ kind = floatNumber)
      (describes : kind.Describes text) : text.toList ∉ kind'.fixedTexts := by
    obtain ⟨first, more, chars, numeric⟩ := exists_numeric_of_number number describes
    rw [chars]
    exact fun fixed => not_numeric_of_mem_fixedTexts fixed numeric
  have apart (int : intNumber.Describes text) (float : floatNumber.Describes text) : False := by
    obtain ⟨_, named, matched⟩ := int
    obtain ⟨_, named', matched'⟩ := float
    cases named
    cases named'
    exact (isFloat_of_matches matched').not_int matched
  rcases describes.cases.resolve_left other with rfl | rfl | fixed
  · rcases describes'.cases.resolve_left other' with rfl | rfl | fixed'
    · rfl
    · exact (apart describes describes').elim
    · exact absurd fixed' (ofNumber (.inl rfl) describes)
  · rcases describes'.cases.resolve_left other' with rfl | rfl | fixed'
    · exact (apart describes' describes).elim
    · rfl
    · exact absurd fixed' (ofNumber (.inr rfl) describes)
  · rcases describes'.cases.resolve_left other' with rfl | rfl | fixed'
    · exact absurd fixed (ofNumber (.inl rfl) describes')
    · exact absurd fixed (ofNumber (.inr rfl) describes')
    · exact eq_of_mem_fixedTexts fixed fixed'

/-- A text that looks like a name and belongs to another class is a reserved word. -/
theorem mem_reservedWords_of_describes (name : identifier.Describes text)
    (describes : kind.Describes text) (other : kind ≠ identifier) : text ∈ reservedWords := by
  have ofNumber (number : kind = intNumber ∨ kind = floatNumber) : text ∈ reservedWords := by
    obtain ⟨first, more, chars, numeric⟩ := exists_numeric_of_number number describes
    exact absurd numeric (not_numeric_of_name name chars)
  rcases describes.cases.resolve_left other with number | number | fixed
  · exact ofNumber (.inl number)
  · exact ofNumber (.inr number)
  · exact mem_reservedWords name fixed

/-- A name is a text of another kind exactly if it is a reserved word. -/
theorem describes_name_and_other_iff :
    identifier.Describes text ∧ (∃ kind, kind ≠ identifier ∧ kind.Describes text) ↔
      text ∈ reservedWords := by
  constructor
  · rintro ⟨name, kind, other, describes⟩
    exact mem_reservedWords_of_describes name describes other
  · intro reserved
    have recognised : ∀ text ∈ reservedWords, identifier.recognises text.toList = true ∧
        ∃ kind ∈ TokenKind.all, kind ≠ identifier ∧ kind.recognises text.toList = true := by
      decide +kernel
    obtain ⟨name, kind, _, other, word⟩ := recognised text reserved
    exact ⟨recognises_iff.mp name, kind, other, recognises_iff.mp word⟩

end Texts

/-! ## Orders of trial -/

/-- The token of a lexeme if the kinds are tried in the given order. -/
def classifyBy (order : List TokenKind) (lexeme : String) (line : Nat) : Except LexError Token :=
  match kindAmong? order lexeme.toList with
  | some kind => .ok ⟨kind, lexeme, line⟩
  | none => .error (.invalidToken lexeme line)

/-- The lexer classifies in the order of `priority`. -/
theorem classify_eq_classifyBy (lexeme : String) (line : Nat) :
    classify lexeme line = classifyBy priority lexeme line :=
  rfl

/-- Every kind that describes some text is tried. -/
theorem mem_priority_of_describes {kind : TokenKind} {text : String}
    (describes : kind.Describes text) : kind ∈ priority := by
  obtain ⟨pattern, named, _⟩ := describes
  cases kind with
  | eof | any => cases named
  | _ => decide

/-- The kinds other than names, each once and in any order, and then names. -/
def NamesLast (order : List TokenKind) : Prop :=
  order.Perm priority ∧ order.getLast? = some identifier

/-- The lexer tries names last. -/
theorem namesLast_priority : NamesLast priority :=
  ⟨.refl _, rfl⟩

/-- Whatever the order of the other kinds, the kind that is found is the one that describes the
text, and names only where there is no other. -/
theorem NamesLast.kindAmong?_eq_some_iff {order : List TokenKind} (last : NamesLast order)
    {text : String} {kind : TokenKind} :
    kindAmong? order text.toList = some kind ↔ kind.Describes text ∧
      (kind = identifier → ∀ other, other ≠ identifier → ¬ other.Describes text) := by
  obtain ⟨sameKinds, lastName⟩ := last
  obtain ⟨others, rfl⟩ := List.getLast?_eq_some_iff.mp lastName
  have once : identifier ∉ others := by
    have distinct : priority.Nodup := by decide
    have nodup := sameKinds.nodup_iff.mpr distinct
    exact fun member => (List.nodup_append.mp nodup).2.2 _ member _ List.mem_cons_self rfl
  have tried {other : TokenKind} (describes : other.Describes text) (differs : other ≠ identifier) :
      other ∈ others := by
    have member := sameKinds.mem_iff.mpr (mem_priority_of_describes describes)
    rw [List.mem_append, List.mem_singleton] at member
    exact member.resolve_right differs
  have ofMem {other : TokenKind} (member : other ∈ others) : other ≠ identifier :=
    fun same => once (same ▸ member)
  rw [kindAmong?, List.find?_append, Option.or_eq_some_iff, List.find?_singleton]
  constructor
  · rintro (found | ⟨noneFound, named⟩)
    · have member := List.mem_of_find?_eq_some found
      have recognised := List.find?_some found
      exact ⟨recognises_iff.mp recognised, fun same => absurd same (ofMem member)⟩
    · split at named
      · rename_i recognised
        cases named
        refine ⟨recognises_iff.mp recognised, fun _ other differs describes => ?_⟩
        exact List.find?_eq_none.mp noneFound other (tried describes differs)
          (recognises_iff.mpr describes)
      · cases named
  · rintro ⟨describes, alone⟩
    by_cases name : kind = identifier
    · subst name
      right
      refine ⟨?_, if_pos (recognises_iff.mpr describes)⟩
      rw [List.find?_eq_none]
      intro other member recognised
      exact alone rfl other (ofMem member) (recognises_iff.mp recognised)
    · left
      have member := tried describes name
      cases found : others.find? fun kind => kind.recognises text.toList with
      | none =>
        exact absurd (recognises_iff.mpr describes) (List.find?_eq_none.mp found kind member)
      | some other =>
        have recognised := List.find?_some found
        have differs := ofMem (List.mem_of_find?_eq_some found)
        rw [(recognises_iff.mp recognised).unique describes differs name]

/-- All orders that try names last find the same kind. -/
theorem NamesLast.kindAmong?_eq {order : List TokenKind} (last : NamesLast order) (text : String) :
    kindAmong? order text.toList = kindAmong? priority text.toList := by
  ext kind
  rw [last.kindAmong?_eq_some_iff, namesLast_priority.kindAmong?_eq_some_iff]

/-- A text is no lexeme exactly if no kind describes it. -/
theorem exists_classify_eq_error_iff {text : String} {line : Nat} :
    (∃ error, classify text line = .error error) ↔ ∀ kind : TokenKind, ¬ kind.Describes text := by
  rw [classify]
  cases found : kindAmong? priority text.toList with
  | some kind =>
    have recognised := List.find?_some found
    have described : ¬ ∀ kind : TokenKind, ¬ kind.Describes text :=
      fun none => none kind (recognises_iff.mp recognised)
    simp [described]
  | none =>
    have undescribed (kind : TokenKind) : ¬ kind.Describes text := fun describes =>
      List.find?_eq_none.mp found kind (mem_priority_of_describes describes)
        (recognises_iff.mpr describes)
    simp [undescribed]

/-- A text belongs to one class at most, unless it is a reserved word and also looks like a name; in
particular no text is both an integer and a float. So its kind is the same for every order of trial
in which names come last, and it has none exactly if no pattern matches. -/
theorem kinds_unambiguous (text : String) :
    (∀ kind kind' : TokenKind, kind ≠ identifier → kind' ≠ identifier →
      kind.Describes text → kind'.Describes text → kind = kind') ∧
    (identifier.Describes text ∧ (∃ kind, kind ≠ identifier ∧ kind.Describes text) ↔
      text ∈ reservedWords) ∧
    ¬ (intNumber.Describes text ∧ floatNumber.Describes text) ∧
    (∀ order, NamesLast order → ∀ line, classifyBy order text line = classify text line) ∧
    ∀ line, (∃ error, classify text line = .error error) ↔
      ∀ kind : TokenKind, ¬ kind.Describes text := by
  refine ⟨fun kind kind' other other' describes describes' =>
    describes.unique describes' other other', describes_name_and_other_iff, ?_, ?_,
    fun line => exists_classify_eq_error_iff⟩
  · rintro ⟨int, float⟩
    cases int.unique float (by decide) (by decide)
  · intro order last line
    rw [classify_eq_classifyBy, classifyBy, classifyBy, last.kindAmong?_eq]

/-- A word that looks like a name is reserved, and it is an operator even if operators are tried
just before names. -/
theorem kinds_unambiguous_operator :
    identifier.Describes "or" ∧ addOp.Describes "or" ∧ "or" ∈ reservedWords ∧
    NamesLast (priority.dropLast.reverse ++ [identifier]) ∧
    classifyBy (priority.dropLast.reverse ++ [identifier]) "or" 1 =
      .ok ⟨.addOp, "or", 1⟩ := by
  have name : identifier.Describes "or" := recognises_iff.mp (by decide)
  have operator : addOp.Describes "or" := recognises_iff.mp (by decide)
  have last : NamesLast (priority.dropLast.reverse ++ [identifier]) :=
    ⟨(List.reverse_perm _).append_right _, rfl⟩
  obtain ⟨_, reserved, _, anyOrder, _⟩ := kinds_unambiguous "or"
  refine ⟨name, operator, reserved.mp ⟨name, addOp, by decide, operator⟩, last, ?_⟩
  rw [anyOrder _ last]
  rfl

end DimLang
