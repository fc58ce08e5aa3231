import DimLang.Proofs.Lexing.Classes
import DimLang.Proofs.Lexing.Places

/-!
# Signs

The scanner takes a sign into a number only behind an exponent mark, and no number ends in such a
mark. So a sign is never taken from behind a complete number, where it is an operator: outside of
comments a sign is either an operator by itself or the sign of the exponent of a float.

- `commentOpen` says whether a text leaves a comment open
- `Segmented.exists_around`: outside of comments every character other than a blank is in a lexeme
- `signs_outside_comments` are the two places of a sign
-/

namespace DimLang

open Text Pattern TokenKind

/-! ## Comments -/

/-- Whether a comment is open behind the character if one is open in front of it. -/
def commentBehind (isOpen : Bool) (c : Char) : Bool :=
  if isOpen then c != '\x7d' else c == '\x7b'

/-- Whether the text leaves a comment open. -/
def commentOpen (text : List Char) : Bool :=
  text.foldl commentBehind false

/-- Without an opening brace no comment is open. -/
theorem commentOpen_of_notMem {text : List Char} (noBrace : '\x7b' ∉ text) :
    commentOpen text = false := by
  rw [commentOpen]
  induction text with
  | nil => rfl
  | cons c text ih =>
    obtain ⟨other, noBrace⟩ := List.ne_and_not_mem_of_not_mem_cons noBrace
    have closed : commentBehind false c = false := by simp [commentBehind, Ne.symm other]
    rw [List.foldl_cons, closed, ih noBrace]

/-- A comment stays open until its closing brace. -/
theorem foldl_commentBehind_inside {inside : List Char} (closes : '\x7d' ∉ inside) :
    inside.foldl commentBehind true = true := by
  induction inside with
  | nil => rfl
  | cons c inside ih =>
    obtain ⟨other, closes⟩ := List.ne_and_not_mem_of_not_mem_cons closes
    have stays : commentBehind true c = true := by simp [commentBehind, Ne.symm other]
    rw [List.foldl_cons, stays, ih closes]

/-- Behind a whole comment none is open. -/
theorem foldl_commentBehind_comment {inside : List Char} (closes : '\x7d' ∉ inside)
    (behind : List Char) :
    ('\x7b' :: (inside ++ '\x7d' :: behind)).foldl commentBehind false = commentOpen behind := by
  rw [List.foldl_cons, List.foldl_append]
  change List.foldl commentBehind (inside.foldl commentBehind true) _ = _
  rw [foldl_commentBehind_inside closes]
  rfl

/-- Only what comes behind a text that leaves no comment open can leave one open. -/
theorem commentOpen_append {front : List Char} (closed : commentOpen front = false)
    (behind : List Char) : commentOpen (front ++ behind) = commentOpen behind := by
  rw [commentOpen, List.foldl_append]
  change List.foldl commentBehind (commentOpen front) behind = _
  rw [closed]
  rfl

/-- A gap leaves no comment open. -/
theorem IsGap.commentOpen_eq {gap : List Char} (isGap : IsGap gap) : commentOpen gap = false := by
  induction isGap with
  | nil => rfl
  | @blank c cs blank _ _ ih =>
    have noBrace : '\x7b' ∉ [c] := by
      rw [List.mem_singleton]
      rintro rfl
      cases blank
    exact (commentOpen_append (commentOpen_of_notMem noBrace) cs).trans ih
  | comment closes _ ih => exact (foldl_commentBehind_comment closes _).trans ih

/-- No comment is opened in a lexeme. -/
theorem commentOpen_of_begins {first : Char} {more : List Char} (begins : BeginsLexeme first)
    (isRun : IsRun (first :: more)) : commentOpen (first :: more) = false := by
  refine commentOpen_of_notMem (List.not_mem_cons_of_ne_of_not_mem begins.1.symm ?_)
  intro member
  exact absurd (isRun.2.not_ends member) (by decide)

/-! ## The lexeme around a character -/

/-- A character of two texts one behind the other is in the first or in the second. -/
theorem append_eq_around {xs ys before after : List Char} {c : Char}
    (same : xs ++ ys = before ++ c :: after) :
    (∃ rest, xs = before ++ c :: rest ∧ after = rest ++ ys) ∨
      ∃ behind, before = xs ++ behind ∧ ys = behind ++ c :: after := by
  rcases List.append_eq_append_iff.mp same with ⟨behind, front, split⟩ | ⟨rest, front, split⟩
  · exact .inr ⟨behind, front, split⟩
  · cases rest with
    | nil => exact .inr ⟨[], by simpa using front.symm, by simpa using split.symm⟩
    | cons d rest =>
      obtain ⟨rfl, rfl⟩ := List.cons.inj split
      exact .inl ⟨rest, front, rfl⟩

/-- In a gap, whatever is no blank and opens no comment stands in a comment. -/
theorem IsGap.commentOpen_around {before after : List Char} {c : Char}
    (isGap : IsGap (before ++ c :: after)) (notBlank : isBlank c = false) (other : c ≠ '\x7b') :
    commentOpen before = true := by
  generalize whole : before ++ c :: after = gap at isGap
  induction isGap generalizing before with
  | nil => simp at whole
  | @blank d cs blank sameLine others ih =>
    cases before with
    | nil =>
      obtain ⟨rfl, _⟩ := List.cons.inj whole
      rw [notBlank] at blank
      cases blank
    | cons e before =>
      obtain ⟨rfl, later⟩ := List.cons.inj whole
      have closed : commentOpen [e] = false := (IsGap.blank blank sameLine .nil).commentOpen_eq
      exact (commentOpen_append closed before).trans (ih later)
  | @comment inside cs closes others ih =>
    cases before with
    | nil => exact absurd (List.cons.inj whole).1 other
    | cons d before =>
      obtain ⟨rfl, later⟩ := List.cons.inj whole
      change before.foldl commentBehind true = true
      rcases append_eq_around later.symm with ⟨rest, rfl, _⟩ | ⟨behind, rfl, split⟩
      · exact foldl_commentBehind_inside fun member => closes (List.mem_append_left _ member)
      · cases behind with
        | nil =>
          rw [List.append_nil]
          exact foldl_commentBehind_inside closes
        | cons e behind =>
          obtain ⟨rfl, rfl⟩ := List.cons.inj split
          exact (foldl_commentBehind_comment closes behind).trans (ih rfl)

/-- Outside of comments, every character that is no blank and opens no comment is in a lexeme. -/
theorem Segmented.exists_around {front text before after : List Char} {c : Char}
    {items : List (Except LexError Token)} (segmented : Segmented front text items)
    (whole : text = before ++ c :: after) (notBlank : isBlank c = false) (other : c ≠ '\x7b')
    (outside : commentOpen before = false) :
    ∃ earlier later start run rest behind, before = start ++ run ∧ after = rest ++ behind ∧
      Segmented front start earlier ∧ IsLexeme (run ++ c :: rest) behind ∧
      items = earlier ++
        classify (String.ofList (run ++ c :: rest)) (lineAfter (front ++ start)) :: later := by
  induction segmented generalizing before with
  | finish isGap =>
    rw [whole] at isGap
    rw [isGap.commentOpen_around notBlank other] at outside
    cases outside
  | @unclosed front gap inside isGap opened =>
    rcases append_eq_around whole with ⟨rest, rfl, _⟩ | ⟨behind, rfl, split⟩
    · rw [isGap.commentOpen_around notBlank other] at outside
      cases outside
    · cases behind with
      | nil => exact absurd (List.cons.inj split).1.symm other
      | cons d behind =>
        obtain ⟨rfl, rfl⟩ := List.cons.inj split
        have insideComment : commentOpen ('\x7b' :: behind) = true :=
          foldl_commentBehind_inside fun member => opened (List.mem_append_left _ member)
        rw [commentOpen_append isGap.commentOpen_eq, insideComment] at outside
        cases outside
  | @lexeme front gap more behind first items isGap begins longest _ others ih =>
    rcases append_eq_around whole with ⟨rest, rfl, _⟩ | ⟨middle, rfl, split⟩
    · rw [isGap.commentOpen_around notBlank other] at outside
      cases outside
    · rcases append_eq_around split with ⟨rest, run, rfl⟩ | ⟨next, rfl, rfl⟩
      · refine ⟨[], items, gap, middle, rest, behind, rfl, rfl, .finish isGap, ?_, ?_⟩
        · rw [← run]
          exact .run begins longest
        · rw [run]
          rfl
      · rw [commentOpen_append isGap.commentOpen_eq,
          commentOpen_append (commentOpen_of_begins begins longest.1)] at outside
        obtain ⟨earlier, later, start, run, rest, behind, rfl, rfl, segmented, isLexeme, items⟩ :=
          ih rfl outside
        refine ⟨_ :: earlier, later, gap ++ (first :: more ++ start), run, rest, behind, by simp,
          rfl, .cons isGap begins longest.of_append.of_append segmented, isLexeme, ?_⟩
        simp [items]

/-! ## Signs behind exponent marks -/

/-- The character is a plus or a minus. -/
def IsSign (c : Char) : Prop :=
  c = '+' ∨ c = '-'

/-- Every further character of a lexeme was accepted behind the one before it. -/
theorem ScanMode.Continues.exists_accepts {mode : ScanMode} {previous c : Char}
    {cs behind : List Char} (continues : mode.Continues previous (cs ++ c :: behind)) :
    ∃ front last, previous :: cs = front ++ [last] ∧ mode.accepts (some last) c = true := by
  induction cs generalizing previous with
  | nil => exact ⟨[], previous, rfl, continues.2.1⟩
  | cons d cs ih =>
    obtain ⟨front, last, split, accepted⟩ := ih continues.2.2
    exact ⟨previous :: front, last, congrArg _ split, accepted⟩

/-- A number takes a sign only behind an exponent mark. -/
theorem exists_mark_in_front {first sign : Char} {more back : List Char}
    (numeric : ScanMode.ofFirst first = .numeric) (isSign : IsSign sign)
    (isRun : IsRun (first :: (more ++ sign :: back))) :
    ∃ front mark, (mark = 'e' ∨ mark = 'E') ∧ first :: more = front ++ [mark] := by
  have continues := isRun.2
  rw [numeric] at continues
  obtain ⟨front, last, split, accepted⟩ := continues.exists_accepts
  refine ⟨front, last, ?_, split⟩
  rcases isSign with rfl | rfl <;> simpa [ScanMode.accepts] using accepted

/-- No class has a text that begins like a number and ends in an exponent mark. -/
theorem not_describes_of_mark {kind : TokenKind} {text : String} {first mark : Char}
    {more front : List Char} (chars : text.toList = first :: more)
    (numeric : ScanMode.ofFirst first = .numeric) (marks : mark = 'e' ∨ mark = 'E')
    (split : first :: more = front ++ [mark]) : ¬ kind.Describes text := by
  intro describes
  have notDigit : mark.isDigit = false := by rcases marks with rfl | rfl <;> rfl
  have ofLast {front' : List Char} {last : Char} (split' : text.toList = front' ++ [last]) :
      last = mark := by
    rw [chars, split] at split'
    exact (List.cons.inj (List.append_inj' split' rfl).2).1.symm
  rcases describes.cases with rfl | rfl | rfl | fixed
  · exact not_numeric_of_name describes chars numeric
  · obtain ⟨_, named, matched⟩ := describes
    cases named
    rcases isDigit_or_mark_of_int matched with digits | ⟨front', mark', marks', split'⟩
    · have isDigit := digits mark (by simp [chars, split])
      rw [notDigit] at isDigit
      cases isDigit
    · obtain rfl := ofLast split'
      have others : 'e' ∉ intMarks ∧ 'E' ∉ intMarks := by decide
      rcases marks with rfl | rfl
      · exact others.1 marks'
      · exact others.2 marks'
  · obtain ⟨_, named, matched⟩ := describes
    cases named
    obtain ⟨front', last, isDigit, split'⟩ := (isFloat_of_matches matched).exists_last
    rw [ofLast split', notDigit] at isDigit
    cases isDigit
  · rw [chars] at fixed
    exact not_numeric_of_mem_fixedTexts fixed numeric

/-- What the scanner has read of a number when it takes a sign belongs to no class. -/
theorem exists_error_in_front {item : Except LexError Token} {source : String}
    (found : item ∈ lex source) {first sign : Char} {more back : List Char}
    (text : (lexemeOf item).text = String.ofList (first :: (more ++ sign :: back)))
    (numeric : ScanMode.ofFirst first = .numeric) (isSign : IsSign sign) (line : Nat) :
    ∃ error, classify (String.ofList (first :: more)) line = .error error := by
  have segmented := segmented_lexFrom [] source.toList
  obtain ⟨earlier, later, items⟩ := List.append_of_mem found
  change Segmented _ _ (lex source) at segmented
  rw [items] at segmented
  obtain ⟨before, lexeme, after, _, _, isLexeme, rfl⟩ := segmented.exists_place
  rw [lexemeOf_lexedAs] at text
  obtain rfl : lexeme = _ := String.ofList_injective text
  generalize whole : first :: (more ++ sign :: back) = lexeme at isLexeme
  cases isLexeme with
  | brace => simp at whole
  | run begins longest =>
    have isRun := longest.1
    rw [← whole] at isRun
    obtain ⟨front, mark, marks, split⟩ := exists_mark_in_front numeric isSign isRun
    rw [exists_classify_eq_error_iff]
    exact fun kind => not_describes_of_mark String.toList_ofList numeric marks split

/-! ## Signs in tokens -/

/-- A sign is neither a digit nor a point. -/
theorem IsSign.not_inMantissa {sign : Char} (isSign : IsSign sign) :
    ¬ (sign.isDigit = true ∨ sign = '.') := by
  rcases isSign with rfl | rfl <;> decide

/-- A text of one character has nothing around it. -/
theorem eq_nil_of_length_le_one {run rest : List Char} {c : Char}
    (short : (run ++ c :: rest).length ≤ 1) : run = [] ∧ rest = [] := by
  rw [List.length_append, List.length_cons] at short
  exact ⟨List.eq_nil_of_length_eq_zero (by omega), List.eq_nil_of_length_eq_zero (by omega)⟩

/-- The only sign of a float is the one behind its exponent mark. -/
theorem IsFloat.exponent_of_sign {run rest : List Char} {sign : Char} (isSign : IsSign sign)
    (isFloat : IsFloat (run ++ sign :: rest)) :
    ∃ mantissa mark, run = mantissa ++ [mark] ∧ mantissa ≠ [] ∧
      (∀ c ∈ mantissa, c.isDigit = true ∨ c = '.') ∧ (mark = 'e' ∨ mark = 'E') ∧
      rest ≠ [] ∧ ∀ c ∈ rest, c.isDigit = true := by
  have notDigit : ¬ sign.isDigit = true := fun isDigit => isSign.not_inMantissa (.inl isDigit)
  generalize whole : run ++ sign :: rest = text at isFloat
  cases isFloat with
  | @plain wholePart places wholeDigits placeDigits =>
    have member : sign ∈ wholePart ++ '.' :: places := by simp [← whole]
    rcases List.mem_append.mp member with inWhole | behind
    · exact absurd (wholeDigits sign inWhole) notDigit
    · rcases List.mem_cons.mp behind with point | inPlaces
      · exact absurd (.inr point) isSign.not_inMantissa
      · exact absurd (placeDigits sign inPlaces) notDigit
  | @scaled mantissa sign' digits mark begun inMantissa marks signs scaleDigits nonempty =>
    rcases append_eq_around whole.symm with ⟨_, rfl, _⟩ | ⟨scale, rfl, split⟩
    · exact absurd (inMantissa sign (by simp)) isSign.not_inMantissa
    · have notMark : mark ≠ sign := by
        rcases marks with rfl | rfl <;> rcases isSign with rfl | rfl <;> decide
      cases scale with
      | nil => exact absurd (List.cons.inj split).1 notMark
      | cons c scale =>
        obtain ⟨rfl, behindMark⟩ := List.cons.inj split
        -- The sign is not among the digits, so it is the one in front of them.
        rcases append_eq_around behindMark with ⟨behind, signed, digits⟩ | ⟨_, _, rfl⟩
        · have short : sign'.length ≤ 1 := by rcases signs with rfl | rfl | rfl <;> decide
          rw [signed] at short
          obtain ⟨rfl, rfl⟩ := eq_nil_of_length_le_one short
          exact ⟨mantissa, mark, rfl, begun, inMantissa, marks, digits ▸ nonempty,
            digits ▸ scaleDigits⟩
        · exact absurd (scaleDigits sign (by simp)) notDigit

/-- Only additive operators and floats have signs, and such an operator is nothing but the sign. -/
theorem TokenKind.Describes.cases_of_sign {kind : TokenKind} {text : String} {sign : Char}
    (describes : kind.Describes text) (isSign : IsSign sign) (member : sign ∈ text.toList) :
    kind = addOp ∧ text.toList = [sign] ∨ kind = floatNumber ∧ IsFloat text.toList := by
  have allowing : ∀ kind ∈ TokenKind.all, ∀ pattern ∈ kind.pattern?,
      pattern.allows '+' = true ∨ pattern.allows '-' = true →
        kind = addOp ∨ kind = floatNumber := by decide
  obtain ⟨pattern, named, matched⟩ := describes
  have allowed : pattern.allows '+' = true ∨ pattern.allows '-' = true := by
    rcases isSign with rfl | rfl
    · exact .inl (matched.allows_of_mem member)
    · exact .inr (matched.allows_of_mem member)
  rcases allowing kind kind.mem_all pattern named allowed with rfl | rfl
  · cases named
    have alone : ∀ text ∈ ["or", "+", "-"], ('+' ∈ text.toList → text.toList = ['+']) ∧
        ('-' ∈ text.toList → text.toList = ['-']) := by decide
    obtain ⟨text', listed, same⟩ := matches_words_iff.mp matched
    rw [same] at member ⊢
    rcases isSign with rfl | rfl
    · exact .inl ⟨rfl, (alone text' listed).1 member⟩
    · exact .inl ⟨rfl, (alone text' listed).2 member⟩
  · cases named
    exact .inr ⟨rfl, isFloat_of_matches matched⟩

/-- The places of a sign in a tokenized source text: an additive operator of its own, or behind the
exponent mark of a float. -/
inductive SignPlace (source : String) (tokens : List Token) (before : List Char) (sign : Char)
    (after : List Char) : Prop
  | operator {earlier later : List Token}
      (listed : tokens = earlier ++ ⟨.addOp, String.ofList [sign], lineAfter before⟩ :: later)
      (place : LexemeAt source earlier before [sign] after)
  | exponent {earlier later : List Token} {front mantissa digits behind : List Char} {mark : Char}
      (inFront : before = front ++ (mantissa ++ [mark])) (follows : after = digits ++ behind)
      (begun : mantissa ≠ []) (inMantissa : ∀ c ∈ mantissa, c.isDigit = true ∨ c = '.')
      (marks : mark = 'e' ∨ mark = 'E') (nonempty : digits ≠ [])
      (scaleDigits : ∀ c ∈ digits, c.isDigit = true)
      (listed : tokens = earlier ++ ⟨.floatNumber,
        String.ofList (mantissa ++ mark :: sign :: digits), lineAfter front⟩ :: later)
      (place : LexemeAt source earlier front (mantissa ++ mark :: sign :: digits) behind)

/-- Every sign outside comments stands in a token, as `SignPlace` says. -/
theorem signPlace_of_tokenize {source : String} {tokens : List Token}
    (tokenized : tokenize source = .ok tokens) {before after : List Char} {sign : Char}
    (whole : source.toList = before ++ sign :: after) (isSign : IsSign sign)
    (outside : commentOpen before = false) : SignPlace source tokens before sign after := by
  have segmented := lex_eq_iff_segmented.mp (tokenize_eq_ok_iff.mp tokenized)
  have notBlank : isBlank sign = false := by rcases isSign with rfl | rfl <;> decide
  have other : sign ≠ '\x7b' := by rcases isSign with rfl | rfl <;> decide
  obtain ⟨_, _, start, run, rest, behind, rfl, rfl, inFront, isLexeme, items⟩ :=
    segmented.exists_around whole notBlank other outside
  obtain ⟨earlier, others, rfl, rfl, fromHere⟩ := List.map_eq_append_iff.mp items
  obtain ⟨token, later, rfl, classified, -⟩ := List.map_eq_cons_iff.mp fromHere
  obtain ⟨_, text, line⟩ := classify_eq_ok_iff.mp classified.symm
  have describes := recognises_iff.mp (recognises_of_classify classified.symm)
  have place : LexemeAt source earlier start (run ++ sign :: rest) behind :=
    ⟨by simpa using whole, tokenize_of_segmented inFront, isLexeme⟩
  obtain ⟨kind, chars, first⟩ := token
  subst text line
  have member : sign ∈ (String.ofList (run ++ sign :: rest)).toList := by simp
  rcases describes.cases_of_sign isSign member with ⟨rfl, alone⟩ | ⟨rfl, isFloat⟩
  · rw [String.toList_ofList] at alone
    obtain ⟨rfl, rfl⟩ := eq_nil_of_length_le_one (Nat.le_of_eq (congrArg List.length alone))
    rw [List.append_nil]
    exact .operator rfl place
  · rw [String.toList_ofList] at isFloat
    obtain ⟨mantissa, mark, rfl, begun, inMantissa, marks, nonempty, scaleDigits⟩ :=
      isFloat.exponent_of_sign isSign
    rw [List.append_assoc] at place ⊢
    exact .exponent rfl rfl begun inMantissa marks nonempty scaleDigits rfl place

/-- A sign is never taken from behind a complete lexeme: where the scanner takes one into a number,
what it has read of this number belongs to no class. So outside of comments every sign of a
tokenized source text is an additive operator of its own or stands behind the exponent mark of a
float. -/
theorem signs_outside_comments (source : String) :
    (∀ item ∈ lex source, ∀ first more sign back,
      (lexemeOf item).text = String.ofList (first :: (more ++ sign :: back)) →
      ScanMode.ofFirst first = .numeric → IsSign sign → ∀ line,
        ∃ error, classify (String.ofList (first :: more)) line = .error error) ∧
    ∀ tokens, tokenize source = .ok tokens → ∀ before sign after,
      source.toList = before ++ sign :: after → IsSign sign → commentOpen before = false →
        SignPlace source tokens before sign after := by
  constructor
  · intro item found first more sign back text numeric isSign line
    exact exists_error_in_front found text numeric isSign line
  · intro tokens tokenized before sign after whole isSign outside
    exact signPlace_of_tokenize tokenized whole isSign outside

/-- Of two signs, the first belongs to the exponent and the second is an operator. -/
theorem signs_outside_comments_exponent :
    (∃ error, classify "1e" 1 = .error error) ∧
    SignPlace "1e-5-2" [⟨.floatNumber, "1e-5", 1⟩, ⟨.addOp, "-", 1⟩, ⟨.intNumber, "2", 1⟩]
      ['1', 'e'] '-' ['5', '-', '2'] ∧
    SignPlace "1e-5-2" [⟨.floatNumber, "1e-5", 1⟩, ⟨.addOp, "-", 1⟩, ⟨.intNumber, "2", 1⟩]
      ['1', 'e', '-', '5'] '-' ['2'] := by
  have tokenized : tokenize "1e-5-2" =
      .ok [⟨.floatNumber, "1e-5", 1⟩, ⟨.addOp, "-", 1⟩, ⟨.intNumber, "2", 1⟩] := by
    rw [tokenize_eq_ok_iff, lex]
    iterate 3 rw [lexFrom_of_lexeme rfl]
    rw [lexFrom_of_end rfl]
    rfl
  have lexed := tokenize_eq_ok_iff.mp tokenized
  obtain ⟨front, place⟩ := signs_outside_comments "1e-5-2"
  refine ⟨?_, ?_, ?_⟩
  · have found : .ok ⟨.floatNumber, "1e-5", 1⟩ ∈ lex "1e-5-2" := by
      rw [lexed]
      exact List.mem_cons_self
    exact front _ found '1' ['e'] '-' ['5'] rfl rfl (.inr rfl) 1
  · exact place _ tokenized _ _ _ rfl (.inr rfl) rfl
  · exact place _ tokenized _ _ _ rfl (.inr rfl) rfl

end DimLang
