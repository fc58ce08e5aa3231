import DimLang.Proofs.Lexing.Tokens

/-!
# Lexical boundaries

Behind a text with all comments closed, a newline or another comment is a boundary: whatever lexeme
comes before it ends there, and what follows is lexed as if it stood alone, some lines later. A
newline is a token of its own, and a comment leaves nothing but its lines (`lex_boundaries`).

Errors do not matter: both texts may have invalid lexemes, and the second one may end in a comment
that is left open.
-/

namespace DimLang

/-! ## Gaps -/

/-- Two gaps in a row are one gap. -/
theorem IsGap.append {gap gap' : List Char} (isGap : IsGap gap) (isGap' : IsGap gap') :
    IsGap (gap ++ gap') := by
  induction isGap with
  | nil => exact isGap'
  | blank blank sameLine _ ih => exact .blank blank sameLine ih
  | @comment inside cs closed _ ih =>
    rw [List.cons_append, List.append_assoc, List.cons_append]
    exact .comment closed ih

/-- A gap in front of a segmented text belongs to its first gap. -/
theorem Segmented.behind_gap {before gap text : List Char} {items : List (Except LexError Token)}
    (isGap : IsGap gap) (segmented : Segmented (before ++ gap) text items) :
    Segmented before (gap ++ text) items := by
  cases segmented with
  | finish isGap' => exact .finish (isGap.append isGap')
  | @unclosed _ gap' inside isGap' opened =>
    rw [List.append_assoc, ← List.append_assoc gap]
    exact .unclosed (isGap.append isGap') opened
  | @lexeme _ gap' more behind first items isGap' begins longest _ others =>
    rw [List.append_assoc before] at others ⊢
    rw [← List.append_assoc gap]
    exact .cons (isGap.append isGap') begins longest others

/-! ## Comments -/

/-- A text with all comments closed, a comment and another text are segmented without the
comment. -/
theorem Segmented.comment {before first inside second : List Char}
    {items items' : List (Except LexError Token)} (segmented : Segmented before first items)
    (closed : ∀ line, .error (.unterminatedComment line) ∉ items) (closes : '\x7d' ∉ inside)
    (next : Segmented (before ++ first ++ ('\x7b' :: (inside ++ ['\x7d']))) second items') :
    Segmented before (first ++ '\x7b' :: (inside ++ '\x7d' :: second)) (items ++ items') := by
  induction segmented with
  | @finish before gap isGap =>
    have whole := IsGap.append isGap (.comment closes .nil)
    rw [List.append_assoc] at next
    have text := next.behind_gap whole
    simpa using text
  | unclosed => exact absurd List.mem_cons_self (closed _)
  | @lexeme before gap more behind c items isGap begins longest _ _ ih =>
    have others := ih (fun line member => closed line (List.mem_cons_of_mem _ member))
      (by simpa [List.append_assoc] using next)
    have longest : IsLongestRun (c :: more) (behind ++ '\x7b' :: (inside ++ '\x7d' :: second)) :=
      longest.append fun _ first => Option.some.inj first ▸ rfl
    have whole := Segmented.cons isGap begins longest others
    simpa [List.append_assoc] using whole

/-- Behind a text with all comments closed, another comment only counts lines, and lexing starts
afresh. -/
theorem lex_comment {first inside second : String}
    (closed : ∀ line, .error (.unterminatedComment line) ∉ lex first)
    (closes : '\x7d' ∉ inside.toList) :
    lex (first ++ "\x7b" ++ inside ++ "\x7d" ++ second) =
      lex first ++ (lex second).map
        (shiftItem (first.toList.count '\n' + inside.toList.count '\n')) := by
  have later := (segmented_lexFrom [] second.toList).behind
    (first.toList ++ '\x7b' :: (inside.toList ++ ['\x7d']))
  have lines : (first.toList ++ '\x7b' :: (inside.toList ++ ['\x7d'])).count '\n' =
      first.toList.count '\n' + inside.toList.count '\n' := by
    simp
  rw [List.append_nil, lines] at later
  have whole := (segmented_lexFrom [] first.toList).comment closed closes later
  have source : (first ++ "\x7b" ++ inside ++ "\x7d" ++ second).toList =
      first.toList ++ '\x7b' :: (inside.toList ++ '\x7d' :: second.toList) := by
    simp [String.toList_append]
  rw [lex, source]
  exact lexFrom_eq_of_segmented whole

/-- Behind a text with all comments closed, a newline is a separator and a comment is nothing, and
what follows either of them is lexed as if it stood alone, with its lines counted on. -/
theorem lex_boundaries {first : String}
    (closed : ∀ line, .error (.unterminatedComment line) ∉ lex first) (second : String) :
    lex (first ++ "\n" ++ second) =
      lex first ++ .ok ⟨.separator, "\n", 1 + first.toList.count '\n'⟩ ::
        (lex second).map (shiftItem (first.toList.count '\n' + 1)) ∧
    ∀ inside : String, '\x7d' ∉ inside.toList →
      lex (first ++ "\x7b" ++ inside ++ "\x7d" ++ second) =
        lex first ++ (lex second).map
          (shiftItem (first.toList.count '\n' + inside.toList.count '\n')) := by
  constructor
  · rw [Nat.add_comm (first.toList.count '\n') 1]
    exact lex_newline closed
  · intro inside closes
    exact lex_comment closed closes

/-- Behind a name and a comment of two lines, a lexeme of no kind and a comment that is left open
are found on the second line. -/
theorem lex_boundaries_errors :
    (∀ line, .error (.unterminatedComment line) ∉ lex "a") ∧ '\x7d' ∉ "\x7b\n".toList ∧
    lex ("a" ++ "\x7b" ++ "\x7b\n" ++ "\x7d" ++ "é \x7b") =
      [.ok ⟨.identifier, "a", 1⟩, .error (.invalidToken "é" 2),
        .error (.unterminatedComment 2)] := by
  have lexed : lex "a" = [.ok ⟨.identifier, "a", 1⟩] := by
    rw [lex, lexFrom_of_lexeme rfl, lexFrom_of_end rfl]
    rfl
  have lexed' : lex "é \x7b" = [.error (.invalidToken "é" 1), .error (.unterminatedComment 1)] := by
    rw [lex, lexFrom_of_lexeme rfl, lexFrom_of_error rfl]
    rfl
  have closed : ∀ line, .error (.unterminatedComment line) ∉ lex "a" := by
    rw [lexed]
    simp
  have closes : '\x7d' ∉ "\x7b\n".toList := by decide
  refine ⟨closed, closes, ?_⟩
  rw [(lex_boundaries closed "é \x7b").2 "\x7b\n" closes, lexed, lexed']
  rfl

end DimLang
