import DimLang.Proofs.Typing.Joined
import DimLang.Proofs.Typing.Declarations

/-!
# Checking part by part

A program can be checked part by part, each part under the names that the parts before it declare
(`checkUnder`). With a newline between two parts the whole is checked in the same way, if no
statement of the first part is left open at its end: the newline ends the last lexeme and the last
item, and only the lines count on.

- `checkUnder_newline`: checking two parts in one text or one after the other is the same
- `check_newline`: the items and the error of the whole, from those of the second part
-/

namespace DimLang

/-- The error, some lines later. -/
def FrontendError.shift (lines : Nat) : FrontendError → FrontendError
  | lex error => lex (error.shift lines)
  | parse error => parse (error.shift lines)
  | semantic error => semantic (error.shift lines)

/-- The typed program of a source text under names that are declared already, and the names that
are declared behind it. -/
def checkUnder (symbols : SymbolTable) (source : String) :
    Except FrontendError (Program × SymbolTable) := do
  let tokens ← (tokenize source).mapError .lex
  let program ← (parse tokens).mapError .parse
  match program.check ⟨.standard, symbols⟩ with
  | ⟨typed, later, .ok _⟩ => .ok (typed, later)
  | ⟨_, _, .error error⟩ => .error (.semantic error)

/-- A text is checked under names by its stages, the last of which has the rules of types. -/
theorem checkUnder_eq (symbols : SymbolTable) (source : String) :
    checkUnder symbols source = (do
      let tokens ← (tokenize source).mapError .lex
      let program ← (parse tokens).mapError .parse
      (program.infer .standard symbols).mapError .semantic) := by
  refine bind_congr fun tokens => bind_congr fun program => ?_
  have agrees := program.check_agrees ⟨.standard, symbols⟩
  generalize program.check ⟨.standard, symbols⟩ = checked,
    program.infer .standard symbols = rule at agrees
  cases agrees with
  | ok typed later => rfl
  | error => rfl

/-- A source text on its own is checked under no names. -/
theorem check_eq_checkUnder (source : String) :
    check source = (checkUnder .empty source).map Prod.fst := by
  rw [check, checkUnder_eq]
  cases (tokenize source).mapError FrontendError.lex with
  | error error => rfl
  | ok tokens =>
    simp only [ok_bind]
    cases (parse tokens).mapError FrontendError.parse with
    | error error => rfl
    | ok program =>
      simp only [ok_bind]
      rw [analyze_eq_infer]
      cases program.infer .standard .empty <;> rfl

section Newline

variable {first : String} {tokens : List Token} {program typed : Program}
  {symbols middle : SymbolTable}

/-- What the analysis accepts, the rules of types accept with the same names. -/
theorem Program.infer_of_check
    (checked : program.check ⟨.standard, symbols⟩ = ⟨typed, middle, .ok ()⟩) :
    program.infer .standard symbols = .ok (typed, middle) := by
  have agrees := program.check_agrees ⟨.standard, symbols⟩
  rw [checked] at agrees
  generalize program.infer .standard symbols = rule at agrees
  cases agrees
  rfl

/-- Two texts with a newline between them are checked one after the other. -/
theorem checkUnder_newline (tokenized : tokenize first = .ok tokens)
    (parsed : parse tokens = .ok program)
    (checked : program.check ⟨.standard, symbols⟩ = ⟨typed, middle, .ok ()⟩)
    (closed : program.Closed) (second : String) :
    checkUnder symbols (first ++ "\n" ++ second) =
      ((checkUnder middle second).map fun (later, final) =>
        (typed.append ⟨⟨.separator, "\n", lineAfter first.toList⟩⟩
          (later.mapTokens (Token.shift (1 + first.toList.count '\n'))), final)).mapError
            (FrontendError.shift (1 + first.toList.count '\n')) := by
  -- Each stage hands on both results joined, or ends with the error of the second text.
  rw [checkUnder_eq, checkUnder_eq, tokenize_newline tokenized]
  cases tokenized' : tokenize second with
  | error error => rfl
  | ok later =>
    change (parse _).mapError _ >>= _ = _
    rw [parse_joined (ne_eof_of_tokenize tokenized) parsed closed rfl
      (ne_eof_of_tokenize tokenized')]
    change _ = Except.mapError _ (Except.map _ ((parse later).mapError _ >>= _))
    cases parse later with
    | error error => rfl
    | ok program' =>
      change (Program.infer _ _ (program.append _ _)).mapError _ =
        Except.mapError _ (Except.map _ ((program'.infer .standard middle).mapError _))
      rw [Program.infer_append, Program.infer_of_check checked, ok_bind]
      change (Program.infer _ middle (program'.mapTokens _) >>= _).mapError _ = _
      rw [Program.infer_shift]
      cases program'.infer .standard middle <;> rfl

/-- Checking two texts with a newline between them yields the typed items of both, or the error of
the second, where the second is checked under the names that the first declares and its lines count
on. -/
theorem check_newline (tokenized : tokenize first = .ok tokens)
    (parsed : parse tokens = .ok program)
    (checked : program.check ⟨.standard, .empty⟩ = ⟨typed, symbols, .ok ()⟩)
    (closed : program.Closed) (second : String) :
    (check (first ++ "\n" ++ second)).map Program.items =
      ((checkUnder symbols second).map fun (later, _) =>
        typed.items ++ later.items.map
          (ProgramItem.mapTokens (Token.shift (1 + first.toList.count '\n')))).mapError
            (FrontendError.shift (1 + first.toList.count '\n')) := by
  rw [check_eq_checkUnder, checkUnder_newline tokenized parsed checked closed]
  cases checkUnder symbols second with
  | error error => rfl
  | ok result =>
    change Except.ok (Program.items (typed.append _ _)) = _
    rw [Program.items_append, Program.items_mapTokens]
    rfl

end Newline

/-- Behind a declaration and a loop with a body, whatever stands in the lines below is checked with
the name known. -/
theorem check_newline_loop :
    ∃ tokens program typed symbols,
      tokenize "dim x float\nwhile true do read(x)" = .ok tokens ∧ parse tokens = .ok program ∧
        program.check ⟨.standard, .empty⟩ = ⟨typed, symbols, .ok ()⟩ ∧ program.Closed ∧
          symbols.get? "x" = some .float ∧
      ∀ second, (check ("dim x float\nwhile true do read(x)" ++ "\n" ++ second)).map Program.items =
        ((checkUnder symbols second).map fun (later, _) =>
          typed.items ++ later.items.map (ProgramItem.mapTokens (Token.shift 2))).mapError
            (FrontendError.shift 2) := by
  have tokenized : tokenize "dim x float\nwhile true do read(x)" =
      .ok [⟨.dimWord, "dim", 1⟩, ⟨.identifier, "x", 1⟩, ⟨.typeName, "float", 1⟩,
        ⟨.separator, "\n", 1⟩, ⟨.whileWord, "while", 2⟩, ⟨.boolConst, "true", 2⟩,
        ⟨.doWord, "do", 2⟩, ⟨.readWord, "read", 2⟩, ⟨.openParen, "(", 2⟩, ⟨.identifier, "x", 2⟩,
        ⟨.closeParen, ")", 2⟩] := by
    rw [tokenize_eq_ok_iff, lex]
    iterate 11 rw [lexFrom_of_lexeme rfl]
    rw [lexFrom_of_end rfl]
    rfl
  have names {line : Nat} {next : Token} {rest : List Token} (stop : next.kind ≠ .comma) :
      Derives 2 .identifierList (⟨.identifier, "x", line⟩ :: next :: rest) _ (next :: rest) :=
    .identifierList rfl (.identifierStop stop)
  have test {rest : List Token} : Derives 2 .expression
      (⟨.boolConst, "true", 2⟩ :: ⟨.doWord, "do", 2⟩ :: rest) _ (⟨.doWord, "do", 2⟩ :: rest) :=
    .expression (.operand (.addend (.factorBool rfl) (.addendStop (by simp [nextKind])))
      (.operandStop (by simp [nextKind]))) (.comparisonStop (by simp [nextKind]))
  have loop : Derives 2 .whileLoop [⟨.whileWord, "while", 2⟩, ⟨.boolConst, "true", 2⟩,
      ⟨.doWord, "do", 2⟩, ⟨.readWord, "read", 2⟩, ⟨.openParen, "(", 2⟩, ⟨.identifier, "x", 2⟩,
      ⟨.closeParen, ")", 2⟩] _ [] :=
    .whileLoop rfl test rfl (.statementRead (.reading rfl rfl (names (by decide)) rfl))
  have item := Derives.itemStatement (by simp [StartsDeclaration, nextKind])
    (by simp [nextKind]) (.statementWhile loop)
  have derives : Derives 2 .program (⟨.dimWord, "dim", 1⟩ :: ⟨.identifier, "x", 1⟩ ::
      ⟨.typeName, "float", 1⟩ :: ⟨.separator, "\n", 1⟩ :: _) _ [] :=
    .program (.itemDeclaration (.inl rfl) (.declarationKeyword rfl (names (by decide)) rfl))
      (.programMore rfl (.program item (.programStop (by simp [nextKind]))))
  have parsed := parse_of_derives derives rfl
  exact ⟨_, _, _, _, tokenized, parsed, rfl, .inr trivial, rfl,
    check_newline tokenized parsed rfl (.inr trivial)⟩

end DimLang
