import DimLang.Grammar.Parser
import DimLang.Token.Lexing
import DimLang.Typing.Programs

/-!
# The front end

A source text is tokenized, parsed and analysed; the first error of the first stage that fails is
the answer.

- `check` is the typed program of a source text
- `checkWithTokens` also returns its tokens, and `check_eq_map_snd` says that the two agree
-/

namespace DimLang

/-- The first error of whichever stage failed. -/
inductive FrontendError
  | lex (error : LexError)
  | parse (error : ParseError)
  | semantic (error : SemanticError)
deriving DecidableEq, Repr

namespace FrontendError

/-- The line that the error is reported for. -/
def line : FrontendError → Nat
  | lex error => error.line
  | parse error => error.line
  | semantic error => error.line

/-- The text of the error. -/
def message : FrontendError → String
  | lex error => error.message
  | parse error => error.message
  | semantic error => error.message

end FrontendError

/-- The typed program of a source text. -/
def check (source : String) : Except FrontendError Program := do
  let tokens ← (tokenize source).mapError .lex
  let program ← (parse tokens).mapError .parse
  (analyze program).mapError .semantic

/-- The tokens and the typed program of a source text. -/
def checkWithTokens (source : String) : Except FrontendError (List Token × Program) :=
  match tokenize source with
  | .error error => .error (.lex error)
  | .ok tokens =>
    match parse tokens with
    | .error error => .error (.parse error)
    | .ok program =>
      match analyze program with
      | .error error => .error (.semantic error)
      | .ok typed => .ok (tokens, typed)

section Stages

variable {ε ε' α β : Type} {stage : Except ε α} {report : ε → ε'} {next : α → Except ε' β}

/-- Naming the stage of a failure does not change results. -/
theorem mapError_eq_ok_iff {result : α} :
    stage.mapError report = .ok result ↔ stage = .ok result := by
  cases stage with
  | ok found =>
    change Except.ok found = Except.ok result ↔ _
    simp
  | error error =>
    change Except.error (report error) = Except.ok result ↔ _
    simp

/-- A failure of a stage is one of the stage itself, under the name of the stage. -/
theorem mapError_eq_error_iff {error : ε'} :
    stage.mapError report = .error error ↔
      ∃ cause, stage = .error cause ∧ error = report cause := by
  cases stage with
  | ok found =>
    change Except.ok found = Except.error error ↔ _
    simp
  | error cause =>
    change Except.error (report cause) = Except.error error ↔ _
    simp [eq_comm]

/-- Behind a stage that succeeds, the next one decides on the result. -/
theorem mapError_bind_eq_ok_iff {result : β} :
    (stage.mapError report >>= next) = .ok result ↔
      ∃ found, stage = .ok found ∧ next found = .ok result := by
  cases stage with
  | ok found =>
    change next found = _ ↔ _
    simp
  | error cause =>
    change Except.error (report cause) = Except.ok result ↔ _
    simp

/-- Either a stage fails itself, or it succeeds and the next one fails. -/
theorem mapError_bind_eq_error_iff {error : ε'} :
    (stage.mapError report >>= next) = .error error ↔
      (∃ cause, stage = .error cause ∧ error = report cause) ∨
        ∃ found, stage = .ok found ∧ next found = .error error := by
  cases stage with
  | ok found =>
    change next found = _ ↔ _
    simp
  | error cause =>
    change Except.error (report cause) = Except.error error ↔ _
    simp [eq_comm]

end Stages

/-- The tokens are all that is returned beside the typed program or the error. -/
theorem check_eq_map_snd (source : String) :
    check source = (checkWithTokens source).map Prod.snd := by
  rw [check, checkWithTokens]
  cases tokenize source with
  | error error => rfl
  | ok tokens =>
    change (parse tokens).mapError _ >>= _ = _
    dsimp only
    cases parse tokens with
    | error error => rfl
    | ok program =>
      change (analyze program).mapError _ = _
      dsimp only
      cases analyze program <;> rfl

/-- A source text is accepted exactly if all three stages succeed one after the other. -/
theorem check_eq_ok_iff {source : String} {typed : Program} :
    check source = .ok typed ↔
      ∃ tokens program, tokenize source = .ok tokens ∧ parse tokens = .ok program ∧
        analyze program = .ok typed := by
  simp only [check, mapError_bind_eq_ok_iff, mapError_eq_ok_iff]
  constructor
  · rintro ⟨tokens, tokenized, program, parsed, analyzed⟩
    exact ⟨tokens, program, tokenized, parsed, analyzed⟩
  · rintro ⟨tokens, program, tokenized, parsed, analyzed⟩
    exact ⟨tokens, tokenized, program, parsed, analyzed⟩

/-- An error is that of a stage whose input the stages before have yielded. -/
theorem exists_of_check_eq_error {source : String} {error : FrontendError}
    (failed : check source = .error error) :
    (∃ cause, tokenize source = .error cause ∧ error = .lex cause) ∨
    (∃ tokens cause, tokenize source = .ok tokens ∧ parse tokens = .error cause ∧
      error = .parse cause) ∨
    ∃ tokens program cause, tokenize source = .ok tokens ∧ parse tokens = .ok program ∧
      analyze program = .error cause ∧ error = .semantic cause := by
  simp only [check, mapError_bind_eq_error_iff, mapError_eq_error_iff] at failed
  obtain atLexing | ⟨tokens, tokenized, ⟨cause, atParsing, named⟩ |
    ⟨program, parsed, cause, atAnalysis, named⟩⟩ := failed
  · exact .inl atLexing
  · exact .inr (.inl ⟨tokens, cause, tokenized, atParsing, named⟩)
  · exact .inr (.inr ⟨tokens, program, cause, tokenized, parsed, atAnalysis, named⟩)

end DimLang
