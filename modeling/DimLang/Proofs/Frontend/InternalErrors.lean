import DimLang.Proofs.Lexing.Tokens
import DimLang.Proofs.Typing.Declarations

/-!
# Internal errors

Some errors would be defects of the front end and not of a program: that finished nodes do not fit
a production, that a parsed tree is no program, that a type is unknown although the lexer has
recognised its name, or that a node has no type where its type is reported. None of them occurs.

The stages share the work: parsing keeps the finished nodes fitting for any token list, the patterns
of the lexer admit only names of types, and the rules of types report operands that are typed.

- `internalErrors_unreachable`: parsing ends and yields no internal error for any root and any
  token list, and the front end none for any source text
-/

namespace DimLang

/-- The error is about the tokens, not about the nodes that were made of them. -/
def ParseError.Genuine : ParseError → Prop
  | malformed _ _ _ => False
  | _ => True

/-- The error is about the source text. -/
def FrontendError.Genuine : FrontendError → Prop
  | lex _ => True
  | parse error => error.Genuine
  | semantic error => error.Proper

/-- One action of the parser. -/
def ParseState.Acts (endLine : Nat) (state next : ParseState) : Prop :=
  ∃ work pending, state.pending = work :: pending ∧
    step endLine state.rest state.finished pending work = .ok next

/-- The parser acts only finitely often. -/
theorem ParseState.acts_wellFounded (endLine : Nat) :
    WellFounded fun next state => Acts endLine state next := by
  have lexicographic := (inferInstance : WellFoundedRelation (Nat × Nat × Nat)).wf
  refine Subrelation.wf ?_ (InvImage.wf (fun state : ParseState =>
    (state.rest.length, state.pending.countP Pending.awaitsEnd,
      Pending.distance state.pending)) lexicographic)
  rintro next ⟨rest, _, finished⟩ ⟨work, pending, rfl, acts⟩
  exact step_decreases acts

/-- A rejection by the parser names tokens and symbols, never a tree that does not fit. -/
theorem genuine_of_parseAs {root : Symbol} {tokens : List Token} {error : ParseError}
    (failed : parseAs root tokens = .error error) : error.Genuine := by
  obtain ⟨stopped, _, rejects⟩ := parseAs_eq_error_iff.mp failed
  have names := rejects.names
  cases error with
  | malformed => exact names.elim
  | _ => exact trivial

/-! ## Type names -/

/-- The items of a program are in its tree. -/
theorem within_of_mem_items {item : ProgramItem} :
    (program : Program) → item ∈ program.items →
      (Node.programItem item).Within (.program program)
  | ⟨first, .stop⟩, member => by
    rw [Program.items_stop, List.mem_singleton] at member
    subst member
    exact .deeper (by simp [Node.children]) (.here _)
  | ⟨first, .more separator rest⟩, member => by
    rw [Program.items_more, List.mem_cons] at member
    rcases member with rfl | later
    · exact .deeper (by simp [Node.children]) (.here _)
    · have inside := within_of_mem_items rest later
      have tail : (Node.programItem item).Within (.programTail (.more separator rest)) :=
        .deeper (by simp [Node.children]) inside
      exact .deeper (by simp [Node.children]) tail

/-- The type name of a declaration is one of its tokens. -/
theorem Declaration.typeName_mem_leaves (declaration : Declaration) :
    declaration.typeName.token ∈ (Node.declaration declaration).leaves := by
  have inside : (Node.leaf declaration.typeName).Within (.declaration declaration) :=
    .deeper (by simp [Node.children]) (.here _)
  refine inside.leaves_subset ?_
  rw [Node.leaves_of_token? rfl]
  exact List.mem_singleton.mpr rfl

/-- The tokens of a parsed program are those that it was parsed from. -/
theorem leaves_subset_of_parse {tokens : List Token} {program : Program}
    (parsed : parse tokens = .ok program) : (Node.program program).leaves ⊆ tokens := by
  obtain ⟨rest, reads, _⟩ := parseAs_eq_ok_iff.mp (parse_eq_ok_iff.mp parsed)
  rw [← reads.leaves_append (by decide)]
  exact List.subset_append_left _ _

/-- The types that a program of a source text names are types of the language. -/
theorem not_unknown_of_tokenize {source : String} {tokens : List Token} {program : Program}
    (tokenized : tokenize source = .ok tokens) (parsed : parse tokens = .ok program)
    {item : ProgramItem} (member : item ∈ program.items) : ¬ item.Unknown := by
  intro unknown
  cases item with
  | statement tree => exact unknown
  | declaration tree =>
    have inside : (Node.declaration tree).Within (.program program) :=
      .trans (.deeper (List.mem_singleton.mpr rfl) (.here _)) (within_of_mem_items program member)
    have kind : tree.typeName.token.kind = .typeName := grammatical_of_parse parsed _ inside
    have token : tree.typeName.token ∈ tokens :=
      leaves_subset_of_parse parsed (inside.leaves_subset tree.typeName_mem_leaves)
    have recognised := recognises_of_tokenize tokenized token
    rw [kind] at recognised
    obtain ⟨ty, named⟩ := exists_ofTypeName?_of_recognises recognised
    rw [ProgramItem.Unknown, named] at unknown
    cases unknown

/-- Analysing a parsed program never meets an unknown type or an unresolved operand. -/
theorem proper_of_analyze {source : String} {tokens : List Token} {program : Program}
    {error : SemanticError} (tokenized : tokenize source = .ok tokens)
    (parsed : parse tokens = .ok program) (failed : analyze program = .error error) :
    error.Proper := by
  have delivers := program.infer_delivers .empty proper_standard (grammatical_of_parse parsed)
  rw [analyze_eq_infer] at failed
  generalize program.infer .standard .empty = rule at delivers failed
  cases rule with
  | ok result => cases failed
  | error found =>
    cases failed
    obtain proper | ⟨item, member, unknown⟩ := delivers
    · exact proper
    · exact absurd unknown (not_unknown_of_tokenize tokenized parsed member)

/-- Parsing ends for every root and every token list and never fails by nodes that do not fit, a
parsed program is a program, and the front end reports nothing but errors of the source text. -/
theorem internalErrors_unreachable :
    (∀ endLine, WellFounded fun next state => ParseState.Acts endLine state next) ∧
    (∀ root tokens error, parseAs root tokens = .error error → error.Genuine) ∧
    (∀ tokens error, parse tokens = .error error → error.Genuine) ∧
    (∀ tokens node, parseAs .program tokens = .ok node →
      ∃ program, node = .program program ∧ parse tokens = .ok program) ∧
    ∀ source error, check source = .error error → error.Genuine := by
  refine ⟨ParseState.acts_wellFounded, fun _ _ _ => genuine_of_parseAs,
    fun _ _ failed => genuine_of_parseAs (parse_eq_error_iff.mp failed), ?_, ?_⟩
  · intro tokens node parsed
    obtain ⟨program, rfl⟩ := produces_of_parseAs parsed
    exact ⟨program, rfl, parse_eq_ok_iff.mpr parsed⟩
  · intro source error checked
    obtain ⟨cause, _, rfl⟩ | ⟨tokens, cause, _, failed, rfl⟩ |
      ⟨tokens, program, cause, tokenized, parsed, failed, rfl⟩ := exists_of_check_eq_error checked
    · exact trivial
    · exact genuine_of_parseAs (parse_eq_error_iff.mp failed)
    · exact proper_of_analyze tokenized parsed failed

/-- A factor does not begin with a wildcard, and this is no internal error. -/
theorem genuine_wildcard_factor :
    ∃ error, parseAs .factor [⟨.any, "?", 3⟩, ⟨.eof, "", 4⟩] = .error error ∧ error.Genuine := by
  have failed : parseAs .factor [⟨.any, "?", 3⟩, ⟨.eof, "", 4⟩] = .error _ :=
    parseAs_of_rejects .refl (.symbol rfl)
  exact ⟨_, failed, internalErrors_unreachable.2.1 _ _ _ failed⟩

end DimLang
