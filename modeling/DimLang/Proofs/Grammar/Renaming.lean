import DimLang.Proofs.Grammar.Language
import DimLang.Proofs.Grammar.MapTokens

/-!
# Parsing of renamed tokens

A token list whose tokens are replaced by others of the same kinds has the outcome of the given
list. If that is a tree, it is the same tree with its tokens replaced; if it is an error, it is the
same error about the token at the same position, with the text and the line that this token has now.

One token does not come from the list: the end of the input, which has the line of the last token.
An error may be about it, and so has the line of the replaced last token. A tree has it only if the
root is the end of the input, and then nothing is replaced.

- `tokenAt` is the token at a position, the end of the input included
- `parseAs_map`: parsing sees the kinds of tokens only
-/

namespace DimLang

/-- The token at the position; behind the last token stands the end of the input, on its line. -/
def tokenAt (tokens : List Token) (position : Nat) : Token :=
  tokens[position]?.getD (.atEnd (endLine tokens))

/-- The token at the end of the used ones is the one that the window shows. -/
theorem tokenAt_append (used rest : List Token) :
    tokenAt (used ++ rest) used.length =
      (windowAt (endLine (used ++ rest)) rest).current := by
  unfold tokenAt
  rw [List.getElem?_append_right (Nat.le_refl _), Nat.sub_self]
  cases rest with
  | nil => rfl
  | cons token rest =>
    rw [windowAt_current_cons]
    rfl

variable {root : Symbol} {tokens : List Token} {node : Node} {error : ParseError}

/-- The end of the input is parsed from no tokens. -/
theorem eq_nil_of_parseAs_end (noEnd : ∀ token ∈ tokens, token.kind ≠ .eof)
    (parsed : parseAs (.leaf .eof) tokens = .ok node) : tokens = [] := by
  have derives := derives_of_reads ((parseAs_eq_ok_iff_reads noEnd).mp parsed)
  cases derives with
  | constant _ isConstant => exact absurd isConstant (by decide)
  | @mark _ token _ same => exact absurd same (noEnd token List.mem_cons_self)
  | inputEnd => rfl

/-- The tree of replaced tokens is the tree with its tokens replaced. -/
theorem parseAs_map_of_ok {f : Token → Token} (kinds : ∀ token, (f token).kind = token.kind)
    (noEnd : ∀ token ∈ tokens, token.kind ≠ .eof) (notEnd : root ≠ .leaf .eof)
    (parsed : parseAs root tokens = .ok node) :
    parseAs root (tokens.map f) = .ok (node.mapTokens f) := by
  have derives := derives_of_reads ((parseAs_eq_ok_iff_reads noEnd).mp parsed)
  exact parseAs_of_derives (derives.mapTokens kinds notEnd _) rfl

/-- A rejected list is rejected at a position, and so is every list of replaced tokens. -/
theorem exists_position_of_parseAs_eq_error (failed : parseAs root tokens = .error error) :
    ∃ position ≤ tokens.length, error.Names (tokenAt tokens position) ∧
      ∀ f : Token → Token, (∀ token, (f token).kind = token.kind) →
        parseAs root (tokens.map f) = .error (error.about (tokenAt (tokens.map f) position)) := by
  obtain ⟨⟨pending, rest⟩, reaches, rejects⟩ := parseAs_eq_error_iff.mp failed
  obtain ⟨used, rfl⟩ : ∃ used, used ++ rest = tokens := reaches.suffix
  refine ⟨used.length, by simp, ?_, fun f kinds => ?_⟩
  · rw [tokenAt_append]
    exact rejects.names
  · have position : used.length = (used.map f).length := (List.length_map f).symm
    rw [List.map_append, position, tokenAt_append]
    apply parseAs_eq_error_iff.mpr
    have moved : Reaches (endLine (used.map f ++ rest.map f)) _ _ := reaches.map kinds
    rw [List.map_append] at moved
    exact ⟨_, moved, rejects.map kinds⟩

/-- Parsing depends on the kinds of tokens only. If the tokens of a list are replaced by others of
the same kinds, it is parsed exactly if it was; its tree is the same with the tokens replaced, where
the end of the input is no token of the list; and an error is the same about the token that is now
at the same position, which may be the end of the input. -/
theorem parseAs_map (noEnd : ∀ token ∈ tokens, token.kind ≠ .eof) :
    (∀ f : Token → Token, (∀ token, (f token).kind = token.kind) →
      ((∃ node, parseAs root (tokens.map f) = .ok node) ↔
        ∃ node, parseAs root tokens = .ok node)) ∧
    (∀ node, parseAs root tokens = .ok node →
      ∀ f : Token → Token, (∀ token, (f token).kind = token.kind) →
        parseAs root (tokens.map f) =
          .ok (if root = .leaf .eof then node else node.mapTokens f)) ∧
    ∀ error, parseAs root tokens = .error error →
      ∃ position ≤ tokens.length, error.Names (tokenAt tokens position) ∧
        ∀ f : Token → Token, (∀ token, (f token).kind = token.kind) →
          parseAs root (tokens.map f) =
            .error (error.about (tokenAt (tokens.map f) position)) := by
  have succeeds : ∀ node, parseAs root tokens = .ok node →
      ∀ f : Token → Token, (∀ token, (f token).kind = token.kind) →
        parseAs root (tokens.map f) =
          .ok (if root = .leaf .eof then node else node.mapTokens f) := by
    intro node parsed f kinds
    by_cases isEnd : root = .leaf .eof
    · subst isEnd
      obtain rfl := eq_nil_of_parseAs_end noEnd parsed
      rw [if_pos rfl]
      exact parsed
    · rw [if_neg isEnd]
      exact parseAs_map_of_ok kinds noEnd isEnd parsed
  refine ⟨fun f kinds => ⟨?_, ?_⟩, succeeds, fun error => exists_position_of_parseAs_eq_error⟩
  · rintro ⟨node, parsed⟩
    cases outcome : parseAs root tokens with
    | ok node => exact ⟨node, rfl⟩
    | error error =>
      obtain ⟨position, _, _, fails⟩ := exists_position_of_parseAs_eq_error outcome
      rw [fails f kinds] at parsed
      cases parsed
  · rintro ⟨node, parsed⟩
    exact ⟨_, succeeds node parsed f kinds⟩

/-- An assignment and a declaration without its colon, with other texts on later lines. -/
theorem parseAs_map_other_texts :
    ∃ (node : Node) (error : ParseError),
      (∀ token : Token, (⟨token.kind, "y", token.line + 7⟩ : Token).kind = token.kind) ∧
      (∀ token ∈ ([⟨.identifier, "x", 1⟩, ⟨.asWord, "as", 1⟩, ⟨.intNumber, "5", 2⟩] : List Token),
        token.kind ≠ .eof) ∧
      parseAs .assignment [⟨.identifier, "x", 1⟩, ⟨.asWord, "as", 1⟩, ⟨.intNumber, "5", 2⟩] =
        .ok node ∧
      parseAs .assignment [⟨.identifier, "y", 8⟩, ⟨.asWord, "y", 8⟩, ⟨.intNumber, "y", 9⟩] =
        .ok (node.mapTokens fun token => ⟨token.kind, "y", token.line + 7⟩) ∧
      (∀ token ∈ ([⟨.identifier, "x", 1⟩, ⟨.typeName, "integer", 2⟩] : List Token),
        token.kind ≠ .eof) ∧
      parseAs .program [⟨.identifier, "x", 1⟩, ⟨.typeName, "integer", 2⟩] = .error error ∧
      ∃ position ≤ 2,
        error.Names (tokenAt [⟨.identifier, "x", 1⟩, ⟨.typeName, "integer", 2⟩] position) ∧
        parseAs .program [⟨.identifier, "y", 8⟩, ⟨.typeName, "y", 9⟩] =
          .error (error.about
            (tokenAt [⟨.identifier, "y", 8⟩, ⟨.typeName, "y", 9⟩] position)) := by
  have derives : Derives 2 .assignment
      [⟨.identifier, "x", 1⟩, ⟨.asWord, "as", 1⟩, ⟨.intNumber, "5", 2⟩] _ [] :=
    .assignment rfl rfl (.expression (.operand (.addend (.factorNumber (.number (.inl rfl)))
      (.addendStop (by decide))) (.operandStop (by decide))) (.comparisonStop (by decide)))
  have parsed := parseAs_of_derives derives rfl
  have reaches : Reaches 2
      ⟨[.symbol .program], [⟨.identifier, "x", 1⟩, ⟨.typeName, "integer", 2⟩]⟩ _ :=
    .head (.expand rfl) (.head (.expand rfl) (.head (.expand rfl) (.head (.expand rfl)
      (.head (.consume rfl) .refl))))
  have failed : parseAs .program [⟨.identifier, "x", 1⟩, ⟨.typeName, "integer", 2⟩] = .error _ :=
    parseAs_of_rejects reaches (.symbol rfl)
  have renamed := (parseAs_map (by decide)).2.1 _ parsed
    (fun token => ⟨token.kind, "y", token.line + 7⟩) fun _ => rfl
  obtain ⟨position, inside, names, fails⟩ := (parseAs_map (by decide)).2.2 _ failed
  have stillFails := fails (fun token => ⟨token.kind, "y", token.line + 7⟩) fun _ => rfl
  exact ⟨_, _, fun _ => rfl, by decide, parsed, renamed, by decide, failed, position, inside,
    names, stillFails⟩

/-- The end of the input is not replaced where it is the whole tree: it comes from no token. -/
theorem parseAs_end_not_replaced :
    (∀ token : Token, (⟨token.kind, token.text, token.line + 1⟩ : Token).kind = token.kind) ∧
    parseAs (.leaf .eof) [] = .ok (.leaf ⟨⟨.eof, "", 1⟩⟩) ∧
    parseAs (.leaf .eof)
        (([] : List Token).map fun token => ⟨token.kind, token.text, token.line + 1⟩) ≠
      .ok ((Node.leaf ⟨⟨.eof, "", 1⟩⟩).mapTokens
        fun token => ⟨token.kind, token.text, token.line + 1⟩) := by
  have parsed : parseAs (.leaf .eof) [] = .ok (.leaf ⟨⟨.eof, "", 1⟩⟩) :=
    parseAs_of_derives .inputEnd rfl
  refine ⟨fun _ => rfl, parsed, ?_⟩
  rw [List.map_nil, parsed]
  simp [Node.mapTokens, Leaf.mapTokens]

end DimLang
