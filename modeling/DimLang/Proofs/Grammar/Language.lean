import DimLang.Proofs.Grammar.Agreement

/-!
# The language of the parser

The parser accepts the token lists that the grammar derives, and yields their trees
(`parseAs_eq_ok_iff_derives`). Token lists come from a source text, so that the end of the input is
not among them.
-/

namespace DimLang

variable {root : Symbol} {tokens : List Token} {node : Node}

/-- Without an end mark inside the input, parsing reads up to the end of the input. -/
theorem parseAs_eq_ok_iff_reads (noEnd : ∀ token ∈ tokens, token.kind ≠ .eof) :
    parseAs root tokens = .ok node ↔ Reads (endLine tokens) root tokens node [] := by
  rw [parseAs_eq_ok_iff]
  constructor
  · rintro ⟨rest, reads, ended⟩
    cases rest with
    | nil => exact reads
    | cons token rest =>
      rw [windowAt_current_cons] at ended
      exact absurd ended (noEnd token (reads.suffix.subset List.mem_cons_self))
  · intro reads
    exact ⟨[], reads, rfl⟩

/-- Parsing as a symbol succeeds with a node exactly if the grammar derives the whole token list
from the symbol with this node as its tree. -/
theorem parseAs_eq_ok_iff_derives (noEnd : ∀ token ∈ tokens, token.kind ≠ .eof) :
    parseAs root tokens = .ok node ↔ Derives (endLine tokens) root tokens node [] := by
  rw [parseAs_eq_ok_iff_reads noEnd, reads_iff_derives]

/-- Two separators with nothing behind them are one skip. -/
theorem parseAs_two_separators :
    parseAs .statement [⟨.separator, ";", 1⟩, ⟨.separator, ";", 2⟩] =
      .ok (.statement (.skip [⟨⟨.separator, ";", 1⟩⟩, ⟨⟨.separator, ";", 2⟩⟩] .empty)) := by
  have kinds : ∀ token ∈ ([⟨.separator, ";", 1⟩, ⟨.separator, ";", 2⟩] : List Token),
      token.kind = .separator := by decide
  refine (parseAs_eq_ok_iff_derives (by decide)).mpr ?_
  exact .statementSkip (List.cons_ne_nil _ _) kinds
    (by decide : nextKind [] ≠ .separator) (.statementEmpty (.inr rfl))

end DimLang
