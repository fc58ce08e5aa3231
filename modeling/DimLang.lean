import DimLang.Main
import DimLang.Pattern.Lemmas
import DimLang.Proofs.Grammar.Assembly
import DimLang.Proofs.Grammar.Reading
import DimLang.Proofs.Grammar.Derivation
import DimLang.Proofs.Grammar.Lookahead
import DimLang.Proofs.Grammar.Agreement
import DimLang.Proofs.Grammar.Language
import DimLang.Proofs.Grammar.Leaves
import DimLang.Proofs.Lexing.Segments
import DimLang.Proofs.Typing.Rules
import DimLang.Proofs.Typing.Agreement
import DimLang.Proofs.Grammar.Completion
import DimLang.Proofs.Grammar.Kinds
import DimLang.Proofs.Grammar.Prefixes
import DimLang.Proofs.Syntax.Within
import DimLang.Proofs.Syntax.WellFormed
import DimLang.Proofs.Typing.Annotations
import DimLang.Proofs.Typing.Declarations
import DimLang.Proofs.Frontend.InternalErrors
import DimLang.Proofs.Grammar.Joined
import DimLang.Proofs.Typing.Joined
import DimLang.Proofs.Frontend.Joined
import DimLang.Proofs.Syntax.Erasure
import DimLang.Proofs.Typing.Shape
import DimLang.Proofs.Typing.Sessions
import DimLang.Proofs.Typing.Violations
import DimLang.Proofs.Typing.Verdicts
import DimLang.Proofs.Lexing.Places
import DimLang.Proofs.Frontend.Offenders
import DimLang.Proofs.Diagnostic.Labels
import DimLang.Proofs.Grammar.Conditions
import DimLang.Proofs.Lexing.Spelling
import DimLang.Proofs.Diagnostic.Reports
import DimLang.Proofs.Command.Artifacts
import DimLang.Proofs.Syntax.Condensed
import DimLang.Proofs.Grammar.BlankLines
import DimLang.Proofs.Typing.BlankLines
import DimLang.Proofs.Syntax.Encoding
import DimLang.Proofs.Typing.Erasure
import DimLang.Proofs.Syntax.Preorder
import DimLang.Proofs.Syntax.Dump
import DimLang.Proofs.Grammar.Renaming
import DimLang.Proofs.Typing.Mentions
import DimLang.Proofs.Typing.MoreOperators
import DimLang.Proofs.Typing.Association
import DimLang.Proofs.Lexing.Boundaries
import DimLang.Proofs.Diagnostic.Spans
import DimLang.Proofs.Diagnostic.Extents
import DimLang.Proofs.Grammar.Choices
import DimLang.Proofs.Grammar.Misfits
import DimLang.Proofs.Lexing.Classes
import DimLang.Proofs.Lexing.Signs
