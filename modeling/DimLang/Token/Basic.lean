import DimLang.Text.Quoted
import DimLang.Token.Kind

/-!
# Tokens

A token is a piece of source text with its kind and the line of its first character. Lines count
from one, but tokens of other origin may carry any number.

- `Token.display` is the display of a token
- `Token.shown` is how messages name a token
-/

namespace DimLang

/-- A classified piece of source text. -/
structure Token where
  kind : TokenKind
  text : String
  line : Nat
deriving DecidableEq, Repr

namespace Token

/-- The token that stands for the end of the input on the given line. -/
def atEnd (line : Nat) : Token :=
  ⟨.eof, "", line⟩

/-- Display of a token: kind, text and line between braces. -/
def display (token : Token) : String :=
  "\x7b " ++ token.kind.describe ++ ", " ++ Text.quoted token.text ++ ", "
    ++ toString token.line ++ " \x7d"

/-- How a message names the token: its text in quotes, or the end of the input. -/
def shown (token : Token) : String :=
  if token.kind = .eof then TokenKind.eof.describe else Text.quoted token.text

end Token

end DimLang
