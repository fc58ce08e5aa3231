import DimLang.Typing.Chains

/-!
# Typing of expressions

The typing of a tree yields the tree with type annotations and a verdict. The operands of a node
are typed before the node, from left to right, and the first error ends the typing: what was typed
before it keeps its annotations and all else is left as it was.

A name takes its declared type and a constant the type of its kind; the factors of an addend and
the addends of an operand are typed as chains.

- `TypingContext` is what the typing depends on
- `Factor.check`, `Addend.check`, `Operand.check` and `Expression.check` type expressions
-/

namespace DimLang

/-- What the typing of a statement depends on. -/
structure TypingContext where
  operators : OperatorTable
  symbols : SymbolTable

/-- A name takes its declared type. -/
def Identifier.check (context : TypingContext) (identifier : Identifier) :
    Checked Identifier DataType :=
  match context.symbols.find identifier with
  | .ok ty => ⟨⟨identifier.token, ty⟩, .ok ty⟩
  | .error error => ⟨identifier, .error error⟩

/-- The constant with the type that its kind implies. -/
def Literal.typed (literal : Literal) : Literal :=
  ⟨literal.token, literal.lexicalType⟩

/-- The number with the type of its constant. -/
def Number.typed (number : Number) : Number :=
  ⟨number.literal.typed, number.literal.lexicalType⟩

mutual

/-- Types a factor. A negation has the type of its operand, which must not be a float. -/
def Factor.check (context : TypingContext) : Factor → Checked Factor DataType
  | ⟨.identifier name, ty⟩ =>
    match name.check context with
    | ⟨name, .ok nameTy⟩ => ⟨⟨.identifier name, nameTy⟩, .ok nameTy⟩
    | ⟨name, .error error⟩ => ⟨⟨.identifier name, ty⟩, .error error⟩
  | ⟨.number number, _⟩ => ⟨⟨.number number.typed, number.typed.ty⟩, .ok number.typed.ty⟩
  | ⟨.bool literal, _⟩ => ⟨⟨.bool literal.typed, literal.typed.ty⟩, .ok literal.typed.ty⟩
  | ⟨.not operator operand, ty⟩ =>
    match operand.check context with
    | ⟨operand, .ok operandTy⟩ =>
      if operandTy = .float then
        ⟨⟨.not operator operand, ty⟩,
          .error (.undefinedUnary operator.token.text operandTy operator.token.line)⟩
      else ⟨⟨.not operator operand, operandTy⟩, .ok operandTy⟩
    | ⟨operand, .error error⟩ => ⟨⟨.not operator operand, ty⟩, .error error⟩
  | ⟨.group opening expression closing, ty⟩ =>
    match expression.check context with
    | ⟨expression, .ok inner⟩ => ⟨⟨.group opening expression closing, inner⟩, .ok inner⟩
    | ⟨expression, .error error⟩ => ⟨⟨.group opening expression closing, ty⟩, .error error⟩

/-- Types a chain of factors behind the steps that are given from the innermost outwards. -/
def Addend.check (context : TypingContext) (links : List (Link Factor)) :
    Addend → Checked Addend DataType
  | ⟨factor, .stop tailTy, ty⟩ =>
    match factor.check context with
    | ⟨factor, .error error⟩ =>
      ⟨restoreLinks Link.addend ⟨factor, .stop tailTy, ty⟩ links, .error error⟩
    | ⟨factor, .ok factorTy⟩ =>
      closeChain context.operators Link.addend links ⟨factor, .stop .none, factorTy⟩
        ⟨factor, .stop tailTy, ty⟩ factorTy
  | ⟨factor, .more operator rest tailTy, ty⟩ =>
    match factor.check context with
    | ⟨factor, .error error⟩ =>
      ⟨restoreLinks Link.addend ⟨factor, .more operator rest tailTy, ty⟩ links, .error error⟩
    | ⟨factor, .ok factorTy⟩ =>
      rest.check context (⟨factor, factorTy, operator, ty, tailTy⟩ :: links)

/-- Types a chain of addends behind the steps that are given from the innermost outwards. -/
def Operand.check (context : TypingContext) (links : List (Link Addend)) :
    Operand → Checked Operand DataType
  | ⟨addend, .stop tailTy, ty⟩ =>
    match addend.check context [] with
    | ⟨addend, .error error⟩ =>
      ⟨restoreLinks Link.operand ⟨addend, .stop tailTy, ty⟩ links, .error error⟩
    | ⟨addend, .ok addendTy⟩ =>
      closeChain context.operators Link.operand links ⟨addend, .stop .none, addendTy⟩
        ⟨addend, .stop tailTy, ty⟩ addendTy
  | ⟨addend, .more operator rest tailTy, ty⟩ =>
    match addend.check context [] with
    | ⟨addend, .error error⟩ =>
      ⟨restoreLinks Link.operand ⟨addend, .more operator rest tailTy, ty⟩ links, .error error⟩
    | ⟨addend, .ok addendTy⟩ =>
      rest.check context (⟨addend, addendTy, operator, ty, tailTy⟩ :: links)

/-- Types an operand or a comparison. -/
def Expression.check (context : TypingContext) : Expression → Checked Expression DataType
  | ⟨left, .stop tailTy, ty⟩ =>
    match left.check context [] with
    | ⟨left, .error error⟩ => ⟨⟨left, .stop tailTy, ty⟩, .error error⟩
    | ⟨left, .ok leftTy⟩ => ⟨⟨left, .stop .none, leftTy⟩, .ok leftTy⟩
  | ⟨left, .more operator right tailTy, ty⟩ =>
    match left.check context [] with
    | ⟨left, .error error⟩ => ⟨⟨left, .more operator right tailTy, ty⟩, .error error⟩
    | ⟨left, .ok leftTy⟩ =>
      match right.check context [] with
      | ⟨right, .error error⟩ => ⟨⟨left, .more operator right .none, leftTy⟩, .error error⟩
      | ⟨right, .ok rightTy⟩ =>
        match context.operators.combine leftTy operator rightTy with
        | .error error => ⟨⟨left, .more operator right rightTy, leftTy⟩, .error error⟩
        | .ok ty => ⟨⟨left, .more operator right rightTy, ty⟩, .ok ty⟩

end

end DimLang
