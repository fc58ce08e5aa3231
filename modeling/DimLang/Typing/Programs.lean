import DimLang.Typing.Statements

/-!
# Analysis of programs

The items of a program are analysed in order. A declaration adds its names to the symbol table, a
statement is typed under the names declared so far. The first error ends the analysis: the items
behind it are left as they were, and the table keeps what was declared before the error.

- `Declaration.check` declares names one by one
- `Program.check` analyses a program from a symbol table
- `analyze` analyses a program on its own
-/

namespace DimLang

/-- A tree as the analysis leaves it, with the names declared by then and the verdict. -/
structure Analysis (α : Type) where
  tree : α
  symbols : SymbolTable
  verdict : Except SemanticError Unit

/-- Declares names with a type, behind those that are passed, until one is declared already. -/
def IdentifierList.declare (ty : DataType) (symbols : SymbolTable)
    (passed : List (Identifier × Leaf)) : IdentifierList → Analysis IdentifierList
  | ⟨head, .stop⟩ =>
    match symbols.declare head ty with
    | .error error => ⟨behind passed ⟨head, .stop⟩, symbols, .error error⟩
    | .ok symbols => ⟨behind passed ⟨⟨head.token, ty⟩, .stop⟩, symbols, .ok ()⟩
  | ⟨head, .more comma rest⟩ =>
    match symbols.declare head ty with
    | .error error => ⟨behind passed ⟨head, .more comma rest⟩, symbols, .error error⟩
    | .ok symbols => rest.declare ty symbols ((⟨head.token, ty⟩, comma) :: passed)

/-- Analyses a declaration; of an unknown type nothing is declared. -/
def Declaration.check (symbols : SymbolTable) (declaration : Declaration) :
    Analysis Declaration :=
  let typeName := declaration.typeName.token
  match DataType.ofTypeName? typeName.text with
  | none => ⟨declaration, symbols, .error (.unknownType typeName.text typeName.line)⟩
  | some ty =>
    match declaration.identifiers.declare ty symbols [] with
    | ⟨names, symbols, verdict⟩ => ⟨{ declaration with identifiers := names }, symbols, verdict⟩

/-- Analyses an item. -/
def ProgramItem.check (context : TypingContext) : ProgramItem → Analysis ProgramItem
  | .declaration tree =>
    match tree.check context.symbols with
    | ⟨tree, symbols, verdict⟩ => ⟨.declaration tree, symbols, verdict⟩
  | .statement tree =>
    match tree.check context with
    | ⟨tree, verdict⟩ => ⟨.statement tree, context.symbols, verdict⟩

/-- Puts items with the separators behind them, given in reverse, in front of a program. -/
def Program.behind (passed : List (ProgramItem × Leaf)) (rest : Program) : Program :=
  passed.foldl (fun rest step => ⟨step.1, .more step.2 rest⟩) rest

/-- Analyses a program behind the items that are passed. -/
def Program.checkFrom (operators : OperatorTable) (symbols : SymbolTable)
    (passed : List (ProgramItem × Leaf)) : Program → Analysis Program
  | ⟨item, .stop⟩ =>
    match item.check ⟨operators, symbols⟩ with
    | ⟨item, symbols, verdict⟩ => ⟨behind passed ⟨item, .stop⟩, symbols, verdict⟩
  | ⟨item, .more separator rest⟩ =>
    match item.check ⟨operators, symbols⟩ with
    | ⟨item, symbols, .error error⟩ =>
      ⟨behind passed ⟨item, .more separator rest⟩, symbols, .error error⟩
    | ⟨item, symbols, .ok _⟩ => rest.checkFrom operators symbols ((item, separator) :: passed)

/-- Analyses a program under the given operators and names. -/
def Program.check (context : TypingContext) (program : Program) : Analysis Program :=
  program.checkFrom context.operators context.symbols []

/-- The program with all its types, or the first violation of the rules. -/
def analyze (program : Program) : Except SemanticError Program :=
  match program.check ⟨.standard, .empty⟩ with
  | ⟨typed, _, .ok _⟩ => .ok typed
  | ⟨_, _, .error error⟩ => .error error

end DimLang
