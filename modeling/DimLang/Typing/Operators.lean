import DimLang.Typing.Symbols

/-!
# Operators

An operator table says which type a binary operator yields for the types of its operands; for
other operand types the operator is not defined.

- `OperatorTable.result?` is the type that an operator yields
- `OperatorTable.standard` has the rules of the language
- `assignable` relates the type of a name to the types of its values
-/

namespace DimLang

/-- An operator, given by its text, yields a type for two operand types. -/
structure OperatorRule where
  left : DataType
  operator : String
  right : DataType
  result : DataType
deriving DecidableEq, Repr

/-- The rules of the operators; of two rules for the same operands the earlier one counts. -/
structure OperatorTable where
  rules : List OperatorRule
deriving DecidableEq, Repr

namespace OperatorTable

/-- The table with one more rule, which replaces one for the same operands. -/
def insert (table : OperatorTable) (rule : OperatorRule) : OperatorTable :=
  ⟨rule :: table.rules⟩

/-- The type that the operator yields, if it is defined for the operands. -/
def result? (table : OperatorTable) (left : DataType) (operator : String) (right : DataType) :
    Option DataType :=
  (table.rules.find? fun rule =>
    rule.left = left && rule.right = right && rule.operator == operator).map OperatorRule.result

/-- A rule that is inserted decides on its own triple, and every other triple keeps its result. -/
theorem result?_insert (table : OperatorTable) (rule : OperatorRule) (left : DataType)
    (operator : String) (right : DataType) :
    (table.insert rule).result? left operator right =
      if rule.left = left ∧ rule.right = right ∧ rule.operator = operator then some rule.result
      else table.result? left operator right := by
  simp only [result?, insert, List.find?_cons]
  split
  · rename_i applies
    rw [if_pos (by simpa [and_assoc] using applies), Option.map_some]
  · rename_i applies
    rw [if_neg (by simpa [and_assoc] using applies)]

/-- The type of an operation, or the error that the operator is not defined. -/
def combine (table : OperatorTable) (left : DataType) (operator : Leaf) (right : DataType) :
    Except SemanticError DataType :=
  match table.result? left operator.token.text right with
  | some ty => .ok ty
  | none => .error (.incompatibleOperands left operator.token.text right operator.token.line)

/-- Relations compare numbers of any types; equality and inequality also compare truth values. -/
def relationRules : List OperatorRule :=
  (["=", "<>", "<", "<=", ">", ">="].flatMap fun operator =>
    [⟨.int, operator, .int, .bool⟩, ⟨.int, operator, .float, .bool⟩,
     ⟨.float, operator, .int, .bool⟩, ⟨.float, operator, .float, .bool⟩])
  ++ [⟨.bool, "=", .bool, .bool⟩, ⟨.bool, "<>", .bool, .bool⟩]

/-- Arithmetic yields an integer for integers, and a float if an operand is one. -/
def arithmeticRules : List OperatorRule :=
  ["+", "-", "*", "/"].flatMap fun operator =>
    [⟨.int, operator, .int, .int⟩, ⟨.float, operator, .float, .float⟩,
     ⟨.int, operator, .float, .float⟩, ⟨.float, operator, .int, .float⟩]

/-- Logic is defined for truth values and for integers. -/
def logicalRules : List OperatorRule :=
  ["and", "or"].flatMap fun operator =>
    [⟨.bool, operator, .bool, .bool⟩, ⟨.int, operator, .int, .int⟩]

/-- The rules of the language. -/
def standard : OperatorTable :=
  ⟨relationRules ++ arithmeticRules ++ logicalRules⟩

end OperatorTable

/-- Whether a value may be stored under a name: the types are equal, or an integer is widened. -/
def assignable (target value : DataType) : Bool :=
  target = value || (target = .float && value = .int)

end DimLang
