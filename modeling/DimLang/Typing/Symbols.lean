import DimLang.Syntax.Tree

/-!
# Declared names

The symbol table holds the declared names with their types. A name is declared once and keeps its
type.

- `SymbolTable.get?` is the type of a name
- `SymbolTable.declare` adds a name that is not declared, and fails for one that is
- `SemanticError` is every way in which a program can violate the rules of names and types
-/

namespace DimLang

/-- Why a syntactically correct program is rejected. -/
inductive SemanticError
  | redeclared (name : String) (line : Nat)
  | undeclared (name : String) (line : Nat)
  | incompatibleOperands (left : DataType) (operator : String) (right : DataType) (line : Nat)
  | incompatibleAssignment (name : String) (target value : DataType) (line : Nat)
  | undefinedUnary (operator : String) (operand : DataType) (line : Nat)
  | unknownType (name : String) (line : Nat)
deriving DecidableEq, Repr

namespace SemanticError

/-- The line that the error is reported for. -/
def line : SemanticError → Nat
  | redeclared _ line => line
  | undeclared _ line => line
  | incompatibleOperands _ _ _ line => line
  | incompatibleAssignment _ _ _ line => line
  | undefinedUnary _ _ line => line
  | unknownType _ line => line

/-- The text of the error. -/
def message : SemanticError → String
  | redeclared name line => s!"Variable {name} is redeclared (line {line})"
  | undeclared name line => s!"Variable {name} is undeclared (line {line})"
  | incompatibleOperands left operator right line =>
    s!"operator {operator} is not defined for {left.name} and {right.name} (line {line})"
  | incompatibleAssignment name target value line =>
    s!"cannot assign {value.name} to variable {name} of type {target.name} (line {line})"
  | undefinedUnary operator operand line =>
    s!"operator {operator} is not defined for {operand.name} (line {line})"
  | unknownType name line => s!"unknown type {name} (line {line})"

end SemanticError

/-- Declared names with their types, the latest first. -/
structure SymbolTable where
  entries : List (String × DataType)
  /-- No name is declared twice. -/
  nodup : (entries.map Prod.fst).Nodup

namespace SymbolTable

/-- The table without names. -/
def empty : SymbolTable :=
  ⟨[], List.nodup_nil⟩

/-- The type of a name, if it is declared. -/
def get? (symbols : SymbolTable) (name : String) : Option DataType :=
  symbols.entries.lookup name

/-- The number of declared names. -/
def size (symbols : SymbolTable) : Nat :=
  symbols.entries.length

/-- Whether no name is declared. -/
def isEmpty (symbols : SymbolTable) : Bool :=
  symbols.entries.isEmpty

/-- The table with one more name. -/
def insert (symbols : SymbolTable) (name : String) (ty : DataType)
    (fresh : name ∉ symbols.entries.map Prod.fst) : SymbolTable :=
  ⟨(name, ty) :: symbols.entries, by
    rw [List.map_cons, List.nodup_cons]
    exact ⟨fresh, symbols.nodup⟩⟩

/-- The empty table knows no names. -/
theorem get?_empty (name : String) : empty.get? name = none :=
  rfl

/-- A name that is inserted has its type, and every other name keeps what it has. -/
theorem get?_insert (symbols : SymbolTable) {name : String} (ty : DataType)
    (fresh : name ∉ symbols.entries.map Prod.fst) (other : String) :
    (symbols.insert name ty fresh).get? other =
      if other = name then some ty else symbols.get? other := by
  by_cases same : other = name
  · rw [if_pos same, same]
    exact List.lookup_cons_self
  · rw [if_neg same]
    simp only [get?, insert, List.lookup_cons, beq_eq_false_iff_ne.mpr same]

/-- A name has no type exactly if there is no entry for it. -/
theorem get?_eq_none_iff (symbols : SymbolTable) {name : String} :
    symbols.get? name = none ↔ name ∉ symbols.entries.map Prod.fst := by
  rw [get?, List.lookup_eq_none_iff]
  simp only [bne_iff_ne, List.mem_map, not_exists, not_and]
  exact ⟨fun absent entry member same => absent entry member same.symm,
    fun absent entry member same => absent entry member same.symm⟩

/-- Declares an occurrence of a name with a type. -/
def declare (symbols : SymbolTable) (identifier : Identifier) (ty : DataType) :
    Except SemanticError SymbolTable :=
  if h : identifier.name ∈ symbols.entries.map Prod.fst then
    .error (.redeclared identifier.name identifier.token.line)
  else .ok (symbols.insert identifier.name ty h)

/-- The type of an occurrence of a name. -/
def find (symbols : SymbolTable) (identifier : Identifier) : Except SemanticError DataType :=
  match symbols.get? identifier.name with
  | some ty => .ok ty
  | none => .error (.undeclared identifier.name identifier.token.line)

end SymbolTable

end DimLang
