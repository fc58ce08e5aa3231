/-!
# Data types

The types of the language and the two marks that an annotation may carry instead of one.

- `DataType.ofTypeName?` is the type that a declaration names
- `DataType.isResolved` holds of the proper types
-/

namespace DimLang

/-- The type annotation of a node. -/
inductive DataType
  /-- There is nothing to type, as in a tail without an operator. -/
  | none
  | int
  | float
  | bool
  /-- The node has not been analysed. -/
  | invalid
deriving DecidableEq, Repr

namespace DataType

/-- All annotations. -/
def all : List DataType :=
  [none, int, float, bool, invalid]

/-- The name of an annotation in messages, dumps and listings. -/
def name : DataType → String
  | none => "None"
  | int => "Int"
  | float => "Float"
  | bool => "Bool"
  | invalid => "Invalid"

/-- Whether the annotation is a proper type. -/
def isResolved : DataType → Bool
  | int => true
  | float => true
  | bool => true
  | none => false
  | invalid => false

/-- The type with the given name in the source language. -/
def ofTypeName? (text : String) : Option DataType :=
  if text = "integer" then some int
  else if text = "float" then some float
  else if text = "bool" then some bool
  else Option.none

/-- The message about a type name that the language does not have. -/
def unknownMessage (text : String) : String :=
  "unknown type " ++ text

/-- The list of types is complete. -/
theorem mem_all (ty : DataType) : ty ∈ all := by
  cases ty <;> decide

/-- Types have different names. -/
theorem eq_of_name {ty ty' : DataType} (same : ty.name = ty'.name) : ty = ty' := by
  have distinct : ∀ ty ∈ all, ∀ ty' ∈ all, ty.name = ty'.name → ty = ty' := by
    decide +kernel
  exact distinct ty ty.mem_all ty' ty'.mem_all same

end DataType

end DimLang
