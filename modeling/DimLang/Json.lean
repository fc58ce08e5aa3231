/-!
# JSON values

Artifacts are written as JSON. Members of an object keep the order in which they are given, and
the text has one member or item on a line.

- `Json` is a value, as far as the artifacts need them
- `Json.pretty` is its text
-/

namespace DimLang

/-- A JSON value. -/
inductive Json
  | null
  | number (n : Nat)
  | string (text : String)
  | array (items : List Json)
  | object (members : List (String × Json))

namespace Json

/-- A hexadecimal digit in lower case. -/
def hexDigit (n : Nat) : Char :=
  Nat.digitChar n

/-- A character inside a JSON string: quotes, backslashes and controls are escaped. -/
def escapeChar (c : Char) : List Char :=
  if c = '"' then ['\\', '"']
  else if c = '\\' then ['\\', '\\']
  else if c.toNat = 8 then ['\\', 'b']
  else if c.toNat = 12 then ['\\', 'f']
  else if c = '\n' then ['\\', 'n']
  else if c = '\r' then ['\\', 'r']
  else if c = '\t' then ['\\', 't']
  else if c.toNat < 32 then ['\\', 'u', '0', '0', hexDigit (c.toNat / 16), hexDigit (c.toNat % 16)]
  else [c]

/-- A text as a JSON string. -/
def quote (text : String) : String :=
  String.ofList ('"' :: (text.toList.flatMap escapeChar ++ ['"']))

/-- The beginning of a line at the given depth. -/
def newLine (depth : Nat) : String :=
  String.ofList ('\n' :: List.replicate (2 * depth) ' ')

mutual

/-- Appends the text of a value whose first line stands at the given depth. -/
def write (depth : Nat) (out : String) : Json → String
  | null => out ++ "null"
  | number n => out ++ toString n
  | string text => out ++ quote text
  | array items =>
    if items.isEmpty then out ++ "[]"
    else writeItems (depth + 1) "[" out items ++ newLine depth ++ "]"
  | object members =>
    if members.isEmpty then out ++ "\x7b\x7d"
    else writeMembers (depth + 1) "\x7b" out members ++ newLine depth ++ "\x7d"

/-- Appends items, each on a new line; the mark `lead` stands before the first one and a comma
before the others. -/
def writeItems (depth : Nat) (lead out : String) : List Json → String
  | [] => out
  | item :: rest => writeItems depth "," (write depth (out ++ lead ++ newLine depth) item) rest

/-- Appends members, each on a new line; the mark `lead` stands before the first one and a comma
before the others. -/
def writeMembers (depth : Nat) (lead out : String) : List (String × Json) → String
  | [] => out
  | member :: rest =>
    writeMembers depth "," (writeMember depth (out ++ lead ++ newLine depth) member) rest

/-- Appends a member. -/
def writeMember (depth : Nat) (out : String) : String × Json → String
  | (key, value) => write depth (out ++ quote key ++ ": ") value

end

/-- The text of a value, indented by two blanks for each level. -/
def pretty (value : Json) : String :=
  value.write 0 ""

end Json

end DimLang
