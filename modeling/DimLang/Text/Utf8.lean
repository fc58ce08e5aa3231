/-!
# Byte offsets

Positions in a source text are byte offsets of its UTF-8 encoding. This file measures texts in
bytes and finds one text in another.

- `byteLength` is the number of bytes of a text
- `offsetOf?` is the byte offset of the leftmost occurrence of a text
- `IsBoundary` says that an offset lies between two characters
-/

namespace DimLang.Text

/-- Number of bytes of the text in UTF-8. -/
def byteLength (cs : List Char) : Nat :=
  cs.foldl (fun n c => n + c.utf8Size) 0

/-- Adding up sizes from a number on adds the length in bytes to it. -/
theorem foldl_utf8Size (start : Nat) (cs : List Char) :
    cs.foldl (fun n c => n + c.utf8Size) start = start + byteLength cs := by
  induction cs generalizing start with
  | nil => rfl
  | cons c cs ih =>
    have whole : byteLength (c :: cs) = 0 + c.utf8Size + byteLength cs := ih (0 + c.utf8Size)
    rw [List.foldl_cons, ih, whole]
    omega

/-- The empty text has no bytes. -/
theorem byteLength_nil : byteLength [] = 0 :=
  rfl

/-- The bytes of the first character come on top of those behind it. -/
theorem byteLength_cons (c : Char) (cs : List Char) :
    byteLength (c :: cs) = c.utf8Size + byteLength cs := by
  rw [byteLength, List.foldl_cons, foldl_utf8Size, Nat.zero_add]

/-- The length in bytes of two texts is the sum of their lengths. -/
theorem byteLength_append (cs ds : List Char) :
    byteLength (cs ++ ds) = byteLength cs + byteLength ds := by
  rw [byteLength, List.foldl_append, foldl_utf8Size]
  rfl

/-- Byte offset of the leftmost occurrence of `needle`, counted from `offset`. -/
def offsetFrom? (needle : List Char) (offset : Nat) : List Char → Option Nat
  | [] => if needle.isEmpty then some offset else none
  | c :: cs =>
    if needle.isPrefixOf (c :: cs) then some offset
    else offsetFrom? needle (offset + c.utf8Size) cs

/-- Byte offset of the leftmost occurrence of `needle` in the text. -/
def offsetOf? (needle text : List Char) : Option Nat :=
  offsetFrom? needle 0 text

/-- The text from a byte offset on, or nothing when the offset lies inside a character or past
the end. -/
def fromOffset? : Nat → List Char → Option (List Char)
  | 0, cs => some cs
  | _ + 1, [] => none
  | n + 1, c :: cs => if c.utf8Size ≤ n + 1 then fromOffset? (n + 1 - c.utf8Size) cs else none

/-- The offset lies between two characters of the text, or at one of its ends. -/
def IsBoundary (text : List Char) (offset : Nat) : Prop :=
  (fromOffset? offset text).isSome

end DimLang.Text
