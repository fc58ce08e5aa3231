/-!
# Patterns

A pattern describes a set of texts, and a lexical category is given by one. Recognition takes
derivatives: the derivative of a pattern by a character describes what may follow that character.

- `Pattern.Matches` is the set of texts that a pattern describes
- `Pattern.accepts` decides membership
- `Pattern.text` is the usual notation of a pattern
-/

namespace DimLang

/-- A set of texts, built from single characters and words. -/
inductive Pattern
  | word (cs : List Char)
  | oneOf (ranges : List (Char × Char))
  | seq (first second : Pattern)
  | alt (left right : Pattern)
  | star (item : Pattern)
  | plus (item : Pattern)
  | opt (item : Pattern)
deriving DecidableEq

namespace Pattern

/-- Whether the character lies in one of the ranges, ends included. -/
def inClass (ranges : List (Char × Char)) (c : Char) : Bool :=
  ranges.any fun range => range.1 ≤ c && c ≤ range.2

/-- The text is one of those that the pattern describes. -/
inductive Matches : Pattern → List Char → Prop
  | word (cs : List Char) : Matches (word cs) cs
  | oneOf {ranges : List (Char × Char)} {c : Char} :
      inClass ranges c = true → Matches (oneOf ranges) [c]
  | seq {p q : Pattern} {u v : List Char} :
      Matches p u → Matches q v → Matches (seq p q) (u ++ v)
  | left {p q : Pattern} {u : List Char} : Matches p u → Matches (alt p q) u
  | right {p q : Pattern} {u : List Char} : Matches q u → Matches (alt p q) u
  | none {p : Pattern} : Matches (star p) []
  | some {p : Pattern} {u v : List Char} :
      Matches p u → Matches (star p) v → Matches (star p) (u ++ v)
  | plus {p : Pattern} {u v : List Char} :
      Matches p u → Matches (star p) v → Matches (plus p) (u ++ v)
  | absent {p : Pattern} : Matches (opt p) []
  | present {p : Pattern} {u : List Char} : Matches p u → Matches (opt p) u

/-- The pattern that describes no text. -/
def nothing : Pattern :=
  oneOf []

/-- The pattern that describes the empty text only. -/
def blank : Pattern :=
  word []

/-- The pattern of the given words. -/
def words : List String → Pattern
  | [] => nothing
  | [w] => word w.toList
  | w :: ws => alt (word w.toList) (words ws)

/-- Whether the empty text belongs to the pattern. -/
def nullable : Pattern → Bool
  | word cs => cs.isEmpty
  | oneOf _ => false
  | seq p q => p.nullable && q.nullable
  | alt p q => p.nullable || q.nullable
  | star _ => true
  | plus p => p.nullable
  | opt _ => true

/-- Sequence of two patterns, kept small when the first is trivial. -/
def followedBy (p q : Pattern) : Pattern :=
  if p = nothing then nothing else if p = blank then q else seq p q

/-- Union of two patterns, kept small when one of them describes no text. -/
def orElse (p q : Pattern) : Pattern :=
  if p = nothing then q else if q = nothing then p else alt p q

/-- What may follow the character `c` in a text of the pattern. -/
def after (c : Char) : Pattern → Pattern
  | word [] => nothing
  | word (d :: cs) => if c = d then word cs else nothing
  | oneOf ranges => if inClass ranges c then blank else nothing
  | seq p q =>
    let first := (p.after c).followedBy q
    if p.nullable then first.orElse (q.after c) else first
  | alt p q => (p.after c).orElse (q.after c)
  | star p => (p.after c).followedBy (star p)
  | plus p => (p.after c).followedBy (star p)
  | opt p => p.after c

/-- Whether the whole text belongs to the pattern. -/
def accepts (p : Pattern) (cs : List Char) : Bool :=
  (cs.foldl (fun rest c => rest.after c) p).nullable

/-! ## Notation -/

/-- Characters with a meaning of their own in the notation of patterns. -/
def reserved : List Char :=
  ['\\', '.', '+', '*', '?', '(', ')', '|', '[', ']', '^', '$', '\x7b', '\x7d']

/-- A character as it is written in a pattern. -/
def charText (c : Char) : List Char :=
  if c ∈ reserved then ['\\', c] else [c]

/-- A range as it is written inside brackets; a range of one character is that character. -/
def rangeText (range : Char × Char) : List Char :=
  if range.1 = range.2 then [range.1] else [range.1, '-', range.2]

/-- A part in brackets that do not capture. -/
def groupText (cs : List Char) : List Char :=
  "(?:".toList ++ cs ++ [')']

/-- The notation of a pattern, with groups where precedence needs them: at level 1 it stands in a
sequence, at level 2 before a repetition mark. -/
def textAt (level : Nat) : Pattern → List Char
  | word cs =>
    let inner := cs.flatMap charText
    if level = 2 && cs.length != 1 then groupText inner else inner
  | oneOf ranges => '[' :: (ranges.flatMap rangeText ++ [']'])
  | seq p q =>
    let inner := p.textAt 1 ++ q.textAt 1
    if level = 2 then groupText inner else inner
  | alt p q =>
    let inner := p.textAt 0 ++ '|' :: q.textAt 0
    if level = 0 then inner else groupText inner
  | star p => p.textAt 2 ++ ['*']
  | plus p => p.textAt 2 ++ ['+']
  | opt p => p.textAt 2 ++ ['?']

/-- The usual notation of a pattern. -/
def text (p : Pattern) : String :=
  String.ofList (p.textAt 0)

end Pattern

end DimLang
