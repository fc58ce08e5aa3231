import DimLang.Text.Blank
import DimLang.Text.Utf8
import Mathlib.Data.List.DropRight

/-!
# Slices of a text

A text can be cut only between two characters. `slice?` cuts between two byte offsets and yields
nothing where one of them is not such a place; it yields a part of the text exactly if the offsets
are the lengths of what is in front of the part and of what is in front of its end
(`slice?_eq_some_iff`).

- `FirstOccurrence` is the place where looking for a text finds it (`offsetOf?_cases`)
- `Solid` says that no blanks are around a text, which is what trimming achieves (`exists_trim`)
-/

namespace DimLang

open Text

/-! ## Cutting at byte offsets -/

/-- An offset beyond a text counts on behind it. -/
theorem fromOffset?_append_add (before text : List Char) (offset : Nat) :
    fromOffset? (byteLength before + offset) (before ++ text) = fromOffset? offset text := by
  induction before with
  | nil => rw [byteLength_nil, Nat.zero_add, List.nil_append]
  | cons c before ih =>
    obtain ⟨size, positive⟩ := Nat.exists_eq_add_one_of_ne_zero c.utf8Size_pos.ne'
    have behind : byteLength (c :: before) + offset = size + byteLength before + offset + 1 := by
      rw [byteLength_cons]
      omega
    have left : size + byteLength before + offset + 1 - c.utf8Size =
        byteLength before + offset := by omega
    rw [behind, List.cons_append, fromOffset?, if_pos (by omega), left, ih]

/-- Offset zero leaves the whole text. -/
theorem fromOffset?_zero (text : List Char) : fromOffset? 0 text = some text := by
  cases text <;> rfl

/-- The offset at the end of a text leaves what is behind it. -/
theorem fromOffset?_append (before text : List Char) :
    fromOffset? (byteLength before) (before ++ text) = some text := by
  have behind := fromOffset?_append_add before text 0
  rwa [Nat.add_zero, fromOffset?_zero] at behind

/-- A text is cut at an offset exactly if it has a beginning of that many bytes. -/
theorem fromOffset?_eq_some_iff {offset : Nat} {text rest : List Char} :
    fromOffset? offset text = some rest ↔
      ∃ before, text = before ++ rest ∧ offset = byteLength before := by
  constructor
  · intro cut
    fun_induction fromOffset? offset text with
    | case1 text =>
      cases cut
      exact ⟨[], rfl, rfl⟩
    | case2 => cases cut
    | case3 size c text fits ih =>
      obtain ⟨before, rfl, left⟩ := ih cut
      refine ⟨c :: before, rfl, ?_⟩
      rw [byteLength_cons]
      omega
    | case4 => cases cut
  · rintro ⟨before, rfl, rfl⟩
    exact fromOffset?_append before rest

/-- A boundary is the length of a beginning. -/
theorem isBoundary_iff {text : List Char} {offset : Nat} :
    IsBoundary text offset ↔
      ∃ before after, text = before ++ after ∧ offset = byteLength before := by
  unfold IsBoundary
  rw [Option.isSome_iff_exists]
  simp only [fromOffset?_eq_some_iff]
  rw [exists_comm]

/-- The offset behind the first byte of a character is a boundary if there are no more bytes. -/
theorem isBoundary_behind_byte (before : List Char) (c : Char) (after : List Char) :
    IsBoundary (before ++ c :: after) (byteLength before + 1) ↔ c.utf8Size = 1 := by
  have positive := c.utf8Size_pos
  rw [IsBoundary, fromOffset?_append_add, fromOffset?]
  by_cases byte : c.utf8Size = 1
  · simp [byte, fromOffset?_zero]
  · rw [if_neg (by omega)]
    simp [byte]

/-- The text between two byte offsets, or nothing when one of them is not between two characters, or
when the second one is smaller. -/
def Text.slice? (text : List Char) (start stop : Nat) : Option (List Char) :=
  if start ≤ stop then
    (fromOffset? start text).bind fun rest =>
      (fromOffset? (stop - start) rest).map fun behind => rest.take (rest.length - behind.length)
  else none

/-- A slice is a part of the text, and its offsets are where the part begins and ends. -/
theorem slice?_eq_some_iff {text part : List Char} {start stop : Nat} :
    slice? text start stop = some part ↔
      ∃ before after, text = before ++ (part ++ after) ∧ start = byteLength before ∧
        stop = byteLength (before ++ part) := by
  have cut (part after : List Char) :
      (part ++ after).take ((part ++ after).length - after.length) = part := by simp
  unfold slice?
  constructor
  · intro sliced
    split at sliced
    · rename_i ordered
      obtain ⟨rest, begins, sliced⟩ := Option.bind_eq_some_iff.mp sliced
      obtain ⟨behind, ends, rfl⟩ := Option.map_eq_some_iff.mp sliced
      obtain ⟨before, rfl, rfl⟩ := fromOffset?_eq_some_iff.mp begins
      obtain ⟨part, rfl, size⟩ := fromOffset?_eq_some_iff.mp ends
      rw [cut]
      refine ⟨before, behind, rfl, rfl, ?_⟩
      rw [byteLength_append]
      omega
    · cases sliced
  · rintro ⟨before, after, rfl, rfl, rfl⟩
    rw [byteLength_append, if_pos (Nat.le_add_right _ _), fromOffset?_append, Option.bind_some,
      Nat.add_sub_cancel_left, fromOffset?_append, Option.map_some, cut]

/-! ## Lengths in bytes -/

/-- A text that is not empty has bytes. -/
theorem byteLength_pos {cs : List Char} (nonempty : cs ≠ []) : 0 < byteLength cs := by
  cases cs with
  | nil => exact absurd rfl nonempty
  | cons c cs =>
    have positive := c.utf8Size_pos
    rw [byteLength_cons]
    omega

/-- Two beginnings of one text with the same length are the same. -/
theorem eq_of_byteLength_eq {text front front' : List Char} (within : front <+: text)
    (within' : front' <+: text) (same : byteLength front = byteLength front') :
    front = front' := by
  have empty {front more : List Char} (same : byteLength front = byteLength (front ++ more)) :
      more = [] := by
    by_contra nonempty
    have positive := byteLength_pos nonempty
    rw [byteLength_append] at same
    omega
  rcases List.prefix_or_prefix_of_prefix within within' with ⟨more, rfl⟩ | ⟨more, rfl⟩
  · rw [empty same, List.append_nil]
  · rw [empty same.symm, List.append_nil]

/-! ## First occurrences -/

/-- The needle stands behind `front` in the text, and nowhere further to the left. -/
def FirstOccurrence (needle text front : List Char) : Prop :=
  front ++ needle <+: text ∧ ∀ other, other ++ needle <+: text → front.length ≤ other.length

/-- There is one first occurrence at most. -/
theorem FirstOccurrence.unique {needle text front front' : List Char}
    (first : FirstOccurrence needle text front) (first' : FirstOccurrence needle text front') :
    front = front' := by
  have within : front <+: text := (List.prefix_append front needle).trans first.1
  have within' : front' <+: text := (List.prefix_append front' needle).trans first'.1
  have same : front.length = front'.length :=
    Nat.le_antisymm (first.2 front' first'.1) (first'.2 front first.1)
  exact (List.prefix_of_prefix_length_le within within' (Nat.le_of_eq same)).eq_of_length same

/-- A character that ends a line occurs first where the line ends. -/
theorem FirstOccurrence.eq_of_ends {c : Char} {text after front : List Char}
    (first : FirstOccurrence [c] (text ++ after) front) (absent : c ∉ text)
    (ends : ∀ d ∈ after.head?, d = c) : front = text := by
  obtain ⟨rest, split⟩ := first.1
  rw [List.append_assoc, List.singleton_append] at split
  rcases List.append_eq_append_iff.mp split with ⟨more, rfl, behind⟩ | ⟨more, rfl, behind⟩
  · cases more with
    | nil => rw [List.append_nil]
    | cons d more =>
      obtain ⟨rfl, -⟩ := List.cons.inj behind
      exact absurd (List.mem_append_right front List.mem_cons_self) absent
  · -- The occurrence is not behind the one that ends the line.
    obtain ⟨d, after, rfl⟩ : ∃ d cs, after = d :: cs :=
      List.exists_cons_of_ne_nil (by rw [behind]; simp)
    obtain rfl : d = c := ends d rfl
    have least := first.2 text ⟨after, by simp⟩
    rw [List.length_append] at least
    rw [List.eq_nil_of_length_eq_zero (by omega : more.length = 0), List.append_nil]

/-- A text that occurs is found at its first occurrence. -/
theorem exists_offsetFrom? {needle text : List Char} (occurs : needle <:+: text) (offset : Nat) :
    ∃ front, FirstOccurrence needle text front ∧
      offsetFrom? needle offset text = some (offset + byteLength front) := by
  induction text generalizing offset with
  | nil =>
    obtain rfl : needle = [] := List.infix_nil.mp occurs
    exact ⟨[], ⟨List.nil_prefix, fun _ _ => Nat.zero_le _⟩, rfl⟩
  | cons c cs ih =>
    rw [offsetFrom?]
    by_cases here : needle <+: c :: cs
    · rw [if_pos (List.isPrefixOf_iff_prefix.mpr here)]
      exact ⟨[], ⟨here, fun _ _ => Nat.zero_le _⟩, rfl⟩
    · have later : needle <:+: cs := (List.infix_cons_iff.mp occurs).resolve_left here
      obtain ⟨front, ⟨found, first⟩, offsets⟩ := ih later (offset + c.utf8Size)
      rw [if_neg (mt List.isPrefixOf_iff_prefix.mp here), offsets]
      refine ⟨c :: front, ⟨List.cons_prefix_cons.mpr ⟨rfl, found⟩, ?_⟩, ?_⟩
      · intro other occurs
        cases other with
        | nil => exact absurd occurs here
        | cons d other =>
          exact Nat.succ_le_succ (first other (List.cons_prefix_cons.mp occurs).2)
      · rw [byteLength_cons, Nat.add_assoc]

/-- A text that does not occur is not found. -/
theorem offsetFrom?_eq_none {needle text : List Char} (absent : ¬ needle <:+: text) (offset : Nat) :
    offsetFrom? needle offset text = none := by
  induction text generalizing offset with
  | nil =>
    have nonempty : needle ≠ [] := mt List.infix_nil.mpr absent
    rw [offsetFrom?, if_neg (mt List.isEmpty_iff.mp nonempty)]
  | cons c cs ih =>
    rw [List.infix_cons_iff, not_or] at absent
    rw [offsetFrom?, if_neg (mt List.isPrefixOf_iff_prefix.mp absent.1), ih absent.2]

/-- A text is found where it occurs first, or it does not occur. -/
theorem offsetOf?_cases (needle text : List Char) :
    (∃ front, FirstOccurrence needle text front ∧
      offsetOf? needle text = some (byteLength front)) ∨
    ¬ needle <:+: text ∧ offsetOf? needle text = none := by
  by_cases occurs : needle <:+: text
  · obtain ⟨front, first, offset⟩ := exists_offsetFrom? occurs 0
    rw [Nat.zero_add] at offset
    exact .inl ⟨front, first, offset⟩
  · exact .inr ⟨occurs, offsetFrom?_eq_none occurs 0⟩

/-! ## Trimming -/

/-- The text has a first and a last character that are no blanks. -/
structure Solid (text : List Char) : Prop where
  first : ∃ c cs, text = c :: cs ∧ isBlank c = false
  last : ∃ cs c, text = cs ++ [c] ∧ isBlank c = false

/-- A solid text is not empty. -/
theorem Solid.ne_nil {text : List Char} (solid : Solid text) : text ≠ [] := by
  obtain ⟨c, cs, rfl, -⟩ := solid.first
  exact List.cons_ne_nil c cs

/-- Nothing is left of a text exactly if it is blank. -/
theorem trim_eq_nil_iff {text : List Char} : trim text = [] ↔ ∀ c ∈ text, isBlank c = true := by
  change List.rdropWhile isBlank (text.dropWhile isBlank) = [] ↔ _
  rw [List.rdropWhile_eq_nil_iff]
  constructor
  · intro blank c member
    rw [← List.takeWhile_append_dropWhile (p := isBlank) (l := text), List.mem_append] at member
    rcases member with leading | member
    · exact List.mem_takeWhile_imp leading
    · exact blank c member
  · intro blank c member
    exact blank c (List.dropWhile_suffix isBlank |>.subset member)

/-- Trimming takes away the blanks at both ends, so that a solid text is left if not all of the text
is blank. -/
theorem exists_trim (text : List Char) :
    ∃ trailing, text = text.takeWhile isBlank ++ (trim text ++ trailing) ∧
      (∀ c ∈ trailing, isBlank c = true) ∧ (trim text ≠ [] → Solid (trim text)) := by
  have split : trim text ++ (trimStart text).rtakeWhile isBlank = trimStart text :=
    List.rdropWhile_append_rtakeWhile
  refine ⟨(trimStart text).rtakeWhile isBlank, ?_, ?_, ?_⟩
  · rw [split]
    exact List.takeWhile_append_dropWhile.symm
  · intro c member
    exact List.mem_rtakeWhile_imp member
  · intro nonempty
    constructor
    · -- The first character is the one that ends the leading blanks.
      obtain ⟨c, cs, trimmed⟩ := List.exists_cons_of_ne_nil nonempty
      refine ⟨c, cs, trimmed, ?_⟩
      rw [trimmed, List.cons_append] at split
      have first := List.head?_dropWhile_not isBlank text
      rw [trimStart] at split
      rw [← split] at first
      simpa using first
    · have last := List.rdropWhile_last_not isBlank (trimStart text) nonempty
      refine ⟨(trim text).dropLast, (trim text).getLast nonempty, ?_, ?_⟩
      · exact (List.dropLast_append_getLast nonempty).symm
      · exact Bool.eq_false_iff.mpr last

end DimLang
