import DimLang.Pattern

/-!
# Recognition of patterns

The derivative by a character describes exactly the texts that may follow it, so recognition by
derivatives decides membership.

- `matches_after_iff` is the law of derivatives
- `accepts_iff` says that recognition decides membership
-/

namespace DimLang.Pattern

/-! ## Texts of a pattern by its form -/

/-- A word matches itself only. -/
theorem matches_word_iff {cs ds : List Char} : Matches (word cs) ds ↔ ds = cs := by
  constructor
  · intro h
    cases h
    rfl
  · intro h
    rw [h]
    exact .word cs

/-- A class of characters matches each of its characters alone. -/
theorem matches_oneOf_iff {ranges : List (Char × Char)} {cs : List Char} :
    Matches (oneOf ranges) cs ↔ ∃ c, cs = [c] ∧ inClass ranges c = true := by
  constructor
  · intro h
    cases h with
    | oneOf member => exact ⟨_, rfl, member⟩
  · rintro ⟨c, rfl, member⟩
    exact .oneOf member

/-- A sequence matches texts that can be cut into a match of each part. -/
theorem matches_seq_iff {p q : Pattern} {cs : List Char} :
    Matches (seq p q) cs ↔ ∃ u v, cs = u ++ v ∧ Matches p u ∧ Matches q v := by
  constructor
  · intro h
    cases h with
    | seq first second => exact ⟨_, _, rfl, first, second⟩
  · rintro ⟨u, v, rfl, first, second⟩
    exact .seq first second

/-- A choice matches what one of its branches matches. -/
theorem matches_alt_iff {p q : Pattern} {cs : List Char} :
    Matches (alt p q) cs ↔ Matches p cs ∨ Matches q cs := by
  constructor
  · intro h
    cases h with
    | left h => exact .inl h
    | right h => exact .inr h
  · rintro (h | h)
    · exact .left h
    · exact .right h

/-- A repetition that is not empty begins with one match. -/
theorem matches_plus_iff {p : Pattern} {cs : List Char} :
    Matches (plus p) cs ↔ ∃ u v, cs = u ++ v ∧ Matches p u ∧ Matches (star p) v := by
  constructor
  · intro h
    cases h with
    | plus first rest => exact ⟨_, _, rfl, first, rest⟩
  · rintro ⟨u, v, rfl, first, rest⟩
    exact .plus first rest

/-- An option matches nothing or what its pattern matches. -/
theorem matches_opt_iff {p : Pattern} {cs : List Char} :
    Matches (opt p) cs ↔ cs = [] ∨ Matches p cs := by
  constructor
  · intro h
    cases h with
    | absent => exact .inl rfl
    | present h => exact .inr h
  · rintro (rfl | h)
    · exact .absent
    · exact .present h

/-- The pattern `nothing` has no matches. -/
theorem not_matches_nothing (cs : List Char) : ¬ Matches nothing cs := by
  intro h
  obtain ⟨c, _, member⟩ := matches_oneOf_iff.mp h
  exact Bool.false_ne_true member

/-- The pattern `blank` matches the empty text only. -/
theorem matches_blank_iff {cs : List Char} : Matches blank cs ↔ cs = [] :=
  matches_word_iff

/-- A repetition that begins with a character begins with an item that does. -/
theorem matches_star_cons {p : Pattern} {c : Char} {cs : List Char}
    (h : Matches (star p) (c :: cs)) :
    ∃ u v, cs = u ++ v ∧ Matches p (c :: u) ∧ Matches (star p) v := by
  generalize starEq : star p = whole at h
  generalize consEq : c :: cs = text at h
  induction h with
  | none => cases consEq
  | @some q u v first rest _ ih =>
    cases starEq
    cases u with
    | nil => exact ih rfl consEq
    | cons d u =>
      obtain ⟨rfl, rfl⟩ := List.cons.inj consEq
      exact ⟨u, v, rfl, first, rest⟩
  | _ => cases starEq

/-! ## Recognition -/

/-- A pattern is nullable exactly if it matches the empty text. -/
theorem nullable_iff (p : Pattern) : p.nullable = true ↔ Matches p [] := by
  induction p with
  | word cs => rw [nullable, List.isEmpty_iff, matches_word_iff, eq_comm]
  | oneOf ranges => simp [nullable, matches_oneOf_iff]
  | seq p q ihp ihq =>
    simp [nullable, matches_seq_iff, ihp, ihq, List.nil_eq, List.append_eq_nil_iff, and_assoc]
  | alt p q ihp ihq => simp [nullable, matches_alt_iff, ihp, ihq]
  | star p _ => exact iff_of_true rfl .none
  | plus p ih =>
    rw [nullable, ih, matches_plus_iff]
    constructor
    · intro h
      exact ⟨[], [], rfl, h, .none⟩
    · rintro ⟨u, v, empty, first, _⟩
      rwa [(List.append_eq_nil_iff.mp empty.symm).1] at first
  | opt p _ => simp [nullable, matches_opt_iff]

/-- The simplified sequence has the matches of the sequence. -/
theorem matches_followedBy_iff {p q : Pattern} {cs : List Char} :
    Matches (p.followedBy q) cs ↔ ∃ u v, cs = u ++ v ∧ Matches p u ∧ Matches q v := by
  rw [followedBy]
  split
  · rename_i trivial
    subst trivial
    constructor
    · intro h
      exact absurd h (not_matches_nothing cs)
    · rintro ⟨u, v, _, first, _⟩
      exact absurd first (not_matches_nothing u)
  · split
    · rename_i trivial
      subst trivial
      constructor
      · intro h
        exact ⟨[], cs, rfl, matches_blank_iff.mpr rfl, h⟩
      · rintro ⟨u, v, rfl, first, second⟩
        rwa [matches_blank_iff.mp first]
    · exact matches_seq_iff

/-- The simplified choice has the matches of the choice. -/
theorem matches_orElse_iff {p q : Pattern} {cs : List Char} :
    Matches (p.orElse q) cs ↔ Matches p cs ∨ Matches q cs := by
  rw [orElse]
  split
  · rename_i trivial
    subst trivial
    simp only [not_matches_nothing, false_or]
  · split
    · rename_i trivial
      subst trivial
      simp only [not_matches_nothing, or_false]
    · exact matches_alt_iff

/-- The derivative describes what may follow the character. -/
theorem matches_after_iff (c : Char) (p : Pattern) (cs : List Char) :
    Matches (p.after c) cs ↔ Matches p (c :: cs) := by
  induction p generalizing cs with
  | word ds =>
    cases ds with
    | nil => simp [after, not_matches_nothing, matches_word_iff]
    | cons d ds =>
      rw [after, matches_word_iff, List.cons.injEq]
      split
      · rename_i same
        simp only [matches_word_iff, same, true_and]
      · rename_i differs
        simp only [not_matches_nothing, differs, false_and]
  | oneOf ranges =>
    rw [after, matches_oneOf_iff]
    split
    · rename_i member
      constructor
      · intro h
        rw [matches_blank_iff.mp h]
        exact ⟨c, rfl, member⟩
      · rintro ⟨d, single, _⟩
        exact matches_blank_iff.mpr (List.cons.inj single).2
    · rename_i outside
      simp [not_matches_nothing, outside]
  | seq p q ihp ihq =>
    have first : Matches ((p.after c).followedBy q) cs ↔
        ∃ u v, cs = u ++ v ∧ Matches p (c :: u) ∧ Matches q v := by
      simp only [matches_followedBy_iff, ihp]
    have whole : Matches (seq p q) (c :: cs) ↔
        (∃ u v, cs = u ++ v ∧ Matches p (c :: u) ∧ Matches q v) ∨
          (Matches p [] ∧ Matches q (c :: cs)) := by
      rw [matches_seq_iff]
      constructor
      · rintro ⟨u, v, split, left, right⟩
        cases u with
        | nil => exact .inr ⟨left, split ▸ right⟩
        | cons d u =>
          obtain ⟨rfl, rfl⟩ := List.cons.inj split
          exact .inl ⟨u, v, rfl, left, right⟩
      · rintro (⟨u, v, rfl, left, right⟩ | ⟨left, right⟩)
        · exact ⟨c :: u, v, rfl, left, right⟩
        · exact ⟨[], c :: cs, rfl, left, right⟩
    rw [after, whole]
    split
    · rename_i empty
      rw [matches_orElse_iff, first, ihq]
      simp only [(nullable_iff p).mp empty, true_and]
    · rename_i nonempty
      have never : ¬ Matches p [] := fun h => nonempty ((nullable_iff p).mpr h)
      simp only [first, never, false_and, or_false]
  | alt p q ihp ihq => rw [after, matches_orElse_iff, matches_alt_iff, ihp, ihq]
  | star p ih =>
    simp only [after, matches_followedBy_iff, ih]
    constructor
    · rintro ⟨u, v, rfl, first, rest⟩
      exact .some (u := c :: u) first rest
    · exact matches_star_cons
  | plus p ih =>
    simp only [after, matches_followedBy_iff, ih]
    constructor
    · rintro ⟨u, v, rfl, first, rest⟩
      exact .plus (u := c :: u) first rest
    · intro h
      obtain ⟨u, v, split, first, rest⟩ := matches_plus_iff.mp h
      cases u with
      | nil => exact matches_star_cons (split ▸ rest)
      | cons d u =>
        obtain ⟨rfl, rfl⟩ := List.cons.inj split
        exact ⟨u, v, rfl, first, rest⟩
  | opt p ih => rw [after, ih, matches_opt_iff]; simp

/-- Recognition decides membership. -/
theorem accepts_iff (p : Pattern) (cs : List Char) : p.accepts cs = true ↔ Matches p cs := by
  induction cs generalizing p with
  | nil => exact nullable_iff p
  | cons c cs ih => exact (ih (p.after c)).trans (matches_after_iff c p cs)

instance (p : Pattern) (cs : List Char) : Decidable (Matches p cs) :=
  decidable_of_iff _ (accepts_iff p cs)

end DimLang.Pattern
