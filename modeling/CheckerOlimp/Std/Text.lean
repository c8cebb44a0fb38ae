import Mathlib.Data.List.Infix
import Mathlib.Tactic.Tauto

/-!
# Search in a text

`Text.find` is the first position at which a pattern occurs. A text is a list
over any alphabet with decidable equality. The facts here say when there is a
position, what stands around it, and how an occurrence meets a separator that
the pattern does not contain.
-/

namespace CheckerOlimp.Std.Text

variable {α : Type} [DecidableEq α]

/-- The first position of `pattern` in a text, or `none`. -/
def find (pattern : List α) : List α → Option Nat
  | [] => if pattern = [] then some 0 else none
  | head :: rest =>
    if pattern.isPrefixOf (head :: rest) then some 0
    else (find pattern rest).map (· + 1)

/-- The text with `count` letters from position `at` on replaced by `inserted`. -/
def replace (text : List α) (position count : Nat) (inserted : List α) : List α :=
  text.take position ++ inserted ++ text.drop (position + count)

omit [DecidableEq α] in
/-- The letters between two parts are replaced. -/
theorem replace_append (left middle right inserted : List α) :
    replace (left ++ (middle ++ right)) left.length middle.length inserted =
      left ++ inserted ++ right := by
  have front : (left ++ (middle ++ right)).take left.length = left := by simp
  have back : (left ++ (middle ++ right)).drop (left.length + middle.length) = right := by
    rw [← List.drop_drop]
    simp
  rw [replace, front, back]

/-- There is no position exactly when the pattern is no part of the text. -/
theorem find_eq_none_iff {pattern text : List α} :
    find pattern text = none ↔ ¬ pattern <:+: text := by
  induction text with
  | nil =>
      simp only [find, List.infix_nil]
      split <;> simp_all
  | cons head tail inductionHypothesis =>
      simp only [find, List.infix_cons_iff, not_or]
      split
      · next starts => simp [List.isPrefixOf_iff_prefix.mp starts]
      · next starts =>
          have absent : ¬ pattern <+: head :: tail := fun starts' =>
            starts (List.isPrefixOf_iff_prefix.mpr starts')
          simp [absent, inductionHypothesis]

/-- A pattern is found exactly when it is part of the text. -/
theorem find_isSome_iff {pattern text : List α} :
    (find pattern text).isSome ↔ pattern <:+: text := by
  rw [← not_iff_not, ← find_eq_none_iff]
  simp

omit [DecidableEq α] in
/-- A pattern without the separator lies on one side of it. -/
theorem infix_around_iff {pattern left right : List α} {separator : α}
    (foreign : separator ∉ pattern) :
    pattern <:+: left ++ separator :: right ↔ pattern <:+: left ∨ pattern <:+: right := by
  constructor
  · rintro ⟨before, after, same⟩
    rw [List.append_assoc] at same
    rcases List.append_eq_append_iff.mp same with ⟨middle, rfl, same'⟩ | ⟨middle, rfl, same'⟩
    · rcases List.append_eq_append_iff.mp same' with ⟨inner, rfl, _⟩ | ⟨inner, rfl, same''⟩
      · exact .inl ⟨before, inner, by simp⟩
      · cases inner with
        | nil => exact .inl ⟨before, [], by simp⟩
        | cons head tail =>
            cases same''
            simp at foreign
    · cases middle with
      | nil =>
          cases pattern with
          | nil => exact .inl (List.nil_infix)
          | cons head tail =>
              cases same'
              simp at foreign
      | cons head tail =>
          cases same'
          exact .inr ⟨tail, after, by simp⟩
  · rintro (inside | inside)
    · exact inside.trans (List.infix_append [] left (separator :: right))
    · have ending : right <:+ left ++ separator :: right := by
        simpa using List.suffix_append (left ++ [separator]) right
      exact inside.trans ending.isInfix

/-! ## The first occurrence

A pattern whose first letter does not come again does not overlap itself. -/

section FirstOccurrence

variable {head : α} {tail left right text : List α} {position : Nat}

omit [DecidableEq α] in
/-- Two occurrences are the same or lie apart. -/
theorem prefix_of_prefix_append (alone : head ∉ tail)
    (starts : head :: tail <+: left ++ (head :: tail ++ right)) :
    left = [] ∨ head :: tail <+: left := by
  obtain ⟨after, same⟩ := starts
  rcases List.append_eq_append_iff.mp same with ⟨middle, whole, _⟩ | ⟨middle, whole, rest⟩
  · exact .inr ⟨middle, whole.symm⟩
  · cases left with
    | nil => exact .inl rfl
    | cons first others =>
        cases whole
        cases middle with
        | nil =>
            refine .inr ⟨[], ?_⟩
            simp
        | cons next letters =>
            -- the second occurrence would begin inside the first
            have again : head = next := by simpa using congrArg List.head? rest
            simp [again] at alone

/-- A pattern is found where it has no occurrence before. -/
theorem find_eq_some_iff (alone : head ∉ tail) :
    find (head :: tail) text = some position ↔
      ∃ left right, text = left ++ (head :: tail ++ right) ∧ left.length = position ∧
        ¬ head :: tail <:+: left := by
  induction text generalizing position with
  | nil => simp [find]
  | cons first rest inductionHypothesis =>
      by_cases starts : head :: tail <+: first :: rest
      · have here : find (head :: tail) (first :: rest) = some 0 := by
          rw [find, if_pos (List.isPrefixOf_iff_prefix.mpr starts)]
        rw [here, Option.some.injEq]
        constructor
        · rintro rfl
          obtain ⟨right, same⟩ := starts
          exact ⟨[], right, same.symm, rfl, by simp⟩
        · rintro ⟨left, right, same, rfl, absent⟩
          rw [same] at starts
          rcases prefix_of_prefix_append alone starts with rfl | inside
          · rfl
          · exact absurd inside.isInfix absent
      · have later : find (head :: tail) (first :: rest) =
            (find (head :: tail) rest).map (· + 1) := by
          rw [find, if_neg (fun found => starts (List.isPrefixOf_iff_prefix.mp found))]
        rw [later, Option.map_eq_some_iff]
        constructor
        · rintro ⟨inner, found, rfl⟩
          obtain ⟨left, right, same, rfl, absent⟩ := inductionHypothesis.mp found
          refine ⟨first :: left, right, by rw [same]; rfl, rfl, fun inside => ?_⟩
          rcases List.infix_cons_iff.mp inside with inFront | inLeft
          · rw [same] at starts
            exact starts (inFront.trans (List.prefix_append (first :: left) _))
          · exact absent inLeft
        · rintro ⟨left, right, same, rfl, absent⟩
          cases left with
          | nil =>
              rw [same] at starts
              exact absurd (List.prefix_append (head :: tail) right) starts
          | cons letter left =>
              obtain ⟨rfl, shorter⟩ := List.cons_eq_cons.mp same
              refine ⟨left.length, inductionHypothesis.mpr ⟨left, right, shorter, rfl, ?_⟩, rfl⟩
              exact fun inside => absent (List.infix_cons_iff.mpr (.inr inside))

/-- Where a pattern stands, it is found exactly when there is none before. -/
theorem find_append_iff (alone : head ∉ tail) :
    find (head :: tail) (left ++ (head :: tail ++ right)) = some left.length ↔
      ¬ head :: tail <:+: left := by
  rw [find_eq_some_iff alone]
  constructor
  · rintro ⟨left', right', same, lengths, absent⟩
    obtain ⟨rfl, _⟩ := List.append_inj same lengths.symm
    exact absent
  · intro absent
    exact ⟨left, right, rfl, rfl, absent⟩

/-- A text is taken apart at the first occurrence in one way only. -/
theorem first_occurrence_unique {left' right' : List α} (alone : head ∉ tail)
    (same : left ++ (head :: tail ++ right) = left' ++ (head :: tail ++ right'))
    (absent : ¬ head :: tail <:+: left) (absent' : ¬ head :: tail <:+: left') :
    left = left' ∧ right = right' := by
  have found : find (head :: tail) (left ++ (head :: tail ++ right)) = some left.length :=
    (find_append_iff alone).mpr absent
  have found' : find (head :: tail) (left' ++ (head :: tail ++ right')) = some left'.length :=
    (find_append_iff alone).mpr absent'
  rw [same, found', Option.some.injEq] at found
  obtain ⟨front, rest⟩ := List.append_inj same found.symm
  exact ⟨front, List.append_cancel_left rest⟩

end FirstOccurrence

omit [DecidableEq α] in
/-- A pair occurs in one of two texts, or at their border. -/
theorem pair_infix_append_iff {first second : α} {left right : List α} :
    [first, second] <:+: left ++ right ↔
      [first, second] <:+: left ∨ [first, second] <:+: right ∨
        (left.getLast? = some first ∧ right.head? = some second) := by
  induction left with
  | nil => simp
  | cons letter others inductionHypothesis =>
      rw [List.cons_append, List.infix_cons_iff, List.infix_cons_iff, inductionHypothesis]
      cases others with
      | nil =>
          cases right with
          | nil => simp
          | cons next rest =>
              simp only [List.nil_append, List.cons_prefix_cons, List.getLast?_nil,
                List.getLast?_singleton, List.head?_cons, Option.some.injEq]
              simp
              tauto
      | cons next others =>
          simp only [List.cons_append, List.cons_prefix_cons, List.nil_prefix,
            List.getLast?_cons_cons]
          tauto

end CheckerOlimp.Std.Text
