import CheckerOlimp.CheckerRc.Matcher
import Mathlib.Data.Set.Defs

/-!
# Matching up to a final newline

The mode `WNL` is meant to leave one final newline out of the comparison. Its
comparison stands inside the test that the first text is not empty, so that an
empty text matches nothing, not even itself.
-/

namespace CheckerOlimp.CheckerRc

open CheckerOlimp.Std

/-- The text without one final newline, if it has one. -/
def chomp (text : Str) : Str :=
  if ['\n'] <:+ text then text.take (text.length - 1) else text

/-- A text is a suffix of one letter exactly when that letter is last. -/
theorem singleton_suffix_iff {letter : Char} {text : Str} :
    [letter] <:+ text ↔ text.getLast? = some letter := by
  constructor
  · rintro ⟨front, rfl⟩
    simp
  · intro last
    obtain ⟨front, rfl⟩ := List.getLast?_eq_some_iff.mp last
    exact List.suffix_append front [letter]

/-- `strings_match` trims as `chomp` does. -/
theorem resizeNewline_eq_chomp (text : Str) : resizeNewline text = chomp text := by
  unfold resizeNewline chomp
  simp only [singleton_suffix_iff, List.dropLast_eq_take]

theorem chomp_of_not_suffix {text : Str} (unended : ¬ ['\n'] <:+ text) : chomp text = text :=
  if_neg unended

@[simp] theorem chomp_append_newline (text : Str) : chomp (text ++ ['\n']) = text := by
  simp [chomp]

/-- Two texts match when they agree up to a final newline and the first is not empty. -/
theorem stringsMatch_wnl_iff {str1 str2 : Str} :
    stringsMatch str1 str2 .wnl = true ↔ str1 ≠ [] ∧ chomp str1 = chomp str2 := by
  simp only [stringsMatch, resizeNewline_eq_chomp, Bool.and_eq_true, Bool.not_eq_true',
    List.isEmpty_eq_false_iff, decide_eq_true_eq]
  exact and_congr_right fun _ => eq_comm

/-- A report matches a list when it matches one of the answers. -/
theorem answersMatchList_iff {report : Str} {checkMode : CheckingMap} {answers : List Str} :
    answersMatchList report checkMode answers = true ↔
      ∃ answer ∈ answers, stringsMatch report answer checkMode = true := by
  induction answers with
  | nil => simp [answersMatchList]
  | cons answer rest inductionHypothesis =>
      simp only [answersMatchList, List.exists_mem_cons_iff]
      cases stringsMatch report answer checkMode with
      | true => simp
      | false => simpa using inductionHypothesis

/-- An empty report matches no list. -/
theorem answersMatchList_wnl_iff {report : Str} {answers : List Str} :
    answersMatchList report .wnl answers = true ↔
      report ≠ [] ∧ ∃ answer ∈ answers, chomp report = chomp answer := by
  rw [answersMatchList_iff]
  simp only [stringsMatch_wnl_iff]
  constructor
  · rintro ⟨answer, member, proper, same⟩
    exact ⟨proper, answer, member, same⟩
  · rintro ⟨proper, answer, member, same⟩
    exact ⟨answer, member, proper, same⟩

/-- One final newline of a report or an answer plays no part. -/
structure IgnoresNewline (report : Str) (answers : List Str) : Prop where
  matched : answersMatchList report .wnl answers = true ↔
    ∃ answer ∈ answers, chomp report = chomp answer
  newline : ¬ ['\n'] <:+ report →
    answersMatchList (report ++ ['\n']) .wnl answers = answersMatchList report .wnl answers

/-- `strings_match` in mode `WNL` is an equivalence on these texts. -/
structure MatchesAsEquivalence (texts : Set Str) : Prop where
  refl : ∀ text ∈ texts, stringsMatch text text .wnl = true
  symm : ∀ left ∈ texts, ∀ right ∈ texts,
    stringsMatch left right .wnl = true → stringsMatch right left .wnl = true
  trans : ∀ left ∈ texts, ∀ middle ∈ texts, ∀ right ∈ texts,
    stringsMatch left middle .wnl = true → stringsMatch middle right .wnl = true →
      stringsMatch left right .wnl = true

theorem ignoresNewline_of_ne_nil {report : Str} {answers : List Str} (proper : report ≠ []) :
    IgnoresNewline report answers := by
  have longer : report ++ ['\n'] ≠ [] := by simp
  refine ⟨?_, fun unended => ?_⟩
  · rw [answersMatchList_wnl_iff]
    exact and_iff_right proper
  · rw [Bool.eq_iff_iff, answersMatchList_wnl_iff, answersMatchList_wnl_iff,
      chomp_append_newline, chomp_of_not_suffix unended]
    exact and_congr_left fun _ => iff_of_true longer proper

/-- For an empty report there must be nothing that it could match. -/
theorem ignoresNewline_nil_iff {answers : List Str} :
    IgnoresNewline [] answers ↔ ∀ answer ∈ answers, chomp answer ≠ [] := by
  have refused : ¬ answersMatchList [] .wnl answers = true := by
    rw [answersMatchList_wnl_iff]
    simp
  have empty : chomp [] = [] := rfl
  constructor
  · intro ignores answer member same
    exact refused (ignores.matched.mpr ⟨answer, member, empty.trans same.symm⟩)
  · intro proper
    have nothing : ¬ ∃ answer ∈ answers, chomp [] = chomp answer :=
      fun ⟨answer, member, same⟩ => proper answer member (same.symm.trans empty)
    refine ⟨iff_of_false refused nothing, fun _ => ?_⟩
    rw [Bool.eq_iff_iff, answersMatchList_wnl_iff]
    exact iff_of_false (fun matched => nothing matched.2) refused

/-- The equivalence fails only at the empty text, which does not match itself. -/
theorem matchesAsEquivalence_iff {texts : Set Str} :
    MatchesAsEquivalence texts ↔ [] ∉ texts := by
  constructor
  · intro equivalence member
    exact (stringsMatch_wnl_iff.mp (equivalence.refl [] member)).1 rfl
  · intro proper
    have notEmpty : ∀ text ∈ texts, text ≠ [] := by
      rintro text member rfl
      exact proper member
    refine ⟨fun text member => ?_, fun left _ right member matched => ?_,
      fun left _ middle _ right _ first second => ?_⟩
    · exact stringsMatch_wnl_iff.mpr ⟨notEmpty text member, rfl⟩
    · have same := (stringsMatch_wnl_iff.mp matched).2
      exact stringsMatch_wnl_iff.mpr ⟨notEmpty right member, same.symm⟩
    · obtain ⟨started, same⟩ := stringsMatch_wnl_iff.mp first
      obtain ⟨_, same'⟩ := stringsMatch_wnl_iff.mp second
      exact stringsMatch_wnl_iff.mpr ⟨started, same.trans same'⟩

/-- A final newline plays no part exactly when the report is not empty or no answer
is empty up to a newline, and matching is an equivalence exactly on sets of texts
without the empty one. -/
theorem matching_ignores_newline_iff (report : Str) (answers : List Str) (texts : Set Str) :
    (IgnoresNewline report answers ↔
        report ≠ [] ∨ ∀ answer ∈ answers, chomp answer ≠ []) ∧
      (MatchesAsEquivalence texts ↔ [] ∉ texts) := by
  refine ⟨?_, matchesAsEquivalence_iff⟩
  by_cases empty : report = []
  · subst empty
    rw [ignoresNewline_nil_iff]
    simp
  · exact iff_of_true (ignoresNewline_of_ne_nil empty) (.inl empty)

/-- An empty report is not accepted for an empty answer. -/
theorem empty_report_not_matched :
    ¬ ((∀ report answers, IgnoresNewline report answers) ∧
      ∀ texts : Set Str, MatchesAsEquivalence texts) := by
  rintro ⟨ignores, _⟩
  exact ignoresNewline_nil_iff.mp (ignores [] [[]]) [] (by simp) rfl

end CheckerOlimp.CheckerRc
