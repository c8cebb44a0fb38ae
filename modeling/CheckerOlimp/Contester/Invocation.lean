import CheckerOlimp.Contester.Storage
import CheckerOlimp.Judging.Arguments

/-!
# The command line of the judge

`checker::run` puts the path of the judge and its four arguments next to each other, with
a blank between two of them and without quotes. The judge gets these words exactly when
each of them is one: the path and the extension of a language must not have a blank.
-/

namespace CheckerOlimp.Contester

open CheckerOlimp.Std CheckerOlimp.CheckerRc

/-- The command line is a line of words. -/
theorem command_eq_words (settings : Settings) (self : Checker) :
    self.command settings =
      Quoting.words ' ' settings.chBin [self.cfg, ".".toList, self.src, self.res] := by
  simp [Checker.command, Quoting.words]

theorem word_iff {word : Str} :
    windowsQuoting.Word word ↔
      word ≠ [] ∧ ∀ letter ∈ word, letter ≠ '"' ∧ letter ≠ ' ' ∧ letter ≠ '\t' := by
  constructor
  · intro isWord
    exact ⟨isWord.proper, fun letter member => plain_iff.mp (isWord.plain letter member)⟩
  · rintro ⟨proper, plain⟩
    exact ⟨proper, fun letter member => plain_iff.mpr (plain letter member)⟩

/-- The words of a command line arrive exactly when they are words. -/
theorem split_command_iff (settings : Settings) (self : Checker) :
    windowsQuoting.split (self.command settings) = self.arguments settings ↔
      ∀ word ∈ self.arguments settings, windowsQuoting.Word word := by
  have blank : windowsQuoting.blank ' ' = true := rfl
  rw [command_eq_words]
  exact Quoting.split_words_iff blank

/-- The job of judging a solution, with the contester's file names. -/
def Solution.job (settings : Settings) (self : Solution) : Checker :=
  Checker.new settings self "solution".toList "solution.json".toList "result.json".toList

/-- What a job passes on are words when the path of the judge and the extension are clean. -/
theorem word_arguments_iff (settings : Settings) (solution : Solution) :
    (∀ word ∈ (solution.job settings).arguments settings, windowsQuoting.Word word) ↔
      windowsQuoting.Word settings.chBin ∧
        ∀ letter ∈ solution.getSrcExt settings, letter ≠ '"' ∧ letter ≠ ' ' ∧ letter ≠ '\t' := by
  have source : (solution.job settings).src = "solution".toList ++ solution.getSrcExt settings :=
    rfl
  constructor
  · intro words
    have listed : (solution.job settings).src ∈ (solution.job settings).arguments settings := by
      simp [Checker.arguments]
    refine ⟨words _ List.mem_cons_self, fun letter member => plain_iff.mp ?_⟩
    exact (words _ listed).plain letter (source ▸ List.mem_append_right _ member)
  · rintro ⟨program, extension⟩ word member
    have fixed : ∀ word ∈ ["solution.json".toList, ".".toList, "result.json".toList],
        word ≠ [] ∧ ∀ letter ∈ word, letter ≠ '"' ∧ letter ≠ ' ' ∧ letter ≠ '\t' := by
      simp
    have named : ∀ letter ∈ "solution".toList, letter ≠ '"' ∧ letter ≠ ' ' ∧ letter ≠ '\t' := by
      simp
    have whole : windowsQuoting.Word (solution.job settings).src := by
      rw [source]
      refine word_iff.mpr ⟨by simp, fun letter inside => ?_⟩
      rcases List.mem_append.mp inside with inside | inside
      · exact named letter inside
      · exact extension letter inside
    rcases List.mem_cons.mp member with rfl | member
    · exact program
    rcases List.mem_cons.mp member with rfl | member
    · exact word_iff.mpr (fixed _ List.mem_cons_self)
    rcases List.mem_cons.mp member with rfl | member
    · exact word_iff.mpr (fixed _ (by simp))
    rcases List.mem_pair.mp member with rfl | rfl
    · exact whole
    · exact word_iff.mpr (fixed _ (by simp [Solution.job, Checker.new]))

end CheckerOlimp.Contester
