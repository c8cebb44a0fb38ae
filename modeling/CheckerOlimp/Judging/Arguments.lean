import CheckerOlimp.Judging.Paths
import CheckerOlimp.Std.CommandLine

/-!
# The command line of the checker

The static `execute` puts every argument between quotes and leaves the path of the
program as it is. Nothing is escaped. The line is split into the program and its
arguments again exactly when nothing in them asks for more.
-/

namespace CheckerOlimp.CheckerRc

open CheckerOlimp.Std

/-- The rules by which Windows splits a command line. -/
def windowsQuoting : Quoting Char where
  blank letter := letter = ' ' || letter = '\t'
  quote := '"'
  escape := '\\'
  quote_not_blank := rfl
  escape_not_blank := rfl
  quote_ne_escape := by decide

/-- The arguments are appended to the path of the program, each after a blank. -/
theorem commandLine_eq_join (directory name : Str) (argv : List Str) :
    commandLine directory name argv =
      windowsQuoting.join ' ' (restorePath directory name) argv := by
  have appended : argv.foldl
      (fun line argument => line ++ (" \"".toList ++ argument ++ "\"".toList)) name =
      name ++ argv.flatMap fun argument => ' ' :: '"' :: (argument ++ ['"']) := by
    induction argv generalizing name with
    | nil => simp
    | cons argument rest inductionHypothesis =>
        rw [List.foldl_cons, inductionHypothesis]
        simp
  rw [commandLine, appended, Quoting.join, restorePath]
  simp [windowsQuoting]

/-- A letter of the program that is neither a blank nor a quote. -/
theorem plain_iff {letter : Char} :
    windowsQuoting.Plain false letter ↔ letter ≠ '"' ∧ letter ≠ ' ' ∧ letter ≠ '\t' := by
  simp [Quoting.Plain, windowsQuoting]

/-- The command line of the checker is split into its path and the arguments exactly when
the path has no blank and no quote, and no argument has a quote or ends with a backslash. -/
theorem commandLine_decodes_iff {World : Type} {windows : Windows World}
    {programPath directory name : Str} {argv : List Str} {before opened after : World}
    (absolute : windows.getFullPathName programPath before = (some programPath, opened))
    (returned : Program.Returns (getDirectoryAndFile windows programPath) before
      (directory, name) after) :
    windowsQuoting.split (commandLine directory name argv) = programPath :: argv ↔
      (∀ letter ∈ programPath, letter ≠ '"' ∧ letter ≠ ' ' ∧ letter ≠ '\t') ∧
        ∀ argument ∈ argv, '"' ∉ argument ∧ argument.getLast? ≠ some '\\' := by
  have joined : restorePath directory name = programPath := by
    unfold Program.Returns at returned
    rw [run_getDirectoryAndFile absolute] at returned
    exact restorePath_of_splitFullPath (Program.returns_ofOption_iff.mp returned).1
  have proper : programPath ≠ [] := by
    rw [← joined]
    simp [restorePath]
  have blank : windowsQuoting.blank ' ' = true := rfl
  rw [commandLine_eq_join, joined, Quoting.split_join_iff blank]
  simp only [plain_iff]
  exact and_iff_right proper

/-- A problem below a directory with a blank in its name. -/
theorem blank_in_path_not_decodes :
    ¬ ∀ (windows : Windows (World Str Unit)) (programPath directory name : Str) (argv : List Str)
        (before opened after : World Str Unit),
      windows.getFullPathName programPath before = (some programPath, opened) →
      Program.Returns (getDirectoryAndFile windows programPath) before (directory, name) after →
      windowsQuoting.split (commandLine directory name argv) = programPath :: argv := by
  intro always
  have same := always pairMachine.windows "C:\\my tests\\check.exe".toList
    "C:\\my tests".toList "check.exe".toList ["a".toList] ⟨pairFiles, ()⟩ ⟨pairFiles, ()⟩
    ⟨pairFiles, ()⟩ rfl rfl
  exact absurd same (by decide)

/-- A path without blanks, and an argument with one. -/
theorem commandLine_decodes_iff_pair :
    windowsQuoting.split (commandLine "C:\\t".toList "check.exe".toList ["a b".toList]) =
        "C:\\t\\check.exe".toList :: ["a b".toList] ↔
      (∀ letter ∈ "C:\\t\\check.exe".toList, letter ≠ '"' ∧ letter ≠ ' ' ∧ letter ≠ '\t') ∧
        ∀ argument ∈ ["a b".toList], '"' ∉ argument ∧ argument.getLast? ≠ some '\\' := by
  have absolute : pairMachine.windows.getFullPathName "C:\\t\\check.exe".toList ⟨pairFiles, ()⟩ =
      (some "C:\\t\\check.exe".toList, ⟨pairFiles, ()⟩) := rfl
  have returned : Program.Returns
      (getDirectoryAndFile pairMachine.windows "C:\\t\\check.exe".toList) ⟨pairFiles, ()⟩
      ("C:\\t".toList, "check.exe".toList) ⟨pairFiles, ()⟩ := rfl
  exact commandLine_decodes_iff absolute returned

end CheckerOlimp.CheckerRc
