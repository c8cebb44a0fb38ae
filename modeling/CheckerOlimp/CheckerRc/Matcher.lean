import CheckerOlimp.CheckerRc.Executor
import CheckerOlimp.Std.Text

/-!
# Comparing answers

Two ways to accept a contestant's output: a comparison with a list of answers
up to a final newline, and a run of a testlib checker whose report is searched
for the result number 0.
-/

namespace CheckerOlimp.CheckerRc

open CheckerOlimp.Std

variable {World : Type}

/-- `checking_map`. -/
inductive CheckingMap where
  | all
  | wnl
deriving DecidableEq, Repr

/-- Drop a final newline of a nonempty string. -/
def resizeNewline (text : Str) : Str :=
  if text.getLast? = some '\n' then text.dropLast else text

/-- `strings_match`. -/
def stringsMatch (str1 str2 : Str) : CheckingMap → Bool
  | .all => str2 = str1
  | .wnl => !str1.isEmpty && resizeNewline str2 = resizeNewline str1

/-- `answers_match` on a report and a list of answers. -/
def answersMatchList (reportProgram : Str) (checkMode : CheckingMap) : List Str → Bool
  | [] => false
  | answer :: rest =>
    if stringsMatch reportProgram answer checkMode then true
    else answersMatchList reportProgram checkMode rest

/-- `true_report` of `parse_testlib_checker_report`. -/
def trueReport : Str := ".Testlib Result Number = 0".toList

/-- `parse_testlib_checker_report`. -/
def parseTestlibCheckerReport (testlibCheckerReport : Str) : Bool :=
  if Text.find trueReport testlibCheckerReport = none then false else true

/-- `check_name` of `answers_match`. -/
def checkName : Str := "check.exe".toList

/-- `answers_match` on files. -/
def answersMatch (windows : Windows World) (questFilePath answerFilePath reportProgramFilePath
    testlibCheckerReportFilePath : Str) : Judge World Bool := do
  let questFilePath ← getFullPathName windows questFilePath
  let answerFilePath ← getFullPathName windows answerFilePath
  let reportProgramFilePath ← getFullPathName windows reportProgramFilePath
  let testlibCheckerReportFilePath ← getFullPathName windows testlibCheckerReportFilePath
  checkerAssert (← isFileExist windows questFilePath)
  checkerAssert (← isFileExist windows answerFilePath)
  let (dirTests, _) ← getDirectoryAndFile windows questFilePath
  let (dirTemp, _) ← getDirectoryAndFile windows answerFilePath
  checkerAssert (dirTests = dirTemp)
  let checkPath := dirTests ++ ['\\'] ++ checkName
  let argv := [questFilePath, reportProgramFilePath, answerFilePath, testlibCheckerReportFilePath]
  let returnCode ← executeProgram windows checkPath argv
  checkerAssert (0 ≤ returnCode ∧ returnCode ≤ 4)
  let file ← Program.call (windows.ifstream testlibCheckerReportFilePath)
  let testlibCheckerReport ← Program.ofOption .assertion file
  let result := parseTestlibCheckerReport testlibCheckerReport
  Program.call fun world => ((), windows.remove testlibCheckerReportFilePath world)
  pure result

end CheckerOlimp.CheckerRc
