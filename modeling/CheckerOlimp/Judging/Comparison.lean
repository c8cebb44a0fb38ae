import CheckerOlimp.CheckerRc.Matcher
import CheckerOlimp.Judging.Execution
import CheckerOlimp.Platform.Machine

/-!
# Comparing answers on a machine

On a machine the path functions read nothing but the machine itself. A
comparison is then one of two things: it fails at an assertion before anything
is started, or it starts one command line, which its paths determine. `Testlib`
is the second part, and the callers are verified from these two facts.
-/

namespace CheckerOlimp.CheckerRc

open CheckerOlimp.Std

variable {File Rest : Type}

/-- What `get_directory_and_file` makes of a path on a machine. -/
def directoryAndFile (machine : Machine File Rest) (path : Str) : Option (Str × Str) :=
  (machine.fullPathName path).bind splitFullPath

/-- The directory of the test's `check.exe`: that of the quest, when the answer is
in the same one. -/
def commonDirectory (machine : Machine File Rest) (quest answer : Str) : Option Str := do
  let (dirTests, _) ← directoryAndFile machine quest
  let (dirTemp, _) ← directoryAndFile machine answer
  if dirTests = dirTemp then some dirTests else none

/-- The command line that `answers_match` starts, or none when an assertion about
its paths fails. -/
def checkerCommand (machine : Machine File Rest) (questFilePath answerFilePath
    reportProgramFilePath testlibCheckerReportFilePath : Str) : Option Str := do
  let quest ← machine.fullPathName questFilePath
  let answer ← machine.fullPathName answerFilePath
  let output ← machine.fullPathName reportProgramFilePath
  let report ← machine.fullPathName testlibCheckerReportFilePath
  let dirTests ← commonDirectory machine quest answer
  let (directory, name) ← directoryAndFile machine (dirTests ++ ['\\'] ++ checkName)
  some (commandLine directory name [quest, output, answer, report])

variable [DecidableEq File]

/-- The part of `answers_match` from the start of the checker on. -/
def testlib (machine : Machine File Rest) (line : Str) (report : File) :
    Judge (World File Rest) Bool := do
  let launch ← Program.call (machine.checker line)
  let (_, returnCode) ←
    Program.ofOption .polling ((checkerMonitor launch.timeStart).run 0 launch.polls)
  checkerAssert (0 ≤ returnCode.toInt32 ∧ returnCode.toInt32 ≤ 4)
  let file ← Program.call fun world => ((world.files report).map textRead, world)
  let testlibCheckerReport ← Program.ofOption .assertion file
  Program.call fun world => ((), world.put report none)
  pure (parseTestlibCheckerReport testlibCheckerReport)

/-- Whether the files of a comparison exist. -/
def Comparable (machine : Machine File Rest) (questFilePath answerFilePath : Str)
    (world : World File Rest) : Bool :=
  (world.files (machine.fileOf questFilePath)).isSome ∧
    (world.files (machine.fileOf answerFilePath)).isSome

theorem getFullPathName_machine (machine : Machine File Rest) (path : Str) :
    getFullPathName machine.windows path =
      Program.ofOption .assertion (machine.fullPathName path) := rfl

theorem getDirectoryAndFile_machine (machine : Machine File Rest) (path : Str) :
    getDirectoryAndFile machine.windows path =
      Program.ofOption .assertion (directoryAndFile machine path) := by
  unfold getDirectoryAndFile directoryAndFile
  rw [getFullPathName_machine]
  cases machine.fullPathName path <;> rfl

/-- `is_file_exist` of a full path looks at the file of the path. -/
theorem isFileExist_machine {machine : Machine File Rest} {path full : Str}
    (resolved : machine.fullPathName path = some full) :
    isFileExist machine.windows full =
      Program.call fun world => ((world.files (machine.fileOf path)).isSome, world) := by
  funext world
  have same := machine.fileOf_fullPathName resolved
  change EStateM.Result.ok ((world.files (machine.fileOf full)).map textRead).isSome world = _
  rw [Option.isSome_map, same]
  rfl

/-- The two directories are looked up and compared. -/
theorem commonDirectory_bind {α : Type} (machine : Machine File Rest) (quest answer : Str)
    (rest : Str → Judge (World File Rest) α) :
    (do
      let (dirTests, _) ← getDirectoryAndFile machine.windows quest
      let (dirTemp, _) ← getDirectoryAndFile machine.windows answer
      checkerAssert (dirTests = dirTemp)
      rest dirTests) =
    Program.ofOption .assertion (commonDirectory machine quest answer) >>= rest := by
  rw [getDirectoryAndFile_machine, getDirectoryAndFile_machine]
  unfold commonDirectory
  cases directoryAndFile machine quest with
  | none => rfl
  | some questSplit =>
  cases directoryAndFile machine answer with
  | none => rfl
  | some answerSplit =>
  by_cases same : questSplit.1 = answerSplit.1
  · simp [Program.ofOption, same]
  · simp [Program.ofOption, same]
    rfl

/-- The end of `answers_match`, from the path of `check.exe` on. -/
def runCheck (machine : Machine File Rest) (checkPath : Str) (argv : List Str) (report : Str) :
    Judge (World File Rest) Bool := do
  let returnCode ← executeProgram machine.windows checkPath argv
  checkerAssert (0 ≤ returnCode ∧ returnCode ≤ 4)
  let file ← Program.call (machine.windows.ifstream report)
  let testlibCheckerReport ← Program.ofOption .assertion file
  let result := parseTestlibCheckerReport testlibCheckerReport
  Program.call fun world => ((), machine.windows.remove report world)
  pure result

/-- It is `testlib` on the command line of the checker. -/
theorem runCheck_eq {machine : Machine File Rest} {checkPath : Str} (argv : List Str)
    (report : Str) (nonempty : checkPath ≠ []) :
    runCheck machine checkPath argv report =
      (Program.ofOption .assertion (directoryAndFile machine checkPath) >>=
        fun (directory, name) =>
          testlib machine (commandLine directory name argv) (machine.fileOf report)) := by
  have checked : (!decide (checkPath.length = 0)) = true := by simpa using nonempty
  unfold runCheck executeProgram testlib
  simp only [getDirectoryAndFile_machine, checked, checkerAssert_true, bind_assoc, pure_bind]
  rfl

/-- A comparison stops at an assertion, or runs the checker it has the command
line for. -/
theorem answersMatch_run (machine : Machine File Rest) (questFilePath answerFilePath
    reportProgramFilePath testlibCheckerReportFilePath : Str) (world : World File Rest) :
    (answersMatch machine.windows questFilePath answerFilePath reportProgramFilePath
        testlibCheckerReportFilePath).run world =
      if Comparable machine questFilePath answerFilePath world then
        match checkerCommand machine questFilePath answerFilePath reportProgramFilePath
          testlibCheckerReportFilePath with
        | some line =>
          (testlib machine line (machine.fileOf testlibCheckerReportFilePath)).run world
        | none => .error .assertion world
      else .error .assertion world := by
  unfold answersMatch checkerCommand
  simp only [getFullPathName_machine]
  cases questFull : machine.fullPathName questFilePath with
  | none => simp [Program.ofOption, EStateM.run_bind]
  | some quest =>
  cases answerFull : machine.fullPathName answerFilePath with
  | none => simp [Program.ofOption, EStateM.run_bind]
  | some answer =>
  cases outputFull : machine.fullPathName reportProgramFilePath with
  | none => simp [Program.ofOption, EStateM.run_bind]
  | some output =>
  cases reportFull : machine.fullPathName testlibCheckerReportFilePath with
  | none => simp [Program.ofOption, EStateM.run_bind]
  | some report =>
  have reportFile := machine.fileOf_fullPathName reportFull
  simp only [Program.ofOption, pure_bind, isFileExist_machine questFull,
    isFileExist_machine answerFull]
  rw [EStateM.run_bind, Program.run_call]
  cases questExists : (world.files (machine.fileOf questFilePath)).isSome with
  | false => simp [Comparable, questExists, EStateM.run_bind]
  | true =>
  simp only [checkerAssert_true, pure_bind]
  rw [EStateM.run_bind, Program.run_call]
  cases answerExists : (world.files (machine.fileOf answerFilePath)).isSome with
  | false => simp [Comparable, answerExists, EStateM.run_bind]
  | true =>
  simp only [checkerAssert_true, pure_bind, Comparable, questExists, answerExists, and_self,
    decide_true, ↓reduceIte]
  have tail := commonDirectory_bind machine quest answer fun dirTests =>
    runCheck machine (dirTests ++ ['\\'] ++ checkName) [quest, output, answer, report] report
  refine (congrArg (fun program => EStateM.run program world) tail).trans ?_
  simp only [Option.bind_eq_bind, Option.bind_some]
  cases commonDirectory machine quest answer with
  | none => rfl
  | some dirTests =>
  have nonempty : dirTests ++ ['\\'] ++ checkName ≠ [] := by simp
  simp only [Program.ofOption, pure_bind, runCheck_eq _ report nonempty, Option.bind_some,
    reportFile]
  cases directoryAndFile machine (dirTests ++ ['\\'] ++ checkName) with
  | none => rfl
  | some split => rfl

/-- A comparison that returns has run the checker on files that exist. -/
theorem returns_answersMatch_iff {machine : Machine File Rest} {questFilePath answerFilePath
    reportProgramFilePath testlibCheckerReportFilePath : Str} {before after : World File Rest}
    {matched : Bool} :
    Program.Returns (answersMatch machine.windows questFilePath answerFilePath
        reportProgramFilePath testlibCheckerReportFilePath) before matched after ↔
      Comparable machine questFilePath answerFilePath before = true ∧
      ∃ line, checkerCommand machine questFilePath answerFilePath reportProgramFilePath
          testlibCheckerReportFilePath = some line ∧
        Program.Returns (testlib machine line (machine.fileOf testlibCheckerReportFilePath)) before
          matched after := by
  unfold Program.Returns
  rw [answersMatch_run]
  split
  · next comparable =>
      cases checkerCommand machine questFilePath answerFilePath reportProgramFilePath
        testlibCheckerReportFilePath with
      | none => simp
      | some line => simp [comparable]
  · next incomparable => simp [incomparable]

/-! ## The checker's report -/

/-- The return codes that `answers_match` lets pass. -/
theorem inRange_iff (code : SizeT) :
    decide (0 ≤ code.toInt32 ∧ code.toInt32 ≤ 4) = true ↔ code ≤ 4 := by
  have signed : code.toInt32.toInt = if 2 * code.toNat < 2 ^ 32 then (code.toNat : Int)
      else (code.toNat : Int) - 2 ^ 32 := BitVec.toInt_eq_toNat_cond code.toBitVec
  have bounded := code.toNat_lt
  have zero : (0 : Int32).toInt = 0 := rfl
  have four : (4 : Int32).toInt = 4 := rfl
  have four' : (4 : SizeT).toNat = 4 := rfl
  rw [decide_eq_true_eq, UInt32.le_iff_toNat_le, Int32.le_iff_toInt_le, Int32.le_iff_toInt_le,
    signed, zero, four, four']
  split <;> omega

/-- What a run of the checker reads on its way to a decision. -/
structure TestlibRun (machine : Machine File Rest) (line : Str) (report : File)
    (before : World File Rest) (matched : Bool) (after : World File Rest) where
  launch : CheckerLaunch
  ended : World File Rest
  process : machine.checker line before = (launch, ended)
  exitCode : Dword
  code : SizeT
  run : (checkerMonitor launch.timeStart).run 0 launch.polls = some (exitCode, code)
  inRange : code ≤ 4
  content : Str
  written : ended.files report = some content
  decision : matched = parseTestlibCheckerReport (textRead content)
  removed : after = ended.put report none

theorem returns_testlib_iff {machine : Machine File Rest} {line : Str} {report : File}
    {before after : World File Rest} {matched : Bool} :
    Program.Returns (testlib machine line report) before matched after ↔
      Nonempty (TestlibRun machine line report before matched after) := by
  simp only [testlib, Program.returns_bind_iff, Program.returns_call_iff,
    Program.returns_ofOption_iff, returns_checkerAssert_iff, Program.returns_pure_iff,
    Prod.mk.injEq, inRange_iff]
  constructor
  · rintro ⟨launch, ended, process, ⟨exitCode, code⟩, _, ⟨run, rfl⟩, _, _, ⟨inRange, rfl⟩, file, _,
      ⟨read, rfl⟩, text, _, ⟨opened, rfl⟩, _, _, ⟨_, rfl⟩, decision, rfl⟩
    subst opened
    obtain ⟨content, written, rfl⟩ := Option.map_eq_some_iff.mp read
    exact ⟨⟨launch, _, process, exitCode, code, run, inRange, content, written, decision, rfl⟩⟩
  · rintro ⟨⟨launch, ended, process, exitCode, code, run, inRange, content, written, decision,
      removed⟩⟩
    exact ⟨launch, ended, process, (exitCode, code), ended, ⟨run, rfl⟩, (), ended, ⟨inRange, rfl⟩,
      _, ended, ⟨rfl, rfl⟩, textRead content, ended, ⟨by rw [written]; rfl, rfl⟩, (), after,
      ⟨trivial, removed.symm⟩, decision, rfl⟩

end CheckerOlimp.CheckerRc
