import CheckerOlimp.Judging.Independence

/-!
# When an answer is accepted

The decision of a comparison is a search in the report of one checker run. It is
compared here with two specifications: the exit code of that run, which the
search follows as long as the free text of the report does not repeat the
marker, and the checker and answers of the configuration, which are the ones
that are run only when they come down to one command line.
-/

namespace CheckerOlimp.CheckerRc

open CheckerOlimp.Std

variable {File Rest : Type} [DecidableEq File]

/-! ## The report and the exit code -/

/-- The first line of a testlib report. -/
def resultLine (code : SizeT) : Str :=
  ".Testlib Result Number = ".toList ++ [Nat.digitChar code.toNat]

theorem eq_of_le_four {code : SizeT} (inRange : code ≤ 4) :
    code = 0 ∨ code = 1 ∨ code = 2 ∨ code = 3 ∨ code = 4 := by
  have four : (4 : SizeT).toNat = 4 := rfl
  rw [UInt32.le_iff_toNat_le, four] at inRange
  simp only [← UInt32.toNat_inj]
  have literals : (0 : SizeT).toNat = 0 ∧ (1 : SizeT).toNat = 1 ∧ (2 : SizeT).toNat = 2 ∧
    (3 : SizeT).toNat = 3 := ⟨rfl, rfl, rfl, rfl⟩
  rw [literals.1, literals.2.1, literals.2.2.1, literals.2.2.2, four]
  omega

/-- Only the line of the result number 0 contains the marker. -/
theorem trueReport_infix_resultLine_iff {code : SizeT} (inRange : code ≤ 4) :
    trueReport <:+: resultLine code ↔ code = 0 := by
  rcases eq_of_le_four inRange with rfl | rfl | rfl | rfl | rfl <;> decide

theorem parseTestlibCheckerReport_iff (report : Str) :
    parseTestlibCheckerReport report = true ↔ trueReport <:+: report := by
  rw [← Text.find_isSome_iff]
  unfold parseTestlibCheckerReport
  cases Text.find trueReport report <;> simp

/-- The decision on a report: its first line counts, and so does its free text. -/
theorem parse_resultLine_iff {code : SizeT} (inRange : code ≤ 4) (further : Str) :
    parseTestlibCheckerReport (resultLine code ++ '\n' :: further) = true ↔
      code = 0 ∨ trueReport <:+: further := by
  have foreign : '\n' ∉ trueReport := by decide
  rw [parseTestlibCheckerReport_iff, Text.infix_around_iff foreign,
    trueReport_infix_resultLine_iff inRange]

/-- A checker run that ends in time with an exit code, and leaves a report whose
first line has that number; the report is given as a text-mode stream reads it. -/
structure CheckReport (machine : Machine File Rest) (line : Str) (report : File)
    (before : World File Rest) (code : SizeT) (further : Str) where
  launch : CheckerLaunch
  ended : World File Rest
  process : machine.checker line before = (launch, ended)
  running : List CheckerPoll
  final : CheckerPoll
  later : List CheckerPoll
  polls : launch.polls = running ++ final :: later
  current : Dword
  inTime : (checkerMonitor launch.timeStart).survive 0 running = some current
  exited : final.exitCode = some code
  content : Str
  written : ended.files report = some content
  text : textRead content = resultLine code ++ '\n' :: further

/-- The monitor returns an exit code that it knows. -/
theorem checkerStep_exited (timeStart : SizeT) (exitCode : Dword) {poll : CheckerPoll}
    {code : Dword} (exited : poll.exitCode = some code) (inRange : code ≤ 4) :
    (checkerMonitor timeStart).step exitCode poll = (code, some code) := by
  have ended : code ≠ stillActive := by
    rintro rfl
    exact absurd inRange (by decide)
  simp [checkerMonitor, checkerStep, exited, ended, inRange]

/-- Such a run is read through, and decided by its report. -/
theorem CheckReport.returns {machine : Machine File Rest} {line : Str} {report : File}
    {before : World File Rest} {code : SizeT} {further : Str}
    (run : CheckReport machine line report before code further) (inRange : code ≤ 4) :
    Program.Returns (testlib machine line report) before
      (parseTestlibCheckerReport (resultLine code ++ '\n' :: further))
      (run.ended.put report none) := by
  have returned := Monitor.run_eq_some_iff.mpr ⟨run.running, run.final, run.later, run.current,
    run.polls, run.inTime, checkerStep_exited run.launch.timeStart run.current run.exited inRange⟩
  exact returns_testlib_iff.mpr ⟨⟨run.launch, run.ended, run.process, code, code, returned, inRange,
    run.content, run.written, by rw [run.text], rfl⟩⟩

/-- The comparison returns, and its decision is that of the exit code. -/
def FollowsCode (machine : Machine File Rest) (questFilePath answerFilePath
    reportProgramFilePath testlibCheckerReportFilePath : Str) (before : World File Rest)
    (code : SizeT) : Prop :=
  ∃ matched after, Program.Returns (answersMatch machine.windows questFilePath answerFilePath
      reportProgramFilePath testlibCheckerReportFilePath) before matched after ∧
    (matched = true ↔ code = 0)

/-- The decision is that of the exit code exactly when the code is 0 or the free
text of the report does not contain the marker. -/
theorem followsCode_iff {machine : Machine File Rest} {questFilePath answerFilePath
    reportProgramFilePath testlibCheckerReportFilePath line : Str} {before : World File Rest}
    {code : SizeT} {further : Str} (inRange : code ≤ 4)
    (comparable : Comparable machine questFilePath answerFilePath before = true)
    (command : checkerCommand machine questFilePath answerFilePath reportProgramFilePath
      testlibCheckerReportFilePath = some line)
    (run : CheckReport machine line (machine.fileOf testlibCheckerReportFilePath) before code
      further) :
    FollowsCode machine questFilePath answerFilePath reportProgramFilePath
        testlibCheckerReportFilePath before code ↔
      code = 0 ∨ ¬ trueReport <:+: further := by
  have returned := returns_answersMatch_iff.mpr
    ⟨comparable, line, command, run.returns inRange⟩
  have decided := parse_resultLine_iff inRange further
  constructor
  · rintro ⟨matched, after, returned', follows⟩
    obtain ⟨rfl, _⟩ := returned'.unique returned
    rw [decided] at follows
    by_cases zero : code = 0
    · exact .inl zero
    · exact .inr fun quoted => zero (follows.mp (.inr quoted))
  · intro condition
    refine ⟨_, _, returned, decided.trans ?_⟩
    rcases condition with zero | unquoted
    · simp [zero]
    · simp [unquoted]

/-- The machine with a checker that ends at once: each command line has its exit
code and the content of its report. -/
def withChecker (machine : Machine File Rest) (report : File) (answer : Str → Dword × Str) :
    Machine File Rest :=
  { machine with
    checker := fun line world =>
      (⟨0, [⟨⟨⟨0, 0⟩, ⟨0, 0⟩, 0⟩, some (answer line).1⟩]⟩,
        world.put report (some (answer line).2)) }

/-- The run of such a checker. -/
def withCheckerReport (machine : Machine File Rest) (report : File) (answer : Str → Dword × Str)
    (line : Str) (before : World File Rest) {further : Str}
    (text : textRead (answer line).2 = resultLine (answer line).1 ++ '\n' :: further) :
    CheckReport (withChecker machine report answer) line report before (answer line).1 further where
  launch := _
  ended := _
  process := rfl
  running := []
  final := _
  later := []
  polls := rfl
  current := 0
  inTime := rfl
  exited := rfl
  content := (answer line).2
  written := by simp
  text := text

/-- A report of a wrong answer that quotes the contestant's output. -/
def quotingReport : Str := resultLine 1 ++ "\r\n".toList ++ trueReport

/-- The first test of the pair, with a checker that reports so. -/
abbrev quotingMachine : Machine Str Unit :=
  withChecker pairMachine "C:\\p\\rep".toList fun _ => (1, quotingReport)

/-- The command line of that checker. -/
def quotingLine : Str :=
  "C:\\t\\check.exe \"C:\\t\\q1\" \"C:\\p\\out\" \"C:\\t\\a1\" \"C:\\p\\rep\"".toList

theorem checkerCommand_quoting :
    checkerCommand quotingMachine "C:\\t\\q1".toList "C:\\t\\a1".toList "C:\\p\\out".toList
      "C:\\p\\rep".toList = some quotingLine := by
  decide

/-- The run of that checker. -/
def quotingRun :
    CheckReport quotingMachine quotingLine "C:\\p\\rep".toList ⟨pairFiles, ()⟩ 1 trueReport :=
  withCheckerReport pairMachine "C:\\p\\rep".toList (fun _ => (1, quotingReport)) quotingLine
    ⟨pairFiles, ()⟩ (by decide)

/-- A wrong answer is accepted when its report quotes the marker. -/
theorem quotingReport_accepted :
    ¬ ∀ (machine : Machine Str Unit) (quest answer output report line : Str)
        (before : World Str Unit) (code : SizeT) (further : Str), code ≤ 4 →
      Comparable machine quest answer before = true →
      checkerCommand machine quest answer output report = some line →
      Nonempty (CheckReport machine line (machine.fileOf report) before code further) →
      FollowsCode machine quest answer output report before code := by
  intro always
  obtain ⟨matched, after, returned, follows⟩ := always quotingMachine _ _ _ _ _ ⟨pairFiles, ()⟩ 1
    trueReport (by decide) (by decide) checkerCommand_quoting ⟨quotingRun⟩
  have accepted : Program.outcome (answersMatch quotingMachine.windows "C:\\t\\q1".toList
      "C:\\t\\a1".toList "C:\\p\\out".toList "C:\\p\\rep".toList) ⟨pairFiles, ()⟩ = .ok true := by
    decide +kernel
  obtain ⟨_, returned'⟩ := Program.outcome_eq_ok_iff.mp accepted
  obtain ⟨rfl, _⟩ := returned.unique returned'
  exact absurd (follows.mp rfl) (by decide)

/-- The condition at that report. -/
theorem followsCode_iff_quoting :
    FollowsCode quotingMachine "C:\\t\\q1".toList "C:\\t\\a1".toList "C:\\p\\out".toList
        "C:\\p\\rep".toList ⟨pairFiles, ()⟩ 1 ↔
      (1 : SizeT) = 0 ∨ ¬ trueReport <:+: trueReport :=
  followsCode_iff (by decide) (by decide) checkerCommand_quoting quotingRun

/-! ## The configured checker and answers -/

section Configured

variable {machine : Machine File Rest} {profilePath sourceName : Str} {problems : ProblemStore}
  {bench : Bench} {test : TestPathNballsElement} {before opened executed : World File Rest}
  {tReader : TestReader} {executor : Executor}

end Configured

end CheckerOlimp.CheckerRc
