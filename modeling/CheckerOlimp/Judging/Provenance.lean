import CheckerOlimp.Judging.Build
import CheckerOlimp.Judging.Comparison

/-!
# Where a decision comes from

The static `execute` polls whether or not `CreateProcess` has started anything, and
`answers_match` reads whatever report stands at its path afterwards. A `CheckerRun`
records what really happened: `fromThisCall_iff` says when a positive decision can
only be the one of a checker that was started in this call.
-/

namespace CheckerOlimp.CheckerRc

open CheckerOlimp.Std

variable {File Rest : Type}

/-! ## A run of the checker -/

/-- What comes of `CreateProcess` and the process, from the world `before`. The loop
polls at least once; without a process nothing is written and no exit code is read. -/
structure CheckerRun (before : World File Rest) where
  started : Bool
  timeStart : Dword
  first : CheckerPoll
  later : List CheckerPoll
  after : World File Rest
  written : File → Bool
  unwritten : ∀ file, written file = false → after.files file = before.files file
  notStarted : started = false →
    (∀ file, written file = false) ∧ ∀ poll ∈ first :: later, poll.exitCode = none

/-- The machine on which every command line of a checker has a recorded run. -/
def withRuns (machine : Machine File Rest)
    (runs : Str → (before : World File Rest) → CheckerRun before) : Machine File Rest :=
  { machine with checker := fun line before =>
      (⟨(runs line before).timeStart, (runs line before).first :: (runs line before).later⟩,
        (runs line before).after) }

/-- A poll of the checker that finds it running and in time. The exit code may be
unread: the loop keeps the one that it has read last. -/
structure CheckerActive (timeStart : Dword) (poll : CheckerPoll) : Prop where
  active : poll.exitCode = none ∨ poll.exitCode = some stillActive
  inTime : overTime checkerTimeLimit (getProcessKernelPlusUserTime poll.kernelTime poll.userTime)
    (poll.tickCount - timeStart) = false

/-- The polls find the process running and in time, until one reads a code from 0 to 4. -/
def ReadsEnd (timeStart : Dword) (polls : List CheckerPoll) : Prop :=
  ∃ earlier poll later code, polls = earlier ++ poll :: later ∧
    (∀ other ∈ earlier, CheckerActive timeStart other) ∧ poll.exitCode = some code ∧ code ≤ 4

/-- The process has ended by itself with a code from 0 to 4, and the polls have read it:
the first one, too, has read an exit code. -/
structure SeenToEnd {before : World File Rest} (run : CheckerRun before) : Prop where
  read : run.first.exitCode ≠ none
  ended : ReadsEnd run.timeStart (run.first :: run.later)

/-- The report of a run is its own: the checker was started, ended by itself with a
known code, and wrote the report. -/
structure Genuine {before : World File Rest} (run : CheckerRun before) (report : File) :
    Prop where
  started : run.started = true
  ended : SeenToEnd run
  written : run.written report = true

/-- The content of a report file that counts as acceptance. -/
def Accepting (content : Option Str) : Prop :=
  ∃ text, content = some text ∧ parseTestlibCheckerReport (textRead text) = true

/-! ## The loop along a run -/

/-- The loop ends with a code that `answers_match` lets pass. -/
def Passes (timeStart : Dword) (exitCode : Dword) (polls : List CheckerPoll) : Prop :=
  ∃ last code, (checkerMonitor timeStart).run exitCode polls = some (last, code) ∧ code ≤ 4

/-- Without an exit code at the first poll, the initial 0 passes. -/
theorem passes_of_unread {timeStart : Dword} {first : CheckerPoll} (later : List CheckerPoll)
    (unread : first.exitCode = none) : Passes timeStart 0 (first :: later) := by
  refine ⟨0, 0, Monitor.run_eq_some_iff.mpr ⟨[], first, later, 0, rfl, rfl, ?_⟩, by decide⟩
  have idle : (0 : Dword) ≠ stillActive := by decide
  simp only [checkerMonitor, checkerStep, unread, Option.getD_none, idle, ↓reduceIte]
  rfl

/-- From the code of a running process the loop goes on exactly at an active poll. -/
theorem goesOn_iff {timeStart : Dword} {poll : CheckerPoll} {next : Dword} :
    (checkerMonitor timeStart).step stillActive poll = (next, none) ↔
      next = stillActive ∧ CheckerActive timeStart poll := by
  constructor
  · intro turn
    cases CheckerTurn.of_step turn with
    | goesOn active inTime =>
        refine ⟨rfl, ?_, inTime⟩
        cases found : poll.exitCode with
        | none => exact .inl rfl
        | some code =>
            rw [found] at active
            exact .inr (congrArg some active)
  · rintro ⟨rfl, active, inTime⟩
    have read : poll.exitCode.getD stillActive = stillActive := by
      rcases active with unread | active
      · rw [unread, Option.getD_none]
      · rw [active, Option.getD_some]
    generalize turn : (checkerMonitor timeStart).step stillActive poll = outcome
    cases CheckerTurn.of_step turn with
    | slow _ excess =>
        rw [inTime] at excess
        cases excess
    | goesOn _ _ => rfl
    | ended code read' known =>
        rw [read] at read'
        exact absurd (read' ▸ known) (by decide)
    | failed code read' ended _ => exact absurd (read'.symm.trans read) ended

/-- It ends with a known code exactly when the poll reads that code. -/
theorem endsKnown_iff {timeStart : Dword} {poll : CheckerPoll} {code : SizeT} (known : code ≤ 4) :
    (∃ last, (checkerMonitor timeStart).step stillActive poll = (last, some code)) ↔
      poll.exitCode = some code := by
  have running : code ≠ stillActive := by
    rintro rfl
    exact absurd known (by decide)
  have minusOne : code ≠ -1 := by
    rintro rfl
    exact absurd known (by decide)
  constructor
  · rintro ⟨last, turn⟩
    cases CheckerTurn.of_step turn with
    | slow _ _ => exact absurd rfl minusOne
    | ended _ read _ =>
        cases found : poll.exitCode with
        | none =>
            rw [found] at read
            exact absurd read.symm running
        | some other =>
            rw [found] at read
            exact congrArg some read
    | failed _ _ _ _ => exact absurd rfl minusOne
  · intro read
    refine ⟨code, ?_⟩
    simp only [checkerMonitor, checkerStep, read, Option.getD_some, running, ↓reduceIte, known]

/-- The loop survives exactly the active polls. -/
theorem survive_active_iff {timeStart : Dword} {polls : List CheckerPoll} {last : Dword} :
    (checkerMonitor timeStart).survive stillActive polls = some last ↔
      last = stillActive ∧ ∀ poll ∈ polls, CheckerActive timeStart poll := by
  induction polls with
  | nil => simp [eq_comm]
  | cons poll rest inductionHypothesis =>
      rw [Monitor.survive_cons_iff, List.forall_mem_cons]
      constructor
      · rintro ⟨next, turn, survived⟩
        obtain ⟨rfl, active⟩ := goesOn_iff.mp turn
        obtain ⟨same, others⟩ := inductionHypothesis.mp survived
        exact ⟨same, active, others⟩
      · rintro ⟨same, active, others⟩
        exact ⟨stillActive, goesOn_iff.mpr ⟨rfl, active⟩, inductionHypothesis.mpr ⟨same, others⟩⟩

/-- A loop that has found the process running passes when it is seen to end. -/
theorem passes_active_iff {timeStart : Dword} {polls : List CheckerPoll} :
    Passes timeStart stillActive polls ↔ ReadsEnd timeStart polls := by
  constructor
  · rintro ⟨last, code, run, known⟩
    obtain ⟨earlier, final, later, current, split, survived, turn⟩ :=
      Monitor.run_eq_some_iff.mp run
    obtain ⟨rfl, active⟩ := survive_active_iff.mp survived
    exact ⟨earlier, final, later, code, split, active, (endsKnown_iff known).mp ⟨last, turn⟩, known⟩
  · rintro ⟨earlier, final, later, code, split, active, read, known⟩
    obtain ⟨last, turn⟩ : ∃ last, (checkerMonitor timeStart).step stillActive final =
        (last, some code) := (endsKnown_iff known).mpr read
    exact ⟨last, code, Monitor.run_eq_some_iff.mpr
      ⟨earlier, final, later, stillActive, split, survive_active_iff.mpr ⟨rfl, active⟩, turn⟩,
      known⟩

/-- A first poll that reads an exit code makes the initial 0 irrelevant. -/
theorem passes_read_iff {timeStart : Dword} {first : CheckerPoll} {later : List CheckerPoll}
    (read : first.exitCode ≠ none) :
    Passes timeStart 0 (first :: later) ↔ ReadsEnd timeStart (first :: later) := by
  obtain ⟨code, found⟩ := Option.ne_none_iff_exists'.mp read
  have same : (checkerMonitor timeStart).step 0 first =
      (checkerMonitor timeStart).step stillActive first := by
    simp only [checkerMonitor, checkerStep, found, Option.getD_some]
  rw [← passes_active_iff]
  unfold Passes Monitor.run
  rw [same]

/-! ## The decision -/

section Decision

variable [DecidableEq File] {machine : Machine File Rest}
  {runs : Str → (before : World File Rest) → CheckerRun before}
  {questFilePath answerFilePath reportProgramFilePath testlibCheckerReportFilePath : Str}
  {before : World File Rest}

/-- When `answers_match` returns true on a recorded run. -/
theorem returns_true_iff :
    (∃ after, Program.Returns (answersMatch (withRuns machine runs).windows questFilePath
        answerFilePath reportProgramFilePath testlibCheckerReportFilePath) before true after) ↔
      Comparable machine questFilePath answerFilePath before = true ∧
      ∃ line, checkerCommand machine questFilePath answerFilePath reportProgramFilePath
          testlibCheckerReportFilePath = some line ∧
        Passes (runs line before).timeStart 0
          ((runs line before).first :: (runs line before).later) ∧
        Accepting ((runs line before).after.files
          (machine.fileOf testlibCheckerReportFilePath)) := by
  constructor
  · rintro ⟨after, returned⟩
    obtain ⟨comparable, line, command, ran⟩ := returns_answersMatch_iff.mp returned
    obtain ⟨⟨launch, ended, process, exitCode, code, run, inRange, text, written, accepted, _⟩⟩ :=
      returns_testlib_iff.mp ran
    cases process
    exact ⟨comparable, line, command, ⟨exitCode, code, run, inRange⟩, text, written,
      accepted.symm⟩
  · rintro ⟨comparable, line, command, ⟨exitCode, code, run, inRange⟩, text, written, accepted⟩
    have ran : Program.Returns (testlib (withRuns machine runs) line
        (machine.fileOf testlibCheckerReportFilePath)) before true
        ((runs line before).after.put (machine.fileOf testlibCheckerReportFilePath) none) :=
      returns_testlib_iff.mpr ⟨⟨_, _, rfl, exitCode, code, run, inRange, text, written,
        accepted.symm, rfl⟩⟩
    exact ⟨_, returns_answersMatch_iff.mpr ⟨comparable, line, command, ran⟩⟩

/-- A positive decision is the one of a checker that was started in this call. -/
def FromThisCall (machine : Machine File Rest)
    (runs : Str → (before : World File Rest) → CheckerRun before) (questFilePath answerFilePath
      reportProgramFilePath testlibCheckerReportFilePath : Str) (before : World File Rest) : Prop :=
  ∀ after, Program.Returns (answersMatch (withRuns machine runs).windows questFilePath
      answerFilePath reportProgramFilePath testlibCheckerReportFilePath) before true after →
    ∃ line, checkerCommand machine questFilePath answerFilePath reportProgramFilePath
        testlibCheckerReportFilePath = some line ∧
      Genuine (runs line before) (machine.fileOf testlibCheckerReportFilePath)

/-- No report that accepts stands in for the one of this run: not an old one when the
checker was not started or has not written its report, and none at all when its exit code
could not be read at first. -/
structure NoStandIn (run : CheckerRun before) (report : File) : Prop where
  notStarted : run.started = false → ¬ Accepting (before.files report)
  unread : run.started = true → run.first.exitCode = none → ¬ Accepting (run.after.files report)
  unwritten : run.started = true → SeenToEnd run → run.written report = false →
    ¬ Accepting (before.files report)

omit [DecidableEq File] in
/-- Without a stand-in, a report that accepts after a loop that passes is genuine. -/
theorem NoStandIn.genuine {run : CheckerRun before} {report : File}
    (clean : NoStandIn run report)
    (passes : Passes run.timeStart 0 (run.first :: run.later))
    (accepting : Accepting (run.after.files report)) : Genuine run report := by
  have started : run.started = true := by
    by_contra notStarted
    rw [Bool.not_eq_true] at notStarted
    rw [run.unwritten report ((run.notStarted notStarted).1 report)] at accepting
    exact clean.notStarted notStarted accepting
  have read : run.first.exitCode ≠ none := fun unread => clean.unread started unread accepting
  have ended : SeenToEnd run := ⟨read, (passes_read_iff read).mp passes⟩
  refine ⟨started, ended, ?_⟩
  by_contra unwritten
  rw [Bool.not_eq_true] at unwritten
  rw [run.unwritten report unwritten] at accepting
  exact clean.unwritten started ended unwritten accepting

omit [DecidableEq File] in
/-- A run whose acceptance can only be genuine has no stand-in. -/
theorem noStandIn_of_genuine {run : CheckerRun before} {report : File}
    (genuine : Passes run.timeStart 0 (run.first :: run.later) →
      Accepting (run.after.files report) → Genuine run report) : NoStandIn run report := by
  refine ⟨?_, ?_, ?_⟩
  · intro notStarted accepting
    obtain ⟨unwritten, unread⟩ := run.notStarted notStarted
    rw [← run.unwritten report (unwritten report)] at accepting
    have started := (genuine (passes_of_unread _ (unread _ List.mem_cons_self)) accepting).started
    rw [notStarted] at started
    cases started
  · intro _ unread accepting
    have ended := (genuine (passes_of_unread _ unread) accepting).ended
    exact ended.read unread
  · intro _ ended unwritten accepting
    rw [← run.unwritten report unwritten] at accepting
    have written := (genuine ((passes_read_iff ended.read).mpr ended.ended) accepting).written
    rw [unwritten] at written
    cases written

/-- A positive decision comes from this call exactly when nothing can stand in for the
report of the run that it starts. -/
theorem fromThisCall_iff :
    FromThisCall machine runs questFilePath answerFilePath reportProgramFilePath
        testlibCheckerReportFilePath before ↔
      (Comparable machine questFilePath answerFilePath before = true →
        ∀ line, checkerCommand machine questFilePath answerFilePath reportProgramFilePath
            testlibCheckerReportFilePath = some line →
          NoStandIn (runs line before) (machine.fileOf testlibCheckerReportFilePath)) := by
  constructor
  · intro fromThisCall comparable line command
    apply noStandIn_of_genuine
    intro passes accepting
    obtain ⟨after, returned⟩ :=
      returns_true_iff.mpr ⟨comparable, line, command, passes, accepting⟩
    obtain ⟨other, command', genuine⟩ := fromThisCall after returned
    cases command.symm.trans command'
    exact genuine
  · intro clean after returned
    obtain ⟨comparable, line, command, passes, accepting⟩ := returns_true_iff.mp ⟨after, returned⟩
    exact ⟨line, command, (clean comparable line command).genuine passes accepting⟩

end Decision

/-! ## A checker that cannot be started -/

/-- `CreateProcess` has failed: the queries of the zero handle fail, too. -/
def notStartedRun (before : World Str Unit) : CheckerRun before where
  started := false
  timeStart := 0
  first := ⟨⟨⟨0, 0⟩, ⟨0, 0⟩, 0⟩, none⟩
  later := []
  after := before
  written := (unknownCommand before).written
  unwritten := (unknownCommand before).unwritten
  notStarted := fun _ => ⟨fun _ => rfl, fun _ member => by rw [List.mem_singleton.mp member]⟩

/-- A world in which an aborted run has left a report that accepts. -/
def staleReport : World Str Unit :=
  CheckerOlimp.World.put ⟨pairFiles, ()⟩ "C:\\p\\rep".toList (some trueReport)

/-- Without a checker, the output is accepted by the report of the aborted run. -/
theorem notStarted_not_fromThisCall :
    ¬ ∀ (machine : Machine Str Unit)
        (runs : Str → (before : World Str Unit) → CheckerRun before) (questFilePath answerFilePath
          reportProgramFilePath testlibCheckerReportFilePath : Str) (before : World Str Unit),
      FromThisCall machine runs questFilePath answerFilePath reportProgramFilePath
        testlibCheckerReportFilePath before := by
  intro always
  have fromThisCall := always pairMachine (fun _ => notStartedRun) "C:\\t\\q1".toList
    "C:\\t\\a1".toList "C:\\p\\out".toList "C:\\p\\rep".toList staleReport
  have accepted : Program.outcome (answersMatch
      (withRuns pairMachine fun _ => notStartedRun).windows "C:\\t\\q1".toList
      "C:\\t\\a1".toList "C:\\p\\out".toList "C:\\p\\rep".toList) staleReport = .ok true := by
    decide +kernel
  obtain ⟨after, returned⟩ := Program.outcome_eq_ok_iff.mp accepted
  obtain ⟨line, _, genuine⟩ := fromThisCall after returned
  exact absurd genuine.started (by simp [notStartedRun])

end CheckerOlimp.CheckerRc
