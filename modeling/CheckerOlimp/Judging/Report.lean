import CheckerOlimp.CheckerRc.Checker
import CheckerOlimp.Judging.Execution
import CheckerOlimp.Platform.Machine

/-!
# The report of a judging run

`Within` is the invariant of the contestant's polling loop: every survived poll
leaves the CPU reading and the largest working set within the limits. It bounds
the request of every execution, and through it every entry of the report. The
environment is arbitrary, so the results hold for every sequence of answers.
-/

namespace CheckerOlimp.CheckerRc

open CheckerOlimp.Std

variable {World : Type}

/-! ## The polling loop -/

/-- A meter within the limits. -/
structure Meter.Within (timeLimit memoryLimit : SizeT) (meter : Meter) : Prop where
  time : meter.workTime ≤ timeLimit
  memory : meter.memory ≤ memoryLimit

/-- The meter before the first poll is within any limits. -/
theorem Meter.within_zero (timeLimit memoryLimit : SizeT) :
    Meter.Within timeLimit memoryLimit ⟨0, 0⟩ :=
  ⟨UInt32.zero_le, UInt32.zero_le⟩

/-- A turn that goes on leaves a meter within the limits. -/
theorem within_of_goesOn {timeLimit memoryLimit timeStart : SizeT} {meter next : Meter}
    {poll : Poll}
    (turn : (executeMonitor timeLimit memoryLimit timeStart).step meter poll = (next, none)) :
    Meter.Within timeLimit memoryLimit next := by
  cases ExecuteTurn.of_step turn with
  | goesOn active inTime known inMemory =>
      refine ⟨?_, inMemory⟩
      have notOver : ¬ _ := Bool.not_eq_true _ ▸ inTime
      rw [overTime_iff, not_or] at notOver
      exact UInt32.le_iff_toNat_le.mpr (Nat.le_of_not_lt notOver.1)

/-- What a verdict of the contestant's monitor says of its meter. -/
structure VerdictBounds (timeLimit memoryLimit : SizeT) (verdict : RequestType)
    (timeOut memory : SizeT) : Prop where
  correct : verdict = .correct → timeOut ≤ timeLimit ∧ memory ≤ memoryLimit
  tle : verdict = .tle → memory ≤ memoryLimit
  mle : verdict = .mle → timeOut ≤ timeLimit

/-- The verdict of a whole run bounds the meter it leaves. -/
theorem verdictBounds_of_run {timeLimit memoryLimit timeStart : SizeT} {meter : Meter}
    {verdict : RequestType} {polls : List Poll}
    (run : (executeMonitor timeLimit memoryLimit timeStart).run ⟨0, 0⟩ polls =
      some (meter, verdict)) :
    VerdictBounds timeLimit memoryLimit verdict meter.workTime meter.memory := by
  obtain ⟨earlier, final, later, current, _, survived, turn⟩ := Monitor.run_eq_some_iff.mp run
  have within : Meter.Within timeLimit memoryLimit current :=
    Monitor.survive_invariant (fun _ _ _ _ turn => within_of_goesOn turn)
      (Meter.within_zero timeLimit memoryLimit) survived
  cases ExecuteTurn.of_step turn with
  | slow active excess => exact ⟨by simp, fun _ => within.memory, by simp⟩
  | big active inTime excess =>
      have notOver : ¬ _ := Bool.not_eq_true _ ▸ inTime
      rw [overTime_iff, not_or] at notOver
      exact ⟨by simp, by simp, fun _ =>
        UInt32.le_iff_toNat_le.mpr (Nat.le_of_not_lt notOver.1)⟩
  | exited zero => exact ⟨fun _ => ⟨within.time, within.memory⟩, by simp, by simp⟩
  | crashed ended nonzero => exact ⟨by simp, by simp, by simp⟩

/-! ## One execution -/

/-- An execution leaves the configuration of the executor as it was, and its
request within the bounds of its verdict. -/
theorem Execution.request_bounds {windows : Windows World} {self self' : Executor} {quest : Str}
    {before after : World} (execution : Execution windows self quest before self' after) :
    self' = self.withRequest self'.requestReport ∧
      VerdictBounds self.timeLimit self.memoryLimit self'.requestReport.correct
        self'.requestReport.timeOut self'.requestReport.memory := by
  cases execution with
  | notCreated _ => exact ⟨rfl, ⟨by simp, by simp, by simp⟩⟩
  | notStarted _ _ => exact ⟨rfl, ⟨by simp, by simp, by simp⟩⟩
  | noOutput _ _ _ _ => exact ⟨rfl, ⟨by simp, by simp, by simp⟩⟩
  | accepted _ _ run _ => exact ⟨rfl, verdictBounds_of_run run⟩
  | rejected _ _ run _ => exact ⟨rfl, verdictBounds_of_run run⟩

/-! ## One test -/

/-- The entry of a test whose output was compared. -/
def comparedElem (test : TestPathNballsElement) (request : Request) (matched : Bool) :
    ReportElem :=
  if matched then ⟨"ok".toList, test.id, request.timeOut, request.memory, test.scores⟩
  else ⟨"bad".toList, test.id, request.timeOut, request.memory, 0⟩

/-- The entry of a test whose output was not compared. -/
def stoppedElem (test : TestPathNballsElement) (request : Request) : ReportElem :=
  match request.correct with
  | .tle => ⟨"tle".toList, test.id, -1, request.memory, 0⟩
  | .mle => ⟨"mle".toList, test.id, request.timeOut, -1, 0⟩
  | _ => ⟨"crash".toList, test.id, -1, -1, 0⟩

/-- The comparison that `judgeTest` makes for one of the answers. -/
def compareWith (windows : Windows World) (profilePath sourceName : Str) (problems : ProblemStore)
    (test : TestPathNballsElement) (answer : Str) : Judge World Bool :=
  answersMatch windows test.questFile answer (restorePath profilePath problems.outputFileName)
    (restorePath profilePath (sourceName ++ "testlib_checker.report".toList))

/-- The ways in which judging a test returns: it is read and run, and its output is
compared with the first answer or not at all. -/
inductive Judging (windows : Windows World) (profilePath sourceName : Str)
    (problems : ProblemStore) (bench : Bench) (test : TestPathNballsElement) (before : World) :
    ReportElem → Bench → World → Prop where
  | compared {tReader : TestReader} {executor : Executor} {opened executed after : World}
      {answer : Str} {matched : Bool}
      (reads : Program.Returns (bench.tReader.read windows test.questFile test.answerPathList)
        before tReader opened)
      (runs : Program.Returns (bench.executorMachine.execute windows tReader.test.quest) opened
        executor executed)
      (correct : executor.requestReport.correct = .correct)
      (first : test.answerPathList.head? = some answer)
      (compares : Program.Returns
        (compareWith windows profilePath sourceName problems test answer) executed matched after) :
      Judging windows profilePath sourceName problems bench test before
        (comparedElem test executor.requestReport matched) ⟨executor, tReader⟩ after
  | stopped {tReader : TestReader} {executor : Executor} {opened after : World}
      (reads : Program.Returns (bench.tReader.read windows test.questFile test.answerPathList)
        before tReader opened)
      (runs : Program.Returns (bench.executorMachine.execute windows tReader.test.quest) opened
        executor after)
      (notCorrect : executor.requestReport.correct ≠ .correct) :
      Judging windows profilePath sourceName problems bench test before
        (stoppedElem test executor.requestReport) ⟨executor, tReader⟩ after

theorem returns_judgeTest_iff {windows : Windows World} {profilePath sourceName : Str}
    {problems : ProblemStore} {bench bench' : Bench} {test : TestPathNballsElement}
    {elem : ReportElem} {before after : World} :
    Program.Returns (judgeTest windows profilePath sourceName problems bench test) before
        (elem, bench') after ↔
      Judging windows profilePath sourceName problems bench test before elem bench' after := by
  constructor
  · intro returned
    simp only [judgeTest, Program.returns_bind_iff] at returned
    obtain ⟨tReader, opened, reads, executor, executed, runs, returned⟩ := returned
    cases request : executor.requestReport.correct with
    | correct =>
        simp only [request, Program.returns_bind_iff, Program.returns_ofOption_iff] at returned
        obtain ⟨answer, middle, ⟨first, same⟩, matched, compared, compares, returned⟩ := returned
        subst middle
        cases matched with
        | true =>
            simp only [Bool.not_true, Bool.false_eq_true, ↓reduceIte, Program.returns_pure_iff,
              Prod.mk.injEq] at returned
            obtain ⟨⟨rfl, rfl⟩, rfl⟩ := returned
            exact .compared reads runs request first compares
        | false =>
            simp only [Bool.not_false, ↓reduceIte, Program.returns_pure_iff,
              Prod.mk.injEq] at returned
            obtain ⟨⟨rfl, rfl⟩, rfl⟩ := returned
            exact .compared reads runs request first compares
    | tle | mle | crash | nif | cpf | cctf =>
        have stopped : (elem = stoppedElem test executor.requestReport ∧
            bench' = ⟨executor, tReader⟩) ∧ after = executed := by
          simpa [stoppedElem, request] using returned
        obtain ⟨⟨rfl, rfl⟩, rfl⟩ := stopped
        exact .stopped reads runs (by simp [request])
  · intro judging
    cases judging with
    | @compared tReader executor opened executed after answer matched reads runs correct first
        compares =>
        refine reads.bind (runs.bind ?_)
        simp only [correct, first]
        refine Program.Returns.bind (Program.returns_ofOption_iff.mpr ⟨rfl, rfl⟩)
          (compares.bind ?_)
        cases matched with
        | true => rfl
        | false => rfl
    | @stopped tReader executor opened after reads runs notCorrect =>
        refine reads.bind (runs.bind ?_)
        cases request : executor.requestReport.correct with
        | correct => exact absurd request notCorrect
        | tle | mle | crash | nif | cpf | cctf =>
            simp only [request]
            exact Program.returns_pure_iff.mpr ⟨by simp [stoppedElem, request], rfl⟩

/-! ## One entry -/

/-- The execution of the program on one test: the test is read, and the executor
of the bench runs on its quest. -/
structure Ran (windows : Windows World) (bench : Bench) (test : TestPathNballsElement)
    (before : World) (executor : Executor) (executed : World) : Prop where
  pass : ∃ tReader opened,
    Program.Returns (bench.tReader.read windows test.questFile test.answerPathList) before tReader
      opened ∧
    Program.Returns (bench.executorMachine.execute windows tReader.test.quest) opened executor
      executed

/-- The comparison after the execution gave `matched`. -/
structure Compared (windows : Windows World) (profilePath sourceName : Str)
    (problems : ProblemStore) (test : TestPathNballsElement) (executed : World)
    (matched : Bool) : Prop where
  pass : ∃ answer after, test.answerPathList.head? = some answer ∧
    Program.Returns (compareWith windows profilePath sourceName problems test answer) executed
      matched after

/-- The entries that a test can get from a bench and a world, each with the
execution and the comparison that led to it. -/
inductive Entry (windows : Windows World) (profilePath sourceName : Str) (problems : ProblemStore)
    (bench : Bench) (before : World) (test : TestPathNballsElement) : ReportElem → Prop where
  | ok {executor : Executor} {executed : World} {time memory : SizeT}
      (ran : Ran windows bench test before executor executed)
      (correct : executor.requestReport.correct = .correct)
      (compared : Compared windows profilePath sourceName problems test executed true)
      (inTime : time ≤ problems.timeLimit) (inMemory : memory ≤ problems.memoryLimit) :
      Entry windows profilePath sourceName problems bench before test
        ⟨"ok".toList, test.id, time, memory, test.scores⟩
  | bad {executor : Executor} {executed : World} {time memory : SizeT}
      (ran : Ran windows bench test before executor executed)
      (correct : executor.requestReport.correct = .correct)
      (compared : Compared windows profilePath sourceName problems test executed false)
      (inTime : time ≤ problems.timeLimit) (inMemory : memory ≤ problems.memoryLimit) :
      Entry windows profilePath sourceName problems bench before test
        ⟨"bad".toList, test.id, time, memory, 0⟩
  | tle {executor : Executor} {executed : World} {memory : SizeT}
      (ran : Ran windows bench test before executor executed)
      (tle : executor.requestReport.correct = .tle) (inMemory : memory ≤ problems.memoryLimit) :
      Entry windows profilePath sourceName problems bench before test
        ⟨"tle".toList, test.id, -1, memory, 0⟩
  | mle {executor : Executor} {executed : World} {time : SizeT}
      (ran : Ran windows bench test before executor executed)
      (mle : executor.requestReport.correct = .mle) (inTime : time ≤ problems.timeLimit) :
      Entry windows profilePath sourceName problems bench before test
        ⟨"mle".toList, test.id, time, -1, 0⟩
  | crash {executor : Executor} {executed : World}
      (ran : Ran windows bench test before executor executed)
      (other : executor.requestReport.correct ∉ [.correct, .tle, .mle]) :
      Entry windows profilePath sourceName problems bench before test
        ⟨"crash".toList, test.id, -1, -1, 0⟩

/-- An entry carries the id of its test. -/
theorem Entry.id_eq {windows : Windows World} {profilePath sourceName : Str}
    {problems : ProblemStore} {bench : Bench} {before : World} {test : TestPathNballsElement}
    {elem : ReportElem}
    (entry : Entry windows profilePath sourceName problems bench before test elem) :
    elem.id = test.id := by
  cases entry <;> rfl

/-- The invariant of the loop over the tests: the executor keeps the limits of the
problem. -/
structure Bench.Limits (problems : ProblemStore) (bench : Bench) : Prop where
  time : bench.executorMachine.timeLimit = problems.timeLimit
  memory : bench.executorMachine.memoryLimit = problems.memoryLimit

/-- An execution keeps the limits of the bench, and its request is within them. -/
theorem Bench.Limits.execution {windows : Windows World} {problems : ProblemStore} {bench : Bench}
    {executor : Executor} {tReader : TestReader} {quest : Str} {before after : World}
    (limits : bench.Limits problems)
    (runs : Program.Returns (bench.executorMachine.execute windows quest) before executor after) :
    Bench.Limits problems ⟨executor, tReader⟩ ∧
      VerdictBounds problems.timeLimit problems.memoryLimit executor.requestReport.correct
        executor.requestReport.timeOut executor.requestReport.memory := by
  obtain ⟨kept, bounds⟩ := (returns_execute_iff.mp runs).request_bounds
  rw [limits.time, limits.memory] at bounds
  refine ⟨?_, bounds⟩
  rw [kept]
  exact ⟨limits.time, limits.memory⟩

/-- Judging one test gives it one of its entries and keeps the limits. -/
theorem entry_of_judgeTest {windows : Windows World} {profilePath sourceName : Str}
    {problems : ProblemStore} {bench bench' : Bench} {test : TestPathNballsElement}
    {elem : ReportElem} {before after : World} (limits : bench.Limits problems)
    (returned : Program.Returns
      (judgeTest windows profilePath sourceName problems bench test) before (elem, bench') after) :
    Entry windows profilePath sourceName problems bench before test elem ∧
      bench'.Limits problems := by
  cases returns_judgeTest_iff.mp returned with
  | @compared tReader executor opened executed after answer matched reads runs correct first
      compares =>
      have ran : Ran windows bench test before executor executed := ⟨tReader, opened, reads, runs⟩
      obtain ⟨kept, bounds⟩ := limits.execution runs
      obtain ⟨inTime, inMemory⟩ := bounds.correct correct
      have comparison : Compared windows profilePath sourceName problems test executed matched :=
        ⟨answer, after, first, compares⟩
      cases matched with
      | true => exact ⟨.ok ran correct comparison inTime inMemory, kept⟩
      | false => exact ⟨.bad ran correct comparison inTime inMemory, kept⟩
  | @stopped tReader executor opened after reads runs notCorrect =>
      have ran : Ran windows bench test before executor after := ⟨tReader, opened, reads, runs⟩
      obtain ⟨kept, bounds⟩ := limits.execution runs
      refine ⟨?_, kept⟩
      unfold stoppedElem
      cases request : executor.requestReport.correct with
      | correct => exact absurd request notCorrect
      | tle => exact .tle ran request (bounds.tle request)
      | mle => exact .mle ran request (bounds.mle request)
      | crash | nif | cpf | cctf => exact .crash ran (by simp [request])

/-- The entries of a list of tests, each judged from the bench and the world that
the test before it has left. -/
inductive Entries (windows : Windows World) (profilePath sourceName : Str)
    (problems : ProblemStore) :
    Bench → World → List TestPathNballsElement → List ReportElem → Prop where
  | nil {bench : Bench} {world : World} :
      Entries windows profilePath sourceName problems bench world [] []
  | cons {bench bench' : Bench} {before middle : World} {test : TestPathNballsElement}
      {elem : ReportElem} {tests : List TestPathNballsElement} {elems : List ReportElem}
      (entry : Entry windows profilePath sourceName problems bench before test elem)
      (judged : Program.Returns
        (judgeTest windows profilePath sourceName problems bench test) before (elem, bench') middle)
      (rest : Entries windows profilePath sourceName problems bench' middle tests elems) :
      Entries windows profilePath sourceName problems bench before (test :: tests) (elem :: elems)

/-- The entries carry the ids of the tests, in their order. -/
theorem Entries.ids_eq {windows : Windows World} {profilePath sourceName : Str}
    {problems : ProblemStore} {bench : Bench} {world : World}
    {tests : List TestPathNballsElement} {elems : List ReportElem}
    (entries : Entries windows profilePath sourceName problems bench world tests elems) :
    elems.map (·.id) = tests.map (·.id) := by
  induction entries with
  | nil => rfl
  | cons entry _ _ inductionHypothesis => simp [entry.id_eq, inductionHypothesis]

/-- The loop over the tests appends one entry a test, in the order of the tests. -/
theorem entries_of_judgeTests {windows : Windows World} {profilePath sourceName : Str}
    {problems : ProblemStore} {bench : Bench} {report result : List ReportElem}
    {tests : List TestPathNballsElement} {before after : World} (limits : bench.Limits problems)
    (returned : Program.Returns
      (judgeTests windows profilePath sourceName problems bench report tests) before result
      after) :
    ∃ elems, result = report ++ elems ∧
      Entries windows profilePath sourceName problems bench before tests elems := by
  induction tests generalizing bench report before with
  | nil =>
      simp only [judgeTests, Program.returns_pure_iff] at returned
      exact ⟨[], by simp [returned.1], .nil⟩
  | cons test rest inductionHypothesis =>
      simp only [judgeTests, Program.returns_bind_iff] at returned
      obtain ⟨⟨elem, bench'⟩, middle, judged, returned⟩ := returned
      obtain ⟨entry, limits'⟩ := entry_of_judgeTest limits judged
      obtain ⟨elems, same, entries⟩ := inductionHypothesis limits' returned
      exact ⟨elem :: elems, by simp [same], .cons entry judged entries⟩

/-! ## The whole run -/

/-- The bench before the first test. -/
def Bench.start (profilePath executableFilePath : Str) (problems : ProblemStore) : Bench :=
  ⟨configuredExecutor profilePath executableFilePath problems Executor.fresh, TestReader.fresh⟩

/-- A verdict that agrees with the build: nothing but the status after a failure,
and otherwise one entry for each test, from the world that the build has left. -/
inductive Consistent (windows : Windows World) (profilePath sourceName : Str)
    (problems : ProblemStore) (built : Bool) (executableFilePath : Str) (middle : World)
    (verdict : Verdict) : Prop where
  | failed (notBuilt : built = false) (status : verdict.status = "bad".toList)
      (report : verdict.report = [])
  | judged (isBuilt : built = true) (status : verdict.status = "ok".toList)
      (ids : verdict.report.map (·.id) = problems.testPathList.map (·.id))
      (report : Entries windows profilePath sourceName problems
        (Bench.start profilePath executableFilePath problems) middle problems.testPathList
        verdict.report)

/-- `check` from any configuration returns a consistent verdict. -/
theorem checkConfig_consistent {windows : Windows World} {config : MainConfig}
    {profilePath sourceName : Str} {verdict : Verdict} {before after : World}
    (returned : Program.Returns (checkConfig windows config profilePath sourceName) before verdict
      after) :
    ∃ built executable middle,
      Program.Returns (buildFromSource windows profilePath sourceName config.compilerName
        config.compilerCommandTemplate []) before (built, executable) middle ∧
      Consistent windows profilePath sourceName config.problem built executable middle
        verdict := by
  simp only [checkConfig, Program.returns_bind_iff] at returned
  obtain ⟨⟨built, executable⟩, middle, build, returned⟩ := returned
  refine ⟨built, executable, middle, build, ?_⟩
  cases built with
  | false =>
      simp only [Bool.not_false, ↓reduceIte, Program.returns_pure_iff] at returned
      rw [returned.1]
      exact .failed rfl rfl rfl
  | true =>
      simp only [Bool.not_true, Bool.false_eq_true, ↓reduceIte, Program.returns_bind_iff,
        Program.returns_pure_iff] at returned
      obtain ⟨report, _, judged, rfl, _⟩ := returned
      obtain ⟨elems, rfl, entries⟩ := entries_of_judgeTests ⟨rfl, rfl⟩ judged
      exact .judged rfl rfl entries.ids_eq entries

/-- Every verdict that `check` returns is consistent with the problem it has read. -/
theorem check_report_consistent {windows : Windows World} {parse : Str → Option Json}
    {mainConfigFilePath profilePath sourceName : Str} {verdict : Verdict} {before after : World}
    (returned : Program.Returns
      (check windows parse mainConfigFilePath profilePath sourceName) before verdict after) :
    ∃ config read built executable middle,
      Program.Returns (readMainConfig windows parse mainConfigFilePath) before config read ∧
      Program.Returns (buildFromSource windows profilePath sourceName config.compilerName
        config.compilerCommandTemplate []) read (built, executable) middle ∧
      Consistent windows profilePath sourceName config.problem built executable middle
        verdict := by
  simp only [check, Program.returns_bind_iff] at returned
  obtain ⟨config, read, reading, checking⟩ := returned
  obtain ⟨built, executable, middle, build, consistent⟩ := checkConfig_consistent checking
  exact ⟨config, read, built, executable, middle, reading, build, consistent⟩

/-! ## A judged solution -/

/-- A configuration with one test on each of the quests `1` and `2`. -/
def pairDocument : Json :=
  .object [
    ("problem".toList, .object [
      ("name".toList, .string "pair".toList),
      ("config".toList, .object [
        ("time_limit".toList, .number 1000),
        ("memory_limit".toList, .number 64),
        ("input".toList, .string "in".toList),
        ("output".toList, .string "out".toList),
        ("test_dir".toList, .string "C:\\t".toList),
        ("checker".toList, .string "check.exe".toList),
        ("tests".toList, .array [
          .object [
            ("id".toList, .number 1),
            ("scores".toList, .number 5),
            ("input".toList, .string "q1".toList),
            ("outputs".toList, .array [.string "a1".toList])],
          .object [
            ("id".toList, .number 2),
            ("scores".toList, .number 7),
            ("input".toList, .string "q2".toList),
            ("outputs".toList, .array [.string "a2".toList])]])])]),
    ("language".toList, .object [
      ("name".toList, .string "mingw_cpp".toList),
      ("template".toList, .string "g $1 $2".toList)])]

/-- The files before the judging of `pairDocument`. -/
def pairFiles (path : Str) : Option Str :=
  if path = "C:\\cfg".toList then some pairDocument.text
  else if path = "C:\\t\\q1".toList then some "1".toList
  else if path = "C:\\t\\q2".toList then some "2".toList
  else if path = "C:\\t\\a1".toList then some "1".toList
  else if path = "C:\\t\\a2".toList then some "2".toList
  else if path = "C:\\t\\check.exe".toList then some []
  else none

/-- A process that runs at its first poll with the CPU time `milliseconds`, and
has returned 0 at the second. -/
def twoPolls (milliseconds : Nat) : Launch :=
  ⟨0, [⟨⟨⟨0, 0⟩, ⟨UInt32.ofNat (milliseconds * 10000), 0⟩, UInt32.ofNat milliseconds⟩,
      stillActive, some 8⟩,
    ⟨⟨⟨0, 0⟩, ⟨0, 0⟩, 0⟩, 0, some 8⟩]⟩

/-- A contestant's program that answers `1` with itself and does not stop on
anything else, and a checker that accepts. -/
def pairMachine : Machine Str Unit where
  fileOf path := path
  fullPathName path := some path
  fileOf_fullPathName same := by cases same; rfl
  creatable _ := true
  compile _ before := some {
    pipe := ⟨[], true, 0⟩
    after := before.put "C:\\p\\a.exe".toList (some [])
    written := fun file => file = "C:\\p\\a.exe".toList
    unwritten := fun file other =>
      CheckerOlimp.World.put_files_of_ne before _ (of_decide_eq_false other) }
  contestant _ _ world :=
    if world.files "C:\\p\\in".toList = some "1".toList then
      (some (twoPolls 20), world.put "C:\\p\\out".toList (some "1".toList))
    else (some (twoPolls 3000), world)
  checker _ world :=
    (⟨0, [⟨⟨⟨0, 0⟩, ⟨0, 0⟩, 0⟩, some 0⟩]⟩,
      world.put "C:\\p\\atestlib_checker.report".toList (some trueReport))

/-- The parser on the text of `pairDocument`. -/
def pairParse (text : Str) : Option Json :=
  if text = pairDocument.text then some pairDocument else none

/-- The verdict on the pair: the first test is accepted, the second is too slow. -/
def pairVerdict : Verdict :=
  ⟨"ok".toList, [], [⟨"ok".toList, 1, 20, 8, 5⟩, ⟨"tle".toList, 2, -1, 0, 0⟩]⟩

theorem outcome_check_pair : Program.outcome
    (check pairMachine.windows pairParse "C:\\cfg".toList "C:\\p".toList "a".toList)
    ⟨pairFiles, ()⟩ = .ok pairVerdict := by
  decide +kernel

/-- The verdict on the pair is consistent. -/
theorem check_report_consistent_pair :
    ∃ config read built executable middle,
      Program.Returns (readMainConfig pairMachine.windows pairParse "C:\\cfg".toList)
        ⟨pairFiles, ()⟩ config read ∧
      Program.Returns (buildFromSource pairMachine.windows "C:\\p".toList "a".toList
        config.compilerName config.compilerCommandTemplate []) read (built, executable) middle ∧
      Consistent pairMachine.windows "C:\\p".toList "a".toList config.problem built executable
        middle pairVerdict := by
  obtain ⟨_, returned⟩ := Program.outcome_eq_ok_iff.mp outcome_check_pair
  exact check_report_consistent returned

end CheckerOlimp.CheckerRc
