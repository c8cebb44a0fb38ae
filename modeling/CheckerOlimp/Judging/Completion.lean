import CheckerOlimp.Judging.Acceptance
import CheckerOlimp.Judging.Stopping

/-!
# When the judging completes

Whatever the judge cannot interpret ends its process at an assertion. `Orderly`
lists what keeps every assertion out of reach: nothing is asked of the
contestant's program but that it leaves the files of the tests alone, and of the
checker that it ends in time with a known exit code and leaves a report. The
files of the tests are then present before every test, and no step stops.
-/

namespace CheckerOlimp.CheckerRc

open CheckerOlimp.Std

variable {File Rest : Type} [DecidableEq File]

/-- The files of the tests exist. -/
def Present (machine : Machine File Rest) (tests : List TestPathNballsElement)
    (world : World File Rest) : Prop :=
  ∀ test ∈ tests, ∀ path ∈ test.questFile :: test.answerPathList,
    (world.files (machine.fileOf path)).isSome

/-- A configuration and a machine on which the judge can finish. -/
structure Orderly (machine : Machine File Rest) (profilePath sourceName executableFilePath : Str)
    (problems : ProblemStore) : Prop where
  answered : ∀ test ∈ problems.testPathList, test.answerPathList ≠ []
  /-- The paths of a test resolve, its quest and its first answer to one directory. -/
  resolved : ∀ test ∈ problems.testPathList, ∀ answer, test.answerPathList.head? = some answer →
    (testCommand machine profilePath sourceName problems test answer).isSome
  apart : ∀ test ∈ problems.testPathList, ∀ path ∈ test.questFile :: test.answerPathList,
    machine.fileOf path ∉ [inputFile machine profilePath problems,
      outputFile machine profilePath problems, reportFile machine profilePath sourceName]
  /-- The contestant's program ends, or the clocks go on until it is late. -/
  contestant_ends : ∀ world launch ended,
    machine.contestant executableFilePath profilePath world = (some launch, ended) →
    ∃ poll ∈ launch.polls, poll.exitCode ≠ stillActive ∨
      Late problems.timeLimit launch.timeStart poll.tickCount
  contestant_keeps : ∀ world, Present machine problems.testPathList world →
    Present machine problems.testPathList
      (machine.contestant executableFilePath profilePath world).2
  /-- The checker ends in time with an exit code that the judge knows. -/
  checker_ends : ∀ test ∈ problems.testPathList, ∀ answer line,
    test.answerPathList.head? = some answer →
    testCommand machine profilePath sourceName problems test answer = some line → ∀ world,
    ∃ exitCode code, (checkerMonitor (machine.checker line world).1.timeStart).run 0
        (machine.checker line world).1.polls = some (exitCode, code) ∧ code ≤ 4
  checker_reports : ∀ test ∈ problems.testPathList, ∀ answer line,
    test.answerPathList.head? = some answer →
    testCommand machine profilePath sourceName problems test answer = some line → ∀ world,
    ((machine.checker line world).2.files (reportFile machine profilePath sourceName)).isSome
  checker_keeps : ∀ line world, Present machine problems.testPathList world →
    Present machine problems.testPathList (machine.checker line world).2

/-! ## Steps that return -/

theorem readAnswers_returns {machine : Machine File Rest} {paths : List Str}
    {world : World File Rest} (reader : TestReader)
    (present : ∀ path ∈ paths, (world.files (machine.fileOf path)).isSome) :
    ∃ result, Program.Returns (reader.readAnswers machine.windows paths) world result world := by
  induction paths generalizing reader with
  | nil => exact ⟨reader, rfl⟩
  | cons path rest inductionHypothesis =>
      obtain ⟨content, file⟩ := Option.isSome_iff_exists.mp (present path List.mem_cons_self)
      obtain ⟨result, returned⟩ := inductionHypothesis
        { reader with
          test := { reader.test with
            answerList := reader.test.answerList ++ [textRead content] } }
        fun other listed => present other (List.mem_cons_of_mem path listed)
      refine ⟨result, Program.Returns.bind (Program.returns_call_iff.mpr rfl) ?_⟩
      refine Program.Returns.bind
        (Program.returns_ofOption_iff.mpr ⟨by rw [file]; rfl, rfl⟩) returned

/-- A test whose files exist is read. -/
theorem read_returns {machine : Machine File Rest} {quest : Str} {paths : List Str}
    {world : World File Rest} (reader : TestReader)
    (present : ∀ path ∈ quest :: paths, (world.files (machine.fileOf path)).isSome) :
    ∃ result, Program.Returns (reader.read machine.windows quest paths) world result world := by
  obtain ⟨content, file⟩ := Option.isSome_iff_exists.mp (present quest List.mem_cons_self)
  obtain ⟨result, returned⟩ := readAnswers_returns ⟨⟨[] ++ textRead content, []⟩⟩
    fun path listed => present path (List.mem_cons_of_mem quest listed)
  refine ⟨result, Program.Returns.bind (Program.returns_call_iff.mpr rfl) ?_⟩
  exact Program.Returns.bind (Program.returns_ofOption_iff.mpr ⟨by rw [file]; rfl, rfl⟩) returned

/-- A poll that finds the program ended is the last one. -/
theorem executeMonitor_returns_of_ended {timeLimit memoryLimit timeStart : SizeT} (start : Meter)
    {polls : List Poll} {poll : Poll} (member : poll ∈ polls)
    (ended : poll.exitCode ≠ stillActive) :
    ∃ last verdict, (executeMonitor timeLimit memoryLimit timeStart).run start polls =
      some (last, verdict) := by
  refine Monitor.run_of_fatal start (fun meter next goesOn => ?_) member
  cases ExecuteTurn.of_step goesOn with
  | goesOn active _ _ _ => exact ended active

/-- An execution returns when its loop does. -/
theorem execute_returns {machine : Machine File Rest} {self : Executor}
    (ends : ∀ world launch ended,
      machine.contestant self.executableFilePath self.executableFileDirectory world =
        (some launch, ended) →
      ∃ poll ∈ launch.polls, poll.exitCode ≠ stillActive ∨
        Late self.timeLimit launch.timeStart poll.tickCount)
    (quest : Str) (before : World File Rest) :
    ∃ self' after, Execution machine.windows self quest before self' after := by
  cases input : machine.windows.ofstream self.inputFilePath quest
      (self.cleared machine.windows before) with
  | mk opened created =>
  cases opened with
  | false => exact ⟨_, _, .notCreated input⟩
  | true =>
  cases process : machine.contestant self.executableFilePath self.executableFileDirectory
      created with
  | mk started ended =>
  cases started with
  | none => exact ⟨_, _, .notStarted input process⟩
  | some launch =>
  obtain ⟨poll, member, final⟩ := ends created launch ended process
  obtain ⟨meter, verdict, run⟩ : ∃ meter verdict,
      (executeMonitor self.timeLimit self.memoryLimit launch.timeStart).run ⟨0, 0⟩ launch.polls =
        some (meter, verdict) := by
    rcases final with exited | late
    · exact executeMonitor_returns_of_ended ⟨0, 0⟩ member exited
    · by_cases active : poll.exitCode = stillActive
      · exact executeMonitor_returns_of_late ⟨0, 0⟩ member active late
      · exact executeMonitor_returns_of_ended ⟨0, 0⟩ member active
  by_cases correct : verdict = .correct
  · subst correct
    cases output : machine.windows.ifstream self.outputFilePath ended with
    | mk file after =>
    cases file with
    | none => exact ⟨_, _, .noOutput input process run output⟩
    | some content => exact ⟨_, _, .accepted input process run output⟩
  · exact ⟨_, _, .rejected input process run correct⟩

/-! ## The files of the tests stay -/

/-- Writing or removing a file of the judge leaves the files of the tests. -/
theorem Present.put {machine : Machine File Rest} {tests : List TestPathNballsElement}
    {world : World File Rest} {file : File} (content : Option Str)
    (present : Present machine tests world)
    (apart : ∀ test ∈ tests, ∀ path ∈ test.questFile :: test.answerPathList,
      machine.fileOf path ≠ file) :
    Present machine tests (world.put file content) := by
  intro test member path listed
  rw [World.put_files_of_ne world content (apart test member path listed)]
  exact present test member path listed

section Steps

variable {machine : Machine File Rest} {profilePath sourceName executableFilePath : Str}
  {problems : ProblemStore}

omit [DecidableEq File] in
/-- No file of a test is one that the judge writes. -/
theorem Orderly.ne_of_mem
    (orderly : Orderly machine profilePath sourceName executableFilePath problems) {file : File}
    (own : file ∈ [inputFile machine profilePath problems, outputFile machine profilePath problems,
      reportFile machine profilePath sourceName]) :
    ∀ test ∈ problems.testPathList, ∀ path ∈ test.questFile :: test.answerPathList,
      machine.fileOf path ≠ file := by
  rintro test member path listed rfl
  exact orderly.apart test member path listed own

/-- An execution leaves the files of the tests. -/
theorem Orderly.execution_keeps
    (orderly : Orderly machine profilePath sourceName executableFilePath problems)
    {self' : Executor} {quest : Str} {before after : World File Rest}
    (execution : Execution machine.windows
      (problemExecutor profilePath executableFilePath problems) quest before self' after)
    (present : Present machine problems.testPathList before) :
    Present machine problems.testPathList after := by
  have second : outputFile machine profilePath problems ∈
      [inputFile machine profilePath problems, outputFile machine profilePath problems,
        reportFile machine profilePath sourceName] := List.mem_cons_of_mem _ List.mem_cons_self
  refine execution.keeps (Present machine problems.testPathList) (fun _ content kept => ?_)
    (fun _ kept => ?_) orderly.contestant_keeps present
  · exact kept.put content (orderly.ne_of_mem List.mem_cons_self)
  · exact kept.put none (orderly.ne_of_mem second)

/-- A comparison returns and leaves the files of the tests. -/
theorem Orderly.comparison_returns
    (orderly : Orderly machine profilePath sourceName executableFilePath problems)
    {test : TestPathNballsElement} (member : test ∈ problems.testPathList) {answer : Str}
    (first : test.answerPathList.head? = some answer) {before : World File Rest}
    (present : Present machine problems.testPathList before) :
    ∃ matched after, Program.Returns
      (compareWith machine.windows profilePath sourceName problems test answer) before matched
      after ∧ Present machine problems.testPathList after := by
  have listed : answer ∈ test.questFile :: test.answerPathList :=
    List.mem_cons_of_mem _ (List.mem_of_head? first)
  have comparable : Comparable machine test.questFile answer before = true := by
    simp [Comparable, present test member test.questFile List.mem_cons_self,
      present test member answer listed]
  obtain ⟨line, command⟩ := Option.isSome_iff_exists.mp (orderly.resolved test member answer first)
  obtain ⟨exitCode, code, run, inRange⟩ :=
    orderly.checker_ends test member answer line first command before
  obtain ⟨content, written⟩ := Option.isSome_iff_exists.mp
    (orderly.checker_reports test member answer line first command before)
  have decided := returns_testlib_iff.mpr ⟨⟨_, _, rfl, exitCode, code, run, inRange, content,
    written, rfl, rfl⟩⟩
  refine ⟨_, _, returns_answersMatch_iff.mpr ⟨comparable, line, command, decided⟩, ?_⟩
  exact (orderly.checker_keeps line before present).put none (orderly.ne_of_mem (by simp))

/-- Every test gets an entry, and the next test finds its files. -/
theorem Orderly.judgeTest_returns
    (orderly : Orderly machine profilePath sourceName executableFilePath problems)
    {test : TestPathNballsElement} (member : test ∈ problems.testPathList) (request : Request)
    (tReader : TestReader) {before : World File Rest}
    (present : Present machine problems.testPathList before) :
    ∃ elem request' tReader' after, Program.Returns
      (judgeTest machine.windows profilePath sourceName problems
        ⟨(problemExecutor profilePath executableFilePath problems).withRequest request, tReader⟩
        test) before
      (elem, ⟨(problemExecutor profilePath executableFilePath problems).withRequest request',
        tReader'⟩) after ∧
      Present machine problems.testPathList after := by
  obtain ⟨tReader', reads⟩ := read_returns tReader (present test member)
  obtain ⟨executor, executed, execution⟩ : ∃ self' after, Execution machine.windows
      (problemExecutor profilePath executableFilePath problems) tReader'.test.quest before self'
      after :=
    execute_returns orderly.contestant_ends tReader'.test.quest before
  have runs : Program.Returns
      (((problemExecutor profilePath executableFilePath problems).withRequest request).execute
        machine.windows tReader'.test.quest) before executor executed := by
    rw [execute_withRequest]
    exact returns_execute_iff.mpr execution
  have kept : executor = (problemExecutor profilePath executableFilePath problems).withRequest
      executor.requestReport := execution.request_bounds.1
  have present' := orderly.execution_keeps execution present
  by_cases correct : executor.requestReport.correct = .correct
  · obtain ⟨answer, first⟩ : ∃ answer, test.answerPathList.head? = some answer :=
      ⟨_, List.head?_eq_some_head (orderly.answered test member)⟩
    obtain ⟨matched, after, compares, present''⟩ :=
      orderly.comparison_returns member first present'
    refine ⟨comparedElem test executor.requestReport matched, executor.requestReport, tReader',
      after, ?_, present''⟩
    rw [← kept]
    exact returns_judgeTest_iff.mpr (.compared reads runs correct first compares)
  · refine ⟨stoppedElem test executor.requestReport, executor.requestReport, tReader', executed, ?_,
      present'⟩
    rw [← kept]
    exact returns_judgeTest_iff.mpr (.stopped reads runs correct)

/-- The loop returns from every world with the files of the tests. -/
theorem Orderly.judgeTests_returns
    (orderly : Orderly machine profilePath sourceName executableFilePath problems)
    {rest : List TestPathNballsElement} (among : ∀ test ∈ rest, test ∈ problems.testPathList)
    (report : List ReportElem) (request : Request) (tReader : TestReader)
    {before : World File Rest} (present : Present machine problems.testPathList before) :
    ∃ result after, Program.Returns
      (judgeTests machine.windows profilePath sourceName problems
        ⟨(problemExecutor profilePath executableFilePath problems).withRequest request, tReader⟩
        report rest) before result after := by
  induction rest generalizing report request tReader before with
  | nil => exact ⟨report, before, rfl⟩
  | cons test rest inductionHypothesis =>
      obtain ⟨elem, request', tReader', middle, judged, present'⟩ :=
        orderly.judgeTest_returns (among test List.mem_cons_self) request tReader present
      obtain ⟨result, after, returned⟩ := inductionHypothesis
        (fun other listed => among other (List.mem_cons_of_mem test listed))
        (report ++ [elem]) request' tReader' present'
      exact ⟨result, after, judged.bind returned⟩

end Steps

/-- The judging completes. From a configuration that is read and a program that is
built, on an orderly machine with the files of the tests, `check` returns a verdict
with one entry a test, whatever the contestant's program does. -/
theorem check_completes {machine : Machine File Rest} {parse : Str → Option Json}
    {mainConfigFilePath profilePath sourceName executableFilePath : Str} {config : MainConfig}
    {before read middle : World File Rest}
    (reads : Program.Returns (readMainConfig machine.windows parse mainConfigFilePath) before config
      read)
    (builds : Program.Returns (buildFromSource machine.windows profilePath sourceName
      config.compilerName config.compilerCommandTemplate []) read (true, executableFilePath) middle)
    (orderly : Orderly machine profilePath sourceName executableFilePath config.problem)
    (present : Present machine config.problem.testPathList middle) :
    ∃ verdict after, Program.Returns
      (check machine.windows parse mainConfigFilePath profilePath sourceName) before verdict after ∧
      verdict.status = "ok".toList ∧
      verdict.report.map (·.id) = config.problem.testPathList.map (·.id) := by
  obtain ⟨report, after, judged⟩ := orderly.judgeTests_returns (fun _ listed => listed) []
    Request.fresh TestReader.fresh present
  obtain ⟨elems, same, entries⟩ := entries_of_judgeTests ⟨rfl, rfl⟩ judged
  rw [List.nil_append] at same
  subst same
  refine ⟨⟨"ok".toList, [], report⟩, after, ?_, rfl, entries.ids_eq⟩
  exact reads.bind (builds.bind (judged.bind rfl))

/-! ## The pair of tests -/

/-- The configuration of `pairDocument`. -/
def pairConfig : MainConfig := ⟨"g $1 $2".toList, "mingw_cpp".toList, pairProblems⟩

/-- The part of `check` before the tests, and whether it leaves their files. -/
def pairSetup (machine : Machine Str Unit) :
    Judge (World Str Unit) (MainConfig × (Bool × Str) × Bool) := do
  let config ← readMainConfig machine.windows pairParse "C:\\cfg".toList
  let built ← buildFromSource machine.windows "C:\\p".toList "a".toList config.compilerName
    config.compilerCommandTemplate []
  let present ← Program.call fun world =>
    (decide (∀ test ∈ config.problem.testPathList,
      ∀ path ∈ test.questFile :: test.answerPathList, (world.files (machine.fileOf path)).isSome),
      world)
  pure (config, built, present)

theorem pairSetup_inversion (machine : Machine Str Unit) (executable : Str)
    (outcome : Program.outcome (pairSetup machine) ⟨pairFiles, ()⟩ =
      .ok (pairConfig, (true, executable), true)) :
    ∃ read middle,
      Program.Returns (readMainConfig machine.windows pairParse "C:\\cfg".toList) ⟨pairFiles, ()⟩
        pairConfig read ∧
      Program.Returns (buildFromSource machine.windows "C:\\p".toList "a".toList
        pairConfig.compilerName pairConfig.compilerCommandTemplate []) read (true, executable)
        middle ∧
      Present machine pairConfig.problem.testPathList middle := by
  obtain ⟨after, returned⟩ := Program.outcome_eq_ok_iff.mp outcome
  simp only [pairSetup, Program.returns_bind_iff, Program.returns_call_iff,
    Program.returns_pure_iff, Prod.mk.injEq] at returned
  obtain ⟨config, read, reads, built, middle, builds, present, _, ⟨found, rfl⟩,
    ⟨rfl, rfl, rfl⟩, rfl⟩ := returned
  have present := of_decide_eq_true found
  exact ⟨read, _, reads, builds, present⟩

theorem pair_orderly :
    Orderly pairMachine "C:\\p".toList "a".toList "C:\\p\\a.exe".toList pairProblems where
  answered := by decide
  resolved := by
    intro test member answer first
    simp only [pairProblems, List.mem_cons, List.not_mem_nil, or_false] at member
    rcases member with rfl | rfl
    · cases first
      decide
    · cases first
      decide
  apart := by decide
  contestant_ends := by
    intro world launch ended process
    simp only [pairMachine] at process
    split at process
    · cases process
      exact ⟨⟨⟨⟨0, 0⟩, ⟨0, 0⟩, 0⟩, 0, some 8⟩, by simp [twoPolls], .inl (by decide)⟩
    · cases process
      exact ⟨⟨⟨⟨0, 0⟩, ⟨0, 0⟩, 0⟩, 0, some 8⟩, by simp [twoPolls], .inl (by decide)⟩
  contestant_keeps := by
    intro world present
    simp only [pairMachine]
    split
    · exact present.put _ (by decide)
    · exact present
  checker_ends := by
    intro _ _ _ _ _ _ _
    exact ⟨0, 0, rfl, by decide⟩
  checker_reports := by
    intro _ _ _ _ _ _ _
    rfl
  checker_keeps := by
    intro _ world present
    exact present.put _ (by decide)

/-- The judging of the pair completes. -/
theorem check_completes_pair :
    ∃ verdict after, Program.Returns
      (check pairMachine.windows pairParse "C:\\cfg".toList "C:\\p".toList "a".toList)
      ⟨pairFiles, ()⟩ verdict after ∧
      verdict.status = "ok".toList ∧ verdict.report.map (·.id) = [1, 2] := by
  obtain ⟨read, middle, reads, builds, present⟩ :=
    pairSetup_inversion pairMachine "C:\\p\\a.exe".toList (by decide +kernel)
  exact check_completes reads builds pair_orderly present

/-- A checker that ends with the code 5 aborts the judging, with every file in place
and every program well behaved. -/
theorem unknownCode_aborts :
    ¬ ∀ (machine : Machine Str Unit) (parse : Str → Option Json)
        (mainConfigFilePath profilePath sourceName executableFilePath : Str) (config : MainConfig)
        (before read middle : World Str Unit),
      Program.Returns (readMainConfig machine.windows parse mainConfigFilePath) before config
        read →
      Program.Returns (buildFromSource machine.windows profilePath sourceName config.compilerName
        config.compilerCommandTemplate []) read (true, executableFilePath) middle →
      Present machine config.problem.testPathList middle →
      ∃ verdict after, Program.Returns
        (check machine.windows parse mainConfigFilePath profilePath sourceName) before verdict
        after := by
  intro always
  obtain ⟨read, middle, reads, builds, present⟩ := pairSetup_inversion
    (withChecker pairMachine "C:\\p\\atestlib_checker.report".toList fun _ => (5, []))
    "C:\\p\\a.exe".toList (by decide +kernel)
  obtain ⟨verdict, after, returned⟩ := always _ _ _ _ _ _ _ _ _ _ reads builds present
  have aborted : Program.outcome (check
      (withChecker pairMachine "C:\\p\\atestlib_checker.report".toList fun _ => (5, [])).windows
      pairParse "C:\\cfg".toList "C:\\p".toList "a".toList) ⟨pairFiles, ()⟩ =
        .error .assertion := by
    decide +kernel
  obtain ⟨_, stopped⟩ := Program.outcome_eq_error_iff.mp aborted
  exact stopped.not_returns returned

end CheckerOlimp.CheckerRc
