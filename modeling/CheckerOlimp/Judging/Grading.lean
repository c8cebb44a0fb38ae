import CheckerOlimp.Judging.Arguments
import CheckerOlimp.Judging.Build
import CheckerOlimp.Judging.Completion
import CheckerOlimp.Judging.Input

/-!
# What the judge computes

A program relates the text that it is given to the ways in which it may run, and a checker
decides on an output from the quest and the answer. `Deserves` says which entries these
two leave for a test. `Hosts` says that the programs of a machine behave so; the judge then
gives each test such an entry, by way of its files, processes and reports.
-/

namespace CheckerOlimp.CheckerRc

open CheckerOlimp.Std

/-! ## Grades -/

/-- How a program runs on an input, with what it is measured to use. -/
inductive Conduct where
  | answered (output : Str) (time memory : SizeT)
  | late (memory : SizeT)
  | greedy (time : SizeT)
  | failed
deriving DecidableEq, Repr

/-- The entry of a test for a conduct, when `accepts` decides on its output. -/
def Conduct.elem (test : TestPathNballsElement) (accepts : Str → Bool) : Conduct → ReportElem
  | .answered output time memory =>
    if accepts output then ⟨"ok".toList, test.id, time, memory, test.scores⟩
    else ⟨"bad".toList, test.id, time, memory, 0⟩
  | .late memory => ⟨"tle".toList, test.id, -1, memory, 0⟩
  | .greedy time => ⟨"mle".toList, test.id, time, -1, 0⟩
  | .failed => ⟨"crash".toList, test.id, -1, -1, 0⟩

/-- A program: how it may run on a text. -/
abbrev Behaviour := Str → Conduct → Prop

/-- The entry is one that the program deserves on the test, whose files have the content `shelf`:
it is given the quest as text-mode streams copy it, and its output is held against the first
answer. -/
def Deserves (shelf : Str → Str) (accepts : Str → Str → Str → Bool) (program : Behaviour)
    (test : TestPathNballsElement) (elem : ReportElem) : Prop :=
  ∃ conduct, program (textWrite (textRead (shelf test.questFile))) conduct ∧
    elem = conduct.elem test fun output =>
      test.answerPathList.head?.elim false fun answer =>
        accepts (shelf test.questFile) (shelf answer) output

/-! ## Programs on a machine -/

/-- The conduct that a launched program shows to the monitor, with the output file that it
leaves; none for one that the monitor never stops polling. -/
def conductOf (timeLimit memoryLimit : SizeT) (launch : Option Launch) (output : Option Str) :
    Option Conduct :=
  match launch with
  | none => some .failed
  | some launch =>
    ((executeMonitor timeLimit memoryLimit launch.timeStart).run ⟨0, 0⟩ launch.polls).map
      fun (meter, verdict) =>
        match verdict, output with
        | .correct, some content => .answered content meter.workTime meter.memory
        | .tle, _ => .late meter.memory
        | .mle, _ => .greedy meter.workTime
        | _, _ => .failed

variable {File Rest : Type} [DecidableEq File]

/-- The executable is the program, and the checkers decide as `accepts`, on worlds that are
ready: there the files of the tests are on the shelf, and neither the judge nor the programs
change what makes a world ready. -/
structure Hosts (machine : Machine File Rest) (profilePath sourceName executableFilePath : Str)
    (problems : ProblemStore) (shelf : Str → Str) (accepts : Str → Str → Str → Bool)
    (program : Behaviour) (ready : World File Rest → Prop) : Prop where
  answered : ∀ test ∈ problems.testPathList, test.answerPathList ≠ []
  resolved : ∀ test ∈ problems.testPathList, ∀ answer, test.answerPathList.head? = some answer →
    (testCommand machine profilePath sourceName problems test answer).isSome
  creatable : machine.creatable (inputFile machine profilePath problems) = true
  apart : outputFile machine profilePath problems ≠ inputFile machine profilePath problems
  shelved : ∀ {world}, ready world → ∀ test ∈ problems.testPathList,
    ∀ path ∈ test.questFile :: test.answerPathList,
      world.files (machine.fileOf path) = some (shelf path)
  scratch : ∀ {world}, ready world → ∀ file ∈ [inputFile machine profilePath problems,
    outputFile machine profilePath problems, reportFile machine profilePath sourceName],
      ∀ content, ready (world.put file content)
  runs : ∀ {world text}, ready world →
    world.files (inputFile machine profilePath problems) = some text →
    world.files (outputFile machine profilePath problems) = none →
      ∃ conduct, conductOf problems.timeLimit problems.memoryLimit
          (machine.contestant executableFilePath profilePath world).1
          ((machine.contestant executableFilePath profilePath world).2.files
            (outputFile machine profilePath problems)) = some conduct ∧
        program text conduct
  runs_keeps : ∀ {world}, ready world →
    ready (machine.contestant executableFilePath profilePath world).2
  /-- The checker ends with a result number that is 0 when it accepts, and its report says so
  and does not quote another success. -/
  checks : ∀ test ∈ problems.testPathList, ∀ answer line,
    test.answerPathList.head? = some answer →
    testCommand machine profilePath sourceName problems test answer = some line →
    ∀ {world output}, ready world →
      world.files (outputFile machine profilePath problems) = some output →
      ∃ code further, code ≤ 4 ∧ ¬ trueReport <:+: further ∧
        (code = 0 ↔ accepts (shelf test.questFile) (shelf answer) output = true) ∧
        Nonempty (CheckReport machine line (reportFile machine profilePath sourceName) world code
          further)
  checks_keeps : ∀ {line world}, ready world → ready (machine.checker line world).2

/-! ## The judge on such a machine -/

/-- The request and the output file in which a conduct results. -/
inductive Conduct.Meets (request : Request) (output : Option Str) : Conduct → Prop
  | answered {content : Str} (correct : request.correct = .correct)
      (left : output = some content) :
      Meets request output (.answered content request.timeOut request.memory)
  | late (tle : request.correct = .tle) : Meets request output (.late request.memory)
  | greedy (mle : request.correct = .mle) : Meets request output (.greedy request.timeOut)
  | failed (other : request.correct ∉ [.correct, .tle, .mle]) : Meets request output .failed

section Judging

variable {machine : Machine File Rest} {profilePath sourceName executableFilePath : Str}
  {problems : ProblemStore} {shelf : Str → Str} {accepts : Str → Str → Str → Bool}
  {program : Behaviour} {ready : World File Rest → Prop}

/-- The world in which the program is started. -/
def givenWorld (machine : Machine File Rest) (profilePath : Str) (problems : ProblemStore)
    (quest : Str) (before : World File Rest) : World File Rest :=
  ((before.put (inputFile machine profilePath problems) none).put
    (outputFile machine profilePath problems) none).put (inputFile machine profilePath problems)
      (some (textWrite quest))

/-- The executor clears its files, and makes the input again. -/
theorem Hosts.makes_input
    (hosts : Hosts machine profilePath sourceName executableFilePath problems shelf accepts program
      ready) (quest : Str) (before : World File Rest) :
    machine.windows.ofstream (problemExecutor profilePath executableFilePath problems).inputFilePath
        quest ((problemExecutor profilePath executableFilePath problems).cleared machine.windows
          before) =
      (true, givenWorld machine profilePath problems quest before) := by
  rw [Machine.windows_ofstream]
  exact if_pos hosts.creatable

/-- The program starts in a world that is ready, on the quest, and without an output. -/
theorem Hosts.runs_given
    (hosts : Hosts machine profilePath sourceName executableFilePath problems shelf accepts program
      ready) (quest : Str) {before : World File Rest} (now : ready before) :
    ready (machine.contestant executableFilePath profilePath
        (givenWorld machine profilePath problems quest before)).2 ∧
      ∃ conduct, conductOf problems.timeLimit problems.memoryLimit
          (machine.contestant executableFilePath profilePath
            (givenWorld machine profilePath problems quest before)).1
          ((machine.contestant executableFilePath profilePath
            (givenWorld machine profilePath problems quest before)).2.files
              (outputFile machine profilePath problems)) = some conduct ∧
        program (textWrite quest) conduct := by
  have cleared : ready ((before.put (inputFile machine profilePath problems) none).put
      (outputFile machine profilePath problems) none) :=
    hosts.scratch (hosts.scratch now _ List.mem_cons_self none) _ (by simp) none
  have started : ready (givenWorld machine profilePath problems quest before) :=
    hosts.scratch cleared _ List.mem_cons_self _
  have given : (givenWorld machine profilePath problems quest before).files
      (inputFile machine profilePath problems) = some (textWrite quest) :=
    World.put_files_self _ _ _
  have absent : (givenWorld machine profilePath problems quest before).files
      (outputFile machine profilePath problems) = none := by
    rw [givenWorld, World.put_files_of_ne _ _ hosts.apart, World.put_files_self]
  exact ⟨hosts.runs_keeps started, hosts.runs started given absent⟩

/-- A run of the executor shows a conduct of the program on the quest. -/
theorem Hosts.execution
    (hosts : Hosts machine profilePath sourceName executableFilePath problems shelf accepts program
      ready) (quest : Str) {before : World File Rest} (now : ready before) :
    ∃ self' after conduct, Execution machine.windows
        (problemExecutor profilePath executableFilePath problems) quest before self' after ∧
      ready after ∧ program (textWrite quest) conduct ∧
      Conduct.Meets self'.requestReport
        (after.files (outputFile machine profilePath problems)) conduct := by
  have input := hosts.makes_input quest before
  obtain ⟨again, conduct, shown, runs⟩ := hosts.runs_given quest now
  cases process : machine.contestant executableFilePath profilePath
      (givenWorld machine profilePath problems quest before) with
  | mk launched ended =>
  rw [process] at again shown
  have reads := machine.windows_ifstream
    (problemExecutor profilePath executableFilePath problems).outputFilePath ended
  cases launched with
  | none =>
      refine ⟨_, ended, conduct, .notStarted input process, again, runs, ?_⟩
      rw [← Option.some.inj shown]
      exact .failed (by simp)
  | some launch =>
  obtain ⟨⟨meter, verdict⟩, run, rfl⟩ := Option.map_eq_some_iff.mp shown
  cases verdict with
  | correct =>
      cases output : ended.files (outputFile machine profilePath problems) with
      | none =>
          have unread := reads.trans
            (congrArg (fun file => (Option.map textRead file, ended)) output)
          rw [output] at runs
          exact ⟨_, ended, _, .noOutput input process run unread, again, runs, .failed (by simp)⟩
      | some content =>
          have read := reads.trans
            (congrArg (fun file => (Option.map textRead file, ended)) output)
          rw [output] at runs
          exact ⟨_, ended, _, .accepted input process run read, again, runs, .answered rfl output⟩
  | tle => exact ⟨_, ended, _, .rejected input process run (by simp), again, runs, .late rfl⟩
  | mle => exact ⟨_, ended, _, .rejected input process run (by simp), again, runs, .greedy rfl⟩
  | crash | nif | cpf | cctf =>
      exact ⟨_, ended, _, .rejected input process run (by simp), again, runs, .failed (by simp)⟩

/-- A comparison comes to the decision on the output. -/
theorem Hosts.compares
    (hosts : Hosts machine profilePath sourceName executableFilePath problems shelf accepts program
      ready) {test : TestPathNballsElement} (member : test ∈ problems.testPathList) {answer : Str}
    (first : test.answerPathList.head? = some answer) {before : World File Rest}
    (now : ready before) {output : Str}
    (left : before.files (outputFile machine profilePath problems) = some output) :
    ∃ after, Program.Returns
        (compareWith machine.windows profilePath sourceName problems test answer) before
        (accepts (shelf test.questFile) (shelf answer) output) after ∧ ready after := by
  have listed : answer ∈ test.questFile :: test.answerPathList :=
    List.mem_cons_of_mem _ (List.mem_of_head? first)
  have comparable : Comparable machine test.questFile answer before = true := by
    simp [Comparable, hosts.shelved now test member _ List.mem_cons_self,
      hosts.shelved now test member answer listed]
  obtain ⟨line, command⟩ := Option.isSome_iff_exists.mp (hosts.resolved test member answer first)
  obtain ⟨code, further, inRange, unquoted, decides, ⟨report⟩⟩ :=
    hosts.checks test member answer line first command now left
  have decision : parseTestlibCheckerReport (resultLine code ++ '\n' :: further) =
      accepts (shelf test.questFile) (shelf answer) output := by
    rw [Bool.eq_iff_iff, parse_resultLine_iff inRange, ← decides, or_iff_left unquoted]
  have decided := report.returns inRange
  rw [decision] at decided
  have ended : report.ended = (machine.checker line before).2 := by rw [report.process]
  refine ⟨_, returns_answersMatch_iff.mpr ⟨comparable, line, command, decided⟩, ?_⟩
  rw [ended]
  exact hosts.scratch (hosts.checks_keeps now) _ (by simp) none

/-- An execution without an output to compare has the entry of its conduct. -/
theorem Conduct.Meets.stopped {request : Request} {output : Option Str} {conduct : Conduct}
    (meets : Conduct.Meets request output conduct) (notCorrect : request.correct ≠ .correct)
    (test : TestPathNballsElement) (decides : Str → Bool) :
    stoppedElem test request = conduct.elem test decides := by
  unfold stoppedElem
  cases meets with
  | answered correct _ => exact absurd correct notCorrect
  | late tle =>
      rw [tle]
      rfl
  | greedy mle =>
      rw [mle]
      rfl
  | failed other =>
      cases request : request.correct with
      | correct | tle | mle => exact absurd (by simp [request]) other
      | crash | nif | cpf | cctf => rfl

/-- After its execution a test is judged by the conduct that was shown. -/
theorem Hosts.judging
    (hosts : Hosts machine profilePath sourceName executableFilePath problems shelf accepts program
      ready) {test : TestPathNballsElement} (member : test ∈ problems.testPathList) (bench : Bench)
    {tReader : TestReader} {executor : Executor} {before opened executed : World File Rest}
    {conduct : Conduct}
    (reads : Program.Returns (bench.tReader.read machine.windows test.questFile
      test.answerPathList) before tReader opened)
    (runs : Program.Returns (bench.executorMachine.execute machine.windows tReader.test.quest)
      opened executor executed)
    (now : ready executed)
    (meets : Conduct.Meets executor.requestReport
      (executed.files (outputFile machine profilePath problems)) conduct) :
    ∃ after, Judging machine.windows profilePath sourceName problems bench test before
        (conduct.elem test fun output => test.answerPathList.head?.elim false fun answer =>
          accepts (shelf test.questFile) (shelf answer) output) ⟨executor, tReader⟩ after ∧
      ready after := by
  by_cases correct : executor.requestReport.correct = .correct
  · cases meets with
    | answered _ left =>
        obtain ⟨answer, first⟩ : ∃ answer, test.answerPathList.head? = some answer :=
          ⟨_, List.head?_eq_some_head (hosts.answered test member)⟩
        obtain ⟨after, compares, later⟩ := hosts.compares member first now left
        rw [first]
        exact ⟨after, .compared reads runs correct first compares, later⟩
    | late tle => exact absurd (correct.symm.trans tle) (by decide)
    | greedy mle => exact absurd (correct.symm.trans mle) (by decide)
    | failed other => exact absurd (by simp [correct]) other
  · refine ⟨executed, ?_, now⟩
    rw [← meets.stopped correct]
    exact .stopped reads runs correct

/-- A test gets an entry that the program deserves, and the next test is ready. -/
theorem Hosts.judgeTest_grades
    (hosts : Hosts machine profilePath sourceName executableFilePath problems shelf accepts program
      ready) {test : TestPathNballsElement} (member : test ∈ problems.testPathList)
    (request : Request) (tReader : TestReader) {before : World File Rest} (now : ready before) :
    ∃ elem request' tReader' after, Program.Returns
        (judgeTest machine.windows profilePath sourceName problems
          ⟨(problemExecutor profilePath executableFilePath problems).withRequest request, tReader⟩
          test) before
        (elem, ⟨(problemExecutor profilePath executableFilePath problems).withRequest request',
          tReader'⟩) after ∧
      ready after ∧ Deserves shelf accepts program test elem := by
  have files := hosts.shelved now test member
  obtain ⟨tReader', reads⟩ := read_returns tReader fun path listed => by
    rw [files path listed]
    rfl
  have quest := read_quest (files test.questFile List.mem_cons_self) reads
  obtain ⟨executor, executed, conduct, execution, ready', shown, meets⟩ :=
    hosts.execution tReader'.test.quest now
  have runs : Program.Returns
      (((problemExecutor profilePath executableFilePath problems).withRequest request).execute
        machine.windows tReader'.test.quest) before executor executed := by
    rw [execute_withRequest]
    exact returns_execute_iff.mpr execution
  have kept : executor = (problemExecutor profilePath executableFilePath problems).withRequest
      executor.requestReport := execution.request_bounds.1
  obtain ⟨after, judging, later⟩ :=
    hosts.judging member ⟨_, tReader⟩ reads runs ready' meets
  have judged := returns_judgeTest_iff.mpr judging
  rw [kept] at judged
  rw [quest] at shown
  exact ⟨_, executor.requestReport, tReader', after, judged, later, conduct, shown, rfl⟩

/-- The loop gives such entries to all tests, in their order. -/
theorem Hosts.judgeTests_grades
    (hosts : Hosts machine profilePath sourceName executableFilePath problems shelf accepts program
      ready) {rest : List TestPathNballsElement}
    (among : ∀ test ∈ rest, test ∈ problems.testPathList) (report : List ReportElem)
    (request : Request) (tReader : TestReader) {before : World File Rest} (now : ready before) :
    ∃ elems after, Program.Returns (judgeTests machine.windows profilePath sourceName problems
        ⟨(problemExecutor profilePath executableFilePath problems).withRequest request, tReader⟩
        report rest) before (report ++ elems) after ∧
      ready after ∧ List.Forall₂ (Deserves shelf accepts program) rest elems := by
  induction rest generalizing report request tReader before with
  | nil => exact ⟨[], before, by simp [judgeTests, Program.returns_pure_iff], now, .nil⟩
  | cons test rest inductionHypothesis =>
      obtain ⟨elem, request', tReader', middle, judged, between, deserved⟩ :=
        hosts.judgeTest_grades (among test List.mem_cons_self) request tReader now
      obtain ⟨elems, after, later, ended, others⟩ := inductionHypothesis
        (fun other listed => among other (List.mem_cons_of_mem test listed))
        (report ++ [elem]) request' tReader' between
      refine ⟨elem :: elems, after, judged.bind ?_, ended, .cons deserved others⟩
      rwa [List.append_assoc, List.singleton_append] at later

end Judging

/-! ## Compilers on a machine -/

section Builds

variable {World : Type} {windows : Windows World} {pipe : Pipe}
  {profilePath sourceName compilerName compilerConfig executableFilePath command : Str}
  {before opened : World}

theorem buildMsvCpp_answers
    (made : compileCommand profilePath sourceName compilerName compilerConfig = some command)
    (started : windows.popen command before = (some pipe, opened)) :
    ∃ result, Program.Returns (buildMsvCpp windows profilePath sourceName compilerName
      compilerConfig executableFilePath) before result opened := by
  unfold buildMsvCpp
  refine (exists_congr fun _ => returns_compiled_iff (fun command => command) made started).mpr ?_
  simp only
  split
  · exact ⟨_, rfl⟩
  · split
    · exact ⟨_, rfl⟩
    · split
      · exact ⟨_, rfl⟩
      · split
        · exact ⟨_, rfl⟩
        · exact ⟨_, rfl⟩

theorem buildMingwCpp_answers
    (made : compileCommand profilePath sourceName compilerName compilerConfig = some command)
    (started : windows.popen (command ++ " 2>&1".toList) before = (some pipe, opened)) :
    ∃ result, Program.Returns (buildMingwCpp windows profilePath sourceName compilerName
      compilerConfig executableFilePath) before result opened := by
  unfold buildMingwCpp
  refine (exists_congr fun _ =>
    returns_compiled_iff (· ++ " 2>&1".toList) made started).mpr ?_
  simp only
  split
  · exact ⟨_, rfl⟩
  · split
    · exact ⟨_, rfl⟩
    · exact ⟨_, rfl⟩

/-- Both Pascal builds answer on a text that is not empty. -/
theorem buildPascal_answers (succeeds : Str → Bool)
    (made : compileCommand profilePath sourceName compilerName compilerConfig = some command)
    (started : windows.popen command before = (some pipe, opened))
    (spoke : readPipe pipe.output ≠ []) (named : PascalName sourceName) :
    ∃ result, Program.Returns (buildPascal windows succeeds profilePath sourceName compilerName
      compilerConfig executableFilePath) before result opened := by
  have notEmpty : (!(readPipe pipe.output).isEmpty) = true := by simpa using spoke
  unfold buildPascal
  refine (exists_congr fun _ => returns_compiled_iff (fun command => command) made started).mpr ?_
  simp only [notEmpty, checkerAssert_true, pure_bind]
  split
  · exact ⟨_, rfl⟩
  · split
    · exact ⟨_, rfl⟩
    · have accepted : Program.Returns (rejectsPascalName sourceName) opened false opened :=
        returns_rejectsPascalName_false_iff.mpr ⟨named, rfl⟩
      exact ⟨_, accepted.bind rfl⟩

/-- A build ends with its answer when the compiler has started and says something. -/
theorem buildFromSource_answers (known : compilerName ∈ compilers)
    (made : buildCommand profilePath sourceName compilerName compilerConfig = some command)
    (started : windows.popen command before = (some pipe, opened))
    (spoke : readPipe pipe.output ≠ []) (named : PascalName sourceName) :
    ∃ result, Program.Returns (buildFromSource windows profilePath sourceName compilerName
      compilerConfig executableFilePath) before result opened := by
  obtain ⟨compiled, made', rfl⟩ := Option.map_eq_some_iff.mp made
  have fpMsv : fpPas ≠ msvCpp := by decide
  have abcMsv : abcPas ≠ msvCpp := by decide
  have abcFp : abcPas ≠ fpPas := by decide
  have mingwMsv : mingwCpp ≠ msvCpp := by decide
  have mingwFp : mingwCpp ≠ fpPas := by decide
  have mingwAbc : mingwCpp ≠ abcPas := by decide
  unfold buildFromSource
  simp only [compilers, List.mem_cons, List.not_mem_nil, or_false] at known
  rcases known with rfl | rfl | rfl | rfl
  · simp only [mingwMsv.symm, ↓reduceIte] at started ⊢
    exact buildMsvCpp_answers made' started
  · simp only [mingwFp.symm, fpMsv, ↓reduceIte] at started ⊢
    exact buildPascal_answers _ made' started spoke named
  · simp only [mingwAbc.symm, abcMsv, abcFp, ↓reduceIte] at started ⊢
    exact buildPascal_answers _ made' started spoke named
  · simp only [mingwMsv, mingwFp, mingwAbc, ↓reduceIte] at started ⊢
    exact buildMingwCpp_answers made' started

end Builds

/-- A compiler on worlds that are stocked: it says something about a code without a meaning,
and makes of another one an executable that is the program it means. -/
structure Translates (machine : Machine File Rest) (profilePath sourceName compilerName
    compilerConfig executableFilePath : Str) (source : File)
    (meaning : Str → Option Behaviour) (stocked : World File Rest → Prop)
    (ready : Behaviour → World File Rest → Prop) : Prop where
  known : compilerName ∈ compilers
  named : PascalName sourceName
  refuses : ∀ {world code}, stocked world → world.files source = some code →
    meaning code = none → ∃ command run,
      buildCommand profilePath sourceName compilerName compilerConfig = some command ∧
      machine.compile command world = some run ∧ readPipe run.pipe.output ≠ [] ∧
      ¬ Accepted compilerName sourceName run.pipe ∧ stocked run.after
  makes : ∀ {world code program}, stocked world → world.files source = some code →
    meaning code = some program → ∃ command run,
      buildCommand profilePath sourceName compilerName compilerConfig = some command ∧
      machine.compile command world = some run ∧ Accepted compilerName sourceName run.pipe ∧
      reportedExecutable profilePath sourceName compilerName [] run.pipe = executableFilePath ∧
      ready program run.after

/-- All that the judge relies on for one source: its compiler, the programs it makes, and the
checkers. -/
structure Workshop (machine : Machine File Rest) (profilePath sourceName executableFilePath : Str)
    (config : MainConfig) (source : File) (shelf : Str → Str) (accepts : Str → Str → Str → Bool)
    (meaning : Str → Option Behaviour) (stocked : World File Rest → Prop)
    (ready : Behaviour → World File Rest → Prop) : Prop where
  translates : Translates machine profilePath sourceName config.compilerName
    config.compilerCommandTemplate executableFilePath source meaning stocked ready
  hosts : ∀ program, Hosts machine profilePath sourceName executableFilePath config.problem shelf
    accepts program (ready program)
  again : ∀ {program world}, ready program world → stocked world

/-- The verdicts that a code deserves on a list of tests, by its meaning. -/
inductive Grades (shelf : Str → Str) (accepts : Str → Str → Str → Bool)
    (tests : List TestPathNballsElement) : Option Behaviour → Verdict → Prop
  | refused : Grades shelf accepts tests none ⟨"bad".toList, "compilation_error".toList, []⟩
  | judged {program : Behaviour} {report : List ReportElem}
      (entries : List.Forall₂ (Deserves shelf accepts program) tests report) :
      Grades shelf accepts tests (some program) ⟨"ok".toList, [], report⟩

section Workshop

variable {machine : Machine File Rest} {profilePath sourceName executableFilePath : Str}
  {config : MainConfig} {source : File} {shelf : Str → Str} {accepts : Str → Str → Str → Bool}
  {meaning : Str → Option Behaviour} {stocked : World File Rest → Prop}
  {ready : Behaviour → World File Rest → Prop}

/-- From a configuration the judge reaches a verdict that the code deserves. -/
theorem Workshop.checkConfig_grades
    (workshop : Workshop machine profilePath sourceName executableFilePath config source shelf
      accepts meaning stocked ready) {before : World File Rest} (now : stocked before) {code : Str}
    (written : before.files source = some code) :
    ∃ verdict after, Program.Returns (checkConfig machine.windows config profilePath sourceName)
        before verdict after ∧
      stocked after ∧ Grades shelf accepts config.problem.testPathList (meaning code) verdict := by
  cases means : meaning code with
  | none =>
      obtain ⟨command, run, made, started, spoke, refused, again⟩ :=
        workshop.translates.refuses now written means
      have opened := popen_of_compile started
      obtain ⟨⟨built, executable⟩, answers⟩ : ∃ result, Program.Returns
          (buildFromSource machine.windows profilePath sourceName config.compilerName
            config.compilerCommandTemplate []) before result run.after :=
        buildFromSource_answers workshop.translates.known made opened spoke
          workshop.translates.named
      cases built with
      | false => exact ⟨_, _, answers.bind rfl, again, .refused⟩
      | true =>
          have accepted :=
            (returns_buildFromSource_true_iff workshop.translates.known made opened).mp answers
          exact absurd accepted.1 refused
  | some program =>
      obtain ⟨command, run, made, started, accepted, named, now⟩ :=
        workshop.translates.makes now written means
      have builds := (returns_buildFromSource_true_iff workshop.translates.known made
        (popen_of_compile started)).mpr ⟨accepted, named.symm, rfl⟩
      obtain ⟨report, after, judged, ended, entries⟩ := (workshop.hosts program).judgeTests_grades
        (fun _ listed => listed) [] Request.fresh TestReader.fresh now
      exact ⟨_, after, builds.bind (judged.bind rfl), workshop.again ended, .judged entries⟩

/-- The judge reaches a verdict that the code deserves: on whatever machine, in whatever
language, and whatever other files there are. -/
theorem check_grades {parse : Str → Option Json} {mainConfigFilePath : Str}
    (workshop : Workshop machine profilePath sourceName executableFilePath config source shelf
      accepts meaning stocked ready) {before read : World File Rest}
    (reads : Program.Returns (readMainConfig machine.windows parse mainConfigFilePath) before config
      read) (now : stocked read) {code : Str} (written : read.files source = some code) :
    ∃ verdict after, Program.Returns
        (check machine.windows parse mainConfigFilePath profilePath sourceName) before verdict
        after ∧
      Grades shelf accepts config.problem.testPathList (meaning code) verdict := by
  obtain ⟨verdict, after, judged, _, deserved⟩ := workshop.checkConfig_grades now written
  exact ⟨verdict, after, reads.bind judged, deserved⟩

end Workshop

/-! ## A sample of programs that copy -/

/-- The files of the tests of the sample. -/
def copyShelf (path : Str) : Str :=
  if path = "C:\\tests\\1\\5\\1.in".toList then "1".toList
  else if path = "C:\\tests\\1\\5\\1.out".toList then "1".toList
  else if path = "C:\\tests\\1\\5\\2.in".toList then "2".toList
  else "4".toList

/-- Their paths. -/
def copyPaths : List Str :=
  ["C:\\tests\\1\\5\\1.in".toList, "C:\\tests\\1\\5\\1.out".toList,
    "C:\\tests\\1\\5\\2.in".toList, "C:\\tests\\1\\5\\2.out".toList]

/-- What a code means: `a+b` copies its input in whatever time, and any other one crashes. -/
def copyProgram (code : Str) : Behaviour := fun text conduct =>
  if code = "a+b".toList then ∃ time memory, conduct = .answered text time memory
  else conduct = .failed

/-- An empty code does not compile. -/
def copyMeaning (code : Str) : Option Behaviour :=
  if code = [] then none else some (copyProgram code)

/-- An output is accepted when it is the answer. -/
def copyAccepts (_ answer output : Str) : Bool := decide (output = answer)

/-- What the monitor sees of a run of a code. -/
def copyLaunch (code : Str) : Launch :=
  if code = "a+b".toList then twoPolls 20 else ⟨0, [⟨⟨⟨0, 0⟩, ⟨0, 0⟩, 0⟩, 1, some 8⟩]⟩

/-- The executable that is made. -/
def copyExecutable : Str := ".\\solution.cpp.exe".toList

/-- What the compiler says of a code. -/
def silence : Pipe := ⟨[], true, 0⟩

/-- What it says of no code. -/
def complaint : Pipe := ⟨"error: no code".toList, true, 1⟩

/-- The compiler on a code. -/
def copyBuild (code : Str) (before : World Str Unit) : CompileRun before where
  pipe := silence
  after := before.put copyExecutable (some code)
  written file := file = copyExecutable
  unwritten _ other := CheckerOlimp.World.put_files_of_ne before _ (of_decide_eq_false other)

/-- The compiler on no code. -/
def copyRefusal (before : World Str Unit) : CompileRun before :=
  { unknownCommand before with pipe := complaint }

/-- The result number of the checker on a command line. -/
def copyResult (line : Str) (world : World Str Unit) : Dword :=
  match windowsQuoting.split line with
  | [_, _, output, answer, _] => if world.files output = world.files answer then 0 else 1
  | _ => 1

/-- A machine that keeps to these rules. -/
def copyMachine : Machine Str Unit where
  fileOf path := path
  fullPathName path := some path
  fileOf_fullPathName := pairMachine.fileOf_fullPathName
  creatable _ := true
  compile _ before :=
    match before.files "solution.cpp".toList with
    | some (head :: tail) => some (copyBuild (head :: tail) before)
    | _ => some (copyRefusal before)
  contestant _ _ world :=
    let code := (world.files copyExecutable).getD []
    (some (copyLaunch code),
      if code = "a+b".toList then
        world.put ".\\output.txt".toList (world.files ".\\input.txt".toList)
      else world)
  checker line world :=
    (⟨0, [⟨⟨⟨0, 0⟩, ⟨0, 0⟩, 0⟩, some (copyResult line world)⟩]⟩,
      world.put ".\\solution.cpptestlib_checker.report".toList
        (some (resultLine (copyResult line world) ++ "\r\n".toList)))

/-- The files of the tests are there. -/
def CopyStocked (world : World Str Unit) : Prop :=
  ∀ path ∈ copyPaths, world.files path = some (copyShelf path)

/-- The executable is the program. -/
def CopyReady (program : Behaviour) (world : World Str Unit) : Prop :=
  CopyStocked world ∧ ∃ code, world.files copyExecutable = some code ∧ copyProgram code = program

theorem CopyStocked.put {world : World Str Unit} (now : CopyStocked world) {file : Str}
    (other : file ∉ copyPaths) (content : Option Str) : CopyStocked (world.put file content) := by
  intro path member
  have different : path ≠ file := fun same => other (same ▸ member)
  rw [CheckerOlimp.World.put_files_of_ne world content different]
  exact now path member

theorem CopyReady.put {world : World Str Unit} {program : Behaviour}
    (now : CopyReady program world) {file : Str} (other : file ∉ copyExecutable :: copyPaths)
    (content : Option Str) : CopyReady program (world.put file content) := by
  obtain ⟨stocked, code, written, means⟩ := now
  have different : copyExecutable ≠ file := fun same => other (same ▸ List.mem_cons_self)
  refine ⟨stocked.put (fun member => other (List.mem_cons_of_mem _ member)) content, code, ?_,
    means⟩
  rw [CheckerOlimp.World.put_files_of_ne world content different]
  exact written

/-- The tests of the sample. -/
def copyTests : List TestPathNballsElement :=
  [⟨1, 40, "C:\\tests\\1\\5\\1.in".toList, ["C:\\tests\\1\\5\\1.out".toList]⟩,
    ⟨2, 60, "C:\\tests\\1\\5\\2.in".toList, ["C:\\tests\\1\\5\\2.out".toList]⟩]

/-- The configuration of a solution with tests of the sample. -/
def copyConfig (tests : List TestPathNballsElement) : MainConfig where
  compilerCommandTemplate := "g $1 $2".toList
  compilerName := mingwCpp
  problem := {
    timeLimit := 2000
    memoryLimit := 65536
    inputFileName := "input.txt".toList
    outputFileName := "output.txt".toList
    checkerFilePath := "C:\\tests\\1\\5\\check.exe".toList
    testPathList := tests }

/-- The command line of the checker on a test. -/
def copyLine (questFile answer : Str) : Str :=
  "C:\\tests\\1\\5\\check.exe \"".toList ++ questFile ++
    "\" \".\\output.txt\" \"".toList ++ answer ++
      "\" \".\\solution.cpptestlib_checker.report\"".toList

/-- It is the one that is started, and its words are the paths of the test. -/
theorem copyLine_split {test : TestPathNballsElement} (listed : test ∈ copyTests) {answer : Str}
    (first : test.answerPathList.head? = some answer) (tests : List TestPathNballsElement) :
    testCommand copyMachine ".".toList "solution.cpp".toList (copyConfig tests).problem test
          answer =
        some (copyLine test.questFile answer) ∧
      windowsQuoting.split (copyLine test.questFile answer) =
        ["C:\\tests\\1\\5\\check.exe".toList, test.questFile, ".\\output.txt".toList, answer,
          ".\\solution.cpptestlib_checker.report".toList] := by
  rcases List.mem_pair.mp listed with rfl | rfl
  · cases first
    exact ⟨rfl, by decide⟩
  · cases first
    exact ⟨rfl, by decide⟩

/-- The files of the tests. -/
theorem mem_copyPaths {test : TestPathNballsElement} (listed : test ∈ copyTests) {path : Str}
    (own : path ∈ test.questFile :: test.answerPathList) : path ∈ copyPaths := by
  rcases List.mem_pair.mp listed with rfl | rfl
  · rcases List.mem_pair.mp own with rfl | rfl <;> decide
  · rcases List.mem_pair.mp own with rfl | rfl <;> decide

/-- The checker holds the output against the answer. -/
theorem copyResult_eq {test : TestPathNballsElement} (listed : test ∈ copyTests) {answer : Str}
    (first : test.answerPathList.head? = some answer) {world : World Str Unit}
    (now : CopyStocked world) {output : Str}
    (left : world.files ".\\output.txt".toList = some output) :
    copyResult (copyLine test.questFile answer) world =
      if output = copyShelf answer then 0 else 1 := by
  have shelved := now answer (mem_copyPaths listed
    (List.mem_cons_of_mem _ (List.mem_of_head? first)))
  unfold copyResult
  rw [(copyLine_split listed first []).2]
  simp only [left, shelved, Option.some.injEq]

theorem copyResult_cases (line : Str) (world : World Str Unit) :
    copyResult line world = 0 ∨ copyResult line world = 1 := by
  unfold copyResult
  split
  · split
    · exact .inl rfl
    · exact .inr rfl
  · exact .inr rfl

/-- Its report says the result. -/
theorem copyReport (line : Str) (world : World Str Unit) :
    Nonempty (CheckReport copyMachine line ".\\solution.cpptestlib_checker.report".toList world
      (copyResult line world) []) := by
  refine ⟨{
    launch := _
    ended := _
    process := rfl
    running := []
    final := _
    later := []
    polls := rfl
    current := 0
    inTime := rfl
    exited := rfl
    content := resultLine (copyResult line world) ++ "\r\n".toList
    written := CheckerOlimp.World.put_files_self _ _ _
    text := ?_ }⟩
  rcases copyResult_cases line world with same | same <;> rw [same] <;> decide

theorem hosts_copy {tests : List TestPathNballsElement} (listed : ∀ test ∈ tests, test ∈ copyTests)
    (program : Behaviour) :
    Hosts copyMachine ".".toList "solution.cpp".toList copyExecutable (copyConfig tests).problem
      copyShelf copyAccepts program (CopyReady program) where
  answered test member := by
    rcases List.mem_pair.mp (listed test member) with rfl | rfl
    · exact List.cons_ne_nil _ _
    · exact List.cons_ne_nil _ _
  resolved test member answer first := by
    have command := (copyLine_split (listed test member) first tests).1
    exact Option.isSome_iff_exists.mpr ⟨_, command⟩
  creatable := rfl
  apart := by
    change ".\\output.txt".toList ≠ ".\\input.txt".toList
    decide
  shelved now test member path own := now.1 path (mem_copyPaths (listed test member) own)
  scratch now file own content := by
    have apart : ∀ file ∈ [".\\input.txt".toList, ".\\output.txt".toList,
        ".\\solution.cpptestlib_checker.report".toList], file ∉ copyExecutable :: copyPaths := by
      decide
    exact now.put (apart file own) content
  runs := by
    rintro world text ⟨_, code, written, rfl⟩ given absent
    have input : world.files ".\\input.txt".toList = some text := given
    change ∃ conduct, conductOf 2000 65536
        (some (copyLaunch ((world.files copyExecutable).getD [])))
        ((copyMachine.contestant copyExecutable ".".toList world).2.files
          ".\\output.txt".toList) = some conduct ∧ copyProgram code text conduct
    unfold copyMachine copyLaunch copyProgram
    simp only [written, Option.getD_some, input]
    by_cases copies : code = "a+b".toList
    · simp only [copies, ↓reduceIte, CheckerOlimp.World.put_files_self]
      exact ⟨.answered text 20 8, rfl, 20, 8, rfl⟩
    · simp only [copies, ↓reduceIte]
      exact ⟨.failed, rfl, rfl⟩
  runs_keeps now := by
    unfold copyMachine
    simp only
    split
    · exact now.put (by decide) _
    · exact now
  checks := by
    rintro test member answer line first command world output now left
    have issued := (copyLine_split (listed test member) first tests).1
    obtain rfl := Option.some.inj (command.symm.trans issued)
    have result := copyResult_eq (listed test member) first now.1 left
    refine ⟨copyResult (copyLine test.questFile answer) world, [], ?_, by decide, ?_,
      copyReport _ world⟩
    · rw [result]
      split <;> decide
    · rw [result, copyAccepts, decide_eq_true_iff]
      by_cases same : output = copyShelf answer
      · exact ⟨fun _ => same, fun _ => if_pos same⟩
      · rw [if_neg same]
        exact ⟨fun zero => absurd zero (by decide), fun equal => absurd equal same⟩
  checks_keeps now := now.put (by decide) _

/-- The build goes by what the compiler says. -/
theorem accepted_mingwCpp_iff (sourceName : Str) (pipe : Pipe) :
    Accepted mingwCpp sourceName pipe ↔
      pipe.endOfFile = true ∧ ¬ "error:".toList <:+: readPipe pipe.output := by
  have msv : mingwCpp ≠ msvCpp := by decide
  have fp : mingwCpp ≠ fpPas := by decide
  have abc : mingwCpp ≠ abcPas := by decide
  unfold Accepted
  rw [if_neg msv, if_neg fp, if_neg abc]

theorem translates_copy :
    Translates copyMachine ".".toList "solution.cpp".toList mingwCpp "g $1 $2".toList copyExecutable
      "solution.cpp".toList copyMeaning CopyStocked CopyReady where
  known := by decide
  named := .inl (by decide)
  refuses := by
    rintro world code now written means
    have empty : code = [] := by
      by_contra full
      simp [copyMeaning, full] at means
    subst empty
    have spoke : readPipe complaint.output ≠ [] := by decide
    have refused : ¬ Accepted mingwCpp "solution.cpp".toList complaint := by
      rw [accepted_mingwCpp_iff]
      decide
    refine ⟨_, copyRefusal world, rfl, ?_, spoke, refused, now⟩
    unfold copyMachine
    simp only [written]
  makes := by
    rintro world code program now written means
    have full : code ≠ [] := by
      rintro rfl
      cases means
    have same : copyProgram code = program := by simpa [copyMeaning, full] using means
    have accepted : Accepted mingwCpp "solution.cpp".toList silence := by
      rw [accepted_mingwCpp_iff]
      decide
    refine ⟨_, copyBuild code world, rfl, ?_, accepted, rfl, now.put (by decide) _, code, ?_, same⟩
    · obtain ⟨head, tail, rfl⟩ := List.exists_cons_of_ne_nil full
      unfold copyMachine
      simp only [written]
    · exact CheckerOlimp.World.put_files_self _ _ _

theorem workshop_copy {tests : List TestPathNballsElement}
    (listed : ∀ test ∈ tests, test ∈ copyTests) :
    Workshop copyMachine ".".toList "solution.cpp".toList copyExecutable (copyConfig tests)
      "solution.cpp".toList copyShelf copyAccepts copyMeaning CopyStocked CopyReady :=
  ⟨translates_copy, hosts_copy listed, fun now => now.1⟩

/-- The document of such a configuration with both tests. -/
def copyDocument : Json :=
  .object [
    ("problem".toList, .object [
      ("name".toList, .string "sum".toList),
      ("config".toList, .object [
        ("time_limit".toList, .number 2000),
        ("memory_limit".toList, .number 65536),
        ("input".toList, .string "input.txt".toList),
        ("output".toList, .string "output.txt".toList),
        ("test_dir".toList, .string "C:\\tests\\1\\5".toList),
        ("checker".toList, .string "check.exe".toList),
        ("tests".toList, .array [
          .object [
            ("id".toList, .number 1),
            ("scores".toList, .number 40),
            ("input".toList, .string "1.in".toList),
            ("outputs".toList, .array [.string "1.out".toList])],
          .object [
            ("id".toList, .number 2),
            ("scores".toList, .number 60),
            ("input".toList, .string "2.in".toList),
            ("outputs".toList, .array [.string "2.out".toList])]])])]),
    ("language".toList, .object [
      ("name".toList, .string "mingw_cpp".toList),
      ("template".toList, .string "g $1 $2".toList)])]

/-- A world with the files of the tests. -/
def copyFiles : World Str Unit where
  files path := if path ∈ copyPaths then some (copyShelf path) else none
  rest := ()

theorem copyStocked_files : CopyStocked copyFiles := fun _ member => if_pos member

/-- Besides them a source and a configuration. -/
def copyWorld : World Str Unit :=
  (copyFiles.put "cfg".toList (some [])).put "solution.cpp".toList (some "a+b".toList)

/-- The source gets 40 on the first test, and nothing on the second. -/
theorem check_grades_copy :
    ∃ verdict after, Program.Returns
        (check copyMachine.windows (fun _ => some copyDocument) "cfg".toList ".".toList
          "solution.cpp".toList) copyWorld verdict after ∧
      Grades copyShelf copyAccepts copyTests (copyMeaning "a+b".toList) verdict := by
  have reads : Program.Returns
      (readMainConfig copyMachine.windows (fun _ => some copyDocument) "cfg".toList) copyWorld
      (copyConfig copyTests) copyWorld := rfl
  have stocked : CopyStocked copyWorld :=
    (copyStocked_files.put (by decide) _).put (by decide) _
  exact check_grades (workshop_copy fun _ listed => listed) reads stocked rfl

end CheckerOlimp.CheckerRc
