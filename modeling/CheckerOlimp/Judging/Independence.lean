import CheckerOlimp.Judging.Comparison
import CheckerOlimp.Judging.Report

/-!
# Tests are judged independently

One executor, one test reader and three files serve all tests. `judgeTest` is
compared with itself from two benches and two worlds that differ in what earlier
tests may have left behind: the two runs agree from the first removal on, and
each leaves the files as it found them. The loop is therefore a map over the
tests, whatever came before.
-/

namespace CheckerOlimp.CheckerRc

open CheckerOlimp.Std

variable {File Rest : Type} [DecidableEq File]

/-- The contestant's input file. -/
def inputFile (machine : Machine File Rest) (profilePath : Str) (problems : ProblemStore) : File :=
  machine.fileOf (restorePath profilePath problems.inputFileName)

/-- The contestant's output file. -/
def outputFile (machine : Machine File Rest) (profilePath : Str) (problems : ProblemStore) :
    File :=
  machine.fileOf (restorePath profilePath problems.outputFileName)

/-- The checker's report file. -/
def reportFile (machine : Machine File Rest) (profilePath sourceName : Str) : File :=
  machine.fileOf (restorePath profilePath (sourceName ++ "testlib_checker.report".toList))

/-- The command line of the checker on a test, from the first of its answers. -/
def testCommand (machine : Machine File Rest) (profilePath sourceName : Str)
    (problems : ProblemStore) (test : TestPathNballsElement) (answer : Str) : Option Str :=
  checkerCommand machine test.questFile answer (restorePath profilePath problems.outputFileName)
    (restorePath profilePath (sourceName ++ "testlib_checker.report".toList))

/-- The files after a program that may have written one of them. -/
def overwrite (files : File → Option Str) (file : File) : Option Str → File → Option Str
  | none => files
  | some content => Function.update files file (some content)

theorem overwrite_of_ne (files : File → Option Str) {file other : File} (written : Option Str)
    (different : other ≠ file) : overwrite files file written other = files other := by
  cases written with
  | none => rfl
  | some content => simp [overwrite, different]

/-- The programs of a judging run are functions of the files they are given: the
contestant's program of its input file, each checker that is started of the
quest, the output and the answer. Each writes one file, if any; and the three
files of the judge are none of the files of the tests. -/
structure Isolated (machine : Machine File Rest) (profilePath sourceName executableFilePath : Str)
    (problems : ProblemStore) (tests : List TestPathNballsElement)
    (contestant : Option Str → Option Launch × Option Str)
    (checker : Str → Option Str → Option Str → Option Str → CheckerLaunch × Option Str) :
    Prop where
  contestant_launch : ∀ world,
    (machine.contestant executableFilePath profilePath world).1 =
      (contestant (world.files (inputFile machine profilePath problems))).1
  contestant_files : ∀ world,
    (machine.contestant executableFilePath profilePath world).2.files =
      overwrite world.files (outputFile machine profilePath problems)
        (contestant (world.files (inputFile machine profilePath problems))).2
  checker_launch : ∀ test ∈ tests, ∀ answer, test.answerPathList.head? = some answer →
    ∀ line, testCommand machine profilePath sourceName problems test answer = some line →
    ∀ world, (machine.checker line world).1 =
      (checker line (world.files (machine.fileOf test.questFile))
        (world.files (outputFile machine profilePath problems))
        (world.files (machine.fileOf answer))).1
  checker_files : ∀ test ∈ tests, ∀ answer, test.answerPathList.head? = some answer →
    ∀ line, testCommand machine profilePath sourceName problems test answer = some line →
    ∀ world, (machine.checker line world).2.files =
      overwrite world.files (reportFile machine profilePath sourceName)
        (checker line (world.files (machine.fileOf test.questFile))
          (world.files (outputFile machine profilePath problems))
          (world.files (machine.fileOf answer))).2
  output_ne_input : outputFile machine profilePath problems ≠ inputFile machine profilePath problems
  report_ne_input : reportFile machine profilePath sourceName ≠
    inputFile machine profilePath problems
  report_ne_output : reportFile machine profilePath sourceName ≠
    outputFile machine profilePath problems
  quest_apart : ∀ test ∈ tests, machine.fileOf test.questFile ∉
    [inputFile machine profilePath problems, outputFile machine profilePath problems,
      reportFile machine profilePath sourceName]
  answers_apart : ∀ test ∈ tests, ∀ path ∈ test.answerPathList, machine.fileOf path ∉
    [inputFile machine profilePath problems, outputFile machine profilePath problems,
      reportFile machine profilePath sourceName]

/-! ## Two worlds -/

/-- Two worlds with the same files. -/
def SameFiles (left right : World File Rest) : Prop := left.files = right.files

/-- Two worlds that agree on all files but those listed. -/
def AgreeExcept (differ : List File) (left right : World File Rest) : Prop :=
  ∀ file, file ∉ differ → left.files file = right.files file

/-- The files that one test may leave changed for the next. -/
abbrev scratchFiles (machine : Machine File Rest) (profilePath : Str) (problems : ProblemStore) :
    List File :=
  [inputFile machine profilePath problems, outputFile machine profilePath problems]

section Coupling

variable {machine : Machine File Rest} {profilePath sourceName executableFilePath : Str}
  {problems : ProblemStore} {tests : List TestPathNballsElement}
  {contestant : Option Str → Option Launch × Option Str}
  {checker : Str → Option Str → Option Str → Option Str → CheckerLaunch × Option Str}

/-- A file that both worlds agree on is read alike. -/
theorem ifstream_coupled {related : World File Rest → World File Rest → Prop} {path : Str}
    (alike : ∀ left right, related left right →
      left.files (machine.fileOf path) = right.files (machine.fileOf path)) :
    Program.Coupled related Eq related
      (Program.call (machine.windows.ifstream path) : Judge (World File Rest) (Option Str))
      (Program.call (machine.windows.ifstream path)) := by
  refine Program.Coupled.call fun left right stores => ⟨?_, stores⟩
  simp [alike left right stores]

/-- The answers of a test are read alike. -/
theorem readAnswers_coupled {related : World File Rest → World File Rest → Prop}
    (reader : TestReader) {paths : List Str}
    (alike : ∀ path ∈ paths, ∀ left right, related left right →
      left.files (machine.fileOf path) = right.files (machine.fileOf path)) :
    Program.Coupled related Eq related (reader.readAnswers machine.windows paths)
      (reader.readAnswers machine.windows paths) := by
  induction paths generalizing reader with
  | nil => exact Program.Coupled.pure rfl
  | cons path rest inductionHypothesis =>
      refine Program.Coupled.bind (ifstream_coupled (alike path List.mem_cons_self)) ?_
      rintro file _ rfl
      refine Program.Coupled.bind Program.Coupled.ofOption ?_
      rintro answer _ rfl
      exact inductionHypothesis _ fun other member =>
        alike other (List.mem_cons_of_mem path member)

/-- A test is read alike, whatever the readers have read before. -/
theorem read_coupled {related : World File Rest → World File Rest → Prop}
    (reader reader' : TestReader) {quest : Str} {paths : List Str}
    (alike : ∀ path ∈ quest :: paths, ∀ left right, related left right →
      left.files (machine.fileOf path) = right.files (machine.fileOf path)) :
    Program.Coupled related Eq related (reader.read machine.windows quest paths)
      (reader'.read machine.windows quest paths) := by
  refine Program.Coupled.bind (ifstream_coupled (alike quest List.mem_cons_self)) ?_
  rintro file _ rfl
  refine Program.Coupled.bind Program.Coupled.ofOption ?_
  rintro content _ rfl
  -- Both readers overwrite all of their test.
  exact readAnswers_coupled ⟨⟨content, []⟩⟩ fun path member =>
    alike path (List.mem_cons_of_mem quest member)

/-- `execute` overwrites all of the request it starts from. -/
theorem execute_withRequest {Store : Type} (windows : Windows Store) (self : Executor)
    (request : Request) (quest : Str) :
    (self.withRequest request).execute windows quest = self.execute windows quest := rfl

/-- The executor of every bench, up to its request. -/
def problemExecutor (profilePath executableFilePath : Str) (problems : ProblemStore) : Executor :=
  configuredExecutor profilePath executableFilePath problems Executor.fresh

/-- After a removal the worlds agree on the removed file too. -/
theorem remove_coupled (path : Str) (differ : List File) :
    Program.Coupled (AgreeExcept (machine.fileOf path :: differ)) Eq (AgreeExcept differ)
      (Program.call fun world => ((), machine.windows.remove path world) :
        Judge (World File Rest) Unit)
      (Program.call fun world => ((), machine.windows.remove path world)) := by
  refine Program.Coupled.call fun left right agree => ⟨rfl, ?_⟩
  intro file unlisted
  simp only [Machine.windows_remove]
  by_cases removed : file = machine.fileOf path
  · subst removed
    simp
  · rw [World.put_files_of_ne left none removed, World.put_files_of_ne right none removed]
    exact agree file (by simp [removed, unlisted])

/-- The two removals make the files of both worlds the same. -/
theorem removeInOutFiles_coupled (self : Executor) :
    Program.Coupled
      (AgreeExcept [machine.fileOf self.inputFilePath, machine.fileOf self.outputFilePath]) Eq
      SameFiles (self.removeInOutFiles machine.windows)
      (self.removeInOutFiles machine.windows) := by
  refine Program.Coupled.bind (remove_coupled self.inputFilePath _) ?_
  rintro _ _ rfl
  refine (remove_coupled self.outputFilePath []).weaken (fun _ _ agree => agree) ?_
  intro left right agree
  funext file
  exact agree file List.not_mem_nil

/-- A file is created alike. -/
theorem ofstream_coupled (path content : Str) :
    Program.Coupled SameFiles Eq SameFiles
      (Program.call (machine.windows.ofstream path content) : Judge (World File Rest) Bool)
      (Program.call (machine.windows.ofstream path content)) := by
  refine Program.Coupled.call fun left right same => ?_
  simp only [Machine.windows_ofstream]
  split
  · refine ⟨rfl, ?_⟩
    unfold SameFiles at same ⊢
    simp [World.put, same]
  · exact ⟨rfl, same⟩

/-- The contestant's program runs alike. -/
theorem createChildProcess_coupled
    (isolated : Isolated machine profilePath sourceName executableFilePath problems tests
      contestant checker) (request : Request) :
    Program.Coupled SameFiles Eq SameFiles
      (((problemExecutor profilePath executableFilePath problems).withRequest
        request).createChildProcess machine.windows)
      (((problemExecutor profilePath executableFilePath problems).withRequest
        request).createChildProcess machine.windows) := by
  refine Program.Coupled.call fun left right same => ?_
  constructor
  · refine (isolated.contestant_launch left).trans ?_
    rw [show left.files = right.files from same]
    exact (isolated.contestant_launch right).symm
  · refine (isolated.contestant_files left).trans ?_
    rw [show left.files = right.files from same]
    exact (isolated.contestant_files right).symm

/-- The output file is read alike. -/
theorem readOutputFile_coupled (self : Executor) :
    Program.Coupled SameFiles Eq SameFiles (self.readOutputFile machine.windows)
      (self.readOutputFile machine.windows) := by
  refine Program.Coupled.bind (ifstream_coupled fun left right same => by rw [same]) ?_
  rintro file _ rfl
  cases file with
  | none => exact Program.Coupled.pure rfl
  | some content => exact Program.Coupled.pure rfl

/-- An execution goes alike from worlds that differ in the input and output files. -/
theorem execute_coupled
    (isolated : Isolated machine profilePath sourceName executableFilePath problems tests
      contestant checker) (quest : Str) :
    Program.Coupled (AgreeExcept (scratchFiles machine profilePath problems)) Eq SameFiles
      ((problemExecutor profilePath executableFilePath problems).execute machine.windows quest)
      ((problemExecutor profilePath executableFilePath problems).execute machine.windows
        quest) := by
  refine Program.Coupled.bind
    (removeInOutFiles_coupled (problemExecutor profilePath executableFilePath problems)) ?_
  rintro _ _ rfl
  refine Program.Coupled.bind (ofstream_coupled _ _) ?_
  rintro created _ rfl
  cases created with
  | false => exact Program.Coupled.pure rfl
  | true =>
  refine Program.Coupled.bind (createChildProcess_coupled isolated ⟨[], 0, 0, .correct⟩) ?_
  rintro started _ rfl
  cases started with
  | none => exact Program.Coupled.pure rfl
  | some launch =>
  refine Program.Coupled.bind Program.Coupled.ofOption ?_
  rintro ⟨meter, verdict⟩ _ rfl
  by_cases correct : verdict = .correct
  · subst correct
    refine Program.Coupled.bind (readOutputFile_coupled _) ?_
    rintro read _ rfl
    cases read with
    | none => exact Program.Coupled.pure rfl
    | some self => exact Program.Coupled.pure rfl
  · simp only [correct, ↓reduceIte]
    exact Program.Coupled.pure rfl

/-- The checker of a test runs and is read alike. -/
theorem testlib_coupled
    (isolated : Isolated machine profilePath sourceName executableFilePath problems tests
      contestant checker) {test : TestPathNballsElement} {answer line : Str}
    (member : test ∈ tests) (first : test.answerPathList.head? = some answer)
    (command : testCommand machine profilePath sourceName problems test answer = some line) :
    Program.Coupled SameFiles Eq SameFiles
      (testlib machine line (reportFile machine profilePath sourceName))
      (testlib machine line (reportFile machine profilePath sourceName)) := by
  have process : Program.Coupled SameFiles Eq SameFiles
      (Program.call (machine.checker line) : Judge (World File Rest) CheckerLaunch)
      (Program.call (machine.checker line)) := by
    refine Program.Coupled.call fun left right same => ?_
    constructor
    · rw [isolated.checker_launch test member answer first line command left,
        isolated.checker_launch test member answer first line command right,
        show left.files = right.files from same]
    · unfold SameFiles
      rw [isolated.checker_files test member answer first line command left,
        isolated.checker_files test member answer first line command right,
        show left.files = right.files from same]
  have read : Program.Coupled SameFiles Eq SameFiles
      (Program.call (fun world =>
        ((world.files (reportFile machine profilePath sourceName)).map textRead, world)) :
        Judge (World File Rest) (Option Str))
      (Program.call fun world =>
        ((world.files (reportFile machine profilePath sourceName)).map textRead, world)) :=
    Program.Coupled.call fun left right same =>
      ⟨by rw [show left.files = right.files from same], same⟩
  have removal : Program.Coupled SameFiles Eq SameFiles
      (Program.call (fun world =>
          ((), world.put (reportFile machine profilePath sourceName) none)) :
        Judge (World File Rest) Unit)
      (Program.call fun world =>
        ((), world.put (reportFile machine profilePath sourceName) none)) := by
    refine Program.Coupled.call fun left right same => ⟨rfl, ?_⟩
    unfold SameFiles at same ⊢
    simp [World.put, same]
  refine Program.Coupled.bind process ?_
  rintro launch _ rfl
  refine Program.Coupled.bind Program.Coupled.ofOption ?_
  rintro ⟨exitCode, code⟩ _ rfl
  refine Program.Coupled.bind checkerAssert_coupled ?_
  rintro _ _ rfl
  refine Program.Coupled.bind read ?_
  rintro file _ rfl
  refine Program.Coupled.bind Program.Coupled.ofOption ?_
  rintro report _ rfl
  refine Program.Coupled.bind removal ?_
  rintro _ _ rfl
  exact Program.Coupled.pure rfl

/-- A comparison goes alike from worlds with the same files. -/
theorem answersMatch_coupled
    (isolated : Isolated machine profilePath sourceName executableFilePath problems tests
      contestant checker) {test : TestPathNballsElement} {answer : Str}
    (member : test ∈ tests) (first : test.answerPathList.head? = some answer) :
    Program.Coupled SameFiles Eq SameFiles
      (answersMatch machine.windows test.questFile answer
        (restorePath profilePath problems.outputFileName)
        (restorePath profilePath (sourceName ++ "testlib_checker.report".toList)))
      (answersMatch machine.windows test.questFile answer
        (restorePath profilePath problems.outputFileName)
        (restorePath profilePath (sourceName ++ "testlib_checker.report".toList))) := by
  intro left right same
  rw [answersMatch_run, answersMatch_run]
  have comparable : Comparable machine test.questFile answer left =
      Comparable machine test.questFile answer right := by
    unfold Comparable
    rw [show left.files = right.files from same]
  rw [comparable]
  split
  · cases command : testCommand machine profilePath sourceName problems test answer with
    | none =>
        unfold testCommand at command
        rw [command]
        exact .stops _ _ _
    | some line =>
        have coupled := testlib_coupled isolated member first command left right same
        unfold testCommand at command
        rw [command]
        exact coupled
  · exact .stops _ _ _

/-- No file of a test is one of the two that a test may leave changed. -/
theorem Isolated.not_mem_scratchFiles
    (isolated : Isolated machine profilePath sourceName executableFilePath problems tests
      contestant checker) {test : TestPathNballsElement} (member : test ∈ tests) {path : Str}
    (listed : path ∈ test.questFile :: test.answerPathList) :
    machine.fileOf path ∉ scratchFiles machine profilePath problems := by
  intro scratch
  have listed' : machine.fileOf path ∈ [inputFile machine profilePath problems,
      outputFile machine profilePath problems, reportFile machine profilePath sourceName] := by
    simp only [List.mem_cons, List.not_mem_nil, or_false] at scratch ⊢
    rcases scratch with input | output
    · exact .inl input
    · exact .inr (.inl output)
  rcases List.mem_cons.mp listed with rfl | answer
  · exact isolated.quest_apart test member listed'
  · exact isolated.answers_apart test member path answer listed'

/-- One test is judged alike from any two benches, and from worlds that differ in
the input and output files alone. -/
theorem judgeTest_coupled
    (isolated : Isolated machine profilePath sourceName executableFilePath problems tests
      contestant checker) {test : TestPathNballsElement} (member : test ∈ tests)
    (request request' : Request) (tReader tReader' : TestReader) :
    Program.Coupled (AgreeExcept (scratchFiles machine profilePath problems)) Eq SameFiles
      (judgeTest machine.windows profilePath sourceName problems
        ⟨(problemExecutor profilePath executableFilePath problems).withRequest request, tReader⟩
        test)
      (judgeTest machine.windows profilePath sourceName problems
        ⟨(problemExecutor profilePath executableFilePath problems).withRequest request', tReader'⟩
        test) := by
  have alike : ∀ path ∈ test.questFile :: test.answerPathList, ∀ left right : World File Rest,
      AgreeExcept (scratchFiles machine profilePath problems) left right →
      left.files (machine.fileOf path) = right.files (machine.fileOf path) :=
    fun path listed left right agree => agree _ (isolated.not_mem_scratchFiles member listed)
  refine Program.Coupled.bind (read_coupled tReader tReader' alike) ?_
  rintro reader _ rfl
  refine Program.Coupled.bind (execute_coupled isolated reader.test.quest) ?_
  rintro executor _ rfl
  cases request : executor.requestReport.correct with
  | correct =>
      simp only [request]
      cases first : test.answerPathList.head? with
      | none => exact Program.Coupled.stop Halt.undefined
      | some answer =>
          simp only [Program.ofOption, pure_bind]
          refine Program.Coupled.bind (answersMatch_coupled isolated member first) ?_
          rintro matched _ rfl
          cases matched with
          | true => exact Program.Coupled.pure rfl
          | false => exact Program.Coupled.pure rfl
  | tle | mle | crash | nif | cpf | cctf =>
      simp only [request]
      exact Program.Coupled.pure rfl

end Coupling

/-! ## What a test leaves behind -/

section Frame

variable {machine : Machine File Rest} {profilePath sourceName executableFilePath : Str}
  {problems : ProblemStore} {tests : List TestPathNballsElement}
  {contestant : Option Str → Option Launch × Option Str}
  {checker : Str → Option Str → Option Str → Option Str → CheckerLaunch × Option Str}

theorem readAnswers_frame {reader result : TestReader} {paths : List Str}
    {before after : World File Rest}
    (returned : Program.Returns (reader.readAnswers machine.windows paths) before result after) :
    after = before := by
  induction paths generalizing reader before with
  | nil => exact (Program.returns_pure_iff.mp returned).2
  | cons path rest inductionHypothesis =>
      simp only [TestReader.readAnswers, Program.returns_bind_iff, Program.returns_call_iff,
        Program.returns_ofOption_iff] at returned
      obtain ⟨file, opened, read, answer, _, ⟨_, rfl⟩, returned⟩ := returned
      cases read
      exact inductionHypothesis returned

/-- Reading a test changes nothing. -/
theorem read_frame {reader result : TestReader} {quest : Str} {paths : List Str}
    {before after : World File Rest}
    (returned : Program.Returns (reader.read machine.windows quest paths) before result after) :
    after = before := by
  simp only [TestReader.read, Program.returns_bind_iff, Program.returns_call_iff,
    Program.returns_ofOption_iff] at returned
  obtain ⟨file, opened, read, content, _, ⟨_, rfl⟩, returned⟩ := returned
  cases read
  exact readAnswers_frame returned

/-- Agreement on all other files carries over a change of one listed file. -/
theorem AgreeExcept.put {differ : List File} {left right : World File Rest} {file : File}
    (content : Option Str) (agree : AgreeExcept differ left right) (listed : file ∈ differ) :
    AgreeExcept differ (left.put file content) right := by
  intro other unlisted
  have different : other ≠ file := fun same => unlisted (same ▸ listed)
  rw [World.put_files_of_ne left content different]
  exact agree other unlisted

/-- So it does over a program that may have written one listed file. -/
theorem AgreeExcept.overwrite {differ : List File} {left right ended : World File Rest}
    {file : File} {written : Option Str} (agree : AgreeExcept differ left right)
    (listed : file ∈ differ)
    (files : ended.files = CheckerRc.overwrite left.files file written) :
    AgreeExcept differ ended right := by
  intro other unlisted
  have different : other ≠ file := fun same => unlisted (same ▸ listed)
  rw [files, overwrite_of_ne left.files written different]
  exact agree other unlisted

omit contestant checker in
/-- What survives the removals, the writing of the input and the run of the program
survives an execution. -/
theorem Execution.keeps {self self' : Executor} {quest : Str} {before after : World File Rest}
    (kept : World File Rest → Prop)
    (execution : Execution machine.windows self quest before self' after)
    (input : ∀ world content, kept world →
      kept (world.put (machine.fileOf self.inputFilePath) content))
    (output : ∀ world, kept world → kept (world.put (machine.fileOf self.outputFilePath) none))
    (process : ∀ world, kept world →
      kept (machine.contestant self.executableFilePath self.executableFileDirectory world).2)
    (holds : kept before) : kept after := by
  have cleared : kept (self.cleared machine.windows before) :=
    output _ (input before none holds)
  have written : ∀ {opened created},
      machine.windows.ofstream self.inputFilePath quest (self.cleared machine.windows before) =
        (opened, created) → kept created := by
    intro opened created made
    rw [Machine.windows_ofstream] at made
    split at made
    · cases made
      exact input _ _ cleared
    · cases made
      exact cleared
  have run : ∀ {launch created ended},
      machine.contestant self.executableFilePath self.executableFileDirectory created =
        (launch, ended) → kept created → kept ended := by
    intro launch created ended started holds'
    have after := process created holds'
    rw [started] at after
    exact after
  cases execution with
  | notCreated created => exact written created
  | notStarted created started => exact run started (written created)
  | noOutput created started _ output =>
      rw [Machine.world_of_ifstream output]
      exact run started (written created)
  | accepted created started _ output =>
      rw [Machine.world_of_ifstream output]
      exact run started (written created)
  | rejected created started _ _ => exact run started (written created)

/-- An execution changes the input and the output file alone. -/
theorem execute_frame
    (isolated : Isolated machine profilePath sourceName executableFilePath problems tests
      contestant checker) {self' : Executor} {quest : Str} {before after : World File Rest}
    (execution : Execution machine.windows
      (problemExecutor profilePath executableFilePath problems) quest before self' after) :
    AgreeExcept (scratchFiles machine profilePath problems) after before := by
  have second : outputFile machine profilePath problems ∈
      scratchFiles machine profilePath problems := List.mem_cons_of_mem _ List.mem_cons_self
  refine execution.keeps (AgreeExcept (scratchFiles machine profilePath problems) · before)
    (fun _ content agree => agree.put content List.mem_cons_self)
    (fun _ agree => agree.put none second) (fun world agree => ?_) (fun _ _ => rfl)
  exact agree.overwrite second (isolated.contestant_files world)

/-- Reading and running a test changes the input and the output file alone, and
nothing of the executor but its request. -/
theorem read_execute_frame
    (isolated : Isolated machine profilePath sourceName executableFilePath problems tests
      contestant checker) {reader reader' : TestReader} {questFile : Str} {paths : List Str}
    {quest : Str} {request : Request} {executor : Executor} {before opened after : World File Rest}
    (reads : Program.Returns (reader.read machine.windows questFile paths) before reader' opened)
    (runs : Program.Returns
      (((problemExecutor profilePath executableFilePath problems).withRequest request).execute
        machine.windows quest) opened executor after) :
    AgreeExcept (scratchFiles machine profilePath problems) after before ∧
      ∃ request', executor =
        (problemExecutor profilePath executableFilePath problems).withRequest request' := by
  have unread := read_frame reads
  subst unread
  rw [execute_withRequest] at runs
  have execution := returns_execute_iff.mp runs
  exact ⟨execute_frame isolated execution, executor.requestReport, execution.request_bounds.1⟩

/-- A comparison leaves the files as they were when there was no report before. -/
theorem answersMatch_frame
    (isolated : Isolated machine profilePath sourceName executableFilePath problems tests
      contestant checker) {test : TestPathNballsElement} {answer : Str} {matched : Bool}
    {before after : World File Rest} (member : test ∈ tests)
    (first : test.answerPathList.head? = some answer)
    (absent : before.files (reportFile machine profilePath sourceName) = none)
    (returned : Program.Returns (answersMatch machine.windows test.questFile answer
        (restorePath profilePath problems.outputFileName)
        (restorePath profilePath (sourceName ++ "testlib_checker.report".toList)))
      before matched after) :
    SameFiles after before := by
  obtain ⟨_, line, command, testlib⟩ := returns_answersMatch_iff.mp returned
  obtain ⟨run⟩ := returns_testlib_iff.mp testlib
  have files := isolated.checker_files test member answer first line command before
  rw [run.process] at files
  funext file
  rw [run.removed]
  by_cases report : file = reportFile machine profilePath sourceName
  · subst report
    rw [absent]
    exact World.put_files_self run.ended _ none
  · refine (World.put_files_of_ne run.ended none report).trans ?_
    rw [files]
    exact overwrite_of_ne _ _ report

/-- Judging a test changes the input and the output file alone, and nothing of the
executor but its request. -/
theorem judgeTest_frame
    (isolated : Isolated machine profilePath sourceName executableFilePath problems tests
      contestant checker) {test : TestPathNballsElement} {request : Request}
    {tReader : TestReader} {elem : ReportElem} {bench : Bench} {before after : World File Rest}
    (member : test ∈ tests)
    (absent : before.files (reportFile machine profilePath sourceName) = none)
    (returned : Program.Returns
      (judgeTest machine.windows profilePath sourceName problems
        ⟨(problemExecutor profilePath executableFilePath problems).withRequest request, tReader⟩
        test) before (elem, bench) after) :
    AgreeExcept (scratchFiles machine profilePath problems) after before ∧
      ∃ request', bench.executorMachine =
        (problemExecutor profilePath executableFilePath problems).withRequest request' := by
  cases returns_judgeTest_iff.mp returned with
  | @compared tReader' executor opened executed after answer matched reads runs correct first
      compares =>
      obtain ⟨agree, request', kept⟩ := read_execute_frame isolated reads runs
      have absent' : executed.files (reportFile machine profilePath sourceName) = none := by
        rw [agree _ (by simp [isolated.report_ne_input, isolated.report_ne_output])]
        exact absent
      have unchanged := answersMatch_frame isolated member first absent' compares
      refine ⟨?_, request', kept⟩
      intro file unlisted
      rw [unchanged]
      exact agree file unlisted
  | @stopped tReader' executor opened after reads runs notCorrect =>
      exact read_execute_frame isolated reads runs

end Frame

/-! ## The loop is a map -/

/-- A world without the contestant's input and output. -/
def swept (machine : Machine File Rest) (profilePath : Str) (problems : ProblemStore)
    (world : World File Rest) : World File Rest :=
  (world.put (inputFile machine profilePath problems) none).put
    (outputFile machine profilePath problems) none

/-- The entry of one test by itself: from a fresh bench, without input and output. -/
def entryAlone (machine : Machine File Rest) (profilePath sourceName executableFilePath : Str)
    (problems : ProblemStore) (world : World File Rest) (test : TestPathNballsElement) :
    Except Halt ReportElem :=
  (Program.outcome (judgeTest machine.windows profilePath sourceName problems
    (Bench.start profilePath executableFilePath problems) test)
    (swept machine profilePath problems world)).map (·.1)

section Loop

variable {machine : Machine File Rest} {profilePath sourceName executableFilePath : Str}
  {problems : ProblemStore} {tests : List TestPathNballsElement}
  {contestant : Option Str → Option Launch × Option Str}
  {checker : Str → Option Str → Option Str → Option Str → CheckerLaunch × Option Str}

theorem agreeExcept_swept {world start : World File Rest}
    (agree : AgreeExcept (scratchFiles machine profilePath problems) world start) :
    AgreeExcept (scratchFiles machine profilePath problems) world
      (swept machine profilePath problems start) := by
  intro file unlisted
  have input : file ≠ inputFile machine profilePath problems := by
    rintro rfl
    exact unlisted List.mem_cons_self
  have output : file ≠ outputFile machine profilePath problems := by
    rintro rfl
    exact unlisted (List.mem_cons_of_mem _ List.mem_cons_self)
  rw [swept, World.put_files_of_ne _ none output, World.put_files_of_ne _ none input]
  exact agree file unlisted

/-- A test of the loop gets the entry that it gets by itself. -/
theorem entryAlone_eq
    (isolated : Isolated machine profilePath sourceName executableFilePath problems tests
      contestant checker) {test : TestPathNballsElement} (member : test ∈ tests)
    (request : Request) (tReader : TestReader) {world start : World File Rest}
    (agree : AgreeExcept (scratchFiles machine profilePath problems) world start) :
    entryAlone machine profilePath sourceName executableFilePath problems start test =
      (Program.outcome (judgeTest machine.windows profilePath sourceName problems
        ⟨(problemExecutor profilePath executableFilePath problems).withRequest request, tReader⟩
        test) world).map (·.1) := by
  have coupled := judgeTest_coupled isolated member request Request.fresh tReader TestReader.fresh
  exact congrArg (Except.map (·.1)) (coupled.outcome_eq (agreeExcept_swept agree)).symm

/-- The loop from any bench that earlier tests can have left: it ends as a map of
`entryAlone` over the tests does. -/
theorem judgeTests_outcome
    (isolated : Isolated machine profilePath sourceName executableFilePath problems tests
      contestant checker) {start : World File Rest}
    (absent : start.files (reportFile machine profilePath sourceName) = none)
    {rest : List TestPathNballsElement} (among : ∀ test ∈ rest, test ∈ tests)
    (report : List ReportElem) (request : Request) (tReader : TestReader)
    {world : World File Rest}
    (agree : AgreeExcept (scratchFiles machine profilePath problems) world start) :
    Program.outcome (judgeTests machine.windows profilePath sourceName problems
      ⟨(problemExecutor profilePath executableFilePath problems).withRequest request, tReader⟩
      report rest) world =
    (rest.mapM (entryAlone machine profilePath sourceName executableFilePath problems start)).map
      (report ++ ·) := by
  induction rest generalizing report request tReader world with
  | nil =>
      have empty : report = report ++ [] := by simp
      exact congrArg Except.ok empty
  | cons test rest inductionHypothesis =>
      have member := among test List.mem_cons_self
      have alone := entryAlone_eq isolated member request tReader agree
      have absent' : world.files (reportFile machine profilePath sourceName) = none := by
        rw [agree _ (by simp [isolated.report_ne_input, isolated.report_ne_output])]
        exact absent
      rw [judgeTests, Program.outcome_bind, List.mapM_cons, alone]
      cases judged : (judgeTest machine.windows profilePath sourceName problems
          ⟨(problemExecutor profilePath executableFilePath problems).withRequest request, tReader⟩
          test).run world with
      | error reason middle =>
          simp [Program.outcome, judged]
          rfl
      | ok result middle =>
          obtain ⟨elem, bench⟩ := result
          obtain ⟨left, request', executor⟩ := judgeTest_frame isolated member absent' judged
          obtain ⟨executorMachine, tReader'⟩ := bench
          cases executor
          have agree' : AgreeExcept (scratchFiles machine profilePath problems) middle start :=
            fun file unlisted => (left file unlisted).trans (agree file unlisted)
          have later := inductionHypothesis
            (fun other listed => among other (List.mem_cons_of_mem test listed))
            (report ++ [elem]) request' tReader' agree'
          have first : Program.outcome (judgeTest machine.windows profilePath sourceName problems
              ⟨(problemExecutor profilePath executableFilePath problems).withRequest request,
                tReader⟩ test) world = .ok (elem, _) :=
            Program.outcome_eq_ok_iff.mpr ⟨middle, judged⟩
          rw [first]
          refine later.trans ?_
          cases rest.mapM
              (entryAlone machine profilePath sourceName executableFilePath problems start) with
          | error reason => rfl
          | ok elems =>
              have joined : report ++ [elem] ++ elems = report ++ (elem :: elems) := by simp
              exact congrArg Except.ok joined

end Loop

/-- Tests are judged independently of each other. Whatever the input and output
files, the executor's request and the test reader hold at the start, the loop over
`xs ++ ys` ends as the loop over `xs` and the loop over `ys` do, each from a fresh
bench and without input and output. -/
theorem report_append {machine : Machine File Rest}
    {profilePath sourceName executableFilePath : Str} {problems : ProblemStore}
    {xs ys : List TestPathNballsElement} {contestant : Option Str → Option Launch × Option Str}
    {checker : Str → Option Str → Option Str → Option Str → CheckerLaunch × Option Str}
    (isolated : Isolated machine profilePath sourceName executableFilePath problems (xs ++ ys)
      contestant checker) {world : World File Rest}
    (absent : world.files (reportFile machine profilePath sourceName) = none)
    (request : Request) (tReader : TestReader) :
    Program.outcome (judgeTests machine.windows profilePath sourceName problems
      ⟨(problemExecutor profilePath executableFilePath problems).withRequest request, tReader⟩
      [] (xs ++ ys)) world = (do
        let left ← Program.outcome (judgeTests machine.windows profilePath sourceName problems
          (Bench.start profilePath executableFilePath problems) [] xs)
          (swept machine profilePath problems world)
        let right ← Program.outcome (judgeTests machine.windows profilePath sourceName problems
          (Bench.start profilePath executableFilePath problems) [] ys)
          (swept machine profilePath problems world)
        pure (left ++ right)) := by
  have alone : ∀ part, (∀ test ∈ part, test ∈ xs ++ ys) →
      Program.outcome (judgeTests machine.windows profilePath sourceName problems
        (Bench.start profilePath executableFilePath problems) [] part)
        (swept machine profilePath problems world) =
      part.mapM (entryAlone machine profilePath sourceName executableFilePath problems world) := by
    intro part among
    have agree : AgreeExcept (scratchFiles machine profilePath problems)
        (swept machine profilePath problems world) world := by
      intro file unlisted
      exact (agreeExcept_swept (fun _ _ => rfl) file unlisted).symm
    refine (judgeTests_outcome isolated absent among [] Request.fresh TestReader.fresh
      agree).trans ?_
    cases part.mapM
        (entryAlone machine profilePath sourceName executableFilePath problems world) <;> rfl
  rw [judgeTests_outcome isolated absent (fun _ listed => listed) [] request tReader
    (fun _ _ => rfl), alone xs (by simp +contextual), alone ys (by simp +contextual),
    List.mapM_append]
  cases xs.mapM
      (entryAlone machine profilePath sourceName executableFilePath problems world) with
  | error reason => rfl
  | ok left =>
      cases ys.mapM
          (entryAlone machine profilePath sourceName executableFilePath problems world) <;> rfl

/-! ## The pair of tests -/

/-- The first test of `pairDocument`. -/
def pairFirst : TestPathNballsElement :=
  ⟨1, 5, "C:\\t\\q1".toList, ["C:\\t\\a1".toList]⟩

/-- The second test of `pairDocument`. -/
def pairSecond : TestPathNballsElement :=
  ⟨2, 7, "C:\\t\\q2".toList, ["C:\\t\\a2".toList]⟩

/-- The problem of `pairDocument`. -/
def pairProblems : ProblemStore :=
  ⟨1000, 64, "in".toList, "out".toList, "C:\\t\\check.exe".toList, [pairFirst, pairSecond]⟩

/-- The contestant's program of `pairMachine`, as a function of its input. -/
def pairContestant (input : Option Str) : Option Launch × Option Str :=
  if input = some "1".toList then (some (twoPolls 20), some "1".toList)
  else (some (twoPolls 3000), none)

/-- The checker of `pairMachine`. -/
def pairChecker (_ : Str) (_ _ _ : Option Str) : CheckerLaunch × Option Str :=
  (⟨0, [⟨⟨⟨0, 0⟩, ⟨0, 0⟩, 0⟩, some 0⟩]⟩, some trueReport)

theorem pair_isolated (executableFilePath : Str) :
    Isolated pairMachine "C:\\p".toList "a".toList executableFilePath pairProblems
      ([pairFirst] ++ [pairSecond]) pairContestant pairChecker where
  contestant_launch world := by
    have input : inputFile pairMachine "C:\\p".toList pairProblems = "C:\\p\\in".toList := rfl
    rw [input]
    simp only [pairMachine, pairContestant]
    split <;> rfl
  contestant_files world := by
    have input : inputFile pairMachine "C:\\p".toList pairProblems = "C:\\p\\in".toList := rfl
    have output : outputFile pairMachine "C:\\p".toList pairProblems = "C:\\p\\out".toList := rfl
    rw [input, output]
    simp only [pairMachine, pairContestant]
    split <;> rfl
  checker_launch _ _ _ _ _ _ _ := rfl
  checker_files _ _ _ _ _ _ _ := rfl
  output_ne_input := by decide
  report_ne_input := by decide
  report_ne_output := by decide
  quest_apart := by decide
  answers_apart := by decide

/-- The pair judged in one run, from a stale output file and a used executor, and
its two tests judged apart. -/
theorem report_append_pair :
    Program.outcome (judgeTests pairMachine.windows "C:\\p".toList "a".toList pairProblems
      ⟨(problemExecutor "C:\\p".toList "C:\\p\\a.exe".toList pairProblems).withRequest
        ⟨"7".toList, 3, 4, .mle⟩, ⟨⟨"8".toList, []⟩⟩⟩ [] ([pairFirst] ++ [pairSecond]))
      (CheckerOlimp.World.put ⟨pairFiles, ()⟩ "C:\\p\\out".toList (some "9".toList)) = (do
        let left ← Program.outcome (judgeTests pairMachine.windows "C:\\p".toList "a".toList
          pairProblems (Bench.start "C:\\p".toList "C:\\p\\a.exe".toList pairProblems) []
          [pairFirst])
          (swept pairMachine "C:\\p".toList pairProblems
            (CheckerOlimp.World.put ⟨pairFiles, ()⟩ "C:\\p\\out".toList (some "9".toList)))
        let right ← Program.outcome (judgeTests pairMachine.windows "C:\\p".toList "a".toList
          pairProblems (Bench.start "C:\\p".toList "C:\\p\\a.exe".toList pairProblems) []
          [pairSecond])
          (swept pairMachine "C:\\p".toList pairProblems
            (CheckerOlimp.World.put ⟨pairFiles, ()⟩ "C:\\p\\out".toList (some "9".toList)))
        pure (left ++ right)) :=
  report_append (pair_isolated _) (by decide) _ _

end CheckerOlimp.CheckerRc
