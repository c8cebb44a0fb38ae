import CheckerOlimp.CheckerRc.Checker
import CheckerOlimp.Std.Triple

/-!
# Where the judge can stop

From a configuration on, the judge does two things without a check: it takes the first of
the answers of a test, and the Pascal compilers count letters from the end of a short
source name. Where every test has an answer and the name is long enough, a run that does
not return has failed an assertion, or one of its two loops does not end.
-/

namespace CheckerOlimp.CheckerRc

open CheckerOlimp.Std Program

variable {World α β : Type}

/-- A program that does not return has failed an assertion, or stops for a further reason. -/
abbrev Safe (further : Halt → Prop) (program : Judge World α) : Prop :=
  Ensures (fun _ => True) program (fun _ _ => True)
    (fun reason _ => reason = .assertion ∨ further reason)

/-- In this environment both loops end, or they need not. -/
structure Loops (further : Halt → Prop) (windows : Windows World)
    (timeLimit memoryLimit : SizeT) : Prop where
  contestant : ∀ {executable directory world launch},
    (windows.createProcess executable directory world).1 = some launch →
    (executeMonitor timeLimit memoryLimit launch.timeStart).run ⟨0, 0⟩ launch.polls = none →
      further .polling
  checker : ∀ {line world launch}, (windows.createChecker line world).1 = launch →
    (checkerMonitor launch.timeStart).run 0 launch.polls = none → further .polling

/-- They need not where a loop may go on polling. -/
theorem Loops.of_polling (windows : Windows World) (timeLimit memoryLimit : SizeT) :
    Loops (fun reason => reason = .polling) windows timeLimit memoryLimit where
  contestant _ _ := rfl
  checker _ _ := rfl

variable {further : Halt → Prop}

theorem Safe.pure (value : α) : Safe further (pure value : Judge World α) :=
  Ensures.pure fun _ _ => trivial

theorem Safe.call (operation : World → α × World) :
    Safe further (call operation : Judge World α) :=
  Ensures.call fun _ _ => trivial

theorem Safe.assertion (found : Option α) :
    Safe further (ofOption .assertion found : Judge World α) :=
  Ensures.ofOption (fun _ _ _ _ => trivial) fun _ _ _ => .inl rfl

theorem Safe.polling {found : Option α} (ends : found = none → further .polling) :
    Safe further (ofOption .polling found : Judge World α) :=
  Ensures.ofOption (fun _ _ _ _ => trivial) fun _ none _ => .inr (ends none)

theorem Safe.bind {program : Judge World α} {rest : α → Judge World β}
    (first : Safe further program) (second : ∀ value, Safe further (rest value)) :
    Safe further (program >>= rest) :=
  Ensures.bind first second

theorem safe_checkerAssert (expression : Bool) :
    Safe further (checkerAssert expression : Judge World Unit) := by
  cases expression with
  | true => exact .pure ()
  | false => exact Ensures.stop fun _ _ => .inl rfl

variable (windows : Windows World)

/-! ## Building -/

theorem safe_replacePlaceholder (command placeholder path : Str) :
    Safe further (replacePlaceholder command placeholder path : Judge World Str) :=
  .bind (.assertion _) fun _ => .pure _

theorem safe_parseCompilerConfig (profilePath sourceName compilerName compilerConfig : Str) :
    Safe further (parseCompilerConfig profilePath sourceName compilerName compilerConfig :
      Judge World Str) := by
  unfold parseCompilerConfig
  split
  · exact .bind (safe_replacePlaceholder _ _ _) fun _ => safe_replacePlaceholder _ _ _
  · split
    · exact safe_replacePlaceholder _ _ _
    · exact .pure _

theorem safe_runCompiler (command : Str) : Safe further (runCompiler windows command) := by
  refine .bind (.call _) fun pipe => ?_
  cases pipe with
  | none => exact .pure _
  | some pipe => exact .pure _

/-- A name of five letters is not looked at from its end. -/
theorem safe_rejectsPascalName {name : Str} (long : 5 ≤ name.length) :
    Safe further (rejectsPascalName name : Judge World Bool) := by
  unfold rejectsPascalName
  rw [if_neg (Nat.not_lt.mpr long)]
  exact .pure _

theorem safe_buildMsvCpp (profilePath sourceName compilerName compilerConfig
    executableFilePath : Str) :
    Safe further (buildMsvCpp windows profilePath sourceName compilerName compilerConfig
      executableFilePath) := by
  refine .bind (safe_parseCompilerConfig _ _ _ _) fun command => ?_
  refine .bind (safe_runCompiler windows command) fun ran => ?_
  cases ran with
  | none => exact .pure _
  | some read =>
      dsimp only
      split
      · exact .pure _
      · split
        · exact .pure _
        · split
          · exact .pure _
          · split <;> exact .pure _

theorem safe_buildPascal {sourceName : Str} (long : 5 ≤ sourceName.length)
    (succeeds : Str → Bool) (profilePath compilerName compilerConfig executableFilePath : Str) :
    Safe further (buildPascal windows succeeds profilePath sourceName compilerName compilerConfig
      executableFilePath) := by
  refine .bind (safe_parseCompilerConfig _ _ _ _) fun command => ?_
  refine .bind (safe_runCompiler windows command) fun ran => ?_
  cases ran with
  | none => exact .pure _
  | some read =>
      refine .bind (safe_checkerAssert _) fun _ => ?_
      split
      · exact .pure _
      · split
        · exact .pure _
        · refine .bind (safe_rejectsPascalName long) fun rejected => ?_
          cases rejected with
          | true => exact .pure _
          | false => exact .pure _

theorem safe_buildMingwCpp (profilePath sourceName compilerName compilerConfig
    executableFilePath : Str) :
    Safe further (buildMingwCpp windows profilePath sourceName compilerName compilerConfig
      executableFilePath) := by
  refine .bind (safe_parseCompilerConfig _ _ _ _) fun command => ?_
  refine .bind (safe_runCompiler windows _) fun ran => ?_
  cases ran with
  | none => exact .pure _
  | some read =>
      dsimp only
      split
      · exact .pure _
      · split <;> exact .pure _

/-- Building stops only at assertions, if the name is long enough or the compiler is not one of
the two that look at it. -/
theorem safe_buildFromSource {sourceName compilerName : Str}
    (named : 5 ≤ sourceName.length ∨ compilerName ≠ fpPas ∧ compilerName ≠ abcPas)
    (profilePath compilerConfig executableFilePath : Str) :
    Safe further (buildFromSource windows profilePath sourceName compilerName compilerConfig
      executableFilePath) := by
  unfold buildFromSource
  split
  · exact safe_buildMsvCpp windows _ _ _ _ _
  · split
    · next fp =>
        rcases named with long | ⟨other, _⟩
        · exact safe_buildPascal windows long _ _ _ _ _
        · exact absurd fp other
    · split
      · next abc =>
          rcases named with long | ⟨_, other⟩
          · exact safe_buildPascal windows long _ _ _ _ _
          · exact absurd abc other
      · split
        · exact safe_buildMingwCpp windows _ _ _ _ _
        · exact Ensures.stop fun _ _ => .inl rfl

/-! ## Judging -/

theorem safe_getFullPathName (path : Str) : Safe further (getFullPathName windows path) :=
  .bind (.call _) fun buff => .assertion buff

theorem safe_getDirectoryAndFile (path : Str) : Safe further (getDirectoryAndFile windows path) :=
  .bind (safe_getFullPathName windows path) fun _ => .assertion _

theorem safe_isFileExist (path : Str) : Safe further (isFileExist windows path) :=
  .bind (.call _) fun _ => .pure _

theorem safe_read (reader : TestReader) (questFile : Str) (answerFileList : List Str) :
    Safe further (reader.read windows questFile answerFileList) := by
  have answers : ∀ (reader : TestReader) (paths : List Str),
      Safe further (reader.readAnswers windows paths) := by
    intro reader paths
    induction paths generalizing reader with
    | nil => exact .pure _
    | cons path rest inductionHypothesis =>
        exact .bind (.call _) fun opened => .bind (.assertion _) fun _ => inductionHypothesis _
  exact .bind (.call _) fun opened => .bind (.assertion _) fun _ => answers _ _

/-- The limits of an executor. -/
def Executor.Limited (timeLimit memoryLimit : SizeT) (executor : Executor) : Prop :=
  executor.timeLimit = timeLimit ∧ executor.memoryLimit = memoryLimit

theorem ensures_readOutputFile_limited {timeLimit memoryLimit : SizeT} {self : Executor}
    (limited : self.Limited timeLimit memoryLimit) :
    Ensures (fun _ => True) (self.readOutputFile windows)
      (fun read _ => ∀ left ∈ read, left.Limited timeLimit memoryLimit)
      (fun reason _ => reason = .assertion ∨ further reason) := by
  refine Ensures.bind (Safe.call _) fun opened => ?_
  cases opened with
  | none => exact Ensures.pure fun _ _ => by simp
  | some output =>
      refine Ensures.pure fun _ _ left made => ?_
      cases made
      exact limited

/-- An execution whose loop ends; the executor keeps its limits. -/
theorem ensures_execute_limited {timeLimit memoryLimit : SizeT} {self : Executor}
    (loops : Loops further windows timeLimit memoryLimit)
    (limited : self.Limited timeLimit memoryLimit) (quest : Str) :
    Ensures (fun _ => True) (self.execute windows quest)
      (fun left _ => left.Limited timeLimit memoryLimit)
      (fun reason _ => reason = .assertion ∨ further reason) := by
  obtain ⟨rfl, rfl⟩ := limited
  have returned : ∀ {request : Request}, Ensures (fun _ => True)
      (Pure.pure { self with requestReport := request } : Judge World Executor)
      (fun left _ => left.Limited self.timeLimit self.memoryLimit)
      (fun reason _ => reason = .assertion ∨ further reason) :=
    Ensures.pure fun _ _ => ⟨rfl, rfl⟩
  unfold Executor.execute
  refine Ensures.bind (Safe.bind (.call _) fun _ => .call _) fun _ => ?_
  refine Ensures.bind (Safe.call _) fun made => ?_
  cases made with
  | false => exact returned
  | true =>
      have started : Ensures (fun _ => True) (self.createChildProcess windows)
          (fun started _ => (∀ launch, started = some launch →
            (executeMonitor self.timeLimit self.memoryLimit launch.timeStart).run ⟨0, 0⟩
              launch.polls = none → further .polling) ∧ True)
          (fun reason _ => reason = .assertion ∨ further reason) :=
        Ensures.call fun _ _ => ⟨fun _ => loops.contestant, trivial⟩
      refine Ensures.bind started fun started => Ensures.given fun ends => ?_
      cases started with
      | none => exact returned
      | some launch =>
          refine Ensures.bind (Safe.polling (ends launch rfl)) fun (meter, verdict) => ?_
          dsimp only
          split
          · refine Ensures.bind (ensures_readOutputFile_limited windows ⟨rfl, rfl⟩) ?_
            intro read
            cases read with
            | none => exact returned.pre fun _ _ => trivial
            | some left => exact Ensures.pure fun _ limited => limited left rfl
          · exact returned

theorem safe_executeProgram {timeLimit memoryLimit : SizeT}
    (loops : Loops further windows timeLimit memoryLimit) (programPath : Str) (argv : List Str) :
    Safe further (executeProgram windows programPath argv) := by
  refine .bind (safe_checkerAssert _) fun _ => ?_
  refine .bind (safe_getDirectoryAndFile windows _) fun (directory, name) => ?_
  have started : Ensures (fun _ => True)
      (call (windows.createChecker (commandLine directory name argv)) : Judge World CheckerLaunch)
      (fun launch _ => ((checkerMonitor launch.timeStart).run 0 launch.polls = none →
        further .polling) ∧ True)
      (fun reason _ => reason = .assertion ∨ further reason) :=
    Ensures.call fun _ _ => ⟨loops.checker rfl, trivial⟩
  refine Ensures.bind started fun launch => Ensures.given fun ends => ?_
  exact Safe.bind (Safe.polling ends) fun _ => .pure _

theorem safe_answersMatch {timeLimit memoryLimit : SizeT}
    (loops : Loops further windows timeLimit memoryLimit) (quest answer output report : Str) :
    Safe further (answersMatch windows quest answer output report) := by
  refine .bind (safe_getFullPathName windows _) fun quest => ?_
  refine .bind (safe_getFullPathName windows _) fun answer => ?_
  refine .bind (safe_getFullPathName windows _) fun output => ?_
  refine .bind (safe_getFullPathName windows _) fun report => ?_
  refine .bind (safe_isFileExist windows _) fun _ => ?_
  refine .bind (safe_checkerAssert _) fun _ => ?_
  refine .bind (safe_isFileExist windows _) fun _ => ?_
  refine .bind (safe_checkerAssert _) fun _ => ?_
  refine .bind (safe_getDirectoryAndFile windows _) fun (dirTests, _) => ?_
  refine .bind (safe_getDirectoryAndFile windows _) fun (dirTemp, _) => ?_
  refine .bind (safe_checkerAssert _) fun _ => ?_
  refine .bind (safe_executeProgram windows loops _ _) fun returnCode => ?_
  refine .bind (safe_checkerAssert _) fun _ => ?_
  refine .bind (.call _) fun opened => ?_
  exact .bind (.assertion _) fun _ => .bind (.call _) fun _ => .pure _

/-- A test with an answer is judged within what is defined. -/
theorem ensures_judgeTest_limited {test : TestPathNballsElement}
    (answered : test.answerPathList ≠ []) {problems : ProblemStore}
    (loops : Loops further windows problems.timeLimit problems.memoryLimit) {bench : Bench}
    (limited : bench.executorMachine.Limited problems.timeLimit problems.memoryLimit)
    (profilePath sourceName : Str) :
    Ensures (fun _ => True) (judgeTest windows profilePath sourceName problems bench test)
      (fun judged _ =>
        judged.2.executorMachine.Limited problems.timeLimit problems.memoryLimit ∧ True)
      (fun reason _ => reason = .assertion ∨ further reason) := by
  obtain ⟨answer, _, listed⟩ := List.exists_cons_of_ne_nil answered
  refine Ensures.bind (safe_read windows _ _ _) fun tReader => ?_
  refine Ensures.bind ((ensures_execute_limited windows loops limited _).post
    fun left _ limited => (⟨limited, trivial⟩ : _ ∧ True)) fun executor => ?_
  refine Ensures.given fun limited => ?_
  cases request : executor.requestReport.correct with
  | correct =>
      simp only [request, listed, List.head?_cons]
      refine Ensures.bind (Safe.pure answer) fun _ => ?_
      refine Ensures.bind (safe_answersMatch windows loops _ _ _ _) fun matched => ?_
      cases matched with
      | true => exact Ensures.pure fun _ _ => ⟨limited, trivial⟩
      | false => exact Ensures.pure fun _ _ => ⟨limited, trivial⟩
  | tle | mle | crash | nif | cpf | cctf =>
      simp only [request]
      exact Ensures.pure fun _ _ => ⟨limited, trivial⟩

theorem safe_judgeTests {problems : ProblemStore} {tests : List TestPathNballsElement}
    (answered : ∀ test ∈ tests, test.answerPathList ≠ [])
    (loops : Loops further windows problems.timeLimit problems.memoryLimit) {bench : Bench}
    (limited : bench.executorMachine.Limited problems.timeLimit problems.memoryLimit)
    (profilePath sourceName : Str) (report : List ReportElem) :
    Safe further (judgeTests windows profilePath sourceName problems bench report tests) := by
  induction tests generalizing bench report with
  | nil => exact .pure _
  | cons test rest inductionHypothesis =>
      refine Ensures.bind (ensures_judgeTest_limited windows (answered test List.mem_cons_self)
        loops limited _ _) fun (elem, bench) => Ensures.given fun limited => ?_
      exact inductionHypothesis
        (fun test member => answered test (List.mem_cons_of_mem _ member)) limited _

/-- From a configuration on, `check` stops only at assertions, if its loops end, every test has
an answer, and the name is long enough for the compiler. -/
theorem safe_checkConfig {config : MainConfig} {sourceName : Str}
    (answered : ∀ test ∈ config.problem.testPathList, test.answerPathList ≠ [])
    (named : 5 ≤ sourceName.length ∨ config.compilerName ≠ fpPas ∧ config.compilerName ≠ abcPas)
    (loops : Loops further windows config.problem.timeLimit config.problem.memoryLimit)
    (profilePath : Str) : Safe further (checkConfig windows config profilePath sourceName) := by
  refine .bind (safe_buildFromSource windows named _ _ _) fun (built, executable) => ?_
  cases built with
  | false => exact .pure _
  | true =>
      exact .bind (safe_judgeTests windows answered loops ⟨rfl, rfl⟩ _ _ _) fun report => .pure _

end CheckerOlimp.CheckerRc
