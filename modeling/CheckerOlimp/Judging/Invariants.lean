import CheckerOlimp.CheckerRc.Checker
import CheckerOlimp.Std.Triple

/-!
# Invariants of the judge

What every call of the environment keeps, the judge keeps, however it ends. The calls that
write are named by their paths: a fact about one file is kept by a judge that writes others.
-/

namespace CheckerOlimp.CheckerRc

open CheckerOlimp.Std Program

variable {Store : Type} {holds : Store → Prop}

/-! ## Reading -/

theorem keeps_checkerAssert (expression : Bool) :
    Keeps holds (checkerAssert expression : Judge Store Unit) := by
  cases expression with
  | true => exact Ensures.pure fun _ before => before
  | false => exact Keeps.stop _

theorem keeps_hasMember (value : Json) (name : Str) :
    Keeps holds (hasMember value name : Judge Store Bool) := by
  cases value with
  | object members => exact Ensures.pure fun _ before => before
  | _ => exact Keeps.stop _

theorem keeps_getMember (value : Json) (name : Str) :
    Keeps holds (getMember value name : Judge Store Json) := by
  cases value with
  | object members => exact Keeps.ofOption _ _
  | _ => exact Keeps.stop _

theorem keeps_getString (value : Json) : Keeps holds (getString value : Judge Store Str) := by
  cases value with
  | string text => exact Ensures.pure fun _ before => before
  | _ => exact Keeps.stop _

theorem keeps_getUint (value : Json) : Keeps holds (getUint value : Judge Store UInt32) := by
  unfold getUint
  split
  · split
    · exact Ensures.pure fun _ before => before
    · exact Keeps.stop _
  · exact Keeps.stop _

theorem keeps_getUint64 (value : Json) : Keeps holds (getUint64 value : Judge Store UInt64) := by
  unfold getUint64
  split
  · split
    · exact Ensures.pure fun _ before => before
    · exact Keeps.stop _
  · exact Keeps.stop _

theorem keeps_getInt (value : Json) : Keeps holds (getInt value : Judge Store Int32) := by
  unfold getInt
  split
  · split
    · exact Ensures.pure fun _ before => before
    · exact Keeps.stop _
  · exact Keeps.stop _

theorem keeps_getElements (value : Json) :
    Keeps holds (getElements value : Judge Store (List Json)) := by
  cases value with
  | array values => exact Ensures.pure fun _ before => before
  | _ => exact Keeps.stop _

theorem keeps_checkedMember {α : Type} {value : Json} {name : Str} {isType : Json → Bool}
    {get : Json → Judge Store α} (got : ∀ field, Keeps holds (get field)) :
    Keeps holds (checkedMember value name isType get) := by
  refine Ensures.bind (keeps_hasMember value name) fun has => ?_
  refine Ensures.bind (keeps_checkerAssert has) fun _ => ?_
  refine Ensures.bind (keeps_getMember value name) fun field => ?_
  exact Ensures.bind (keeps_checkerAssert _) fun _ => got field

theorem keeps_readOutputs (testDir : Str) (found : List Str) (outputs : List Json) :
    Keeps holds (readOutputs testDir found outputs : Judge Store (List Str)) := by
  induction outputs generalizing found with
  | nil => exact Ensures.pure fun _ before => before
  | cons output rest inductionHypothesis =>
      refine Ensures.bind (keeps_checkerAssert _) fun _ => ?_
      exact Ensures.bind (keeps_getString output) fun path => inductionHypothesis _

theorem keeps_readTest (testDir : Str) (value : Json) :
    Keeps holds (readTest testDir value : Judge Store TestPathNballsElement) := by
  refine Ensures.bind (keeps_checkedMember keeps_getUint64) fun id => ?_
  refine Ensures.bind (keeps_checkedMember keeps_getInt) fun scores => ?_
  refine Ensures.bind (keeps_checkedMember keeps_getString) fun input => ?_
  refine Ensures.bind (keeps_checkedMember keeps_getElements) fun outputs => ?_
  exact Ensures.bind (keeps_readOutputs testDir [] outputs) fun answerPathList =>
    Ensures.pure fun _ before => before

theorem keeps_readTests (testDir : Str) (found : List TestPathNballsElement)
    (values : List Json) :
    Keeps holds (readTests testDir found values : Judge Store (List TestPathNballsElement)) := by
  induction values generalizing found with
  | nil => exact Ensures.pure fun _ before => before
  | cons value rest inductionHypothesis =>
      exact Ensures.bind (keeps_readTest testDir value) fun test => inductionHypothesis _

/-- Reading the document changes nothing. -/
theorem keeps_readDocument (document : Json) :
    Keeps holds (readDocument document : Judge Store MainConfig) := by
  have object : ∀ {value : Json} {name : Str}, Keeps holds
      (checkedMember value name isObject pure : Judge Store Json) :=
    keeps_checkedMember fun _ => Ensures.pure fun _ before => before
  have text : ∀ {value : Json} {name : Str}, Keeps holds
      (checkedMember value name isString getString : Judge Store Str) :=
    keeps_checkedMember keeps_getString
  refine Ensures.bind object fun problem => ?_
  refine Ensures.bind text fun _ => ?_
  refine Ensures.bind object fun config => ?_
  refine Ensures.bind (keeps_checkedMember keeps_getUint) fun timeLimit => ?_
  refine Ensures.bind (keeps_checkedMember keeps_getUint) fun memoryLimit => ?_
  refine Ensures.bind text fun inputFileName => ?_
  refine Ensures.bind text fun outputFileName => ?_
  refine Ensures.bind text fun testDir => ?_
  refine Ensures.bind text fun checker => ?_
  refine Ensures.bind (keeps_checkedMember keeps_getElements) fun tests => ?_
  refine Ensures.bind (keeps_readTests testDir [] tests) fun testPathList => ?_
  refine Ensures.bind object fun language => ?_
  refine Ensures.bind text fun compilerName => ?_
  exact Ensures.bind text fun compilerCommandTemplate => Ensures.pure fun _ before => before

/-! ## The environment -/

/-- The calls of the environment keep what holds; those that write do so on the paths that may
be written, and a full path may be written when the path may. -/
structure Permits (windows : Windows Store) (holds : Store → Prop) (writes : Str → Prop) :
    Prop where
  ifstream : ∀ path, Keeps holds (call (windows.ifstream path) : Judge Store (Option Str))
  ofstream : ∀ {path} content, writes path →
    Keeps holds (call (windows.ofstream path content) : Judge Store Bool)
  remove : ∀ {path}, writes path →
    Keeps holds (call fun store => ((), windows.remove path store) : Judge Store Unit)
  getFullPathName : ∀ path, Ensures holds (getFullPathName windows path)
    (fun full store => (writes path → writes full) ∧ holds store) (fun _ => holds)
  popen : ∀ command, Keeps holds (call (windows.popen command) : Judge Store (Option Pipe))
  createProcess : ∀ application directory,
    Keeps holds (call (windows.createProcess application directory) : Judge Store (Option Launch))
  createChecker : ∀ line,
    Keeps holds (call (windows.createChecker line) : Judge Store CheckerLaunch)

variable {windows : Windows Store} {writes : Str → Prop}

theorem keeps_getFullPathName (permits : Permits windows holds writes) (path : Str) :
    Keeps holds (getFullPathName windows path) :=
  (permits.getFullPathName path).post fun _ _ holds => holds.2

theorem keeps_getDirectoryAndFile (permits : Permits windows holds writes) (path : Str) :
    Keeps holds (getDirectoryAndFile windows path) :=
  Ensures.bind (keeps_getFullPathName permits path) fun _ => Keeps.ofOption _ _

theorem keeps_isFileExist (permits : Permits windows holds writes) (path : Str) :
    Keeps holds (isFileExist windows path) :=
  Ensures.bind (permits.ifstream path) fun _ => Ensures.pure fun _ before => before

theorem keeps_readMainConfig (permits : Permits windows holds writes) (parse : Str → Option Json)
    (path : Str) : Keeps holds (readMainConfig windows parse path) := by
  refine Ensures.bind (permits.ifstream path) fun opened => ?_
  refine Ensures.bind (Keeps.ofOption _ opened) fun text => ?_
  exact Ensures.bind (Keeps.ofOption _ _) fun document => keeps_readDocument document

/-! ## Building -/

theorem keeps_replacePlaceholder (command placeholder path : Str) :
    Keeps holds (replacePlaceholder command placeholder path : Judge Store Str) :=
  Ensures.bind (Keeps.ofOption _ _) fun _ => Ensures.pure fun _ before => before

theorem keeps_parseCompilerConfig (profilePath sourceName compilerName compilerConfig : Str) :
    Keeps holds (parseCompilerConfig profilePath sourceName compilerName compilerConfig :
      Judge Store Str) := by
  unfold parseCompilerConfig
  split
  · exact Ensures.bind (keeps_replacePlaceholder _ _ _) fun _ => keeps_replacePlaceholder _ _ _
  · split
    · exact keeps_replacePlaceholder _ _ _
    · exact Ensures.pure fun _ before => before

theorem keeps_runCompiler (permits : Permits windows holds writes) (command : Str) :
    Keeps holds (runCompiler windows command) := by
  refine Ensures.bind (permits.popen command) fun pipe => ?_
  cases pipe with
  | none => exact Ensures.pure fun _ before => before
  | some pipe => exact Ensures.pure fun _ before => before

theorem keeps_differsFromEnd (name : Str) (back : Nat) (letter : Char) :
    Keeps holds (differsFromEnd name back letter : Judge Store Bool) := by
  unfold differsFromEnd
  split
  · exact Keeps.ofOption _ _
  · exact Keeps.stop _

theorem keeps_rejectsPascalName (name : Str) :
    Keeps holds (rejectsPascalName name : Judge Store Bool) := by
  have goesOn : ∀ {found : Bool} {rest : Judge Store Bool}, Keeps holds rest →
      Keeps holds (if found then pure true else rest) := by
    intro found rest keeps
    cases found with
    | true => exact Ensures.pure fun _ before => before
    | false => exact keeps
  unfold rejectsPascalName
  split
  · refine Ensures.bind (keeps_differsFromEnd _ _ _) fun _ => goesOn ?_
    refine Ensures.bind (keeps_differsFromEnd _ _ _) fun _ => goesOn ?_
    refine Ensures.bind (keeps_differsFromEnd _ _ _) fun _ => goesOn ?_
    exact keeps_differsFromEnd _ _ _
  · exact Ensures.pure fun _ before => before

theorem keeps_buildMsvCpp (permits : Permits windows holds writes)
    (profilePath sourceName compilerName compilerConfig executableFilePath : Str) :
    Keeps holds (buildMsvCpp windows profilePath sourceName compilerName
      compilerConfig executableFilePath) := by
  refine Ensures.bind (keeps_parseCompilerConfig _ _ _ _) fun command => ?_
  refine Ensures.bind (keeps_runCompiler permits command) fun ran => ?_
  cases ran with
  | none => exact Ensures.pure fun _ before => before
  | some read =>
      dsimp only
      split
      · exact Ensures.pure fun _ before => before
      · split
        · exact Ensures.pure fun _ before => before
        · split
          · exact Ensures.pure fun _ before => before
          · split <;> exact Ensures.pure fun _ before => before

theorem keeps_buildPascal (permits : Permits windows holds writes) (succeeds : Str → Bool)
    (profilePath sourceName compilerName compilerConfig executableFilePath : Str) :
    Keeps holds (buildPascal windows succeeds profilePath sourceName
      compilerName compilerConfig executableFilePath) := by
  refine Ensures.bind (keeps_parseCompilerConfig _ _ _ _) fun command => ?_
  refine Ensures.bind (keeps_runCompiler permits command) fun ran => ?_
  cases ran with
  | none => exact Ensures.pure fun _ before => before
  | some read =>
      refine Ensures.bind (keeps_checkerAssert _) fun _ => ?_
      split
      · exact Ensures.pure fun _ before => before
      · split
        · exact Ensures.pure fun _ before => before
        · refine Ensures.bind (keeps_rejectsPascalName _) fun rejected => ?_
          cases rejected with
          | true => exact Ensures.pure fun _ before => before
          | false => exact Ensures.pure fun _ before => before

theorem keeps_buildMingwCpp (permits : Permits windows holds writes)
    (profilePath sourceName compilerName compilerConfig executableFilePath : Str) :
    Keeps holds (buildMingwCpp windows profilePath sourceName compilerName
      compilerConfig executableFilePath) := by
  refine Ensures.bind (keeps_parseCompilerConfig _ _ _ _) fun command => ?_
  refine Ensures.bind (keeps_runCompiler permits _) fun ran => ?_
  cases ran with
  | none => exact Ensures.pure fun _ before => before
  | some read =>
      dsimp only
      split
      · exact Ensures.pure fun _ before => before
      · split <;> exact Ensures.pure fun _ before => before

theorem keeps_buildFromSource (permits : Permits windows holds writes)
    (profilePath sourceName compilerName compilerConfig executableFilePath : Str) :
    Keeps holds (buildFromSource windows profilePath sourceName compilerName
      compilerConfig executableFilePath) := by
  unfold buildFromSource
  split
  · exact keeps_buildMsvCpp permits _ _ _ _ _
  · split
    · exact keeps_buildPascal permits _ _ _ _ _ _
    · split
      · exact keeps_buildPascal permits _ _ _ _ _ _
      · split
        · exact keeps_buildMingwCpp permits _ _ _ _ _
        · exact Keeps.stop _

/-! ## One execution -/

/-- The input and the output of the contestant's program may be written. -/
structure Executor.Writes (writes : Str → Prop) (executor : Executor) : Prop where
  input : writes executor.inputFilePath
  output : writes executor.outputFilePath

theorem ensures_readOutputFile (permits : Permits windows holds writes) {self : Executor}
    (allowed : Executor.Writes writes self) :
    Ensures holds (self.readOutputFile windows)
      (fun read store => (∀ left ∈ read, Executor.Writes writes left) ∧ holds store)
      (fun _ => holds) := by
  refine Ensures.bind (permits.ifstream _) fun opened => ?_
  cases opened with
  | none => exact Ensures.pure fun _ before => ⟨by simp, before⟩
  | some output =>
      refine Ensures.pure fun _ before => ⟨fun left made => ?_, before⟩
      cases made
      exact ⟨allowed.input, allowed.output⟩

/-- An execution keeps what holds, and the executor keeps its paths. -/
theorem ensures_execute (permits : Permits windows holds writes) {self : Executor}
    (allowed : Executor.Writes writes self) (quest : Str) :
    Ensures holds (self.execute windows quest)
      (fun left store => Executor.Writes writes left ∧ holds store)
      (fun _ => holds) := by
  have returned : ∀ {request : Request}, Ensures holds
      (pure { self with requestReport := request } : Judge Store Executor)
      (fun left store => Executor.Writes writes left ∧ holds store)
      (fun _ => holds) :=
    Ensures.pure fun _ before => ⟨⟨allowed.input, allowed.output⟩, before⟩
  unfold Executor.execute
  refine Ensures.bind (Ensures.bind (permits.remove allowed.input) fun _ =>
    permits.remove allowed.output) fun _ => ?_
  refine Ensures.bind (permits.ofstream quest allowed.input) fun made => ?_
  cases made with
  | false => exact returned
  | true =>
      refine Ensures.bind (permits.createProcess _ _) fun started => ?_
      cases started with
      | none => exact returned
      | some launch =>
          refine Ensures.bind (Keeps.ofOption _ _) fun (meter, verdict) => ?_
          dsimp only
          split
          · refine Ensures.bind (ensures_readOutputFile permits ⟨allowed.input, allowed.output⟩) ?_
            intro read
            cases read with
            | none => exact returned.pre fun _ holds => holds.2
            | some left =>
                refine Ensures.pure fun _ holds => ⟨?_, holds.2⟩
                have kept := holds.1 left rfl
                exact ⟨kept.input, kept.output⟩
          · exact returned

/-! ## One test -/

theorem keeps_read (permits : Permits windows holds writes) (reader : TestReader)
    (questFile : Str) (answerFileList : List Str) :
    Keeps holds (reader.read windows questFile answerFileList) := by
  have answers : ∀ (reader : TestReader) (paths : List Str),
      Keeps holds (reader.readAnswers windows paths) := by
    intro reader paths
    induction paths generalizing reader with
    | nil => exact Ensures.pure fun _ before => before
    | cons path rest inductionHypothesis =>
        refine Ensures.bind (permits.ifstream path) fun opened => ?_
        exact Ensures.bind (Keeps.ofOption _ opened) fun answer => inductionHypothesis _
  refine Ensures.bind (permits.ifstream questFile) fun opened => ?_
  exact Ensures.bind (Keeps.ofOption _ opened) fun quest => answers _ _

theorem keeps_executeProgram (permits : Permits windows holds writes) (programPath : Str)
    (argv : List Str) :
    Keeps holds (executeProgram windows programPath argv) := by
  refine Ensures.bind (keeps_checkerAssert _) fun _ => ?_
  refine Ensures.bind (keeps_getDirectoryAndFile permits _) fun (directory, name) => ?_
  refine Ensures.bind (permits.createChecker _) fun launch => ?_
  exact Ensures.bind (Keeps.ofOption _ _) fun _ => Ensures.pure fun _ before => before

/-- Comparing removes the report. -/
theorem keeps_answersMatch (permits : Permits windows holds writes)
    {quest answer output report : Str} (allowed : writes report) :
    Keeps holds (answersMatch windows quest answer output report) := by
  refine Ensures.bind (keeps_getFullPathName permits _) fun quest => ?_
  refine Ensures.bind (keeps_getFullPathName permits _) fun answer => ?_
  refine Ensures.bind (keeps_getFullPathName permits _) fun output => ?_
  refine Ensures.bind (permits.getFullPathName _) fun full => Ensures.given fun same => ?_
  refine Ensures.bind (keeps_isFileExist permits _) fun _ => ?_
  refine Ensures.bind (keeps_checkerAssert _) fun _ => ?_
  refine Ensures.bind (keeps_isFileExist permits _) fun _ => ?_
  refine Ensures.bind (keeps_checkerAssert _) fun _ => ?_
  refine Ensures.bind (keeps_getDirectoryAndFile permits _) fun (dirTests, _) => ?_
  refine Ensures.bind (keeps_getDirectoryAndFile permits _) fun (dirTemp, _) => ?_
  refine Ensures.bind (keeps_checkerAssert _) fun _ => ?_
  refine Ensures.bind (keeps_executeProgram permits _ _) fun returnCode => ?_
  refine Ensures.bind (keeps_checkerAssert _) fun _ => ?_
  refine Ensures.bind (permits.ifstream _) fun opened => ?_
  refine Ensures.bind (Keeps.ofOption _ opened) fun text => ?_
  exact Ensures.bind (permits.remove (same allowed)) fun _ => Ensures.pure fun _ before => before

variable {profilePath sourceName : Str} {problems : ProblemStore}

/-- The three files that judging a problem writes may be written. -/
structure Writable (writes : Str → Prop) (profilePath sourceName : Str) (problems : ProblemStore) :
    Prop where
  input : writes (restorePath profilePath problems.inputFileName)
  output : writes (restorePath profilePath problems.outputFileName)
  report : writes (restorePath profilePath (sourceName ++ "testlib_checker.report".toList))

theorem ensures_judgeTest (permits : Permits windows holds writes)
    (writable : Writable writes profilePath sourceName problems) {bench : Bench}
    (allowed : Executor.Writes writes bench.executorMachine) (test : TestPathNballsElement) :
    Ensures holds
      (judgeTest windows profilePath sourceName problems bench test)
      (fun judged store => Executor.Writes writes judged.2.executorMachine ∧ holds store)
      (fun _ => holds) := by
  refine Ensures.bind (keeps_read permits _ _ _) fun tReader => ?_
  refine Ensures.bind (ensures_execute permits allowed _) fun executor => ?_
  refine Ensures.given fun allowed => ?_
  have returned : ∀ elem, Ensures holds
      (pure (elem, ⟨executor, tReader⟩) : Judge Store (ReportElem × Bench))
      (fun judged store => Executor.Writes writes judged.2.executorMachine ∧ holds store)
      (fun _ => holds) :=
    fun elem => Ensures.pure fun _ before => ⟨allowed, before⟩
  cases request : executor.requestReport.correct with
  | correct =>
      simp only [request]
      refine Ensures.bind (Keeps.ofOption _ _) fun answer => ?_
      refine Ensures.bind (keeps_answersMatch permits writable.report) fun matched => ?_
      cases matched with
      | true => exact returned _
      | false => exact returned _
  | tle | mle | crash | nif | cpf | cctf =>
      simp only [request]
      exact returned _

/-- So does the loop over the tests. -/
theorem keeps_judgeTests (permits : Permits windows holds writes)
    (writable : Writable writes profilePath sourceName problems) {bench : Bench}
    (allowed : Executor.Writes writes bench.executorMachine) (report : List ReportElem)
    (tests : List TestPathNballsElement) :
    Keeps holds
      (judgeTests windows profilePath sourceName problems bench report tests) := by
  induction tests generalizing bench report with
  | nil => exact Ensures.pure fun _ before => before
  | cons test rest inductionHypothesis =>
      exact Ensures.bind (ensures_judgeTest permits writable allowed test) fun (elem, bench) =>
        Ensures.given fun allowed => inductionHypothesis allowed _

/-! ## The whole run -/

theorem keeps_checkConfig (permits : Permits windows holds writes) {config : MainConfig}
    (writable : Writable writes profilePath sourceName config.problem) :
    Keeps holds (checkConfig windows config profilePath sourceName) := by
  refine Ensures.bind (keeps_buildFromSource permits _ _ _ _ _) fun (built, executable) => ?_
  cases built with
  | false => exact Ensures.pure fun _ before => before
  | true =>
      have allowed : Executor.Writes writes (configuredExecutor profilePath executable
          config.problem Executor.fresh) :=
        ⟨writable.input, writable.output⟩
      refine Ensures.bind (keeps_judgeTests permits writable allowed _ _) fun report => ?_
      exact Ensures.pure fun _ before => before

/-- With nothing forbidden, a run of `main` keeps what every call keeps. -/
theorem keeps_main (permits : Permits windows holds fun _ => True) (parse : Str → Option Json)
    (argv : List Str) : Keeps holds (main windows parse argv) := by
  unfold main
  split
  · refine Ensures.bind (keeps_getFullPathName permits _) fun mainConfigFilePath => ?_
    refine Ensures.bind (keeps_getFullPathName permits _) fun profilePath => ?_
    have checks : ∀ sourceName, Keeps holds
        (check windows parse mainConfigFilePath profilePath sourceName) := fun sourceName =>
      Ensures.bind (keeps_readMainConfig permits parse _) fun config =>
        keeps_checkConfig permits ⟨trivial, trivial, trivial⟩
    refine Ensures.bind (checks _) fun v => ?_
    exact Ensures.bind (permits.ofstream _ trivial) fun _ => Ensures.pure fun _ before => before
  · exact Keeps.stop _

end CheckerOlimp.CheckerRc
