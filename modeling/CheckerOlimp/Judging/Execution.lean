import CheckerOlimp.Judging.Monitors

/-!
# What a run of a program returns

`Execution` and `CheckerExecution` list the ways in which the two `execute`
functions return, with everything they read of the environment on the way. The
callers are verified from these lists and never unfold the functions.
-/

namespace CheckerOlimp.CheckerRc

open CheckerOlimp.Std

variable {World : Type}

/-- The executor with another request. -/
def Executor.withRequest (self : Executor) (requestReport : Request) : Executor :=
  { self with requestReport }

@[simp] theorem Executor.withRequest_requestReport (self : Executor) (request : Request) :
    (self.withRequest request).requestReport = request := rfl

/-- The world in which the contestant's input file is created. -/
def Executor.cleared (windows : Windows World) (self : Executor) (before : World) : World :=
  windows.remove self.outputFilePath (windows.remove self.inputFilePath before)

/-- The ways in which `executor::execute` returns. -/
inductive Execution (windows : Windows World) (self : Executor) (quest : Str) (before : World) :
    Executor → World → Prop where
  | notCreated {after : World}
      (input : windows.ofstream self.inputFilePath quest (self.cleared windows before) =
        (false, after)) :
      Execution windows self quest before (self.withRequest ⟨[], 0, 0, .cctf⟩) after
  | notStarted {created after : World}
      (input : windows.ofstream self.inputFilePath quest (self.cleared windows before) =
        (true, created))
      (process : windows.createProcess self.executableFilePath self.executableFileDirectory
        created = (none, after)) :
      Execution windows self quest before (self.withRequest ⟨[], 0, 0, .cpf⟩) after
  | noOutput {created ended after : World} {launch : Launch} {meter : Meter}
      (input : windows.ofstream self.inputFilePath quest (self.cleared windows before) =
        (true, created))
      (process : windows.createProcess self.executableFilePath self.executableFileDirectory
        created = (some launch, ended))
      (run : (executeMonitor self.timeLimit self.memoryLimit launch.timeStart).run ⟨0, 0⟩
        launch.polls = some (meter, .correct))
      (output : windows.ifstream self.outputFilePath ended = (none, after)) :
      Execution windows self quest before (self.withRequest ⟨[], 0, 0, .nif⟩) after
  | accepted {created ended after : World} {launch : Launch} {meter : Meter} {content : Str}
      (input : windows.ofstream self.inputFilePath quest (self.cleared windows before) =
        (true, created))
      (process : windows.createProcess self.executableFilePath self.executableFileDirectory
        created = (some launch, ended))
      (run : (executeMonitor self.timeLimit self.memoryLimit launch.timeStart).run ⟨0, 0⟩
        launch.polls = some (meter, .correct))
      (output : windows.ifstream self.outputFilePath ended = (some content, after)) :
      Execution windows self quest before
        (self.withRequest ⟨content, meter.workTime, meter.memory, .correct⟩) after
  | rejected {created after : World} {launch : Launch} {meter : Meter} {verdict : RequestType}
      (input : windows.ofstream self.inputFilePath quest (self.cleared windows before) =
        (true, created))
      (process : windows.createProcess self.executableFilePath self.executableFileDirectory
        created = (some launch, after))
      (run : (executeMonitor self.timeLimit self.memoryLimit launch.timeStart).run ⟨0, 0⟩
        launch.polls = some (meter, verdict))
      (notCorrect : verdict ≠ .correct) :
      Execution windows self quest before
        (self.withRequest ⟨[], meter.workTime, meter.memory, verdict⟩) after

theorem returns_execute_iff {windows : Windows World} {self self' : Executor} {quest : Str}
    {before after : World} :
    Program.Returns (self.execute windows quest) before self' after ↔
      Execution windows self quest before self' after := by
  constructor
  · intro returned
    simp only [Executor.execute, Executor.removeInOutFiles, Executor.makeInputFile,
      Executor.createChildProcess, Program.returns_bind_iff, Program.returns_call_iff] at returned
    obtain ⟨_, _, ⟨_, _, removed, removed'⟩, created, world, input, returned⟩ := returned
    cases removed
    cases removed'
    cases created with
    | false =>
        simp only [Bool.not_false, ↓reduceIte, Program.returns_pure_iff] at returned
        obtain ⟨rfl, rfl⟩ := returned
        exact .notCreated input
    | true =>
        simp only [Bool.not_true, Bool.false_eq_true, ↓reduceIte, Program.returns_bind_iff,
          Program.returns_call_iff] at returned
        obtain ⟨started, world', process, returned⟩ := returned
        cases started with
        | none =>
            simp only [Program.returns_pure_iff] at returned
            obtain ⟨rfl, rfl⟩ := returned
            exact .notStarted input process
        | some launch =>
            simp only [Program.returns_bind_iff, Program.returns_ofOption_iff] at returned
            obtain ⟨⟨meter, verdict⟩, _, ⟨run, rfl⟩, returned⟩ := returned
            by_cases correct : verdict = .correct
            · subst correct
              simp only [↓reduceIte, Executor.readOutputFile, Program.returns_bind_iff,
                Program.returns_call_iff] at returned
              obtain ⟨read, _, ⟨file, _, output, opened⟩, returned⟩ := returned
              cases file with
              | none =>
                  simp only [Program.returns_pure_iff] at opened
                  obtain ⟨rfl, rfl⟩ := opened
                  simp only [Program.returns_pure_iff] at returned
                  obtain ⟨rfl, rfl⟩ := returned
                  exact .noOutput input process run output
              | some content =>
                  simp only [Program.returns_pure_iff] at opened
                  obtain ⟨rfl, rfl⟩ := opened
                  simp only [Program.returns_pure_iff] at returned
                  obtain ⟨rfl, rfl⟩ := returned
                  exact .accepted input process run output
            · simp only [correct, ↓reduceIte, Program.returns_pure_iff] at returned
              obtain ⟨rfl, rfl⟩ := returned
              exact .rejected input process run correct
  · intro execution
    unfold Program.Returns
    simp only [Executor.execute, Executor.removeInOutFiles, Executor.makeInputFile,
      Executor.createChildProcess, EStateM.run_bind, Program.run_call]
    cases execution with
    | notCreated input =>
        simp only [Executor.cleared] at input
        simp [input, Executor.withRequest]
    | notStarted input process =>
        simp only [Executor.cleared] at input
        simp [input, process, Executor.withRequest]
    | noOutput input process run output =>
        simp only [Executor.cleared] at input
        simp [input, process, run, output, Program.ofOption, Executor.readOutputFile,
          Executor.withRequest]
    | accepted input process run output =>
        simp only [Executor.cleared] at input
        simp [input, process, run, output, Program.ofOption, Executor.readOutputFile,
          Executor.withRequest]
    | rejected input process run notCorrect =>
        simp only [Executor.cleared] at input
        simp [input, process, run, notCorrect, Program.ofOption, Executor.withRequest]

/-- What the static `execute` reads on its way to a return code. -/
structure CheckerExecution (windows : Windows World) (programPath : Str) (argv : List Str)
    (before : World) (returnCode : Int32) (after : World) where
  nonempty : programPath ≠ []
  fullPath : Str
  resolved : World
  full : windows.getFullPathName programPath before = (some fullPath, resolved)
  directory : Str
  name : Str
  split : splitFullPath fullPath = some (directory, name)
  launch : CheckerLaunch
  process : windows.createChecker (commandLine directory name argv) resolved = (launch, after)
  exitCode : Dword
  code : SizeT
  run : (checkerMonitor launch.timeStart).run 0 launch.polls = some (exitCode, code)
  returned : returnCode = code.toInt32

theorem returns_executeProgram_iff {windows : Windows World} {programPath : Str} {argv : List Str}
    {returnCode : Int32} {before after : World} :
    Program.Returns (executeProgram windows programPath argv) before returnCode after ↔
      Nonempty (CheckerExecution windows programPath argv before returnCode after) := by
  simp only [executeProgram, getDirectoryAndFile, getFullPathName, Program.returns_bind_iff,
    returns_checkerAssert_iff, Program.returns_call_iff, Program.returns_ofOption_iff,
    Program.returns_pure_iff]
  constructor
  · rintro ⟨_, _, ⟨nonempty, rfl⟩, ⟨directory, name⟩, _,
      ⟨path, _, ⟨buff, _, full, rfl, rfl⟩, split, rfl⟩, launch, _, process, ⟨exitCode, code⟩, _,
      ⟨run, rfl⟩, rfl, rfl⟩
    have nonempty' : programPath ≠ [] := by simpa using nonempty
    exact ⟨⟨nonempty', path, _, full, directory, name, split, launch, process, exitCode, code,
      run, rfl⟩⟩
  · rintro ⟨execution⟩
    refine ⟨(), before, ⟨by simpa using execution.nonempty, rfl⟩,
      (execution.directory, execution.name), execution.resolved,
      ⟨execution.fullPath, _, ⟨_, _, execution.full, rfl, rfl⟩, execution.split, rfl⟩,
      execution.launch, after, execution.process, (execution.exitCode, execution.code), after,
      ⟨execution.run, rfl⟩, execution.returned, rfl⟩

end CheckerOlimp.CheckerRc
