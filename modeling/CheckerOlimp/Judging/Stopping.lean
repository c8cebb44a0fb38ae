import CheckerOlimp.Judging.Execution

/-!
# Both monitors stop on time

A poll that finds the process running later than any reading within the limit
can account for is the last one, whatever was polled before and would be polled
after it. The tick counter may wrap and the CPU readings may jump: the argument
looks at the late turn alone, and the run rules do the rest.
-/

namespace CheckerOlimp.CheckerRc

open CheckerOlimp.Std

/-- Once the contestant's monitor reaches a late poll, it ends there with TLE. -/
theorem executeMonitor_run_late {timeLimit memoryLimit timeStart : SizeT} {start meter : Meter}
    {earlier : List Poll} {poll : Poll} (later : List Poll)
    (reached : (executeMonitor timeLimit memoryLimit timeStart).survive start earlier = some meter)
    (active : poll.exitCode = stillActive) (late : Late timeLimit timeStart poll.tickCount) :
    ∃ last, (executeMonitor timeLimit memoryLimit timeStart).run start (earlier ++ poll :: later) =
      some (last, .tle) := by
  obtain ⟨last, turn⟩ := executeStep_late memoryLimit meter active late
  exact ⟨last, Monitor.run_eq_some_iff.mpr
    ⟨earlier, poll, later, meter, rfl, reached, turn⟩⟩

/-- Once the checker's monitor reaches a late poll, it ends there with -1. -/
theorem checkerMonitor_run_late {timeStart : SizeT} {start exitCode : Dword}
    {earlier : List CheckerPoll} {poll : CheckerPoll} (later : List CheckerPoll)
    (reached : (checkerMonitor timeStart).survive start earlier = some exitCode)
    (active : poll.exitCode.getD exitCode = stillActive)
    (late : Late checkerTimeLimit timeStart poll.tickCount) :
    (checkerMonitor timeStart).run start (earlier ++ poll :: later) =
      some (stillActive, -1) :=
  Monitor.run_eq_some_iff.mpr
    ⟨earlier, poll, later, exitCode, rfl, reached, checkerStep_late active late⟩

/-- A late poll anywhere in the trace of a contestant ends its loop. -/
theorem executeMonitor_returns_of_late {timeLimit memoryLimit timeStart : SizeT} (start : Meter)
    {polls : List Poll} {poll : Poll} (member : poll ∈ polls)
    (active : poll.exitCode = stillActive) (late : Late timeLimit timeStart poll.tickCount) :
    ∃ last verdict, (executeMonitor timeLimit memoryLimit timeStart).run start polls =
      some (last, verdict) := by
  refine Monitor.run_of_fatal start (fun meter next goesOn => ?_) member
  obtain ⟨last, turn⟩ := executeStep_late memoryLimit meter active late
  rw [turn] at goesOn
  cases goesOn

/-- A late poll anywhere in the trace of a checker ends its loop. -/
theorem checkerMonitor_returns_of_late {timeStart : SizeT} (start : Dword)
    {polls : List CheckerPoll} {poll : CheckerPoll} (member : poll ∈ polls)
    (active : poll.exitCode = some stillActive)
    (late : Late checkerTimeLimit timeStart poll.tickCount) :
    ∃ last code, (checkerMonitor timeStart).run start polls = some (last, code) := by
  refine Monitor.run_of_fatal start (fun exitCode next goesOn => ?_) member
  have read : poll.exitCode.getD exitCode = stillActive := by simp [active]
  rw [checkerStep_late read late] at goesOn
  cases goesOn

/-- The first `count` observations of an endless process. -/
def observed {Reading : Type} (readings : Nat → Reading) (count : Nat) : List Reading :=
  (List.range count).map readings

theorem mem_observed {Reading : Type} {readings : Nat → Reading} {index count : Nat}
    (below : index < count) : readings index ∈ observed readings count :=
  List.mem_map.mpr ⟨index, List.mem_range.mpr below, rfl⟩

variable {World : Type}

/-- `executor::execute` returns TLE from a late poll that its loop reaches. -/
theorem execute_returns_tle {windows : Windows World} {self : Executor} {quest : Str}
    {before created after : World} {launch : Launch} {earlier later : List Poll} {poll : Poll}
    {meter : Meter}
    (input : windows.ofstream self.inputFilePath quest (self.cleared windows before) =
      (true, created))
    (process : windows.createProcess self.executableFilePath self.executableFileDirectory created =
      (some launch, after))
    (trace : launch.polls = earlier ++ poll :: later)
    (reached : (executeMonitor self.timeLimit self.memoryLimit launch.timeStart).survive ⟨0, 0⟩
      earlier = some meter)
    (active : poll.exitCode = stillActive)
    (late : Late self.timeLimit launch.timeStart poll.tickCount) :
    ∃ self', Program.Returns (self.execute windows quest) before self' after ∧
      self'.requestReport.correct = .tle := by
  obtain ⟨last, run⟩ := executeMonitor_run_late later reached active late
  rw [← trace] at run
  have notCorrect : RequestType.tle ≠ .correct := by decide
  exact ⟨_, returns_execute_iff.mpr (.rejected input process run notCorrect), rfl⟩

/-- The static `execute` returns -1 from a late poll that its loop reaches. -/
theorem executeProgram_returns_minus_one {windows : Windows World} {programPath : Str}
    {argv : List Str} {before resolved after : World} {fullPath directory name : Str}
    {launch : CheckerLaunch} {earlier later : List CheckerPoll} {poll : CheckerPoll}
    {exitCode : Dword} (nonempty : programPath ≠ [])
    (full : windows.getFullPathName programPath before = (some fullPath, resolved))
    (split : splitFullPath fullPath = some (directory, name))
    (process : windows.createChecker (commandLine directory name argv) resolved = (launch, after))
    (trace : launch.polls = earlier ++ poll :: later)
    (reached : (checkerMonitor launch.timeStart).survive 0 earlier = some exitCode)
    (active : poll.exitCode.getD exitCode = stillActive)
    (late : Late checkerTimeLimit launch.timeStart poll.tickCount) :
    Program.Returns (executeProgram windows programPath argv) before (-1) after := by
  have run := checkerMonitor_run_late later reached active late
  rw [← trace] at run
  have returned : (-1 : Int32) = (-1 : SizeT).toInt32 := by decide
  exact returns_executeProgram_iff.mpr
    ⟨⟨nonempty, fullPath, resolved, full, directory, name, split, launch, process, stillActive, -1,
      run, returned⟩⟩

/-- Both monitors stop on time. The conjuncts are over every limit, every start of
the tick counter and every trace: a late poll that is reached is followed by no
other and gives TLE, respectively -1; and an endless process is left by the first
late poll at the latest. -/
theorem monitors_stop_on_time :
    (∀ (World : Type) (windows : Windows World) (self : Executor) (quest : Str)
        (before created after : World) (launch : Launch) (earlier later : List Poll) (poll : Poll)
        (meter : Meter),
      windows.ofstream self.inputFilePath quest (self.cleared windows before) = (true, created) →
      windows.createProcess self.executableFilePath self.executableFileDirectory created =
        (some launch, after) →
      launch.polls = earlier ++ poll :: later →
      (executeMonitor self.timeLimit self.memoryLimit launch.timeStart).survive ⟨0, 0⟩ earlier =
        some meter →
      poll.exitCode = stillActive → Late self.timeLimit launch.timeStart poll.tickCount →
      ∃ self', Program.Returns (self.execute windows quest) before self' after ∧
        self'.requestReport.correct = .tle) ∧
    (∀ (World : Type) (windows : Windows World) (programPath : Str) (argv : List Str)
        (before resolved after : World) (fullPath directory name : Str) (launch : CheckerLaunch)
        (earlier later : List CheckerPoll) (poll : CheckerPoll) (exitCode : Dword),
      programPath ≠ [] →
      windows.getFullPathName programPath before = (some fullPath, resolved) →
      splitFullPath fullPath = some (directory, name) →
      windows.createChecker (commandLine directory name argv) resolved = (launch, after) →
      launch.polls = earlier ++ poll :: later →
      (checkerMonitor launch.timeStart).survive 0 earlier = some exitCode →
      poll.exitCode.getD exitCode = stillActive →
      Late checkerTimeLimit launch.timeStart poll.tickCount →
      Program.Returns (executeProgram windows programPath argv) before (-1) after) ∧
    (∀ (timeLimit memoryLimit timeStart : SizeT) (polls : Nat → Poll) (index : Nat),
      (polls index).exitCode = stillActive → Late timeLimit timeStart (polls index).tickCount →
      ∃ last verdict, (executeMonitor timeLimit memoryLimit timeStart).run ⟨0, 0⟩
        (observed polls (index + 1)) = some (last, verdict)) ∧
    (∀ (timeStart : SizeT) (polls : Nat → CheckerPoll) (index : Nat),
      (polls index).exitCode = some stillActive →
      Late checkerTimeLimit timeStart (polls index).tickCount →
      ∃ last code, (checkerMonitor timeStart).run 0 (observed polls (index + 1)) =
        some (last, code)) := by
  refine ⟨?_, ?_, ?_, ?_⟩
  · intro World windows self quest before created after launch earlier later poll meter
    exact execute_returns_tle
  · intro World windows programPath argv before resolved after fullPath directory name launch
      earlier later poll exitCode
    exact executeProgram_returns_minus_one
  · intro timeLimit memoryLimit timeStart polls index active late
    exact executeMonitor_returns_of_late _ (mem_observed (Nat.lt_succ_self index)) active late
  · intro timeStart polls index active late
    exact checkerMonitor_returns_of_late _ (mem_observed (Nat.lt_succ_self index)) active late

/-- A process that never computes and never ends, polled once a second. -/
def sleeper (index : Nat) : Poll :=
  ⟨⟨⟨0, 0⟩, ⟨0, 0⟩, UInt32.ofNat (1000 * index)⟩, stillActive, some 8⟩

/-- The sleeper is stopped by its fifth poll at the latest. -/
theorem monitors_stop_on_time_sleeper :
    ∃ last verdict, (executeMonitor 1000 64 0).run ⟨0, 0⟩ (observed sleeper 5) =
      some (last, verdict) :=
  monitors_stop_on_time.2.2.1 1000 64 0 sleeper 4 rfl (by unfold Late; decide)

end CheckerOlimp.CheckerRc
