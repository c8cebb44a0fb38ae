import CheckerOlimp.CheckerRc.Process
import CheckerOlimp.Judging.Monitors

/-!
# The monitors call by call

`Kernel.windows` is the environment whose processes are those of a kernel: a monitor's turn
there is the calls of one turn. The functions that make each call themselves are the ones
over readings, run in it.
-/

namespace CheckerOlimp.CheckerRc

open CheckerOlimp.Std

variable {World : Type}

namespace Kernel

variable (kernel : Kernel World)

/-- `get_exit_code` as one operation. -/
def exitCode (process : Handle) (world : World) : Dword × World :=
  match kernel.getExitCodeProcess process world with
  | (some exitCode, world) => (exitCode, world)
  | (none, world) => (kernel.uninitialised world, world)

/-- `kill_child_process` as one operation. -/
def kill (process : Handle) (world : World) : World :=
  let (exitCode, world) := kernel.exitCode process world
  if exitCode = stillActive then kernel.terminateProcess process world else world

/-- The calls of one turn of `executor::execute`, and what they read. What they do not read
does not count. -/
def poll (process : Handle) (timeLimit memoryLimit timeStart : SizeT) (meter : Meter)
    (world : World) : Poll × World :=
  let code := kernel.exitCode process world
  if code.1 = stillActive then
    let times := kernel.getProcessTimes process code.2
    let ticks := kernel.getTickCount times.2
    let clocks : Clocks := ⟨times.1.1, times.1.2, ticks.1⟩
    let workTime := getProcessKernelPlusUserTime clocks.kernelTime clocks.userTime
    if overTime timeLimit workTime (clocks.tickCount - timeStart) then
      (⟨clocks, code.1, none⟩, kernel.kill process ticks.2)
    else
      let size := kernel.getProcessMemoryInfo process ticks.2
      let memory := max meter.memory (size.1.getD (-1))
      if memory = -1 ∨ memory > memoryLimit then
        (⟨clocks, code.1, size.1⟩, kernel.kill process size.2)
      else
        (⟨clocks, code.1, size.1⟩, size.2)
  else
    (⟨⟨⟨0, 0⟩, ⟨0, 0⟩, 0⟩, code.1, none⟩, code.2)

/-- The calls of one turn of the static `execute`, and what they read. -/
def checkerPoll (process : Handle) (timeStart : SizeT) (exitCode : Dword) (world : World) :
    CheckerPoll × World :=
  let written := kernel.getExitCodeProcess process world
  if written.1.getD exitCode = stillActive then
    let times := kernel.getProcessTimes process written.2
    let ticks := kernel.getTickCount times.2
    let clocks : Clocks := ⟨times.1.1, times.1.2, ticks.1⟩
    let workTime := getProcessKernelPlusUserTime clocks.kernelTime clocks.userTime
    if overTime checkerTimeLimit workTime (clocks.tickCount - timeStart) then
      (⟨clocks, written.1⟩, kernel.kill process ticks.2)
    else
      (⟨clocks, written.1⟩, ticks.2)
  else
    (⟨⟨⟨0, 0⟩, ⟨0, 0⟩, 0⟩, written.1⟩, written.2)

/-- `executor::execute` from `GetTickCount` to the closed handles, for so many turns. A loop
that is still polling has not closed them. -/
def launch (turns : Nat) (timeLimit memoryLimit : SizeT) (piProcInfo : ProcessInformation)
    (world : World) : Launch × World :=
  let timeStart := kernel.getTickCount world
  let monitor := executeMonitor timeLimit memoryLimit timeStart.1
  let take := kernel.poll piProcInfo.hProcess timeLimit memoryLimit timeStart.1
  let watched := monitor.drive take turns ⟨0, 0⟩ timeStart.2
  let launch := ⟨timeStart.1, monitor.record take turns ⟨0, 0⟩ timeStart.2⟩
  match watched.1 with
  | none => (launch, watched.2)
  | some _ =>
    let world := kernel.closeHandle piProcInfo.hProcess (kernel.sleep 100 watched.2)
    (launch, kernel.closeHandle 0 (kernel.closeHandle piProcInfo.hThread world))

/-- The static `execute` likewise. -/
def checkerLaunch (turns : Nat) (piProcInfo : ProcessInformation) (world : World) :
    CheckerLaunch × World :=
  let timeStart := kernel.getTickCount world
  let monitor := checkerMonitor timeStart.1
  let take := kernel.checkerPoll piProcInfo.hProcess timeStart.1
  let watched := monitor.drive take turns 0 timeStart.2
  let launch := ⟨timeStart.1, monitor.record take turns 0 timeStart.2⟩
  match watched.1 with
  | none => (launch, watched.2)
  | some _ =>
    let world := kernel.closeHandle piProcInfo.hProcess watched.2
    (launch, kernel.closeHandle piProcInfo.hThread world)

/-- The environment whose processes are the kernel's, for monitors of so many turns and for a
contestant's program with these limits. -/
def windows (base : Windows World) (turns : Nat) (timeLimit memoryLimit : SizeT) :
    Windows World :=
  { base with
    createProcess := fun application directory world =>
      let created := kernel.createProcess (some application) none (some directory) world
      match created.1 with
      | none => (none, created.2)
      | some piProcInfo =>
        let launched := kernel.launch turns timeLimit memoryLimit piProcInfo created.2
        (some launched.1, launched.2)
    createChecker := fun line world =>
      let created := kernel.createProcess none (some line) none world
      kernel.checkerLaunch turns (created.1.getD .zero) created.2 }

end Kernel

/-! ## One turn -/

section Turns

variable (kernel : Kernel World) (piProcInfo : ProcessInformation)

theorem getExitCode_eq :
    Executor.getExitCode kernel piProcInfo =
      Program.call (kernel.exitCode piProcInfo.hProcess) := by
  funext world
  change (Executor.getExitCode kernel piProcInfo).run world = _
  rw [Executor.getExitCode, Program.run_call_bind]
  cases read : kernel.getExitCodeProcess piProcInfo.hProcess world with
  | mk written after =>
      cases written with
      | none => simp [Program.call, Kernel.exitCode, read]
      | some exitCode => simp [Program.call, Kernel.exitCode, read]

theorem killChildProcess_eq :
    Executor.killChildProcess kernel piProcInfo =
      Program.call fun world => ((), kernel.kill piProcInfo.hProcess world) := by
  funext world
  change (Executor.killChildProcess kernel piProcInfo).run world = _
  rw [Executor.killChildProcess, Executor.childProcessActive, getExitCode_eq, bind_assoc,
    Program.run_call_bind, pure_bind]
  by_cases active : (kernel.exitCode piProcInfo.hProcess world).1 = stillActive
  · simp [Program.call, Kernel.kill, active]
  · simp [Program.call, Kernel.kill, active]

theorem getMemoryUsage_eq (poll : Poll) : getMemoryUsage poll = poll.workingSetSize.getD (-1) := by
  unfold getMemoryUsage
  cases poll.workingSetSize with
  | none => rfl
  | some size => rfl

/-- The loop of `executor::execute` is its monitor, on readings by the calls of each turn. -/
theorem watch_eq_loop (timeLimit memoryLimit timeStart : SizeT) (turns : Nat) (meter : Meter) :
    Executor.watch kernel piProcInfo timeLimit memoryLimit timeStart turns meter =
      (executeMonitor timeLimit memoryLimit timeStart).loop
        (kernel.poll piProcInfo.hProcess timeLimit memoryLimit timeStart) .polling turns meter := by
  induction turns generalizing meter with
  | zero => rfl
  | succ turns inductionHypothesis =>
      funext world
      change (Executor.watch kernel piProcInfo timeLimit memoryLimit timeStart _ meter).run world =
        (Monitor.loop _ _ _ _ meter).run world
      rw [Executor.watch, Monitor.loop, getExitCode_eq, Program.run_call_bind,
        Program.run_call_bind]
      simp only [Executor.processTime, Executor.processMemory, killChildProcess_eq, bind_assoc,
        pure_bind, executeMonitor, executeStep, Kernel.poll]
      by_cases active : (kernel.exitCode piProcInfo.hProcess world).1 = stillActive
      · simp only [active, ↓reduceIte, Program.run_call_bind]
        split
        · simp only [↓reduceIte]
          rfl
        · simp only [Program.run_call_bind, getMemoryUsage_eq]
          split
          · rfl
          · exact congrFun (inductionHypothesis _) _
      · simp only [active, ↓reduceIte]
        split
        · rfl
        · rfl

/-- The loop of the static `execute` likewise; it keeps the return code alone. -/
theorem watchProgram_eq_loop (timeStart : SizeT) (turns : Nat) (exitCode : Dword) :
    watchProgram kernel piProcInfo timeStart turns exitCode =
      (checkerMonitor timeStart).loop (kernel.checkerPoll piProcInfo.hProcess timeStart)
        .polling turns exitCode >>= fun ended => pure ended.2 := by
  induction turns generalizing exitCode with
  | zero => rfl
  | succ turns inductionHypothesis =>
      funext world
      change (watchProgram kernel piProcInfo timeStart _ exitCode).run world =
        (Monitor.loop _ _ _ _ exitCode >>= _).run world
      rw [watchProgram, Monitor.loop, bind_assoc, Program.run_call_bind, Program.run_call_bind]
      simp only [killChildProcess_eq, checkerMonitor, checkerStep, Kernel.checkerPoll]
      by_cases active : (kernel.getExitCodeProcess piProcInfo.hProcess world).1.getD exitCode =
          stillActive
      · simp only [active, ↓reduceIte, Program.run_call_bind, getProcessKernelPlusUserTime]
        split
        · next excess =>
          simp only [excess, active, ↓reduceIte]
          rfl
        · next inTime =>
          simp only [inTime, active, Bool.false_eq_true, ↓reduceIte]
          exact congrFun (inductionHypothesis _) _
      · simp only [active, ↓reduceIte]
        split
        · rfl
        · rfl

end Turns

/-! ## The two functions -/

/-- `executor::execute` with its calls is the one over readings, in the kernel's environment. -/
theorem executeCalls_eq (base : Windows World) (kernel : Kernel World) (turns : Nat)
    (self : Executor) (quest : Str) :
    Executor.executeCalls base kernel turns self quest =
      Executor.execute (kernel.windows base turns self.timeLimit self.memoryLimit) self quest := by
  unfold Executor.executeCalls Executor.execute
  refine bind_congr fun _ => bind_congr fun made => ?_
  cases made with
  | false => rfl
  | true =>
      funext world
      simp only [Bool.not_true, Bool.false_eq_true, ↓reduceIte, Executor.createChildProcess]
      refine (Program.run_call_bind _ _ world).trans
        (Eq.trans ?_ (Program.run_call_bind _ _ world).symm)
      simp only [Kernel.windows]
      generalize kernel.createProcess (some self.executableFilePath) none
        (some self.executableFileDirectory) world = created
      obtain ⟨started, world⟩ := created
      cases started with
      | none => rfl
      | some piProcInfo =>
          simp only
          rw [Program.run_call_bind, watch_eq_loop, EStateM.run_bind, Monitor.run_loop]
          cases watched : Monitor.drive (executeMonitor self.timeLimit self.memoryLimit
              (kernel.getTickCount world).1) (kernel.poll piProcInfo.hProcess self.timeLimit
              self.memoryLimit (kernel.getTickCount world).1) turns ⟨0, 0⟩
              (kernel.getTickCount world).2 with
          | mk ended after =>
          cases ended with
          | none =>
              simp only [Kernel.launch, watched, Monitor.run_record]
              rfl
          | some ended =>
              simp only [Kernel.launch, watched, Monitor.run_record]
              rfl

/-- The static `execute` with its calls is the one over readings likewise, whatever the limits. -/
theorem executeProgramCalls_eq (base : Windows World) (kernel : Kernel World) (turns : Nat)
    (timeLimit memoryLimit : SizeT) (programPath : Str) (argv : List Str) :
    executeProgramCalls base kernel turns programPath argv =
      executeProgram (kernel.windows base turns timeLimit memoryLimit) programPath argv := by
  unfold executeProgramCalls executeProgram
  refine bind_congr fun _ => bind_congr fun found => ?_
  funext world
  refine (Program.run_call_bind _ _ world).trans
    (Eq.trans ?_ (Program.run_call_bind _ _ world).symm)
  simp only [Kernel.windows]
  generalize kernel.createProcess none
    (some (commandLine found.1 found.2 argv)) none world = created
  obtain ⟨started, world⟩ := created
  simp only
  rw [Program.run_call_bind, watchProgram_eq_loop, bind_assoc, EStateM.run_bind, Monitor.run_loop]
  cases watched : Monitor.drive (checkerMonitor (kernel.getTickCount world).1)
      (kernel.checkerPoll (started.getD .zero).hProcess (kernel.getTickCount world).1) turns 0
      (kernel.getTickCount world).2 with
  | mk ended after =>
  cases ended with
  | none =>
      simp only [Kernel.checkerLaunch, watched, Monitor.run_record]
      rfl
  | some ended =>
      simp only [Kernel.checkerLaunch, watched, Monitor.run_record]
      rfl

/-! ## The number of turns -/

/-- A run that returns would return the same in more turns: their number is no part of what
the function does. -/
theorem executeCalls_of_le {base : Windows World} {kernel : Kernel World} {turns more : Nat}
    {self left : Executor} {quest : Str} {before after : World}
    (returned : Program.Returns (Executor.executeCalls base kernel turns self quest)
      before left after) (enough : turns ≤ more) :
    Program.Returns (Executor.executeCalls base kernel more self quest) before left after := by
  unfold Executor.executeCalls at returned ⊢
  obtain ⟨_, removed, cleared, rest⟩ := Program.returns_bind_iff.mp returned
  refine Program.Returns.bind cleared ?_
  obtain ⟨made, written, input, rest⟩ := Program.returns_bind_iff.mp rest
  refine Program.Returns.bind input ?_
  cases made with
  | false => exact rest
  | true =>
      obtain ⟨created, started, creates, rest⟩ := Program.returns_bind_iff.mp rest
      refine Program.Returns.bind creates ?_
      cases created with
      | none => exact rest
      | some piProcInfo =>
          obtain ⟨timeStart, ticked, ticks, rest⟩ := Program.returns_bind_iff.mp rest
          refine Program.Returns.bind ticks ?_
          obtain ⟨ended, watched, watches, rest⟩ := Program.returns_bind_iff.mp rest
          refine Program.Returns.bind ?_ rest
          rw [watch_eq_loop] at watches ⊢
          exact Monitor.returns_loop_of_le watches enough

end CheckerOlimp.CheckerRc
