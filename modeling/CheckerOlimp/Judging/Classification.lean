import CheckerOlimp.Judging.Rejection

/-!
# How an exit is classified

A process that has ended by itself is seen at the first poll after its exit, and
its exit code decides between CRASH, CORRECT and NIF. `Classifies` says so for
every schedule of later polls. The running state is one of the exit codes, so a
process that returns it is never seen to have ended.
-/

namespace CheckerOlimp.CheckerRc

open CheckerOlimp.Std

/-- A poll that finds the program running and within its limits. -/
structure WithinLimits (executor : Executor) (timeStart : SizeT) (poll : Poll) : Prop where
  active : poll.exitCode = stillActive
  inTime : ¬ OutOfTime executor.timeLimit timeStart poll
  inMemory : ∃ size, poll.workingSetSize = some size ∧ size ≤ executor.memoryLimit

/-- What the width of `size_t` asks of a poll: the ticks are not ahead of the CPU time in
the lower halves of its counts, and its memory is not the size that stands for a failure. -/
structure Representable (timeStart : SizeT) (poll : Poll) : Prop where
  clocks : (poll.tickCount - timeStart).toNat ≤
    Filetime.count poll.kernelTime % 2 ^ 32 / 10000 +
      Filetime.count poll.userTime % 2 ^ 32 / 10000 + 2048
  memory : poll.workingSetSize ≠ some (-1)

/-- Narrow counts ask nothing more of the clocks than the limits do. -/
theorem Representable.of_narrow {self : Executor} {timeStart : SizeT} {poll : Poll}
    (within : WithinLimits self timeStart poll) (narrow : Narrow poll.kernelTime poll.userTime)
    (memory : poll.workingSetSize ≠ some (-1)) : Representable timeStart poll := by
  refine ⟨?_, memory⟩
  have inTime := within.inTime
  unfold OutOfTime cpuTime at inTime
  rw [Nat.mod_eq_of_lt narrow.kernel, Nat.mod_eq_of_lt narrow.user]
  omega

/-- The verdict on an exit code, and on whether the output file opens. -/
def exitVerdict (exitCode : Dword) (opens : Bool) : RequestType :=
  if exitCode ≠ 0 then .crash else if opens then .correct else .nif

/-- The exit of a process is classified: whatever is polled after it, `execute` gives the
verdict on the exit code, and the first of those polls is the last one that is made. -/
def Classifies (self : Executor) (timeStart : Dword) (running : List Poll) (exitCode : Dword) :
    Prop :=
  ∀ (World : Type) (windows : Windows World) (quest : Str) (before created ended : World)
      (later : List Poll),
    windows.ofstream self.inputFilePath quest (self.cleared windows before) = (true, created) →
    windows.createProcess self.executableFilePath self.executableFileDirectory created =
      (some ⟨timeStart, running ++ later⟩, ended) →
    later ≠ [] → (∀ poll ∈ later, poll.exitCode = exitCode) →
    (∃ self' after, Program.Returns (self.execute windows quest) before self' after ∧
      self'.requestReport.correct =
        exitVerdict exitCode (windows.ifstream self.outputFilePath ended).1.isSome) ∧
    ∃ meter verdict,
      (executeMonitor self.timeLimit self.memoryLimit timeStart).run ⟨0, 0⟩
        (running ++ later.take 1) = some (meter, verdict)

/-! ## The polls before the exit -/

section Running

variable {self : Executor} {timeStart : SizeT}

/-- A representable poll within the limits is survived. -/
theorem goesOn_of_withinLimits {meter : Meter} {poll : Poll}
    (below : meter.Bounded self.memoryLimit) (within : WithinLimits self timeStart poll)
    (representable : Representable timeStart poll) :
    ∃ next, (executeMonitor self.timeLimit self.memoryLimit timeStart).step meter poll =
      (next, none) := by
  obtain ⟨active, inTime, size, measured, inMemory⟩ := within
  obtain ⟨clocks, memory⟩ := representable
  have reading := getProcessKernelPlusUserTime_toNat poll.kernelTime poll.userTime
  generalize turn :
    (executeMonitor self.timeLimit self.memoryLimit timeStart).step meter poll = outcome
  cases ExecuteTurn.of_step turn with
  | slow _ excess =>
      rw [overTime_iff, reading] at excess
      unfold OutOfTime cpuTime at inTime
      omega
  | big _ _ excess =>
      rcases outOfMemory_of_excess below excess with failed | ⟨other, measured', large⟩
      · rw [measured] at failed
        cases failed
      · rw [measured] at measured'
        cases measured'
        rcases large with above | sentinel
        · exact absurd above (UInt32.not_lt.mpr inMemory)
        · rw [sentinel] at measured
          exact absurd measured memory
  | goesOn _ _ _ _ => exact ⟨_, rfl⟩
  | exited zero =>
      rw [active] at zero
      exact absurd zero (by decide)
  | crashed ended _ => exact absurd active ended

/-- A survived poll that is within the limits is representable. -/
theorem representable_of_goesOn {meter next : Meter} {poll : Poll}
    (turn : (executeMonitor self.timeLimit self.memoryLimit timeStart).step meter poll =
      (next, none)) : Representable timeStart poll := by
  cases ExecuteTurn.of_step turn with
  | goesOn _ inTime known _ =>
      have reading := getProcessKernelPlusUserTime_toNat poll.kernelTime poll.userTime
      rw [← Bool.not_eq_true, overTime_iff, reading] at inTime
      refine ⟨by omega, fun sentinel => known ?_⟩
      have usage : getMemoryUsage poll = -1 := by simp [getMemoryUsage, sentinel]
      have largest : (-1 : SizeT).toNat = 2 ^ 32 - 1 := rfl
      have bounded := meter.memory.toNat_lt
      rw [usage, ← UInt32.toNat_inj, toNat_max, largest]
      omega

/-- All polls within the limits are survived when they are representable. -/
theorem survive_of_withinLimits {meter : Meter} {running : List Poll}
    (below : meter.Bounded self.memoryLimit)
    (within : ∀ poll ∈ running, WithinLimits self timeStart poll)
    (representable : ∀ poll ∈ running, Representable timeStart poll) :
    ∃ last, (executeMonitor self.timeLimit self.memoryLimit timeStart).survive meter running =
      some last := by
  induction running generalizing meter with
  | nil => exact ⟨meter, rfl⟩
  | cons poll rest inductionHypothesis =>
      obtain ⟨next, turn⟩ := goesOn_of_withinLimits below (within poll List.mem_cons_self)
        (representable poll List.mem_cons_self)
      have below' : next.Bounded self.memoryLimit := by
        cases ExecuteTurn.of_step turn with
        | goesOn _ _ known inMemory => exact ⟨known, inMemory⟩
      obtain ⟨last, survived⟩ := inductionHypothesis below'
        (fun other member => within other (List.mem_cons_of_mem _ member))
        (fun other member => representable other (List.mem_cons_of_mem _ member))
      exact ⟨last, Monitor.survive_cons_iff.mpr ⟨next, turn, survived⟩⟩

end Running

/-! ## The poll after the exit -/

/-- The first poll after an exit ends the loop, and its code is the verdict. -/
theorem run_of_exit {timeLimit memoryLimit timeStart : SizeT} {meter : Meter}
    {running : List Poll} {poll : Poll} (later : List Poll)
    (survived : (executeMonitor timeLimit memoryLimit timeStart).survive ⟨0, 0⟩ running =
      some meter) (ended : poll.exitCode ≠ stillActive) :
    (executeMonitor timeLimit memoryLimit timeStart).run ⟨0, 0⟩ (running ++ poll :: later) =
      some (meter, if poll.exitCode ≠ 0 then .crash else .correct) := by
  refine Monitor.run_eq_some_iff.mpr ⟨running, poll, later, meter, rfl, survived, ?_⟩
  simp only [executeMonitor, executeStep, ended, ↓reduceIte]
  by_cases zero : poll.exitCode = 0
  · simp [zero]
  · simp [zero]

/-- A loop that ends with a verdict on an exit code has survived every poll of the running
program. -/
theorem survive_of_run {timeLimit memoryLimit timeStart : SizeT} {start meter : Meter}
    {running later : List Poll} {verdict : RequestType}
    (active : ∀ poll ∈ running, poll.exitCode = stillActive)
    (run : (executeMonitor timeLimit memoryLimit timeStart).run start (running ++ later) =
      some (meter, verdict)) (onExit : verdict ≠ .tle ∧ verdict ≠ .mle) :
    ∃ last, (executeMonitor timeLimit memoryLimit timeStart).survive start running = some last ∧
      ∃ poll ∈ later, poll.exitCode ≠ stillActive := by
  obtain ⟨earlier, final, others, current, split, survived, turn⟩ :=
    Monitor.run_eq_some_iff.mp run
  have ended : final.exitCode ≠ stillActive := by
    cases ExecuteTurn.of_step turn with
    | slow _ _ => exact absurd rfl onExit.1
    | big _ _ _ => exact absurd rfl onExit.2
    | exited zero =>
        rw [zero]
        decide
    | crashed ended _ => exact ended
  rcases List.append_eq_append_iff.mp split with ⟨middle, rfl, rest⟩ | ⟨middle, rfl, rest⟩
  · obtain ⟨last, survived', _⟩ := Monitor.survive_append_iff.mp survived
    refine ⟨last, survived', final, ?_, ended⟩
    rw [rest]
    exact List.mem_append_right _ List.mem_cons_self
  · cases middle with
    | nil =>
        rw [List.append_nil] at active ⊢
        rw [List.nil_append] at rest
        exact ⟨current, survived, final, by rw [← rest]; exact List.mem_cons_self, ended⟩
    | cons head tail =>
        cases rest
        have found := active final (List.mem_append_right _ List.mem_cons_self)
        exact absurd found ended

/-! ## The classification -/

/-- An environment in which nothing stands in the way of a launch. -/
theorem started_quiet (self : Executor) (launch : Launch) (quest : Str) :
    (quietWindows launch).ofstream self.inputFilePath quest
      (self.cleared (quietWindows launch) ()) = (true, ()) ∧
    (quietWindows launch).createProcess self.executableFilePath self.executableFileDirectory () =
      (some launch, ()) :=
  ⟨rfl, rfl⟩

/-- A poll that reads an exit code and nothing else. -/
def exitPoll (exitCode : Dword) : Poll := ⟨⟨⟨0, 0⟩, ⟨0, 0⟩, 0⟩, exitCode, some 0⟩

/-- A classified exit has been told apart from the running state, after polls that were all
survived. -/
theorem survive_of_classifies {self : Executor} {timeStart : Dword} {running : List Poll}
    {exitCode : Dword} (active : ∀ poll ∈ running, poll.exitCode = stillActive)
    (classified : Classifies self timeStart running exitCode) :
    exitCode ≠ stillActive ∧ ∃ last,
      (executeMonitor self.timeLimit self.memoryLimit timeStart).survive ⟨0, 0⟩ running =
        some last := by
  let launch : Launch := ⟨timeStart, running ++ [exitPoll exitCode]⟩
  obtain ⟨input, process⟩ := started_quiet self launch []
  obtain ⟨⟨self', after, returned, verdict⟩, _⟩ := classified Unit (quietWindows launch) [] () () ()
    [exitPoll exitCode] input process (by simp) (by simp [exitPoll])
  have ended : ∀ {meter : Meter} {verdict : RequestType},
      (executeMonitor self.timeLimit self.memoryLimit timeStart).run ⟨0, 0⟩ launch.polls =
        some (meter, verdict) → verdict ≠ .tle ∧ verdict ≠ .mle →
      exitCode ≠ stillActive ∧ ∃ last,
        (executeMonitor self.timeLimit self.memoryLimit timeStart).survive ⟨0, 0⟩ running =
          some last := by
    intro meter verdict run onExit
    obtain ⟨last, survived, poll, member, ended⟩ := survive_of_run active run onExit
    rw [List.mem_singleton.mp member] at ended
    exact ⟨ended, last, survived⟩
  have onExit : exitVerdict exitCode true ≠ .tle ∧ exitVerdict exitCode true ≠ .mle := by
    unfold exitVerdict
    split <;> simp
  have opened : ((quietWindows launch).ifstream self.outputFilePath ()).1.isSome = true := rfl
  rw [opened] at verdict
  cases returns_execute_iff.mp returned with
  | notCreated input' => cases input'
  | notStarted _ process' => cases process'
  | noOutput _ _ _ output => cases output
  | accepted _ process' run _ =>
      cases process'
      exact ended run ⟨nofun, nofun⟩
  | @rejected _ _ _ meter found _ process' run _ =>
      cases process'
      have same : found = exitVerdict exitCode true := verdict
      exact ended run (same ▸ onExit)

/-- The exit of a process that was polled within its limits is classified exactly when its
code is not the one of a running process and the width of `size_t` has not stopped the
loop before. -/
theorem classifies_iff {self : Executor} {timeStart : Dword} {running : List Poll}
    {exitCode : Dword} (within : ∀ poll ∈ running, WithinLimits self timeStart poll) :
    Classifies self timeStart running exitCode ↔
      exitCode ≠ stillActive ∧ ∀ poll ∈ running, Representable timeStart poll := by
  have active : ∀ poll ∈ running, poll.exitCode = stillActive := fun poll member =>
    (within poll member).active
  constructor
  · intro classified
    obtain ⟨ended, last, survived⟩ := survive_of_classifies active classified
    refine ⟨ended, ?_⟩
    exact Monitor.survive_forall (fun _ _ _ turn => representable_of_goesOn turn) survived
  · rintro ⟨ended, representable⟩ World windows quest before created final later input process
      nonempty codes
    obtain ⟨poll, rest, rfl⟩ := List.exists_cons_of_ne_nil nonempty
    have code : poll.exitCode = exitCode := codes poll List.mem_cons_self
    obtain ⟨last, survived⟩ :=
      survive_of_withinLimits (Meter.bounded_zero self.memoryLimit) within representable
    have ended' : poll.exitCode ≠ stillActive := code ▸ ended
    have run := run_of_exit rest survived ended'
    rw [code] at run
    refine ⟨?_, last, _, run_of_exit [] survived ended'⟩
    by_cases zero : exitCode = 0
    · subst zero
      simp only [ne_eq, not_true_eq_false, ↓reduceIte] at run
      cases output : windows.ifstream self.outputFilePath final with
      | mk file after =>
          cases file with
          | none =>
              have execution := Execution.noOutput input process run output
              exact ⟨_, after, returns_execute_iff.mpr execution, rfl⟩
          | some content =>
              have execution := Execution.accepted input process run output
              exact ⟨_, after, returns_execute_iff.mpr execution, rfl⟩
    · simp only [ne_eq, zero, not_false_eq_true, ↓reduceIte] at run
      refine ⟨_, final, returns_execute_iff.mpr (.rejected input process run nofun), ?_⟩
      simp [exitVerdict, zero]

/-- A process that returns the code of the running state is not seen to have ended. -/
theorem stillActive_not_classifies :
    ¬ ∀ (self : Executor) (timeStart : Dword) (running : List Poll) (exitCode : Dword),
      (∀ poll ∈ running, WithinLimits self timeStart poll) →
      Classifies self timeStart running exitCode := by
  intro always
  have classified := always tenSeconds 0 [] 259 (by simp)
  exact (survive_of_classifies (by simp) classified).1 rfl

/-- A process that has computed for a second and returned 3. -/
theorem classifies_iff_one :
    Classifies tenSeconds 0 [⟨⟨⟨0, 0⟩, ⟨10000000, 0⟩, 1000⟩, 259, some 8⟩] 3 ↔
      (3 : Dword) ≠ stillActive ∧
        ∀ poll ∈ [(⟨⟨⟨0, 0⟩, ⟨10000000, 0⟩, 1000⟩, 259, some 8⟩ : Poll)],
          Representable 0 poll := by
  refine classifies_iff fun poll member => ?_
  rw [List.mem_singleton.mp member]
  exact ⟨rfl, by unfold OutOfTime; decide, 8, rfl, by decide⟩

end CheckerOlimp.CheckerRc
