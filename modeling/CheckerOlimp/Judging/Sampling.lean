import CheckerOlimp.Judging.Execution
import Mathlib.Order.Monotone.Basic

/-!
# What an accepted run has been checked for

The monitor samples the process. A run that is accepted was within its limits at
every poll that found it running; what it consumed between two polls, or between
the last such poll and its exit, no poll has seen. `correct_run_sampled` says
exactly what acceptance stands for, and `sprinter` is a process that is accepted
far beyond its time limit.
-/

namespace CheckerOlimp.CheckerRc

open CheckerOlimp.Std

/-- A run of a contestant's process over the instants of a clock, with its CPU
times in 100 ns intervals. -/
structure ProcessRun where
  exitInstant : Nat
  exitCode : Dword
  kernel : Nat → Nat
  user : Nat → Nat
  workingSet : Nat → SizeT
  kernel_monotone : Monotone kernel
  user_monotone : Monotone user

/-- The `FILETIME` of a count of 100 ns intervals. -/
def Filetime.ofCount (count : Nat) : Filetime :=
  ⟨UInt32.ofNat count, UInt32.ofNat (count / 2 ^ 32)⟩

theorem Filetime.count_ofCount_mod (count : Nat) :
    Filetime.count (Filetime.ofCount count) % 2 ^ 32 = count % 2 ^ 32 := by
  simp only [Filetime.count, Filetime.ofCount, UInt32.toNat_ofNat']
  omega

namespace ProcessRun

variable (process : ProcessRun)

/-- The total CPU time up to an instant, in milliseconds. -/
def cpuTime (instant : Nat) : Nat :=
  process.kernel instant / 10000 + process.user instant / 10000

/-- What a poll at an instant reads, by the tick counter `tick`. -/
def poll (tick : Nat → Dword) (instant : Nat) : Poll where
  kernelTime := Filetime.ofCount (process.kernel instant)
  userTime := Filetime.ofCount (process.user instant)
  tickCount := tick instant
  exitCode := if instant < process.exitInstant then stillActive else process.exitCode
  workingSetSize := some (process.workingSet instant)

/-- The CPU reading of a poll at an instant. -/
def reading (instant : Nat) : SizeT :=
  getProcessKernelPlusUserTime (Filetime.ofCount (process.kernel instant))
    (Filetime.ofCount (process.user instant))

/-- CPU time never decreases. -/
theorem cpuTime_monotone : Monotone process.cpuTime := by
  intro first second ordered
  have kernel := process.kernel_monotone ordered
  have user := process.user_monotone ordered
  unfold cpuTime
  omega

/-- The reading is the CPU time while both counts fit in 32 bits. -/
theorem reading_exact {instant : Nat} (kernel : process.kernel instant < 2 ^ 32)
    (user : process.user instant < 2 ^ 32) :
    (process.reading instant).toNat = process.cpuTime instant := by
  unfold reading cpuTime
  rw [getProcessKernelPlusUserTime_toNat, Filetime.count_ofCount_mod, Filetime.count_ofCount_mod]
  rw [Nat.mod_eq_of_lt kernel, Nat.mod_eq_of_lt user]

/-- What one poll has established when it let the loop go on. -/
structure SampledAt (tick : Nat → Dword) (timeLimit memoryLimit timeStart : SizeT)
    (instant : Nat) : Prop where
  running : instant < process.exitInstant ∨ process.exitCode = stillActive
  withinTime : process.reading instant ≤ timeLimit
  closeToWall : timeDifference (tick instant - timeStart) (process.reading instant) ≤ 2048
  withinMemory : process.workingSet instant ≤ memoryLimit

end ProcessRun

/-- A survived poll has sampled the process within its limits. -/
theorem sampledAt_of_goesOn {process : ProcessRun} {tick : Nat → Dword}
    {timeLimit memoryLimit timeStart : SizeT} {meter next : Meter} {instant : Nat}
    (turn : (executeMonitor timeLimit memoryLimit timeStart).step meter
      (process.poll tick instant) = (next, none)) :
    process.SampledAt tick timeLimit memoryLimit timeStart instant := by
  cases ExecuteTurn.of_step turn with
  | goesOn active inTime known inMemory =>
      have eps : epsTime.toNat = 2048 := rfl
      simp only [overTime, eps, decide_eq_false_iff_not, not_or, gt_iff_lt, UInt32.not_lt,
        Nat.not_lt] at inTime
      refine ⟨?_, inTime.1, inTime.2, ?_⟩
      · simp only [ProcessRun.poll] at active
        split at active
        · next before => exact .inl before
        · exact .inr active
      · rw [UInt32.le_iff_toNat_le, toNat_max] at inMemory
        have usage : getMemoryUsage (process.poll tick instant) = process.workingSet instant := rfl
        rw [usage] at inMemory
        rw [UInt32.le_iff_toNat_le]
        omega

/-- The meter after survived polls holds the last CPU reading and the largest
working set. -/
theorem meter_of_survive {process : ProcessRun} {tick : Nat → Dword}
    {timeLimit memoryLimit timeStart : SizeT} {meter last : Meter} {instants : List Nat}
    (survived : (executeMonitor timeLimit memoryLimit timeStart).survive meter
      (instants.map (process.poll tick)) = some last) :
    last.workTime = (instants.getLast?.map process.reading).getD meter.workTime ∧
      last.memory = instants.foldl (fun memory instant => max memory (process.workingSet instant))
        meter.memory := by
  induction instants generalizing meter with
  | nil =>
      cases survived
      exact ⟨rfl, rfl⟩
  | cons instant rest inductionHypothesis =>
      obtain ⟨next, turn, survived'⟩ := Monitor.survive_cons_iff.mp survived
      obtain ⟨workTime, memory⟩ := inductionHypothesis survived'
      cases ExecuteTurn.of_step turn with
      | goesOn active inTime known inMemory =>
          constructor
          · rw [workTime, List.getLast?_cons]
            cases rest.getLast? <;> rfl
          · rw [memory]
            rfl

/-- Every survived poll has sampled the process within its limits. -/
theorem sampledAt_of_survive {process : ProcessRun} {tick : Nat → Dword}
    {timeLimit memoryLimit timeStart : SizeT} {meter last : Meter} {instants : List Nat}
    (survived : (executeMonitor timeLimit memoryLimit timeStart).survive meter
      (instants.map (process.poll tick)) = some last) :
    ∀ instant ∈ instants, process.SampledAt tick timeLimit memoryLimit timeStart instant := by
  intro instant member
  have passes : ∀ poll ∈ instants.map (process.poll tick), ∀ place,
      poll = process.poll tick place →
        process.SampledAt tick timeLimit memoryLimit timeStart place :=
    Monitor.survive_forall
      (fun _ _ _ turn _ same => sampledAt_of_goesOn (same ▸ turn)) survived
  exact passes _ (List.mem_map_of_mem member) instant rfl

/-- A poll with exit code 0 comes after the exit of a process that returned 0. -/
theorem exited_of_poll {process : ProcessRun} {tick : Nat → Dword} {instant : Nat}
    (zero : (process.poll tick instant).exitCode = 0) :
    process.exitInstant ≤ instant ∧ process.exitCode = 0 := by
  simp only [ProcessRun.poll] at zero
  split at zero
  · exact absurd zero (by decide)
  · next ended => exact ⟨Nat.le_of_not_lt ended, zero⟩

/-- What acceptance stands for. The process exited with code 0 and a poll saw it;
every earlier poll found it running and within its limits; `time_out` is the
last of their readings and `memory` their largest working set. While the counts
of the last such poll fit in 32 bits, its reading is the CPU time, which has
then been within the limit at every instant up to that poll. -/
theorem correct_run_sampled {World : Type} {windows : Windows World} {self self' : Executor}
    {quest : Str} {before after : World} (process : ProcessRun) (tick : Nat → Dword)
    (timeStart : SizeT) (schedule : List Nat)
    (observes : ∀ created ended launch,
      windows.createProcess self.executableFilePath self.executableFileDirectory created =
        (some launch, ended) → launch = ⟨timeStart, schedule.map (process.poll tick)⟩)
    (returned : Program.Returns (self.execute windows quest) before self' after)
    (accepted : self'.requestReport.correct = .correct) :
    ∃ running final later, schedule = running ++ final :: later ∧
      process.exitInstant ≤ final ∧ process.exitCode = 0 ∧
      (∀ instant ∈ running, instant < process.exitInstant ∧
        process.SampledAt tick self.timeLimit self.memoryLimit timeStart instant) ∧
      self'.requestReport.timeOut = (running.getLast?.map process.reading).getD 0 ∧
      self'.requestReport.memory =
        running.foldl (fun memory instant => max memory (process.workingSet instant)) 0 ∧
      (∀ last, running.getLast? = some last → process.kernel last < 2 ^ 32 →
        process.user last < 2 ^ 32 →
        self'.requestReport.timeOut.toNat = process.cpuTime last ∧
          ∀ instant ≤ last, process.cpuTime instant ≤ self.timeLimit.toNat) := by
  cases returns_execute_iff.mp returned with
  | notCreated _ => cases accepted
  | notStarted _ _ => cases accepted
  | noOutput _ _ _ _ => cases accepted
  | rejected _ _ _ notCorrect => exact absurd accepted notCorrect
  | @accepted created ended _ launch meter content input started run output =>
      have launched := observes created ended launch started
      subst launched
      obtain ⟨earlier, last, others, current, split, survived, turn⟩ :=
        Monitor.run_eq_some_iff.mp run
      obtain ⟨running, rest, rfl, rfl, restSplit⟩ := List.map_eq_append_iff.mp split
      obtain ⟨final, later, rfl, rfl, rfl⟩ := List.map_eq_cons_iff.mp restSplit
      have sampled := sampledAt_of_survive survived
      obtain ⟨workTime, memory⟩ := meter_of_survive survived
      cases ExecuteTurn.of_step turn with
      | exited zero =>
          obtain ⟨exited, exitedZero⟩ := exited_of_poll zero
          refine ⟨running, final, later, rfl, exited, exitedZero, ?_, workTime, memory, ?_⟩
          · intro instant member
            refine ⟨?_, sampled instant member⟩
            rcases (sampled instant member).running with before | stillRunning
            · exact before
            · rw [exitedZero] at stillRunning
              exact absurd stillRunning (by decide)
          · intro last isLast kernel user
            have exact_ := process.reading_exact kernel user
            have within := (sampled last (List.mem_of_getLast? isLast)).withinTime
            rw [UInt32.le_iff_toNat_le, exact_] at within
            constructor
            · simp only [Executor.withRequest_requestReport]
              rw [workTime, isLast]
              exact exact_
            · intro instant earlier
              exact Nat.le_trans (process.cpuTime_monotone earlier) within

/-! ## A process that outruns the monitor -/

/-- Acceptance as one would have it for a given run: the whole run was within the
limits, and `time_out` is its total CPU time. -/
def LimitSound {World : Type} (windows : Windows World) (self : Executor) (quest : Str)
    (before : World) (process : ProcessRun) : Prop :=
  ∀ self' after, Program.Returns (self.execute windows quest) before self' after →
    self'.requestReport.correct = .correct →
    process.exitCode = 0 ∧ process.cpuTime process.exitInstant ≤ self.timeLimit.toNat ∧
      (∀ instant ≤ process.exitInstant, process.workingSet instant ≤ self.memoryLimit) ∧
      self'.requestReport.timeOut.toNat = process.cpuTime process.exitInstant

/-- A process that computes for five seconds without a pause and returns 0. -/
def sprinter : ProcessRun where
  exitInstant := 5000
  exitCode := 0
  kernel _ := 0
  user instant := 10000 * min instant 5000
  workingSet _ := 1
  kernel_monotone := fun _ _ _ => Nat.le_refl _
  user_monotone := by
    intro first second ordered
    have capped : min first 5000 ≤ min second 5000 := by omega
    simp only
    omega

/-- An environment in which every file opens and every launch is `launch`. -/
def quietWindows (launch : Launch) : Windows Unit where
  ifstream _ world := (some [], world)
  ofstream _ _ world := (true, world)
  remove _ world := world
  getFullPathName path world := (some path, world)
  popen _ world := (none, world)
  createProcess _ _ world := (some launch, world)
  createChecker _ world := (⟨0, []⟩, world)

/-- An executor with a time limit of one second. -/
def oneSecond : Executor := { Executor.fresh with timeLimit := 1000, memoryLimit := 1000 }

/-- Polled at 900 ms and, after its exit, at 6 s, the sprinter is accepted with a
limit of one second and a `time_out` of 900. -/
theorem sprinter_not_limitSound :
    ¬ LimitSound (quietWindows ⟨0, [900, 6000].map (sprinter.poll UInt32.ofNat)⟩) oneSecond [] ()
      sprinter := by
  intro sound
  have returned : Program.Returns (oneSecond.execute
      (quietWindows ⟨0, [900, 6000].map (sprinter.poll UInt32.ofNat)⟩) []) ()
      (oneSecond.withRequest ⟨[], 900, 1, .correct⟩) () := rfl
  obtain ⟨_, within, _⟩ := sound _ _ returned rfl
  exact absurd within (by decide)

/-- The sprinter's accepted run, and what its acceptance does stand for. -/
theorem correct_run_sampled_sprinter :
    ∃ running final later, [900, 6000] = running ++ final :: later ∧
      sprinter.exitInstant ≤ final ∧ sprinter.exitCode = 0 ∧
      (∀ instant ∈ running, instant < sprinter.exitInstant ∧
        sprinter.SampledAt UInt32.ofNat 1000 1000 0 instant) ∧
      (900 : SizeT) = (running.getLast?.map sprinter.reading).getD 0 ∧
      (1 : SizeT) =
        running.foldl (fun memory instant => max memory (sprinter.workingSet instant)) 0 ∧
      (∀ last, running.getLast? = some last → sprinter.kernel last < 2 ^ 32 →
        sprinter.user last < 2 ^ 32 →
        (900 : SizeT).toNat = sprinter.cpuTime last ∧
          ∀ instant ≤ last, sprinter.cpuTime instant ≤ (1000 : SizeT).toNat) := by
  have returned : Program.Returns (oneSecond.execute
      (quietWindows ⟨0, [900, 6000].map (sprinter.poll UInt32.ofNat)⟩) []) ()
      (oneSecond.withRequest ⟨[], 900, 1, .correct⟩) () := rfl
  refine correct_run_sampled sprinter UInt32.ofNat 0 [900, 6000] ?_ returned rfl
  intro created ended launch started
  cases started
  rfl

end CheckerOlimp.CheckerRc
