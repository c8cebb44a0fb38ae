import CheckerOlimp.Judging.Stopping
import CheckerOlimp.Judging.Sampling

/-!
# What a rejection stands for

The CPU reading is the CPU time only while both counts fit in 32 bits.
`exactReading_iff` says so for the reading and for its copy in the checker's
loop. A rejection for time or memory is then traced to the poll that ended the
loop: its clocks were out of step in either direction, or its memory query gave
more than the limit or nothing at all.
-/

namespace CheckerOlimp.CheckerRc

open CheckerOlimp.Std

/-! ## The CPU reading -/

/-- The CPU time behind two counts, in milliseconds. -/
def cpuTime (kernelTime userTime : Filetime) : Nat :=
  Filetime.count kernelTime / 10000 + Filetime.count userTime / 10000

/-- Both counts fit in 32 bits. -/
structure Narrow (kernelTime userTime : Filetime) : Prop where
  kernel : Filetime.count kernelTime < 2 ^ 32
  user : Filetime.count userTime < 2 ^ 32

/-- The reading is the CPU time exactly while both counts fit in 32 bits: a larger
count loses more than the division would. -/
theorem reading_eq_cpuTime_iff {kernelTime userTime : Filetime} :
    (getProcessKernelPlusUserTime kernelTime userTime).toNat = cpuTime kernelTime userTime ↔
      Narrow kernelTime userTime := by
  rw [getProcessKernelPlusUserTime_toNat]
  unfold cpuTime
  constructor
  · intro same
    refine ⟨?_, ?_⟩
    · by_contra wide
      omega
    · by_contra wide
      omega
  · rintro ⟨kernel, user⟩
    rw [Nat.mod_eq_of_lt kernel, Nat.mod_eq_of_lt user]

/-- `work_time` in the static `execute`: the computation of
`get_process_kernel_plus_user_time` once more. -/
def copiedReading (kernelTime userTime : Filetime) : SizeT :=
  let kT : SizeT := (filetimeToUlonglong kernelTime).toUInt32
  let uT : SizeT := (filetimeToUlonglong userTime).toUInt32
  let kernelT := kT / 10000
  let userT := uT / 10000
  userT + kernelT

/-- One turn of the loop of the static `execute` at a given `work_time`. -/
def checkerStepAt (workTime timeStart : SizeT) (exitCode : Dword) (poll : CheckerPoll) :
    Dword × Option SizeT :=
  let exitCode := poll.exitCode.getD exitCode
  if exitCode = stillActive then
    let timer := poll.tickCount - timeStart
    if overTime checkerTimeLimit workTime timer then
      (exitCode, some (-1))
    else
      (exitCode, none)
  else if exitCode ≤ 4 then
    (exitCode, some exitCode)
  else
    (exitCode, some (-1))

/-- Exact arithmetic on two counts: the reading and its copy are the CPU time, and no
smaller counts have given a larger reading. -/
structure ExactReading (kernelTime userTime : Filetime) : Prop where
  reading : (getProcessKernelPlusUserTime kernelTime userTime).toNat = cpuTime kernelTime userTime
  copy : (copiedReading kernelTime userTime).toNat = cpuTime kernelTime userTime
  growing : ∀ kernelTime' userTime', Filetime.count kernelTime' ≤ Filetime.count kernelTime →
    Filetime.count userTime' ≤ Filetime.count userTime →
    getProcessKernelPlusUserTime kernelTime' userTime' ≤
      getProcessKernelPlusUserTime kernelTime userTime

/-- The turn of the checker's loop reads `copiedReading`, and the arithmetic is exact
on two counts exactly when both fit in 32 bits. -/
theorem exactReading_iff (timeStart : SizeT) (exitCode : Dword) (poll : CheckerPoll)
    (kernelTime userTime : Filetime) :
    checkerStep timeStart exitCode poll =
      checkerStepAt (copiedReading poll.kernelTime poll.userTime) timeStart exitCode poll ∧
    (ExactReading kernelTime userTime ↔ Narrow kernelTime userTime) := by
  refine ⟨rfl, ?_⟩
  constructor
  · intro arithmetic
    exact reading_eq_cpuTime_iff.mp arithmetic.reading
  · intro narrow
    have reading := reading_eq_cpuTime_iff.mpr narrow
    refine ⟨reading, reading, ?_⟩
    intro kernelTime' userTime' kernel user
    have narrow' : Narrow kernelTime' userTime' :=
      ⟨Nat.lt_of_le_of_lt kernel narrow.kernel, Nat.lt_of_le_of_lt user narrow.user⟩
    rw [UInt32.le_iff_toNat_le, reading, reading_eq_cpuTime_iff.mpr narrow']
    unfold cpuTime
    omega

/-- A process that has computed for 2^32 intervals, a little more than seven minutes. -/
theorem sevenMinutes_not_exactReading :
    ¬ ∀ kernelTime userTime, cpuTime kernelTime userTime < 2 ^ 32 →
      ExactReading kernelTime userTime := by
  intro always
  have arithmetic := always ⟨0, 1⟩ ⟨0, 0⟩ (by decide)
  have narrow := reading_eq_cpuTime_iff.mp arithmetic.reading
  exact absurd narrow.kernel (by decide)

/-! ## Rejections -/

section Rejections

variable {World : Type}

/-- The loop along `launch` makes this poll: all earlier ones were survived. -/
def Reaches (self : Executor) (launch : Launch) (poll : Poll) : Prop :=
  ∃ earlier later meter, launch.polls = earlier ++ poll :: later ∧
    (executeMonitor self.timeLimit self.memoryLimit launch.timeStart).survive ⟨0, 0⟩ earlier =
      some meter

/-- More CPU time than the limit, or CPU time and elapsed ticks further than `eps_time`
apart, in either direction. -/
def OutOfTime (timeLimit timeStart : SizeT) (poll : Poll) : Prop :=
  timeLimit.toNat < cpuTime poll.kernelTime poll.userTime ∨
    cpuTime poll.kernelTime poll.userTime + 2048 < (poll.tickCount - timeStart).toNat ∨
    (poll.tickCount - timeStart).toNat + 2048 < cpuTime poll.kernelTime poll.userTime

/-- A memory query that failed, or gave more than the limit or the largest `size_t`. -/
def OutOfMemory (memoryLimit : SizeT) (poll : Poll) : Prop :=
  poll.workingSetSize = none ∨
    ∃ size, poll.workingSetSize = some size ∧ (memoryLimit < size ∨ size = -1)

/-- The meter of a running loop holds a memory within the limit. -/
def Meter.Bounded (memoryLimit : SizeT) (meter : Meter) : Prop :=
  meter.memory ≠ -1 ∧ meter.memory ≤ memoryLimit

theorem Meter.bounded_zero (memoryLimit : SizeT) : (⟨0, 0⟩ : Meter).Bounded memoryLimit := by
  refine ⟨by decide, ?_⟩
  rw [UInt32.le_iff_toNat_le]
  exact Nat.zero_le _

/-- When the running maximum leaves the limit, the last query is to blame. -/
theorem outOfMemory_of_excess {memoryLimit : SizeT} {meter : Meter} {poll : Poll}
    (bounded : meter.Bounded memoryLimit)
    (excess : max meter.memory (getMemoryUsage poll) = -1 ∨
      max meter.memory (getMemoryUsage poll) > memoryLimit) : OutOfMemory memoryLimit poll := by
  cases measured : poll.workingSetSize with
  | none => exact .inl measured
  | some size =>
      refine .inr ⟨size, measured, ?_⟩
      have usage : getMemoryUsage poll = size := by simp [getMemoryUsage, measured]
      rw [usage] at excess
      obtain ⟨known, inMemory⟩ := bounded
      simp only [gt_iff_lt, UInt32.lt_iff_toNat_lt, UInt32.le_iff_toNat_le, ne_eq,
        ← UInt32.toNat_inj, toNat_max] at *
      omega

end Rejections

/-- An executor with a time limit of ten seconds. -/
def tenSeconds : Executor := { Executor.fresh with timeLimit := 10000, memoryLimit := 1000 }

end CheckerOlimp.CheckerRc
