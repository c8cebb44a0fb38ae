import CheckerOlimp.CheckerRc.Executor

/-!
# The two monitor loops

Neither loop counts its turns. `ExecuteTurn` and `CheckerTurn` say once what a
turn can do; every fact about a whole run is derived from them by the run rules
of `Monitor`. A turn that finds the process running can go on only while the
elapsed ticks stay close to a CPU reading that two 32-bit quotients bound, and
that is what makes both loops stop.
-/

namespace CheckerOlimp.CheckerRc

open CheckerOlimp.Std

/-! ## The CPU reading -/

/-- The 64-bit count of a `FILETIME`. -/
def Filetime.count (ft : Filetime) : Nat :=
  ft.dwHighDateTime.toNat * 2 ^ 32 + ft.dwLowDateTime.toNat

theorem Filetime.count_lt (ft : Filetime) : Filetime.count ft < 2 ^ 64 := by
  have high := ft.dwHighDateTime.toNat_lt
  have low := ft.dwLowDateTime.toNat_lt
  unfold Filetime.count
  omega

/-- Joining the two halves loses nothing. -/
theorem filetimeToUlonglong_toNat (ft : Filetime) :
    (filetimeToUlonglong ft).toNat = Filetime.count ft := by
  have bounded := Filetime.count_lt ft
  have high := ft.dwHighDateTime.toNat_lt
  unfold filetimeToUlonglong Filetime.count at *
  have shifted : (ft.dwHighDateTime.toUInt64 <<< 32).toNat = ft.dwHighDateTime.toNat * 2 ^ 32 := by
    rw [UInt64.toNat_shiftLeft, UInt32.toNat_toUInt64, Nat.shiftLeft_eq]
    have small : (32 : UInt64).toNat % 64 = 32 := rfl
    rw [small]
    omega
  rw [UInt64.toNat_add, shifted, UInt32.toNat_toUInt64]
  omega

/-- The reading divides the lower halves of the two counts. -/
theorem getProcessKernelPlusUserTime_toNat (kernelTime userTime : Filetime) :
    (getProcessKernelPlusUserTime kernelTime userTime).toNat =
      Filetime.count kernelTime % 2 ^ 32 / 10000 + Filetime.count userTime % 2 ^ 32 / 10000 := by
  simp only [getProcessKernelPlusUserTime, UInt32.toNat_add, UInt32.toNat_div,
    UInt64.toNat_toUInt32, filetimeToUlonglong_toNat]
  have divisor : (10000 : UInt32).toNat = 10000 := rfl
  rw [divisor]
  omega

/-- No reading exceeds twice the largest 32-bit count in milliseconds. -/
def readingCeiling : Nat := 858992

theorem getProcessKernelPlusUserTime_le (kernelTime userTime : Filetime) :
    (getProcessKernelPlusUserTime kernelTime userTime).toNat ≤ readingCeiling := by
  rw [getProcessKernelPlusUserTime_toNat]
  unfold readingCeiling
  omega

/-! ## The stop condition on time -/

theorem overTime_iff {timeLimit workTime timer : SizeT} :
    overTime timeLimit workTime timer = true ↔
      timeLimit.toNat < workTime.toNat ∨ workTime.toNat + 2048 < timer.toNat ∨
        timer.toNat + 2048 < workTime.toNat := by
  have eps : epsTime.toNat = 2048 := rfl
  simp only [overTime, timeDifference, eps, decide_eq_true_eq, gt_iff_lt, UInt32.lt_iff_toNat_lt]
  omega

/-- A poll is late when more ticks have passed than any reading within the limit
can account for. -/
def Late (timeLimit timeStart tickCount : SizeT) : Prop :=
  min timeLimit.toNat readingCeiling + 2048 < (tickCount - timeStart).toNat

/-- A late turn is over time, whatever the clocks say. -/
theorem overTime_of_late {timeLimit timeStart tickCount : SizeT} (kernelTime userTime : Filetime)
    (late : Late timeLimit timeStart tickCount) :
    overTime timeLimit (getProcessKernelPlusUserTime kernelTime userTime)
      (tickCount - timeStart) = true := by
  have bounded := getProcessKernelPlusUserTime_le kernelTime userTime
  unfold Late at late
  rw [overTime_iff]
  omega

/-- The macro `max` on `size_t`. -/
theorem toNat_max (left right : SizeT) : (max left right).toNat = max left.toNat right.toNat := by
  have unfolded : max left right = if left ≤ right then right else left := rfl
  rw [unfolded]
  split
  · next ordered =>
      rw [UInt32.le_iff_toNat_le] at ordered
      omega
  · next reversed =>
      rw [UInt32.le_iff_toNat_le] at reversed
      omega

/-! ## One turn of the contestant's monitor -/

/-- Everything a turn of the contestant's monitor can do. -/
inductive ExecuteTurn (timeLimit memoryLimit timeStart : SizeT) (meter : Meter) (poll : Poll) :
    Meter × Option RequestType → Prop where
  | slow (active : poll.exitCode = stillActive)
      (excess : overTime timeLimit (getProcessKernelPlusUserTime poll.kernelTime poll.userTime)
        (poll.tickCount - timeStart) = true) :
      ExecuteTurn timeLimit memoryLimit timeStart meter poll
        ({ meter with workTime := getProcessKernelPlusUserTime poll.kernelTime poll.userTime },
          some .tle)
  | big (active : poll.exitCode = stillActive)
      (inTime : overTime timeLimit (getProcessKernelPlusUserTime poll.kernelTime poll.userTime)
        (poll.tickCount - timeStart) = false)
      (excess : max meter.memory (getMemoryUsage poll) = -1 ∨
        max meter.memory (getMemoryUsage poll) > memoryLimit) :
      ExecuteTurn timeLimit memoryLimit timeStart meter poll
        ({ workTime := getProcessKernelPlusUserTime poll.kernelTime poll.userTime,
           memory := max meter.memory (getMemoryUsage poll) }, some .mle)
  | goesOn (active : poll.exitCode = stillActive)
      (inTime : overTime timeLimit (getProcessKernelPlusUserTime poll.kernelTime poll.userTime)
        (poll.tickCount - timeStart) = false)
      (known : max meter.memory (getMemoryUsage poll) ≠ -1)
      (inMemory : max meter.memory (getMemoryUsage poll) ≤ memoryLimit) :
      ExecuteTurn timeLimit memoryLimit timeStart meter poll
        ({ workTime := getProcessKernelPlusUserTime poll.kernelTime poll.userTime,
           memory := max meter.memory (getMemoryUsage poll) }, none)
  | exited (zero : poll.exitCode = 0) :
      ExecuteTurn timeLimit memoryLimit timeStart meter poll (meter, some .correct)
  | crashed (ended : poll.exitCode ≠ stillActive) (nonzero : poll.exitCode ≠ 0) :
      ExecuteTurn timeLimit memoryLimit timeStart meter poll (meter, some .crash)

theorem executeStep_turn (timeLimit memoryLimit timeStart : SizeT) (meter : Meter) (poll : Poll) :
    ExecuteTurn timeLimit memoryLimit timeStart meter poll
      (executeStep timeLimit memoryLimit timeStart meter poll) := by
  unfold executeStep
  by_cases active : poll.exitCode = stillActive
  · simp only [active, ↓reduceIte]
    split
    · next excess => exact .slow active excess
    · next inTime =>
        rw [Bool.not_eq_true] at inTime
        split
        · next excess => exact .big active inTime excess
        · next within =>
            rw [not_or] at within
            exact .goesOn active inTime within.1 (UInt32.not_lt.mp within.2)
  · simp only [active, ↓reduceIte]
    split
    · next zero => exact .exited zero
    · next nonzero => exact .crashed active nonzero

/-- The turn behind an equation about the step. -/
theorem ExecuteTurn.of_step {timeLimit memoryLimit timeStart : SizeT} {meter : Meter} {poll : Poll}
    {outcome : Meter × Option RequestType}
    (step : (executeMonitor timeLimit memoryLimit timeStart).step meter poll = outcome) :
    ExecuteTurn timeLimit memoryLimit timeStart meter poll outcome :=
  step ▸ executeStep_turn timeLimit memoryLimit timeStart meter poll

/-- A late turn that finds the program running ends the loop with a TLE verdict. -/
theorem executeStep_late {timeLimit timeStart : SizeT} {poll : Poll} (memoryLimit : SizeT)
    (meter : Meter)
    (active : poll.exitCode = stillActive) (late : Late timeLimit timeStart poll.tickCount) :
    ∃ next, (executeMonitor timeLimit memoryLimit timeStart).step meter poll =
      (next, some .tle) := by
  refine ⟨{ meter with
    workTime := getProcessKernelPlusUserTime poll.kernelTime poll.userTime }, ?_⟩
  have excess := overTime_of_late poll.kernelTime poll.userTime late
  simp only [executeMonitor, executeStep, active, ↓reduceIte, excess]

/-! ## One turn of the checker's monitor -/

/-- Everything a turn of the checker's monitor can do. -/
inductive CheckerTurn (timeStart : SizeT) (exitCode : Dword) (poll : CheckerPoll) :
    Dword × Option SizeT → Prop where
  | slow (active : poll.exitCode.getD exitCode = stillActive)
      (excess : overTime checkerTimeLimit
        (getProcessKernelPlusUserTime poll.kernelTime poll.userTime)
        (poll.tickCount - timeStart) = true) :
      CheckerTurn timeStart exitCode poll (stillActive, some (-1))
  | goesOn (active : poll.exitCode.getD exitCode = stillActive)
      (inTime : overTime checkerTimeLimit
        (getProcessKernelPlusUserTime poll.kernelTime poll.userTime)
        (poll.tickCount - timeStart) = false) :
      CheckerTurn timeStart exitCode poll (stillActive, none)
  | ended (code : Dword) (read : poll.exitCode.getD exitCode = code) (known : code ≤ 4) :
      CheckerTurn timeStart exitCode poll (code, some code)
  | failed (code : Dword) (read : poll.exitCode.getD exitCode = code) (ended : code ≠ stillActive)
      (unknown : 4 < code) :
      CheckerTurn timeStart exitCode poll (code, some (-1))

theorem checkerStep_turn (timeStart : SizeT) (exitCode : Dword) (poll : CheckerPoll) :
    CheckerTurn timeStart exitCode poll (checkerStep timeStart exitCode poll) := by
  -- The loop repeats the computation of `get_process_kernel_plus_user_time`.
  have unfolded : checkerStep timeStart exitCode poll =
      if poll.exitCode.getD exitCode = stillActive then
        if overTime checkerTimeLimit
            (getProcessKernelPlusUserTime poll.kernelTime poll.userTime)
            (poll.tickCount - timeStart) then (poll.exitCode.getD exitCode, some (-1))
        else (poll.exitCode.getD exitCode, none)
      else if poll.exitCode.getD exitCode ≤ 4 then
        (poll.exitCode.getD exitCode, some (poll.exitCode.getD exitCode))
      else (poll.exitCode.getD exitCode, some (-1)) := rfl
  rw [unfolded]
  by_cases active : poll.exitCode.getD exitCode = stillActive
  · simp only [active, ↓reduceIte]
    split
    · next excess => exact .slow active excess
    · next inTime => exact .goesOn active (Bool.not_eq_true _ ▸ inTime)
  · simp only [active, ↓reduceIte]
    split
    · next known => exact .ended _ rfl known
    · next unknown => exact .failed _ rfl active (UInt32.not_le.mp unknown)

/-- The turn behind an equation about the step. -/
theorem CheckerTurn.of_step {timeStart : SizeT} {exitCode : Dword} {poll : CheckerPoll}
    {outcome : Dword × Option SizeT}
    (step : (checkerMonitor timeStart).step exitCode poll = outcome) :
    CheckerTurn timeStart exitCode poll outcome :=
  step ▸ checkerStep_turn timeStart exitCode poll

/-- A late turn that finds the checker running ends the loop with -1. -/
theorem checkerStep_late {timeStart : SizeT} {exitCode : Dword} {poll : CheckerPoll}
    (active : poll.exitCode.getD exitCode = stillActive)
    (late : Late checkerTimeLimit timeStart poll.tickCount) :
    (checkerMonitor timeStart).step exitCode poll = (stillActive, some (-1)) := by
  have turn := checkerStep_turn timeStart exitCode poll
  have excess := overTime_of_late poll.kernelTime poll.userTime late
  change CheckerTurn timeStart exitCode poll ((checkerMonitor timeStart).step exitCode poll) at turn
  generalize (checkerMonitor timeStart).step exitCode poll = outcome at turn
  cases turn with
  | slow _ _ => rfl
  | goesOn _ inTime => rw [excess] at inTime; cases inTime
  | ended _ read known =>
      rw [active] at read
      subst read
      exact absurd known (by decide)
  | failed _ read ended _ => exact absurd (read.symm.trans active) ended

end CheckerOlimp.CheckerRc
