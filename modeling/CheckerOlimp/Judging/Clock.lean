import CheckerOlimp.Judging.Definedness
import CheckerOlimp.Judging.Grading
import CheckerOlimp.Judging.Handles

/-!
# The monitors and the clock

Neither loop of the judge counts its turns, and the tick count that they go by has 32 bits and
starts anywhere. If every call takes some time, and none takes so long that the count can jump
over all the readings that are late, both loops end: on every process, whatever the limits.
-/

namespace CheckerOlimp.CheckerRc

open CheckerOlimp.Std

variable {World : Type}

/-! ## The ticks since the start -/

/-- The timer when the clock is at `time`. -/
def elapsed (ticks : Nat → Nat) (timeStart : SizeT) (time : Nat) : Nat :=
  (UInt32.ofNat (ticks time) - timeStart).toNat

/-- The timer goes with the ticks as long as it does not overflow. -/
theorem elapsed_add {ticks : Nat → Nat} {timeStart : SizeT} {time later : Nat}
    (after : ticks time ≤ ticks later)
    (fits : elapsed ticks timeStart time + (ticks later - ticks time) < 2 ^ 32) :
    elapsed ticks timeStart later =
      elapsed ticks timeStart time + (ticks later - ticks time) := by
  have started := timeStart.toNat_lt
  simp only [elapsed, UInt32.toNat_sub, UInt32.toNat_ofNat'] at *
  omega

/-- The timer at which every reading is late, whatever the limit. -/
def lateFrom : Nat := readingCeiling + 2049

/-- A reading that is in time is not late. -/
theorem elapsed_lt_of_inTime {ticks : Nat → Nat} {timeLimit timeStart : SizeT} {time : Nat}
    (kernelTime userTime : Filetime)
    (inTime : overTime timeLimit (getProcessKernelPlusUserTime kernelTime userTime)
      (UInt32.ofNat (ticks time) - timeStart) = false) :
    elapsed ticks timeStart time < lateFrom := by
  by_contra ended
  have late : Late timeLimit timeStart (UInt32.ofNat (ticks time)) := by
    unfold elapsed lateFrom at ended
    unfold Late
    omega
  rw [overTime_of_late kernelTime userTime late] at inTime
  cases inTime

/-! ## Kernels with a clock -/

/-- A call takes some time, and at most so many ticks. -/
structure Spends (clock : World → Nat) (ticks : Nat → Nat) (leap : Nat) (before after : World) :
    Prop where
  later : clock before < clock after
  soon : ticks (clock after) ≤ ticks (clock before) + leap

/-- The kernel has a clock, and `GetTickCount` gives the lower half of its ticks. They go on with
every period, and four calls are far from a whole round of the count. -/
structure Kernel.Clocked (kernel : Kernel World) (clock : World → Nat) (ticks : Nat → Nat)
    (period leap : Nat) : Prop where
  counts : ∀ world, (kernel.getTickCount world).1 = UInt32.ofNat (ticks (clock world))
  monotone : ∀ {time later}, time ≤ later → ticks time ≤ ticks later
  goesOn : ∀ time, ticks time < ticks (time + period)
  short : lateFrom + 4 * leap < 2 ^ 32
  exitCode : ∀ process world,
    Spends clock ticks leap world (kernel.getExitCodeProcess process world).2
  times : ∀ process world, Spends clock ticks leap world (kernel.getProcessTimes process world).2
  memory : ∀ process world,
    Spends clock ticks leap world (kernel.getProcessMemoryInfo process world).2
  tick : ∀ world, Spends clock ticks leap world (kernel.getTickCount world).2

section Clocked

variable {kernel : Kernel World} {clock : World → Nat} {ticks : Nat → Nat} {period leap : Nat}

theorem Kernel.Clocked.goesOn_mul (clocked : kernel.Clocked clock ticks period leap)
    (time count : Nat) : ticks time + count ≤ ticks (time + period * count) := by
  induction count with
  | zero => exact Nat.le_refl _
  | succ count inductionHypothesis =>
      have next := clocked.goesOn (time + period * count)
      have periods : time + period * (count + 1) = time + period * count + period := by
        rw [Nat.mul_succ, Nat.add_assoc]
      rw [periods]
      omega

/-- A turn that goes on: it has read the clock between the two worlds, and the reading was not
late. -/
def GoesOn (clock : World → Nat) (ticks : Nat → Nat) (leap : Nat) (timeStart : SizeT)
    (before after : World) : Prop :=
  ∃ time, clock before < time ∧ ticks time ≤ ticks (clock before) + 2 * leap ∧
    elapsed ticks timeStart time < lateFrom ∧
    time < clock after ∧ ticks (clock after) ≤ ticks time + 2 * leap

/-- At most so many more turns can go on: the last reading was not late, and after so much time
the next one is. -/
def Waits (clock : World → Nat) (ticks : Nat → Nat) (leap : Nat) (timeStart : SizeT)
    (turns : Nat) (world : World) : Prop :=
  ∃ time, time ≤ clock world ∧ ticks (clock world) ≤ ticks time + 2 * leap ∧
    elapsed ticks timeStart time < lateFrom ∧
    ticks time + lateFrom ≤ ticks (time + turns) + elapsed ticks timeStart time

theorem not_waits_zero (timeStart : SizeT) (world : World) :
    ¬ Waits clock ticks leap timeStart 0 world := by
  rintro ⟨time, _, _, inTime, done⟩
  rw [Nat.add_zero] at done
  omega

/-- A turn that goes on leaves one turn less. -/
theorem Waits.turn (clocked : kernel.Clocked clock ticks period leap) {timeStart : SizeT}
    {turns : Nat} {before after : World}
    (waits : Waits clock ticks leap timeStart (turns + 1) before)
    (goesOn : GoesOn clock ticks leap timeStart before after) :
    Waits clock ticks leap timeStart turns after := by
  obtain ⟨time, past, near, inTime, done⟩ := waits
  obtain ⟨next, later, soon, inTime', earlier, near'⟩ := goesOn
  have short := clocked.short
  have ordered : ticks time ≤ ticks next := clocked.monotone (by omega)
  have onwards : ticks (time + (turns + 1)) ≤ ticks (next + turns) := clocked.monotone (by omega)
  have added : elapsed ticks timeStart next =
      elapsed ticks timeStart time + (ticks next - ticks time) :=
    elapsed_add ordered (by omega)
  exact ⟨next, Nat.le_of_lt earlier, near', inTime', by omega⟩

/-- After one turn from anywhere there is a last one. -/
theorem waits_of_goesOn (clocked : kernel.Clocked clock ticks period leap) {timeStart : SizeT}
    {before after : World} (goesOn : GoesOn clock ticks leap timeStart before after) :
    Waits clock ticks leap timeStart (period * lateFrom) after := by
  obtain ⟨time, _, _, inTime, earlier, near⟩ := goesOn
  have onwards := clocked.goesOn_mul time lateFrom
  exact ⟨time, Nat.le_of_lt earlier, near, inTime, by omega⟩

/-! ## The turns of the two loops -/

theorem Kernel.Clocked.exitCode_spends (clocked : kernel.Clocked clock ticks period leap)
    (process : Handle) (world : World) :
    Spends clock ticks leap world (kernel.exitCode process world).2 := by
  have spends := clocked.exitCode process world
  unfold Kernel.exitCode
  cases asked : kernel.getExitCodeProcess process world with
  | mk written after =>
      rw [asked] at spends
      cases written with
      | none => exact spends
      | some exitCode => exact spends

/-- A turn of the contestant's loop that goes on. -/
theorem poll_goesOn (clocked : kernel.Clocked clock ticks period leap) {process : Handle}
    {timeLimit memoryLimit timeStart : SizeT} {meter next : Meter} {world : World}
    (turn : (executeMonitor timeLimit memoryLimit timeStart).step meter
      (kernel.poll process timeLimit memoryLimit timeStart meter world).1 = (next, none)) :
    GoesOn clock ticks leap timeStart world
      (kernel.poll process timeLimit memoryLimit timeStart meter world).2 := by
  have asked := clocked.exitCode_spends process world
  unfold Kernel.poll at turn ⊢
  by_cases active : (kernel.exitCode process world).1 = stillActive
  · simp only [active, ↓reduceIte] at turn ⊢
    generalize (kernel.exitCode process world).2 = world₁ at *
    have timed := clocked.times process world₁
    generalize kernel.getProcessTimes process world₁ = times at *
    have counted := clocked.tick times.2
    have count := clocked.counts times.2
    generalize kernel.getTickCount times.2 = read at *
    have sized := clocked.memory process read.2
    generalize kernel.getProcessMemoryInfo process read.2 = size at *
    split at turn
    · next excess =>
        cases ExecuteTurn.of_step turn with
        | goesOn _ inTime _ _ => exact absurd excess (by simpa using inTime)
    · next inTime =>
        rw [Bool.not_eq_true] at inTime
        rw [if_neg (by simpa using inTime)]
        split at turn
        · next excess =>
            cases ExecuteTurn.of_step turn with
            | goesOn _ _ known inMemory =>
                rw [getMemoryUsage_eq] at known inMemory
                exact absurd excess (not_or.mpr ⟨known, UInt32.not_lt.mpr inMemory⟩)
        · next within =>
            rw [if_neg within]
            rw [count] at inTime
            refine ⟨clock times.2, ?_, ?_, elapsed_lt_of_inTime _ _ inTime, ?_, ?_⟩
            · exact Nat.lt_trans asked.later timed.later
            · have asked := asked.soon
              have timed := timed.soon
              omega
            · exact Nat.lt_trans counted.later sized.later
            · have counted := counted.soon
              exact Nat.le_trans sized.soon (by omega)
  · simp only [active, ↓reduceIte] at turn
    cases ExecuteTurn.of_step turn with
    | goesOn running _ _ _ => exact absurd running active

/-- A turn of the checker's loop that goes on. -/
theorem checkerPoll_goesOn (clocked : kernel.Clocked clock ticks period leap) {process : Handle}
    {timeStart : SizeT} {exitCode next : Dword} {world : World}
    (turn : (checkerMonitor timeStart).step exitCode
      (kernel.checkerPoll process timeStart exitCode world).1 = (next, none)) :
    GoesOn clock ticks leap timeStart world
      (kernel.checkerPoll process timeStart exitCode world).2 := by
  have asked := clocked.exitCode process world
  unfold Kernel.checkerPoll at turn ⊢
  generalize kernel.getExitCodeProcess process world = written at *
  by_cases active : written.1.getD exitCode = stillActive
  · simp only [active, ↓reduceIte] at turn ⊢
    have timed := clocked.times process written.2
    generalize kernel.getProcessTimes process written.2 = times at *
    have counted := clocked.tick times.2
    have count := clocked.counts times.2
    generalize kernel.getTickCount times.2 = read at *
    split at turn
    · next excess =>
        cases CheckerTurn.of_step turn with
        | goesOn _ inTime => exact absurd excess (by simpa using inTime)
    · next inTime =>
        rw [Bool.not_eq_true] at inTime
        rw [if_neg (by simpa using inTime)]
        rw [count] at inTime
        refine ⟨clock times.2, ?_, ?_, elapsed_lt_of_inTime _ _ inTime, counted.later, ?_⟩
        · exact Nat.lt_trans asked.later timed.later
        · have asked := asked.soon
          have timed := timed.soon
          omega
        · exact Nat.le_trans counted.soon (by omega)
  · simp only [active, ↓reduceIte] at turn
    cases CheckerTurn.of_step turn with
    | goesOn running _ => exact absurd running active

/-! ## The loops end -/

/-- Turns enough for both loops. -/
def turnsFor (period : Nat) : Nat := period * lateFrom + 1

/-- A loop whose turns go by the clock ends. -/
theorem drive_clocked {Meter Reading Verdict : Type}
    (clocked : kernel.Clocked clock ticks period leap)
    (monitor : Monitor Meter Reading Verdict) (take : Meter → World → Reading × World)
    (timeStart : SizeT)
    (turns : ∀ meter world next, monitor.step meter (take meter world).1 = (next, none) →
      GoesOn clock ticks leap timeStart world (take meter world).2)
    (meter : Meter) (world : World) :
    ∃ ended after, monitor.drive take (turnsFor period) meter world = (some ended, after) := by
  rw [turnsFor, Monitor.drive]
  cases turn : monitor.step meter (take meter world).1 with
  | mk next verdict =>
      cases verdict with
      | some verdict => exact ⟨_, _, rfl⟩
      | none =>
          refine Monitor.drive_ends (not_waits_zero timeStart) ?_
            (waits_of_goesOn clocked (turns meter world next turn)) next
          intro count meter world next waits turn
          exact waits.turn clocked (turns meter world next turn)

/-- Both loops end on every process, whatever the limits are, and wherever the tick count
starts. -/
theorem Kernel.Clocked.ends (clocked : kernel.Clocked clock ticks period leap) {turns : Nat}
    (enough : turnsFor period ≤ turns) (timeLimit memoryLimit : SizeT) :
    kernel.Ends turns timeLimit memoryLimit where
  contestant piProcInfo timeStart world := by
    obtain ⟨ended, after, ran⟩ := drive_clocked clocked
      (executeMonitor timeLimit memoryLimit timeStart)
      (kernel.poll piProcInfo.hProcess timeLimit memoryLimit timeStart) timeStart
      (fun _ _ _ turn => poll_goesOn clocked turn) ⟨0, 0⟩ world
    refine ⟨ended, after, ?_⟩
    rw [watch_eq_loop]
    exact Monitor.returns_loop_iff.mpr (Monitor.drive_of_le ran enough)
  checker piProcInfo timeStart world := by
    obtain ⟨ended, after, ran⟩ := drive_clocked clocked (checkerMonitor timeStart)
      (kernel.checkerPoll piProcInfo.hProcess timeStart) timeStart
      (fun _ _ _ turn => checkerPoll_goesOn clocked turn) 0 world
    refine ⟨ended.2, after, ?_⟩
    rw [watchProgram_eq_loop]
    exact (Monitor.returns_loop_iff.mpr (Monitor.drive_of_le ran enough)).bind rfl

end Clocked

/-! ## The judge ends -/

section Judging

variable {kernel : Kernel World} {turns : Nat} {timeLimit memoryLimit : SizeT}

end Judging

/-! ## A sample of processes without end -/

end CheckerOlimp.CheckerRc
