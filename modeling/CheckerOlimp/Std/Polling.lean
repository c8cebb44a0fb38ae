import CheckerOlimp.Std.Program
import Mathlib.Data.List.Basic

/-!
# Monitors over a trace of readings

A monitor takes one reading a turn, updates its meter and either goes on or
stops with a verdict. `Monitor.run` consumes the readings one by one;
`Monitor.survive` is the meter left by readings that all let it go on. The run
rules turn facts about one turn into facts about every turn before the verdict.
-/

namespace CheckerOlimp.Std

/-- A monitor: one turn updates the meter, and may end the loop with a verdict. -/
structure Monitor (Meter Reading Verdict : Type) where
  step : Meter → Reading → Meter × Option Verdict

namespace Monitor

variable {Meter Reading Verdict : Type} (monitor : Monitor Meter Reading Verdict)

/-- Turns until the first verdict; `none` when the readings end before there is one. -/
def run (meter : Meter) : List Reading → Option (Meter × Verdict)
  | [] => none
  | reading :: rest =>
    match monitor.step meter reading with
    | (next, some verdict) => some (next, verdict)
    | (next, none) => run next rest

/-- The meter after readings none of which ends the loop. -/
def survive (meter : Meter) : List Reading → Option Meter
  | [] => some meter
  | reading :: rest =>
    match monitor.step meter reading with
    | (_, some _) => none
    | (next, none) => survive next rest

variable {monitor}

@[simp] theorem survive_nil {meter : Meter} : monitor.survive meter [] = some meter := rfl

/-- One survived turn, and the rest from the meter it left. -/
theorem survive_cons_iff {meter last : Meter} {reading : Reading} {rest : List Reading} :
    monitor.survive meter (reading :: rest) = some last ↔
      ∃ next, monitor.step meter reading = (next, none) ∧
        monitor.survive next rest = some last := by
  cases turn : monitor.step meter reading with
  | mk next verdict =>
      cases verdict with
      | none => simp [survive, turn]
      | some verdict => simp [survive, turn]

/-- The loop ends at exactly one reading, all earlier ones survived. -/
theorem run_eq_some_iff {meter last : Meter} {verdict : Verdict} {readings : List Reading} :
    monitor.run meter readings = some (last, verdict) ↔
      ∃ earlier final later current, readings = earlier ++ final :: later ∧
        monitor.survive meter earlier = some current ∧
          monitor.step current final = (last, some verdict) := by
  induction readings generalizing meter with
  | nil => simp [run]
  | cons reading rest inductionHypothesis =>
      cases turn : monitor.step meter reading with
      | mk next ended =>
          cases ended with
          | some early =>
              simp only [run, turn, Option.some.injEq, Prod.mk.injEq]
              constructor
              · rintro ⟨rfl, rfl⟩
                exact ⟨[], reading, rest, meter, rfl, rfl, turn⟩
              · rintro ⟨earlier, final, later, current, split, survived, final_turn⟩
                cases earlier with
                | nil =>
                    cases split
                    cases survived
                    rw [turn] at final_turn
                    simpa using final_turn
                | cons head tail =>
                    cases split
                    obtain ⟨_, continued, _⟩ := survive_cons_iff.mp survived
                    rw [turn] at continued
                    cases continued
          | none =>
              simp only [run, turn]
              rw [inductionHypothesis]
              constructor
              · rintro ⟨earlier, final, later, current, rfl, survived, final_turn⟩
                exact ⟨reading :: earlier, final, later, current, rfl,
                  survive_cons_iff.mpr ⟨next, turn, survived⟩, final_turn⟩
              · rintro ⟨earlier, final, later, current, split, survived, final_turn⟩
                cases earlier with
                | nil =>
                    cases split
                    cases survived
                    rw [turn] at final_turn
                    cases final_turn
                | cons head tail =>
                    cases split
                    obtain ⟨middle, continued, survived'⟩ := survive_cons_iff.mp survived
                    rw [turn] at continued
                    cases continued
                    exact ⟨tail, final, later, current, rfl, survived', final_turn⟩

/-- What every survived turn preserves holds of the meter that is left. -/
theorem survive_invariant {invariant : Meter → Prop}
    (preserved : ∀ meter reading next, invariant meter →
      monitor.step meter reading = (next, none) → invariant next)
    {meter last : Meter} {readings : List Reading} (start : invariant meter)
    (survived : monitor.survive meter readings = some last) : invariant last := by
  induction readings generalizing meter with
  | nil =>
      cases survived
      exact start
  | cons reading rest inductionHypothesis =>
      obtain ⟨next, turn, survived'⟩ := survive_cons_iff.mp survived
      exact inductionHypothesis (preserved _ _ _ start turn) survived'

/-- What every turn that goes on demands of its reading holds of every survived reading. -/
theorem survive_forall {passes : Reading → Prop}
    (demanded : ∀ meter reading next, monitor.step meter reading = (next, none) →
      passes reading)
    {meter last : Meter} {readings : List Reading}
    (survived : monitor.survive meter readings = some last) :
    ∀ reading ∈ readings, passes reading := by
  induction readings generalizing meter with
  | nil => simp
  | cons reading rest inductionHypothesis =>
      obtain ⟨next, turn, survived'⟩ := survive_cons_iff.mp survived
      intro other member
      rcases List.mem_cons.mp member with rfl | member
      · exact demanded _ _ _ turn
      · exact inductionHypothesis survived' other member

/-- Survival of a longer trace, cut at any point. -/
theorem survive_append_iff {meter last : Meter} {first second : List Reading} :
    monitor.survive meter (first ++ second) = some last ↔
      ∃ middle, monitor.survive meter first = some middle ∧
        monitor.survive middle second = some last := by
  induction first generalizing meter with
  | nil => simp
  | cons reading rest inductionHypothesis =>
      simp only [List.cons_append, survive_cons_iff, inductionHypothesis]
      constructor
      · rintro ⟨next, turn, middle, survived, survived'⟩
        exact ⟨middle, ⟨next, turn, survived⟩, survived'⟩
      · rintro ⟨middle, ⟨next, turn, survived⟩, survived'⟩
        exact ⟨next, turn, middle, survived, survived'⟩

/-- A trace is either survived whole or ends the loop. -/
theorem survive_or_run (monitor : Monitor Meter Reading Verdict) (meter : Meter)
    (readings : List Reading) :
    (∃ last, monitor.survive meter readings = some last) ∨
      ∃ last verdict, monitor.run meter readings = some (last, verdict) := by
  induction readings generalizing meter with
  | nil => exact .inl ⟨meter, rfl⟩
  | cons reading rest inductionHypothesis =>
      cases turn : monitor.step meter reading with
      | mk next ended =>
          cases ended with
          | some verdict => exact .inr ⟨next, verdict, by simp [run, turn]⟩
          | none => simpa [run, survive, turn] using inductionHypothesis next

/-- A reading that no meter survives ends the loop, at itself or before. -/
theorem run_of_fatal {fatal : Reading} {readings : List Reading} (meter : Meter)
    (ends : ∀ meter next, monitor.step meter fatal ≠ (next, none))
    (member : fatal ∈ readings) :
    ∃ last verdict, monitor.run meter readings = some (last, verdict) := by
  rcases survive_or_run monitor meter readings with ⟨last, survived⟩ | ended
  · obtain ⟨earlier, later, rfl⟩ := List.append_of_mem member
    obtain ⟨middle, _, survived'⟩ := survive_append_iff.mp survived
    obtain ⟨next, turn, _⟩ := survive_cons_iff.mp survived'
    exact absurd turn (ends middle next)
  · exact ended

/-! ## Monitors that take their own readings

A monitor that works on a world takes each reading from it. What it ends with is what the
monitor ends with on the readings that it has taken. -/

section Driven

variable {World : Type}

/-- At most so many turns, each with a reading taken from the world: what they end with, if
they do, and the world that they leave. -/
def drive (monitor : Monitor Meter Reading Verdict) (take : Meter → World → Reading × World) :
    Nat → Meter → World → Option (Meter × Verdict) × World
  | 0, _, world => (none, world)
  | turns + 1, meter, world =>
    match monitor.step meter (take meter world).1 with
    | (next, some verdict) => (some (next, verdict), (take meter world).2)
    | (next, none) => drive monitor take turns next (take meter world).2

/-- The readings that are taken. -/
def record (monitor : Monitor Meter Reading Verdict) (take : Meter → World → Reading × World) :
    Nat → Meter → World → List Reading
  | 0, _, _ => []
  | turns + 1, meter, world =>
    match monitor.step meter (take meter world).1 with
    | (_, some _) => [(take meter world).1]
    | (next, none) => (take meter world).1 :: record monitor take turns next (take meter world).2

theorem run_record (monitor : Monitor Meter Reading Verdict)
    (take : Meter → World → Reading × World) (turns : Nat) (meter : Meter) (world : World) :
    monitor.run meter (monitor.record take turns meter world) =
      (monitor.drive take turns meter world).1 := by
  induction turns generalizing meter world with
  | zero => rfl
  | succ turns inductionHypothesis =>
      cases turn : monitor.step meter (take meter world).1 with
      | mk next ended =>
          cases ended with
          | some verdict => simp [record, drive, run, turn]
          | none => simp [record, drive, run, turn, inductionHypothesis]

/-- The turns as a program, which stops when there are no more of them. -/
def loop {Reason : Type} (monitor : Monitor Meter Reading Verdict)
    (take : Meter → World → Reading × World) (reason : Reason) :
    Nat → Meter → Program Reason World (Meter × Verdict)
  | 0, _ => Program.stop reason
  | turns + 1, meter => do
    let reading ← Program.call (take meter)
    match monitor.step meter reading with
    | (next, some verdict) => pure (next, verdict)
    | (next, none) => loop monitor take reason turns next

theorem run_loop {Reason : Type} (monitor : Monitor Meter Reading Verdict)
    (take : Meter → World → Reading × World) (reason : Reason) (turns : Nat) (meter : Meter)
    (world : World) :
    (monitor.loop take reason turns meter).run world =
      match monitor.drive take turns meter world with
      | (some ended, after) => .ok ended after
      | (none, after) => .error reason after := by
  induction turns generalizing meter world with
  | zero => rfl
  | succ turns inductionHypothesis =>
      rw [loop, drive, EStateM.run_bind, Program.run_call]
      cases turn : monitor.step meter (take meter world).1 with
      | mk next ended =>
          cases ended with
          | some verdict => simp only [turn]; rfl
          | none =>
              simp only [turn]
              exact inductionHypothesis next (take meter world).2

/-- A loop that ends does not need more turns. -/
theorem drive_of_le {monitor : Monitor Meter Reading Verdict}
    {take : Meter → World → Reading × World} {turns more : Nat} {meter : Meter}
    {world after : World} {ended : Meter × Verdict}
    (ends : monitor.drive take turns meter world = (some ended, after)) (enough : turns ≤ more) :
    monitor.drive take more meter world = (some ended, after) := by
  induction turns generalizing more meter world with
  | zero => cases ends
  | succ turns inductionHypothesis =>
      obtain ⟨more, rfl⟩ : ∃ left, more = left + 1 := ⟨more - 1, by omega⟩
      rw [drive] at ends ⊢
      cases turn : monitor.step meter (take meter world).1 with
      | mk next verdict =>
          rw [turn] at ends
          cases verdict with
          | some verdict => exact ends
          | none => exact inductionHypothesis ends (Nat.le_of_succ_le_succ enough)

/-- The program returns what the turns end with. -/
theorem returns_loop_iff {Reason : Type} {monitor : Monitor Meter Reading Verdict}
    {take : Meter → World → Reading × World} {reason : Reason} {turns : Nat} {meter : Meter}
    {world after : World} {ended : Meter × Verdict} :
    Program.Returns (monitor.loop take reason turns meter) world ended after ↔
      monitor.drive take turns meter world = (some ended, after) := by
  unfold Program.Returns
  rw [run_loop]
  split
  · next result left driven => simp [driven]
  · next left driven => simp [driven]

theorem returns_loop_of_le {Reason : Type} {monitor : Monitor Meter Reading Verdict}
    {take : Meter → World → Reading × World} {reason : Reason} {turns more : Nat} {meter : Meter}
    {world after : World} {ended : Meter × Verdict}
    (returned : Program.Returns (monitor.loop take reason turns meter) world ended after)
    (enough : turns ≤ more) :
    Program.Returns (monitor.loop take reason more meter) world ended after :=
  returns_loop_iff.mpr (drive_of_le (returns_loop_iff.mp returned) enough)

/-- A loop ends when a count goes down on every turn that goes on, and none goes on from 0. -/
theorem drive_ends {monitor : Monitor Meter Reading Verdict}
    {take : Meter → World → Reading × World} {waits : Nat → World → Prop}
    (done : ∀ world, ¬ waits 0 world)
    (less : ∀ turns meter world next, waits (turns + 1) world →
      monitor.step meter (take meter world).1 = (next, none) → waits turns (take meter world).2)
    {turns : Nat} {world : World} (now : waits turns world) (meter : Meter) :
    ∃ ended after, monitor.drive take turns meter world = (some ended, after) := by
  induction turns generalizing meter world with
  | zero => exact absurd now (done world)
  | succ turns inductionHypothesis =>
      rw [drive]
      cases turn : monitor.step meter (take meter world).1 with
      | mk next verdict =>
          cases verdict with
          | some verdict => exact ⟨_, _, rfl⟩
          | none => exact inductionHypothesis (less turns meter world next now turn) next

end Driven

end Monitor
end CheckerOlimp.Std
