import CheckerOlimp.Contester.ConfigRoundTrip
import CheckerOlimp.Contester.Loading

/-!
# The pause between two polls

A turn of `main` reads the clock when it starts, when it decides whether to sleep, and
once more for the length of the pause. Time goes on between the readings: when the last
one is past the end of the turn, the pause is a negative number, which `Sleep` takes as
one of about 49 days.
-/

namespace CheckerOlimp.Contester

open CheckerOlimp.Std CheckerOlimp.CheckerRc

/-- `clock_t` on Win32. -/
abbrev ClockT := Int32

/-- What `main` works on: the site, the number of readings of the clock, and the
arguments of `Sleep`. -/
structure Paced (State : Type) where
  site : State
  readings : Nat
  pauses : List Dword

/-- How a run of `main` ends. -/
inductive Ended where
  /-- An exception that is not caught. -/
  | thrown (reason : Thrown)
  /-- A result that `clock_t` does not hold. -/
  | overflow
deriving DecidableEq, Repr

section Loop

variable {State : Type}

/-- `clock()`: the next reading. -/
def clock (reading : Nat → ClockT) : Program Ended (Paced State) ClockT :=
  Program.call fun paced => (reading paced.readings, { paced with readings := paced.readings + 1 })

/-- A result of signed arithmetic, undefined when it does not fit. -/
def signed (value : Int) : Program Ended (Paced State) ClockT :=
  if -2 ^ 31 ≤ value ∧ value < 2 ^ 31 then pure (Int32.ofInt value) else Program.stop .overflow

/-- `Sleep`. -/
def sleep (milliseconds : Dword) : Program Ended (Paced State) Unit :=
  Program.call fun paced => ((), { paced with pauses := paced.pauses ++ [milliseconds] })

/-- The end of a turn: `main` sleeps for what is left of `DELAY`. -/
def pause (reading : Nat → ClockT) (delay startTime : ClockT) :
    Program Ended (Paced State) Unit := do
  let endTime ← signed (startTime.toInt + delay.toInt)
  let now ← clock reading
  if now < endTime then
    let later ← clock reading
    let elapsed ← signed (later.toInt - startTime.toInt)
    let left ← signed (delay.toInt - elapsed.toInt)
    sleep left.toUInt32
  else pure ()

/-- One turn of the loop of `main` around a batch. -/
def mainTurn {α : Type} (batch : Program Thrown State α) (reading : Nat → ClockT) (delay : ClockT) :
    Program Ended (Paced State) Unit := do
  let startTime ← clock reading
  let _ ← Program.within Paced.site (fun paced site => { paced with site }) Ended.thrown batch
  pause reading delay startTime

/-- So many turns. -/
def mainTurns {α : Type} (batch : Program Thrown State α) (reading : Nat → ClockT)
    (delay : ClockT) : Nat → Program Ended (Paced State) Unit
  | 0 => pure ()
  | count + 1 => do
    mainTurn batch reading delay
    mainTurns batch reading delay count

/-- Before the first turn. -/
def Paced.start (site : State) : Paced State := ⟨site, 0, []⟩

/-- A run in which no result overflows and no pause is longer than the delay. -/
structure KeepsPace (delay : ClockT) (program : Program Ended (Paced State) Unit)
    (before : Paced State) : Prop where
  pauses : ∀ milliseconds ∈ (Program.finalStore program before).pauses,
    (milliseconds.toNat : Int) ≤ delay.toInt
  defined : ∀ after, ¬ Program.Stops program before .overflow after

end Loop

/-- The readings from the given one on, turn by turn: the end of the turn fits, and when it
is not reached at the second reading, it is not passed at the third. -/
def Timely (reading : Nat → ClockT) (delay : ClockT) : Nat → Nat → Prop
  | _, 0 => True
  | index, count + 1 =>
    let endTime := (reading index).toInt + delay.toInt
    endTime < 2 ^ 31 ∧
      if (reading (index + 1)).toInt < endTime then
        (reading (index + 2)).toInt ≤ endTime ∧ Timely reading delay (index + 3) count
      else Timely reading delay (index + 2) count

/-! ## The end of a turn -/

section Pause

variable {State : Type} {reading : Nat → ClockT} {delay : ClockT} {paced : Paced State}
  {startTime : ClockT}

theorem run_clock : (clock reading).run paced =
    .ok (reading paced.readings) { paced with readings := paced.readings + 1 } := rfl

theorem run_signed_of_fits {value : Int} (fits : -2 ^ 31 ≤ value ∧ value < 2 ^ 31) :
    (signed value).run paced = .ok (Int32.ofInt value) paced := by
  rw [signed, if_pos fits]
  rfl

theorem run_signed_of_not_fits {value : Int} (exceeds : ¬ (-2 ^ 31 ≤ value ∧ value < 2 ^ 31)) :
    (signed value).run paced = .error .overflow paced := by
  rw [signed, if_neg exceeds]
  rfl

/-- A negative argument of `Sleep` is a large one. -/
theorem toNat_toUInt32 (value : Int32) : (value.toUInt32.toNat : Int) =
    if 0 ≤ value.toInt then value.toInt else value.toInt + 2 ^ 32 := by
  have cases := BitVec.toInt_eq_toNat_cond value.toBitVec
  have bound := value.toUInt32.toNat_lt
  change value.toInt = _ at cases
  rw [Int32.toNat_toBitVec] at cases
  split at cases
  · rw [cases, if_pos (by omega)]
  · rw [cases, if_neg (by omega)]
    omega

/-- The end of the turn does not fit. -/
theorem run_pause_overflow (exceeds : ¬ startTime.toInt + delay.toInt < 2 ^ 31) :
    (pause reading delay startTime).run paced = .error .overflow paced := by
  unfold pause
  rw [EStateM.run_bind, run_signed_of_not_fits (fun fits => exceeds fits.2)]

variable (paced) (nonneg : 0 ≤ delay.toInt)

omit paced in
include nonneg in
theorem end_fits (fits : startTime.toInt + delay.toInt < 2 ^ 31) :
    -2 ^ 31 ≤ startTime.toInt + delay.toInt ∧ startTime.toInt + delay.toInt < 2 ^ 31 :=
  ⟨by have := startTime.le_toInt; omega, fits⟩

include nonneg in
/-- The turn has taken the whole delay. -/
theorem run_pause_late (fits : startTime.toInt + delay.toInt < 2 ^ 31)
    (late : ¬ (reading paced.readings).toInt < startTime.toInt + delay.toInt) :
    (pause reading delay startTime).run paced =
      .ok () { paced with readings := paced.readings + 1 } := by
  have ends := end_fits nonneg fits
  unfold pause
  rw [EStateM.run_bind, run_signed_of_fits ends]
  simp only
  rw [EStateM.run_bind, run_clock]
  simp only
  rw [if_neg]
  · rfl
  · rw [Int32.lt_iff_toInt_lt, Int32.toInt_ofInt_of_le ends.1 ends.2]
    exact late

include nonneg in
/-- The turn ends early: the rest of the delay is counted from the third reading. -/
theorem run_pause_early (fits : startTime.toInt + delay.toInt < 2 ^ 31)
    (early : (reading paced.readings).toInt < startTime.toInt + delay.toInt) :
    (pause reading delay startTime).run paced =
      ((do
        let elapsed ← signed ((reading (paced.readings + 1)).toInt - startTime.toInt)
        let left ← signed (delay.toInt - elapsed.toInt)
        sleep left.toUInt32) : Program Ended (Paced State) Unit).run
        { paced with readings := paced.readings + 2 } := by
  have ends := end_fits nonneg fits
  unfold pause
  rw [EStateM.run_bind, run_signed_of_fits ends]
  simp only
  rw [EStateM.run_bind, run_clock]
  simp only
  rw [if_pos]
  · rw [EStateM.run_bind, run_clock]
  · rw [Int32.lt_iff_toInt_lt, Int32.toInt_ofInt_of_le ends.1 ends.2]
    exact early

include nonneg in
/-- `main` sleeps when the time since the start of the turn fits. -/
theorem run_pause_sleeps {elapsed : Int} (fits : startTime.toInt + delay.toInt < 2 ^ 31)
    (early : (reading paced.readings).toInt < startTime.toInt + delay.toInt)
    (since : (reading (paced.readings + 1)).toInt - startTime.toInt = elapsed)
    (elapsedFits : -2 ^ 31 ≤ elapsed ∧ elapsed < 2 ^ 31)
    (leftFits : -2 ^ 31 ≤ delay.toInt - elapsed ∧ delay.toInt - elapsed < 2 ^ 31) :
    (pause reading delay startTime).run paced = .ok () ⟨paced.site, paced.readings + 2,
      paced.pauses ++ [(Int32.ofInt (delay.toInt - elapsed)).toUInt32]⟩ := by
  rw [run_pause_early paced nonneg fits early, EStateM.run_bind, since,
    run_signed_of_fits elapsedFits]
  simp only
  rw [EStateM.run_bind, Int32.toInt_ofInt_of_le elapsedFits.1 elapsedFits.2,
    run_signed_of_fits leftFits]
  rfl

include nonneg in
/-- A third reading within the turn gives a pause within the delay. -/
theorem run_pause_punctual (fits : startTime.toInt + delay.toInt < 2 ^ 31)
    (early : (reading paced.readings).toInt < startTime.toInt + delay.toInt)
    (later : startTime.toInt ≤ (reading (paced.readings + 1)).toInt)
    (punctual : (reading (paced.readings + 1)).toInt ≤ startTime.toInt + delay.toInt) :
    ∃ milliseconds : Dword, (milliseconds.toNat : Int) ≤ delay.toInt ∧
      (pause reading delay startTime).run paced = .ok ()
        ⟨paced.site, paced.readings + 2, paced.pauses ++ [milliseconds]⟩ := by
  have bound := delay.toInt_lt
  generalize since : (reading (paced.readings + 1)).toInt - startTime.toInt = elapsed
  have leftFits : -2 ^ 31 ≤ delay.toInt - elapsed ∧ delay.toInt - elapsed < 2 ^ 31 :=
    ⟨by omega, by omega⟩
  refine ⟨_, ?_, run_pause_sleeps paced nonneg fits early since ⟨by omega, by omega⟩ leftFits⟩
  rw [toNat_toUInt32, Int32.toInt_ofInt_of_le leftFits.1 leftFits.2, if_pos (by omega)]
  omega

include nonneg in
/-- A third reading past the end overflows, or gives a pause that is too long. -/
theorem run_pause_overslept (fits : startTime.toInt + delay.toInt < 2 ^ 31)
    (early : (reading paced.readings).toInt < startTime.toInt + delay.toInt)
    (overslept : ¬ (reading (paced.readings + 1)).toInt ≤ startTime.toInt + delay.toInt) :
    (∃ after, (pause reading delay startTime).run paced = .error .overflow after) ∨
      ∃ milliseconds : Dword, delay.toInt < milliseconds.toNat ∧
        (pause reading delay startTime).run paced = .ok ()
          ⟨paced.site, paced.readings + 2, paced.pauses ++ [milliseconds]⟩ := by
  have bound := delay.toInt_lt
  generalize since : (reading (paced.readings + 1)).toInt - startTime.toInt = elapsed
  by_cases elapsedFits : -2 ^ 31 ≤ elapsed ∧ elapsed < 2 ^ 31
  · have leftFits : -2 ^ 31 ≤ delay.toInt - elapsed ∧ delay.toInt - elapsed < 2 ^ 31 :=
      ⟨by omega, by omega⟩
    refine .inr ⟨_, ?_, run_pause_sleeps paced nonneg fits early since elapsedFits leftFits⟩
    rw [toNat_toUInt32, Int32.toInt_ofInt_of_le leftFits.1 leftFits.2, if_neg (by omega)]
    omega
  · refine .inl ⟨{ paced with readings := paced.readings + 2 }, ?_⟩
    rw [run_pause_early paced nonneg fits early, EStateM.run_bind, since,
      run_signed_of_not_fits elapsedFits]

end Pause

/-! ## Turns -/

section Turns

variable {State α : Type} {batch : Program Thrown State α} {reading : Nat → ClockT}
  {delay : ClockT} {paced : Paced State}

/-- A turn whose batch returns ends with its pause. -/
theorem run_mainTurn_ok {value : α} {site : State} (ran : batch.run paced.site = .ok value site) :
    (mainTurn batch reading delay).run paced =
      (pause reading delay (reading paced.readings)).run
        ⟨site, paced.readings + 1, paced.pauses⟩ := by
  unfold mainTurn
  rw [EStateM.run_bind, run_clock]
  simp only
  have within : (Program.within Paced.site (fun paced site => { paced with site }) Ended.thrown
      batch).run { paced with readings := paced.readings + 1 } =
        .ok value ⟨site, paced.readings + 1, paced.pauses⟩ := Program.run_within_ok ran
  rw [EStateM.run_bind, within]

/-- A turn whose batch throws ends there. -/
theorem run_mainTurn_error {cause : Thrown} {site : State}
    (ran : batch.run paced.site = .error cause site) :
    (mainTurn batch reading delay).run paced =
      .error (.thrown cause) ⟨site, paced.readings + 1, paced.pauses⟩ := by
  unfold mainTurn
  rw [EStateM.run_bind, run_clock]
  simp only
  have within : (Program.within Paced.site (fun paced site => { paced with site }) Ended.thrown
      batch).run { paced with readings := paced.readings + 1 } =
        .error (.thrown cause) ⟨site, paced.readings + 1, paced.pauses⟩ :=
    Program.run_within_error ran
  rw [EStateM.run_bind, within]

/-- A run keeps pace when its first turn returns and the rest keeps pace. -/
theorem keepsPace_of_returns {first rest : Program Ended (Paced State) Unit} {middle : Paced State}
    (returned : first.run paced = .ok () middle) :
    KeepsPace delay (first >>= fun _ => rest) paced ↔ KeepsPace delay rest middle := by
  have final : Program.finalStore (first >>= fun _ => rest) paced =
      Program.finalStore rest middle := Program.Returns.finalStore_bind returned
  have stops : ∀ after, Program.Stops (first >>= fun _ => rest) paced .overflow after ↔
      Program.Stops rest middle .overflow after := by
    intro after
    unfold Program.Stops
    rw [EStateM.run_bind, returned]
  constructor
  · rintro ⟨pauses, defined⟩
    exact ⟨final ▸ pauses, fun after stopped => defined after ((stops after).mpr stopped)⟩
  · rintro ⟨pauses, defined⟩
    exact ⟨final ▸ pauses, fun after stopped => defined after ((stops after).mp stopped)⟩

/-- A run that ends in its first turn. -/
theorem keepsPace_of_stops {first rest : Program Ended (Paced State) Unit} {reason : Ended}
    {after : Paced State} (stopped : first.run paced = .error reason after) :
    KeepsPace delay (first >>= fun _ => rest) paced ↔
      (∀ milliseconds ∈ after.pauses, (milliseconds.toNat : Int) ≤ delay.toInt) ∧
        reason ≠ .overflow := by
  have final : Program.finalStore (first >>= fun _ => rest) paced = after :=
    Program.Stops.finalStore_bind stopped
  have run : (first >>= fun _ => rest).run paced = .error reason after := by
    rw [EStateM.run_bind, stopped]
  constructor
  · rintro ⟨pauses, defined⟩
    refine ⟨final ▸ pauses, ?_⟩
    rintro rfl
    exact defined after run
  · rintro ⟨pauses, light⟩
    refine ⟨final.symm ▸ pauses, fun other stopped' => light ?_⟩
    unfold Program.Stops at stopped'
    rw [run] at stopped'
    cases stopped'
    rfl

/-- The third reading of a turn is not before the first. -/
theorem start_le_third (ordered : ∀ index, reading index ≤ reading (index + 1)) (index : Nat) :
    (reading index).toInt ≤ (reading (index + 2)).toInt :=
  Int.le_trans (Int32.le_iff_toInt_le.mp (ordered index))
    (Int32.le_iff_toInt_le.mp (ordered (index + 1)))

/-- A turn that has taken the whole delay goes over to the next one. -/
theorem keepsPace_late {value : α} {site : State} {count : Nat}
    (nonneg : 0 ≤ delay.toInt) (ran : batch.run paced.site = .ok value site)
    (fits : (reading paced.readings).toInt + delay.toInt < 2 ^ 31)
    (late : ¬ (reading (paced.readings + 1)).toInt <
      (reading paced.readings).toInt + delay.toInt) :
    KeepsPace delay (mainTurns batch reading delay (count + 1)) paced ↔
      KeepsPace delay (mainTurns batch reading delay count)
        ⟨site, paced.readings + 2, paced.pauses⟩ := by
  have started : (mainTurn batch reading delay).run paced = _ := run_mainTurn_ok ran
  have woke := run_pause_late ⟨site, paced.readings + 1, paced.pauses⟩ nonneg fits late
  exact keepsPace_of_returns (started.trans woke)

/-- A turn that ends early and reads the clock in time goes over to the next one after a
pause within the delay. -/
theorem keepsPace_punctual {value : α} {site : State} {count : Nat}
    (nonneg : 0 ≤ delay.toInt) (ordered : ∀ index, reading index ≤ reading (index + 1))
    (ran : batch.run paced.site = .ok value site)
    (fits : (reading paced.readings).toInt + delay.toInt < 2 ^ 31)
    (early : (reading (paced.readings + 1)).toInt <
      (reading paced.readings).toInt + delay.toInt)
    (punctual : (reading (paced.readings + 2)).toInt ≤
      (reading paced.readings).toInt + delay.toInt) :
    ∃ milliseconds : Dword, (milliseconds.toNat : Int) ≤ delay.toInt ∧
      (KeepsPace delay (mainTurns batch reading delay (count + 1)) paced ↔
        KeepsPace delay (mainTurns batch reading delay count)
          ⟨site, paced.readings + 3, paced.pauses ++ [milliseconds]⟩) := by
  have started : (mainTurn batch reading delay).run paced = _ := run_mainTurn_ok ran
  obtain ⟨milliseconds, bound, slept⟩ := run_pause_punctual
    ⟨site, paced.readings + 1, paced.pauses⟩ nonneg fits early (start_le_third ordered _) punctual
  exact ⟨milliseconds, bound, keepsPace_of_returns (started.trans slept)⟩

/-- The run of `count` turns from these readings and pauses. -/
theorem keepsPace_of_timely (nonneg : 0 ≤ delay.toInt)
    (ordered : ∀ index, reading index ≤ reading (index + 1)) {count : Nat}
    (within : ∀ milliseconds ∈ paced.pauses, (milliseconds.toNat : Int) ≤ delay.toInt)
    (timely : Timely reading delay paced.readings count) :
    KeepsPace delay (mainTurns batch reading delay count) paced := by
  induction count generalizing paced with
  | zero => exact ⟨within, fun after stopped => by cases stopped⟩
  | succ count inductionHypothesis =>
      obtain ⟨fits, rest⟩ := timely
      cases ran : batch.run paced.site with
      | error cause site =>
          rw [mainTurns, keepsPace_of_stops (run_mainTurn_error ran)]
          exact ⟨within, by simp⟩
      | ok value site =>
          by_cases early : (reading (paced.readings + 1)).toInt <
              (reading paced.readings).toInt + delay.toInt
          · rw [if_pos early] at rest
            obtain ⟨milliseconds, bound, next⟩ :=
              keepsPace_punctual nonneg ordered ran fits early rest.1
            rw [next]
            refine inductionHypothesis ?_ rest.2
            intro other member
            rcases List.mem_append.mp member with before | last
            · exact within other before
            · rw [List.mem_singleton.mp last]
              exact bound
          · rw [if_neg early] at rest
            rw [keepsPace_late nonneg ran fits early]
            exact inductionHypothesis within rest

/-- A third reading past the end of the turn breaks the pace at once or in the pause. -/
theorem punctual_of_keepsPace {value : α} {site : State} {count : Nat}
    (nonneg : 0 ≤ delay.toInt) (ran : batch.run paced.site = .ok value site)
    (fits : (reading paced.readings).toInt + delay.toInt < 2 ^ 31)
    (early : (reading (paced.readings + 1)).toInt <
      (reading paced.readings).toInt + delay.toInt)
    (kept : ∀ later : Paced State, KeepsPace delay (mainTurns batch reading delay count) later →
      ∀ milliseconds ∈ later.pauses, (milliseconds.toNat : Int) ≤ delay.toInt)
    (keeps : KeepsPace delay (mainTurns batch reading delay (count + 1)) paced) :
    (reading (paced.readings + 2)).toInt ≤ (reading paced.readings).toInt + delay.toInt := by
  by_contra overslept
  have started : (mainTurn batch reading delay).run paced = _ := run_mainTurn_ok ran
  rw [mainTurns] at keeps
  rcases run_pause_overslept ⟨site, paced.readings + 1, paced.pauses⟩ nonneg fits early
    overslept with ⟨after, exceeds⟩ | ⟨milliseconds, long, slept⟩
  · rw [keepsPace_of_stops (started.trans exceeds)] at keeps
    exact keeps.2 rfl
  · rw [keepsPace_of_returns (started.trans slept)] at keeps
    have short := kept _ keeps milliseconds (by simp)
    omega

/-- With a batch that returns every turn counts, and no pause is taken back. -/
theorem timely_of_keepsPace (nonneg : 0 ≤ delay.toInt)
    (ordered : ∀ index, reading index ≤ reading (index + 1))
    (returns : ∀ site, ∃ value after, batch.run site = .ok value after) {count : Nat}
    (keeps : KeepsPace delay (mainTurns batch reading delay count) paced) :
    Timely reading delay paced.readings count ∧
      ∀ milliseconds ∈ paced.pauses, (milliseconds.toNat : Int) ≤ delay.toInt := by
  induction count generalizing paced with
  | zero => exact ⟨trivial, keeps.pauses⟩
  | succ count inductionHypothesis =>
      obtain ⟨value, site, ran⟩ := returns paced.site
      by_cases fits : (reading paced.readings).toInt + delay.toInt < 2 ^ 31
      case neg =>
        have started : (mainTurn batch reading delay).run paced = _ := run_mainTurn_ok ran
        rw [mainTurns, keepsPace_of_stops (started.trans (run_pause_overflow fits))] at keeps
        exact absurd rfl keeps.2
      by_cases early : (reading (paced.readings + 1)).toInt <
          (reading paced.readings).toInt + delay.toInt
      case neg =>
        rw [keepsPace_late nonneg ran fits early] at keeps
        obtain ⟨rest, within⟩ := inductionHypothesis keeps
        refine ⟨⟨fits, ?_⟩, within⟩
        rw [if_neg early]
        exact rest
      have punctual := punctual_of_keepsPace nonneg ran fits early
        (fun _ kept => (inductionHypothesis kept).2) keeps
      obtain ⟨milliseconds, _, next⟩ := keepsPace_punctual nonneg ordered ran fits early punctual
      obtain ⟨rest, within⟩ := inductionHypothesis (next.mp keeps)
      refine ⟨⟨fits, ?_⟩, fun other member => within other (List.mem_append_left _ member)⟩
      rw [if_pos early]
      exact ⟨punctual, rest⟩

end Turns

/-- The end of a turn leaves the site as it is. -/
theorem site_of_pause {State : Type} {reading : Nat → ClockT} {delay startTime : ClockT}
    {before after : Paced State}
    (returned : Program.Returns (pause reading delay startTime) before () after) :
    after.site = before.site := by
  have calm : ∀ {value : Int} {result : ClockT} {before after : Paced State},
      Program.Returns (signed value) before result after → after = before := by
    intro value result before after returned
    unfold signed at returned
    split at returned
    · exact (Program.returns_pure_iff.mp returned).2
    · exact absurd returned Program.not_returns_stop
  unfold pause at returned
  obtain ⟨endTime, first, ends, returned⟩ := Program.returns_bind_iff.mp returned
  obtain ⟨now, second, reads, returned⟩ := Program.returns_bind_iff.mp returned
  obtain rfl := calm ends
  cases Program.returns_call_iff.mp reads
  split at returned
  · obtain ⟨later, third, reads', returned⟩ := Program.returns_bind_iff.mp returned
    obtain ⟨elapsed, fourth, since, returned⟩ := Program.returns_bind_iff.mp returned
    obtain ⟨left, fifth, rest, slept⟩ := Program.returns_bind_iff.mp returned
    cases Program.returns_call_iff.mp reads'
    obtain rfl := calm since
    obtain rfl := calm rest
    cases Program.returns_call_iff.mp slept
    rfl
  · rw [(Program.returns_pure_iff.mp returned).2]

/-! ## Runs of the contester -/

/-- Every run of so many turns keeps pace, whatever the files, the database and the judge. -/
def RunsKeepPace (reading : Nat → ClockT) (delay : ClockT) (count : Nat) : Prop :=
  ∀ (File Rest Database : Type) (_ : DecidableEq File)
    (deployment : Deployment File Rest Database) (settings : Settings)
    (site : Site File Rest Database),
    KeepsPace delay (mainTurns (cycle deployment settings) reading delay count) (Paced.start site)

/-- What the turns do to the site is what the cycles do. -/
theorem returns_cycles_of_mainTurns {File Rest Database : Type} [DecidableEq File]
    {deployment : Deployment File Rest Database} {settings : Settings} {reading : Nat → ClockT}
    {delay : ClockT} {count : Nat} {before after : Paced (Site File Rest Database)}
    (returned : Program.Returns (mainTurns (cycle deployment settings) reading delay count) before
      () after) : Program.Returns (cycles deployment settings count) before.site () after.site := by
  induction count generalizing before with
  | zero =>
      obtain ⟨_, rfl⟩ := Program.returns_pure_iff.mp returned
      rfl
  | succ count inductionHypothesis =>
      rw [mainTurns] at returned
      obtain ⟨_, middle, first, later⟩ := Program.returns_bind_iff.mp returned
      cases ran : (cycle deployment settings).run before.site with
      | error cause site =>
          unfold Program.Returns at first
          rw [run_mainTurn_error ran] at first
          cases first
      | ok value site =>
          unfold Program.Returns at first
          rw [run_mainTurn_ok ran] at first
          have kept : middle.site = site := site_of_pause first
          rw [cycles]
          exact Program.Returns.bind ran (kept ▸ inductionHypothesis later)

/-- A deployment that finds no solution to judge. -/
def idleDeployment : Deployment Str Unit Unit where
  toHost := idleHost
  select _ database := (.rows [], database)

theorem run_cycle_idle (settings : Settings) (site : Site Str Unit Unit) :
    (cycle idleDeployment settings).run site = .ok [] site := rfl

/-- A run without solutions reaches every turn. -/
theorem timely_of_runsKeepPace {reading : Nat → ClockT} {delay : ClockT} {count : Nat}
    (nonneg : 0 ≤ delay) (ordered : ∀ index, reading index ≤ reading (index + 1))
    (keeps : RunsKeepPace reading delay count) : Timely reading delay 0 count := by
  have idle := keeps Str Unit Unit inferInstance idleDeployment ⟨[], [], []⟩ ⟨⟨pairFiles, ()⟩, ()⟩
  exact (timely_of_keepsPace (Int32.le_iff_toInt_le.mp nonneg) ordered
    (fun site => ⟨[], site, run_cycle_idle _ site⟩) idle).1

/-- The runs of the contester keep pace exactly when the end of every turn fits into
`clock_t`, and the reading for the length of a pause is not past the end of its turn. -/
theorem runsKeepPace_iff {reading : Nat → ClockT} {delay : ClockT} (nonneg : 0 ≤ delay)
    (ordered : ∀ index, reading index ≤ reading (index + 1)) (count : Nat) :
    RunsKeepPace reading delay count ↔ Timely reading delay 0 count := by
  constructor
  · exact timely_of_runsKeepPace nonneg ordered
  · intro timely File Rest Database _ deployment settings site
    have started : ∀ milliseconds ∈ (Paced.start site).pauses,
        (milliseconds.toNat : Int) ≤ delay.toInt := by simp [Paced.start]
    exact keepsPace_of_timely (Int32.le_iff_toInt_le.mp nonneg) ordered started timely

/-- The end of the turn passes between the second and the third reading. -/
def lateReading : Nat → ClockT
  | 0 => 0
  | 1 => 9999
  | _ => 10001

theorem lateReading_ordered (index : Nat) : lateReading index ≤ lateReading (index + 1) := by
  match index with
  | 0 => decide
  | 1 => decide
  | _ + 2 => exact Int32.le_refl _

/-- With the default delay and these readings `main` sleeps for -1 milliseconds. -/
theorem lateReading_not_runsKeepPace :
    ¬ ∀ (reading : Nat → ClockT) (delay : ClockT) (count : Nat), 0 ≤ delay →
      (∀ index, reading index ≤ reading (index + 1)) → RunsKeepPace reading delay count := by
  intro always
  have keeps := always lateReading 10000 1 (by decide) lateReading_ordered
  obtain ⟨_, rest⟩ := timely_of_runsKeepPace (by decide) lateReading_ordered keeps
  rw [if_pos (by decide)] at rest
  exact absurd rest.1 (by decide)

/-- Two turns with a clock that stands still. -/
theorem runsKeepPace_iff_still :
    RunsKeepPace (fun _ => 0) 10000 2 ↔ Timely (fun _ => 0) 10000 0 2 :=
  runsKeepPace_iff (by decide) (fun _ => by decide) 2

end CheckerOlimp.Contester
