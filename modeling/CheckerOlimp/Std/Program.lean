import Mathlib.Logic.Basic

/-!
# Programs over a store

A program reads and changes a store, and either returns a value or stops for a
reason, keeping the store it stopped in. `Program.Returns` is the inversion
interface: a proof about a program that returned takes it apart one bind at a
time and never unfolds the monad. `Program.Coupled` compares two programs, or
two runs of one program, from related stores.
-/

namespace CheckerOlimp.Std

/-- A program over `Store` that may stop for a reason before it returns. -/
abbrev Program (Reason Store α : Type) := EStateM Reason Store α

namespace Program

variable {Reason Store Other α β γ δ : Type}

/-- An operation of the environment: it always returns, and may change the store. -/
def call (operation : Store → α × Store) : Program Reason Store α := fun store =>
  .ok (operation store).1 (operation store).2

/-- End the program for `reason`, at the store it has reached. -/
def stop (reason : Reason) : Program Reason Store α := fun store => .error reason store

/-- The value, or the end of the program when there is none. -/
def ofOption (reason : Reason) : Option α → Program Reason Store α
  | some value => pure value
  | none => stop reason

/-- `program` run from `before` returns `value` and leaves `after`. -/
def Returns (program : Program Reason Store α) (before : Store) (value : α)
    (after : Store) : Prop :=
  program.run before = .ok value after

/-- `program` run from `before` ends for `reason` at `after` and returns nothing. -/
def Stops (program : Program Reason Store α) (before : Store) (reason : Reason)
    (after : Store) : Prop :=
  program.run before = .error reason after

@[simp] theorem run_call (operation : Store → α × Store) (store : Store) :
    (call operation : Program Reason Store α).run store =
      .ok (operation store).1 (operation store).2 := rfl

@[simp] theorem run_stop (reason : Reason) (store : Store) :
    (stop reason : Program Reason Store α).run store = .error reason store := rfl

/-- What follows an operation starts from the store that it leaves. -/
theorem run_call_bind (operation : Store → α × Store) (rest : α → Program Reason Store β)
    (store : Store) :
    (call operation >>= rest).run store = (rest (operation store).1).run (operation store).2 := rfl

/-! ## Inversion of a returning run -/

@[simp] theorem returns_pure_iff {value result : α} {before after : Store} :
    Returns (pure value : Program Reason Store α) before result after ↔
      result = value ∧ after = before := by
  constructor
  · intro returned
    cases returned
    exact ⟨rfl, rfl⟩
  · rintro ⟨rfl, rfl⟩
    rfl

@[simp] theorem returns_call_iff {operation : Store → α × Store} {result : α}
    {before after : Store} :
    Returns (call operation : Program Reason Store α) before result after ↔
      operation before = (result, after) := by
  constructor
  · intro returned
    cases returned
    rfl
  · intro same
    simp [Returns, same]

@[simp] theorem not_returns_stop {reason : Reason} {result : α} {before after : Store} :
    ¬ Returns (stop reason : Program Reason Store α) before result after := by
  intro returned
  cases returned

/-- A sequence returns exactly when its first part returns and the rest returns
from the store the first part left. -/
@[simp] theorem returns_bind_iff {program : Program Reason Store α}
    {rest : α → Program Reason Store β} {result : β} {before after : Store} :
    Returns (program >>= rest) before result after ↔
      ∃ value middle, Returns program before value middle ∧
        Returns (rest value) middle result after := by
  unfold Returns
  rw [EStateM.run_bind]
  constructor
  · intro returned
    cases first : program.run before with
    | ok value middle =>
        rw [first] at returned
        exact ⟨value, middle, rfl, returned⟩
    | error reason middle =>
        rw [first] at returned
        cases returned
  · rintro ⟨value, middle, first, second⟩
    rw [first]
    exact second

@[simp] theorem returns_ofOption_iff {reason : Reason} {found : Option α} {result : α}
    {before after : Store} :
    Returns (ofOption reason found : Program Reason Store α) before result after ↔
      found = some result ∧ after = before := by
  cases found with
  | none => simp [ofOption]
  | some value => simp [ofOption, eq_comm]

/-- A run has one outcome. -/
theorem Returns.unique {program : Program Reason Store α} {before after after' : Store}
    {value value' : α} (first : Returns program before value after)
    (second : Returns program before value' after') : value = value' ∧ after = after' := by
  unfold Returns at first second
  rw [first] at second
  cases second
  exact ⟨rfl, rfl⟩

/-- A run that stops does not return. -/
theorem Stops.not_returns {program : Program Reason Store α} {before after after' : Store}
    {reason : Reason} {value : α} (stopped : Stops program before reason after) :
    ¬ Returns program before value after' := by
  intro returned
  unfold Stops at stopped
  unfold Returns at returned
  rw [stopped] at returned
  cases returned

/-- A sequence that returns can be run from its parts. -/
theorem Returns.bind {program : Program Reason Store α} {rest : α → Program Reason Store β}
    {value : α} {result : β} {before middle after : Store}
    (first : Returns program before value middle)
    (second : Returns (rest value) middle result after) :
    Returns (program >>= rest) before result after :=
  returns_bind_iff.mpr ⟨value, middle, first, second⟩

/-! ## The outcome -/

/-- How `program` ends from `before`, without the store that it leaves. -/
def outcome (program : Program Reason Store α) (before : Store) : Except Reason α :=
  match program.run before with
  | .ok value _ => .ok value
  | .error reason _ => .error reason

theorem outcome_eq_ok_iff {program : Program Reason Store α} {before : Store} {value : α} :
    outcome program before = .ok value ↔ ∃ after, Returns program before value after := by
  unfold outcome Returns
  cases program.run before with
  | ok result after => simp
  | error reason after => simp

theorem outcome_eq_error_iff {program : Program Reason Store α} {before : Store}
    {reason : Reason} :
    outcome program before = .error reason ↔ ∃ after, Stops program before reason after := by
  unfold outcome Stops
  cases program.run before with
  | ok result after => simp
  | error reason' after => simp

/-- The store that `program` leaves from `before`, however it ends. -/
def finalStore (program : Program Reason Store α) (before : Store) : Store :=
  match program.run before with
  | .ok _ after => after
  | .error _ after => after

theorem Returns.finalStore_eq {program : Program Reason Store α} {before after : Store} {value : α}
    (returned : Returns program before value after) : finalStore program before = after := by
  unfold Returns at returned
  rw [finalStore, returned]

theorem Stops.finalStore_eq {program : Program Reason Store α} {before after : Store}
    {reason : Reason} (stopped : Stops program before reason after) :
    finalStore program before = after := by
  unfold Stops at stopped
  rw [finalStore, stopped]

/-- The store that a sequence leaves is that of its rest, if its first part returns. -/
theorem Returns.finalStore_bind {program : Program Reason Store α}
    {rest : α → Program Reason Store β} {before middle : Store} {value : α}
    (returned : Returns program before value middle) :
    finalStore (program >>= rest) before = finalStore (rest value) middle := by
  unfold Returns at returned
  unfold finalStore
  rw [EStateM.run_bind, returned]

theorem Stops.finalStore_bind {program : Program Reason Store α}
    {rest : α → Program Reason Store β} {before middle : Store} {reason : Reason}
    (stopped : Stops program before reason middle) :
    finalStore (program >>= rest) before = middle := by
  unfold Stops at stopped
  unfold finalStore
  rw [EStateM.run_bind, stopped]

/-- The outcome of a sequence is that of its rest, from where its first part returned. -/
theorem outcome_bind {program : Program Reason Store α} {rest : α → Program Reason Store β}
    {before : Store} :
    outcome (program >>= rest) before =
      match program.run before with
      | .ok value middle => outcome (rest value) middle
      | .error reason _ => .error reason := by
  unfold outcome
  rw [EStateM.run_bind]
  cases program.run before with
  | ok value middle => rfl
  | error reason middle => rfl

/-! ## Two runs side by side -/

/-- Two outcomes agree when both runs return related values in related stores,
or both stop for the same reason. -/
inductive Agrees (values : α → β → Prop) (stores : Store → Other → Prop) :
    EStateM.Result Reason Store α → EStateM.Result Reason Other β → Prop where
  | returns {value : α} {value' : β} {store : Store} {store' : Other}
      (related : values value value') (after : stores store store') :
      Agrees values stores (.ok value store) (.ok value' store')
  | stops (reason : Reason) (store : Store) (store' : Other) :
      Agrees values stores (.error reason store) (.error reason store')

/-- From stores related by `before`, the two programs have agreeing outcomes. -/
def Coupled (before : Store → Other → Prop) (values : α → β → Prop)
    (after : Store → Other → Prop) (program : Program Reason Store α)
    (program' : Program Reason Other β) : Prop :=
  ∀ store store', before store store' →
    Agrees values after (program.run store) (program'.run store')

variable {before middle after : Store → Other → Prop}

theorem Coupled.pure {values : α → β → Prop} {value : α} {value' : β}
    (related : values value value') :
    Coupled before values before (pure value : Program Reason Store α)
      (pure value' : Program Reason Other β) :=
  fun _ _ stores => .returns related stores

theorem Coupled.stop {values : α → β → Prop} (reason : Reason) :
    Coupled before values after (stop reason) (stop reason) :=
  fun store store' _ => .stops reason store store'

theorem Coupled.call {values : α → β → Prop} {operation : Store → α × Store}
    {operation' : Other → β × Other}
    (step : ∀ store store', before store store' →
      values (operation store).1 (operation' store').1 ∧
        after (operation store).2 (operation' store').2) :
    Coupled before values after (call operation : Program Reason Store α)
      (call operation' : Program Reason Other β) :=
  fun store store' stores => .returns (step store store' stores).1 (step store store' stores).2

theorem Coupled.ofOption {reason : Reason} {found : Option α} :
    Coupled before Eq before (ofOption reason found) (ofOption reason found) := by
  cases found with
  | none => exact Coupled.stop reason
  | some value => exact Coupled.pure rfl

/-- Coupling may assume more and promise less. -/
theorem Coupled.weaken {values : α → β → Prop} {stronger weaker : Store → Other → Prop}
    {program : Program Reason Store α} {program' : Program Reason Other β}
    (coupled : Coupled before values after program program')
    (assume : ∀ store store', stronger store store' → before store store')
    (promise : ∀ store store', after store store' → weaker store store') :
    Coupled stronger values weaker program program' := by
  intro store store' stores
  have agrees := coupled store store' (assume store store' stores)
  generalize program.run store = outcome, program'.run store' = outcome' at agrees ⊢
  cases agrees with
  | returns related stores' => exact .returns related (promise _ _ stores')
  | stops reason left right => exact .stops reason left right

/-- Coupled programs in sequence, the rest at every pair of related values. -/
theorem Coupled.bind {values : α → β → Prop} {results : γ → δ → Prop}
    {program : Program Reason Store α} {program' : Program Reason Other β}
    {rest : α → Program Reason Store γ} {rest' : β → Program Reason Other δ}
    (first : Coupled before values middle program program')
    (second : ∀ value value', values value value' →
      Coupled middle results after (rest value) (rest' value')) :
    Coupled before results after (program >>= rest) (program' >>= rest') := by
  intro store store' stores
  rw [EStateM.run_bind, EStateM.run_bind]
  have agrees := first store store' stores
  generalize program.run store = outcome, program'.run store' = outcome' at agrees ⊢
  cases agrees with
  | returns related stores' => exact second _ _ related _ _ stores'
  | stops reason left right => exact .stops reason left right

/-- Programs coupled at equal values have the same outcome. -/
theorem Coupled.outcome_eq {program : Program Reason Store α} {program' : Program Reason Other α}
    (coupled : Coupled before Eq after program program') {store : Store} {store' : Other}
    (stores : before store store') : outcome program store = outcome program' store' := by
  have agrees := coupled store store' stores
  unfold outcome
  generalize program.run store = result, program'.run store' = result' at agrees ⊢
  cases agrees with
  | returns related _ => simp [related]
  | stops reason _ _ => rfl

end Program
end CheckerOlimp.Std
