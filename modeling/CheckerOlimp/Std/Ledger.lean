import CheckerOlimp.Std.Program

/-!
# Programs with a ledger

The same program over a store, and over that store with a ledger beside it in which its
operations enter events. `Enters` says that the ledger changes nothing else, and what a run
that returns has entered. What a sequence enters is told part by part: the rest is judged by
what has been entered before it.
-/

namespace CheckerOlimp.Std.Program

variable {Reason Store Event α β : Type}

/-- With the ledger the program runs as without it; what it enters until it returns is as
`adds` says. -/
def Enters (plain : Program Reason Store α) (program : Program Reason (Store × List Event) α)
    (adds : α → List Event → Prop) : Prop :=
  ∀ store ledger,
    match plain.run store with
    | .ok value after => ∃ events,
        program.run (store, ledger) = .ok value (after, ledger ++ events) ∧ adds value events
    | .error reason after => ∃ events,
        program.run (store, ledger) = .error reason (after, ledger ++ events)

variable {adds adds' : α → List Event → Prop} {plain : Program Reason Store α}
  {program : Program Reason (Store × List Event) α}

theorem Enters.pure {value : α} (added : adds value []) :
    Enters (pure value : Program Reason Store α) (pure value) adds :=
  fun store ledger => ⟨[], by rw [List.append_nil]; rfl, added⟩

theorem Enters.stop (reason : Reason) :
    Enters (stop reason : Program Reason Store α) (stop reason) adds :=
  fun store ledger => ⟨[], by rw [List.append_nil]; rfl⟩

theorem Enters.ofOption {reason : Reason} {found : Option α} (added : ∀ value, adds value []) :
    Enters (ofOption reason found : Program Reason Store α) (ofOption reason found) adds := by
  cases found with
  | none => exact Enters.stop reason
  | some value => exact Enters.pure (added value)

/-- An operation enters what `events` says of its value. -/
theorem Enters.call {operation : Store → α × Store}
    {operation' : Store × List Event → α × (Store × List Event)} (events : α → List Event)
    (entered : ∀ store ledger, operation' (store, ledger) = ((operation store).1,
      (operation store).2, ledger ++ events (operation store).1))
    (added : ∀ value, adds value (events value)) :
    Enters (call operation : Program Reason Store α) (call operation') adds := by
  intro store ledger
  rw [run_call]
  refine ⟨events (operation store).1, ?_, added _⟩
  rw [run_call, entered]

/-- The rest of a sequence enters what is missing after its first part. -/
theorem Enters.bind {rest : α → Program Reason Store β}
    {rest' : α → Program Reason (Store × List Event) β} {total : β → List Event → Prop}
    (first : Enters plain program adds)
    (second : ∀ value events, adds value events →
      Enters (rest value) (rest' value) fun result later => total result (events ++ later)) :
    Enters (plain >>= rest) (program >>= rest') total := by
  intro store ledger
  have begun := first store ledger
  rw [EStateM.run_bind, EStateM.run_bind]
  cases ran : plain.run store with
  | error reason middle =>
      rw [ran] at begun
      obtain ⟨events, stopped⟩ := begun
      simp only [stopped]
      exact ⟨events, rfl⟩
  | ok value middle =>
      rw [ran] at begun
      obtain ⟨events, returned, added⟩ := begun
      have done := second value events added middle (ledger ++ events)
      simp only [returned]
      cases ended : (rest value).run middle with
      | error reason after =>
          rw [ended] at done
          obtain ⟨later, stopped⟩ := done
          exact ⟨events ++ later, by rw [stopped, List.append_assoc]⟩
      | ok result after =>
          rw [ended] at done
          obtain ⟨later, returned', added'⟩ := done
          exact ⟨events ++ later, by rw [returned', List.append_assoc], added'⟩

/-- An operation first, whose events are known. -/
theorem Enters.call_bind {operation : Store → α × Store}
    {operation' : Store × List Event → α × (Store × List Event)} (events : α → List Event)
    {rest : α → Program Reason Store β} {rest' : α → Program Reason (Store × List Event) β}
    {total : β → List Event → Prop}
    (entered : ∀ store ledger, operation' (store, ledger) = ((operation store).1,
      (operation store).2, ledger ++ events (operation store).1))
    (second : ∀ value,
      Enters (rest value) (rest' value) fun result later => total result (events value ++ later)) :
    Enters (Program.call operation >>= rest) (Program.call operation' >>= rest') total := by
  have first : Enters (Program.call operation : Program Reason Store α) (Program.call operation')
      fun value entries => entries = events value := Enters.call events entered fun _ => rfl
  refine first.bind fun value entries same => ?_
  rw [same]
  exact second value

/-- What is entered may be told less exactly. -/
theorem Enters.weaken (enters : Enters plain program adds)
    (told : ∀ value events, adds value events → adds' value events) :
    Enters plain program adds' := by
  intro store ledger
  have done := enters store ledger
  cases ran : plain.run store with
  | error reason after =>
      rw [ran] at done
      exact done
  | ok value after =>
      rw [ran] at done
      obtain ⟨events, returned, added⟩ := done
      exact ⟨events, returned, told value events added⟩

/-- A run that returns, with an empty ledger to begin with. -/
theorem Enters.returns (enters : Enters plain program adds) {before after : Store} {value : α}
    (ran : Returns plain before value after) :
    ∃ events, Returns program (before, []) value (after, events) ∧ adds value events := by
  have done := enters before []
  unfold Returns at ran
  rw [ran] at done
  obtain ⟨events, returned, added⟩ := done
  exact ⟨events, by simpa [Returns] using returned, added⟩

end CheckerOlimp.Std.Program
