import CheckerOlimp.Std.Recovery

/-!
# Pre- and postconditions

`Program.Ensures` says of a program how it ends from every store with a precondition:
either it returns, and a postcondition holds of its value and the store it leaves, or
it stops, and something else holds of the reason and that store. A program `Keeps` what
holds before it and after it, however it ends. There is a rule for each way in which
programs are put together.
-/

namespace CheckerOlimp.Std.Program

variable {Reason Store Other α β : Type}

/-- From a store with `before`, the program returns with `returned` or stops with `stopped`. -/
def Ensures (before : Store → Prop) (program : Program Reason Store α)
    (returned : α → Store → Prop) (stopped : Reason → Store → Prop) : Prop :=
  ∀ store, before store →
    match program.run store with
    | .ok value after => returned value after
    | .error reason after => stopped reason after

section Rules

variable {before before' : Store → Prop} {returned returned' : α → Store → Prop}
  {stopped stopped' : Reason → Store → Prop} {program : Program Reason Store α}

theorem Ensures.pure {value : α} (holds : ∀ store, before store → returned value store) :
    Ensures before (pure value : Program Reason Store α) returned stopped :=
  holds

theorem Ensures.stop {reason : Reason} (holds : ∀ store, before store → stopped reason store) :
    Ensures before (stop reason : Program Reason Store α) returned stopped :=
  holds

theorem Ensures.call {operation : Store → α × Store}
    (holds : ∀ store, before store → returned (operation store).1 (operation store).2) :
    Ensures before (call operation : Program Reason Store α) returned stopped :=
  holds

theorem Ensures.ofOption {reason : Reason} {found : Option α}
    (some : ∀ value store, found = some value → before store → returned value store)
    (none : ∀ store, found = none → before store → stopped reason store) :
    Ensures before (ofOption reason found : Program Reason Store α) returned stopped := by
  intro store holds
  cases same : found with
  | none => exact none store same holds
  | some value => exact some value store same holds

/-- What follows may rely on the run that came before. -/
theorem Ensures.traced (ensures : Ensures before program returned stopped) :
    Ensures before program
      (fun value after => returned value after ∧
        ∃ first, before first ∧ Returns program first value after) stopped := by
  intro store holds
  have done := ensures store holds
  cases ran : program.run store with
  | ok value after =>
      rw [ran] at done
      exact ⟨done, store, holds, ran⟩
  | error reason after =>
      rw [ran] at done
      exact done

/-- What the first part of a sequence ensures is what the rest starts from. -/
theorem Ensures.bind {rest : α → Program Reason Store β} {middle : α → Store → Prop}
    {final : β → Store → Prop} (first : Ensures before program middle stopped)
    (second : ∀ value, Ensures (middle value) (rest value) final stopped) :
    Ensures before (program >>= rest) final stopped := by
  intro store holds
  have done := first store holds
  rw [EStateM.run_bind]
  cases ran : program.run store with
  | ok value after =>
      rw [ran] at done
      exact second value after done
  | error reason after =>
      rw [ran] at done
      exact done

/-- The rule of consequence. -/
theorem Ensures.weaken (ensures : Ensures before program returned stopped)
    (pre : ∀ store, before' store → before store)
    (post : ∀ value store, returned value store → returned' value store)
    (failed : ∀ reason store, stopped reason store → stopped' reason store) :
    Ensures before' program returned' stopped' := by
  intro store holds
  have done := ensures store (pre store holds)
  cases ran : program.run store with
  | ok value after =>
      rw [ran] at done
      exact post value after done
  | error reason after =>
      rw [ran] at done
      exact failed reason after done

theorem Ensures.pre (ensures : Ensures before program returned stopped)
    (pre : ∀ store, before' store → before store) : Ensures before' program returned stopped :=
  ensures.weaken pre (fun _ _ holds => holds) fun _ _ holds => holds

theorem Ensures.post (ensures : Ensures before program returned stopped)
    (post : ∀ value store, returned value store → returned' value store) :
    Ensures before program returned' stopped :=
  ensures.weaken (fun _ holds => holds) post fun _ _ holds => holds

/-- A fact that does not depend on the store goes along. -/
theorem Ensures.given {fact : Prop} (ensures : fact → Ensures before program returned stopped) :
    Ensures (fun store => fact ∧ before store) program returned stopped :=
  fun store holds => ensures holds.1 store holds.2

/-- A loop keeps what its turns hand on, stated of the items that are left. -/
theorem Ensures.mapM {body : α → Program Reason Store β} (loop : List α → Store → Prop)
    (turn : ∀ item rest, Ensures (loop (item :: rest)) (body item) (fun _ => loop rest) stopped)
    (items : List α) :
    Ensures (loop items) (items.mapM body) (fun _ => loop []) stopped := by
  induction items with
  | nil =>
      rw [List.mapM_nil]
      exact Ensures.pure fun _ holds => holds
  | cons item rest inductionHypothesis =>
      rw [List.mapM_cons]
      refine (turn item rest).bind fun value => ?_
      exact inductionHypothesis.bind fun values => Ensures.pure fun _ holds => holds

/-- A handler goes on from what holds of the reasons that it knows. -/
theorem Ensures.recover {handler : Reason → Option α}
    (ensures : Ensures before program returned stopped)
    (handled : ∀ reason value store, handler reason = some value → stopped reason store →
      returned value store) :
    Ensures before (recover program handler) returned stopped := by
  intro store holds
  have done := ensures store holds
  cases ran : program.run store with
  | ok value after =>
      rw [ran] at done
      rw [run_recover_ok ran]
      exact done
  | error reason after =>
      rw [ran] at done
      cases known : handler reason with
      | none =>
          rw [run_recover_unknown ran known]
          exact done
      | some value =>
          rw [run_recover_known ran known]
          exact handled reason value after known done

/-! ## What it says of a run -/

theorem Ensures.returns (ensures : Ensures before program returned stopped) {store after : Store}
    {value : α} (holds : before store) (ran : Returns program store value after) :
    returned value after := by
  have done := ensures store holds
  unfold Returns at ran
  rw [ran] at done
  exact done

theorem Ensures.stops (ensures : Ensures before program returned stopped) {store after : Store}
    {reason : Reason} (holds : before store) (ran : Stops program store reason after) :
    stopped reason after := by
  have done := ensures store holds
  unfold Stops at ran
  rw [ran] at done
  exact done

end Rules

/-! ## Invariants -/

/-- What holds before the program holds after it, however it ends. -/
abbrev Keeps (holds : Store → Prop) (program : Program Reason Store α) : Prop :=
  Ensures holds program (fun _ => holds) fun _ => holds

section Invariants

variable {holds : Store → Prop} {program : Program Reason Store α}

theorem Keeps.stop (reason : Reason) : Keeps holds (stop reason : Program Reason Store α) :=
  Ensures.stop fun _ before => before

theorem Keeps.ofOption (reason : Reason) (found : Option α) :
    Keeps holds (ofOption reason found : Program Reason Store α) :=
  Ensures.ofOption (fun _ _ _ before => before) fun _ _ before => before

/-- Sequences of programs that keep it keep it. -/
theorem Keeps.sequential : Sequential fun {α} (program : Program Reason Store α)
    (_ : Program Reason Store α) => Keeps holds program where
  pure _ := Ensures.pure fun _ before => before
  bind first second := first.bind second

theorem Keeps.mapM {body : α → Program Reason Store β} (turn : ∀ item, Keeps holds (body item))
    (items : List α) : Keeps holds (items.mapM body) :=
  Ensures.mapM (fun _ => holds) (fun item _ => turn item) items

/-- It holds of the store that the program leaves. -/
theorem Keeps.finalStore (keeps : Keeps holds program) {store : Store} (before : holds store) :
    holds (finalStore program store) := by
  have done := keeps store before
  unfold Program.finalStore
  cases ran : program.run store with
  | ok value after =>
      rw [ran] at done
      exact done
  | error reason after =>
      rw [ran] at done
      exact done

end Invariants

end CheckerOlimp.Std.Program
