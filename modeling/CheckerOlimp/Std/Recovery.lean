import CheckerOlimp.Std.Program

/-!
# Programs that recover

`recover` goes on after a stop whose reason a handler knows. `Blames` connects the
reasons for which a program stops with what it leaves behind: a store can be to
blame, for example by a log of what was read, and the program stops for a grave
reason exactly when it leaves such a store. Its rules take a program apart along its
binds, loops and handlers.
-/

namespace CheckerOlimp.Std.Program

variable {Reason Store Other α β : Type}

/-- `program`; when it stops for a reason that `handler` knows, the value it gives. -/
def recover (program : Program Reason Store α) (handler : Reason → Option α) :
    Program Reason Store α := fun store =>
  match program.run store with
  | .ok value after => .ok value after
  | .error reason after =>
    match handler reason with
    | some value => .ok value after
    | none => .error reason after

section Recover

variable {program : Program Reason Store α} {handler : Reason → Option α} {before after : Store}
  {value : α} {reason : Reason}

theorem run_recover_ok (ran : program.run before = .ok value after) :
    (recover program handler).run before = .ok value after := by
  change recover program handler before = _
  rw [recover, ran]

theorem run_recover_known (ran : program.run before = .error reason after)
    (known : handler reason = some value) :
    (recover program handler).run before = .ok value after := by
  change recover program handler before = _
  simp only [recover, ran, known]

theorem run_recover_unknown (ran : program.run before = .error reason after)
    (unknown : handler reason = none) :
    (recover program handler).run before = .error reason after := by
  change recover program handler before = _
  simp only [recover, ran, unknown]

/-- A recovered program returns what the program returns, or what the handler gives. -/
theorem returns_recover_iff :
    Returns (recover program handler) before value after ↔
      Returns program before value after ∨
        ∃ reason, Stops program before reason after ∧ handler reason = some value := by
  unfold Returns Stops
  constructor
  · intro returned
    cases ran : program.run before with
    | ok result left => exact .inl (run_recover_ok ran ▸ returned)
    | error reason left =>
        cases known : handler reason with
        | none =>
            rw [run_recover_unknown ran known] at returned
            cases returned
        | some result =>
            rw [run_recover_known ran known] at returned
            cases returned
            exact .inr ⟨reason, rfl, known⟩
  · rintro (returned | ⟨reason, stopped, known⟩)
    · exact run_recover_ok returned
    · exact run_recover_known stopped known

end Recover

/-- What follows a program without stopping does not change when it stops. -/
theorem stops_bind_pure_iff {program : Program Reason Store α} {result : α → β}
    {before after : Store} {reason : Reason} :
    Stops (program >>= fun value => pure (result value)) before reason after ↔
      Stops program before reason after := by
  unfold Stops
  rw [EStateM.run_bind]
  cases program.run before with
  | ok value middle => exact iff_of_false (fun same => by cases same) (fun same => by cases same)
  | error other middle => simp

/-- A loop over no item. -/
@[simp] theorem returns_mapM_nil_iff {body : α → Program Reason Store β} {before after : Store}
    {values : List β} :
    Returns ([].mapM body) before values after ↔ values = [] ∧ after = before := by
  rw [List.mapM_nil, returns_pure_iff]

/-- A loop returns when its first turn and the rest return. -/
theorem returns_mapM_cons_iff {body : α → Program Reason Store β} {before after : Store}
    {item : α} {items : List α} {values : List β} :
    Returns ((item :: items).mapM body) before values after ↔
      ∃ value middle rest, Returns (body item) before value middle ∧
        Returns (items.mapM body) middle rest after ∧ values = value :: rest := by
  rw [List.mapM_cons]
  simp only [returns_bind_iff, returns_pure_iff]
  constructor
  · rintro ⟨value, middle, first, rest, _, later, rfl, rfl⟩
    exact ⟨value, middle, rest, first, later, rfl⟩
  · rintro ⟨value, middle, rest, first, later, rfl⟩
    exact ⟨value, middle, first, rest, _, later, rfl, rfl⟩

/-- The store that a loop leaves, when its first turn returns. -/
theorem Returns.finalStore_mapM {body : α → Program Reason Store β} {before middle : Store}
    {item : α} {items : List α} {value : β} (returned : Returns (body item) before value middle) :
    finalStore ((item :: items).mapM body) before = finalStore (items.mapM body) middle := by
  rw [List.mapM_cons, returned.finalStore_bind]
  unfold finalStore
  rw [EStateM.run_bind]
  cases (items.mapM body).run middle with
  | ok values after => rfl
  | error reason after => rfl

/-- The store that a loop leaves, when its first turn stops. -/
theorem Stops.finalStore_mapM {body : α → Program Reason Store β} {before middle : Store}
    {item : α} {items : List α} {reason : Reason}
    (stopped : Stops (body item) before reason middle) :
    finalStore ((item :: items).mapM body) before = middle := by
  rw [List.mapM_cons, stopped.finalStore_bind]

/-! ## Relations that sequences keep -/

/-- A relation between programs that holds of a value and is kept by sequences. -/
structure Sequential
    (Related : ∀ {α : Type}, Program Reason Store α → Program Reason Other α → Prop) : Prop where
  pure : ∀ {α : Type} (value : α), Related (Pure.pure value) (Pure.pure value)
  bind : ∀ {α β : Type} {first : Program Reason Store α} {first' : Program Reason Other α}
    {rest : α → Program Reason Store β} {rest' : α → Program Reason Other β},
    Related first first' → (∀ value, Related (rest value) (rest' value)) →
      Related (first >>= rest) (first' >>= rest')

/-- It is kept by loops. -/
theorem Sequential.mapM
    {Related : ∀ {α : Type}, Program Reason Store α → Program Reason Other α → Prop}
    (sequential : Sequential Related) {body : α → Program Reason Store β}
    {body' : α → Program Reason Other β} (turn : ∀ item, Related (body item) (body' item))
    (items : List α) : Related (items.mapM body) (items.mapM body') := by
  induction items with
  | nil => exact sequential.pure []
  | cons item rest inductionHypothesis =>
      rw [List.mapM_cons, List.mapM_cons]
      refine sequential.bind (turn item) fun value => ?_
      exact sequential.bind inductionHypothesis fun values => sequential.pure (value :: values)

/-! ## A larger store -/

section Views

variable {view : Other → Store}

/-- The outcome with the part of its store that `view` shows. -/
def viewed (view : Other → Store) : EStateM.Result Reason Other α → EStateM.Result Reason Store α
  | .ok value after => .ok value (view after)
  | .error reason after => .error reason (view after)

/-- `larger` does on its store what `program` does on the part that `view` shows. -/
def Views (view : Other → Store) (larger : Program Reason Other α)
    (program : Program Reason Store α) : Prop :=
  ∀ store, program.run (view store) = viewed view (larger.run store)

theorem Views.pure (value : α) :
    Views view (pure value : Program Reason Other α) (pure value : Program Reason Store α) :=
  fun _ => rfl

theorem Views.stop (reason : Reason) :
    Views view (stop reason : Program Reason Other α) (stop reason : Program Reason Store α) :=
  fun _ => rfl

theorem Views.call {larger : Other → α × Other} {operation : Store → α × Store}
    (same : ∀ store, operation (view store) = ((larger store).1, view (larger store).2)) :
    Views view (call larger : Program Reason Other α) (call operation) := by
  intro store
  rw [run_call, run_call, same]
  rfl

theorem Views.bind {larger : Program Reason Other α} {program : Program Reason Store α}
    {largerRest : α → Program Reason Other β} {rest : α → Program Reason Store β}
    (first : Views view larger program)
    (second : ∀ value, Views view (largerRest value) (rest value)) :
    Views view (larger >>= largerRest) (program >>= rest) := by
  intro store
  rw [EStateM.run_bind, EStateM.run_bind, first store]
  cases larger.run store with
  | ok value middle => exact second value middle
  | error reason middle => rfl

theorem Views.sequential :
    Sequential fun {α} (larger : Program Reason Other α) (program : Program Reason Store α) =>
      Views view larger program :=
  ⟨Views.pure, Views.bind⟩

theorem Views.recover {larger : Program Reason Other α} {program : Program Reason Store α}
    (views : Views view larger program) (handler : Reason → Option α) :
    Views view (recover larger handler) (recover program handler) := by
  intro store
  have same := views store
  cases ran : larger.run store with
  | ok value after =>
      rw [ran] at same
      rw [run_recover_ok same, run_recover_ok ran]
      rfl
  | error reason after =>
      rw [ran] at same
      cases known : handler reason with
      | none =>
          rw [run_recover_unknown same known, run_recover_unknown ran known]
          rfl
      | some value =>
          rw [run_recover_known same known, run_recover_known ran known]
          rfl

/-- Both have the same outcome. -/
theorem Views.outcome_eq {larger : Program Reason Other α} {program : Program Reason Store α}
    (views : Views view larger program) (store : Other) :
    outcome program (view store) = outcome larger store := by
  unfold outcome
  rw [views store]
  cases larger.run store with
  | ok value after => rfl
  | error reason after => rfl

end Views

/-! ## A part of a store -/

section Within

variable {Cause : Type}

/-- A program that runs on the part of a larger store that `view` shows and `update`
replaces. Its reasons are reasons of the larger program. -/
def within (view : Other → Store) (update : Other → Store → Other) (wrap : Cause → Reason)
    (program : Program Cause Store α) : Program Reason Other α := fun store =>
  match program.run (view store) with
  | .ok value part => .ok value (update store part)
  | .error cause part => .error (wrap cause) (update store part)

variable {view : Other → Store} {update : Other → Store → Other} {wrap : Cause → Reason}
  {program : Program Cause Store α} {store : Other} {part : Store} {value : α} {cause : Cause}

theorem run_within_ok (ran : program.run (view store) = .ok value part) :
    (within view update wrap program).run store = .ok value (update store part) := by
  change within view update wrap program store = _
  rw [within, ran]

theorem run_within_error (ran : program.run (view store) = .error cause part) :
    (within view update wrap program).run store = .error (wrap cause) (update store part) := by
  change within view update wrap program store = _
  rw [within, ran]

end Within

/-! ## Reasons and what is left behind -/

section Blames

variable {blame : Store → Prop} {grave : Reason → Prop}

/-- From a store that is not to blame, the program leaves one that is exactly when it
stops for a grave reason. -/
def Blames (blame : Store → Prop) (grave : Reason → Prop) (program : Program Reason Store α) :
    Prop :=
  ∀ before, ¬ blame before →
    match program.run before with
    | .ok _ after => ¬ blame after
    | .error reason after => blame after ↔ grave reason

theorem Blames.pure (value : α) : Blames blame grave (pure value : Program Reason Store α) :=
  fun _ clean => clean

theorem Blames.stop {reason : Reason} (light : ¬ grave reason) :
    Blames blame grave (stop reason : Program Reason Store α) :=
  fun _ clean => iff_of_false clean light

theorem Blames.call {operation : Store → α × Store}
    (kept : ∀ store, ¬ blame store → ¬ blame (operation store).2) :
    Blames blame grave (call operation : Program Reason Store α) :=
  fun store clean => kept store clean

theorem Blames.bind {program : Program Reason Store α} {rest : α → Program Reason Store β}
    (first : Blames blame grave program) (second : ∀ value, Blames blame grave (rest value)) :
    Blames blame grave (program >>= rest) := by
  intro before clean
  have done := first before clean
  rw [EStateM.run_bind]
  cases ran : program.run before with
  | ok value middle =>
      rw [ran] at done
      exact second value middle done
  | error reason middle =>
      rw [ran] at done
      exact done

theorem Blames.sequential : Sequential fun {α} (program : Program Reason Store α)
    (_ : Program Reason Store α) => Blames blame grave program :=
  ⟨Blames.pure, Blames.bind⟩

theorem Blames.mapM {body : α → Program Reason Store β}
    (turn : ∀ item, Blames blame grave (body item)) (items : List α) :
    Blames blame grave (items.mapM body) :=
  @Sequential.mapM Reason Store Store α β _ Blames.sequential body body turn items

theorem Blames.congr {grave' : Reason → Prop} {program : Program Reason Store α}
    (blames : Blames blame grave program) (same : ∀ reason, grave reason ↔ grave' reason) :
    Blames blame grave' program := by
  intro before clean
  have done := blames before clean
  cases ran : program.run before with
  | ok value after =>
      rw [ran] at done
      exact done
  | error reason after =>
      rw [ran] at done
      exact done.trans (same reason)

/-- When a handler knows all reasons but the grave ones, whatever still stops is grave. -/
theorem Blames.recover {program : Program Reason Store α} {handler : Reason → Option α}
    (blames : Blames blame grave program) (light : ∀ reason, handler reason = none ↔ grave reason) :
    Blames blame (fun _ => True) (recover program handler) := by
  intro before clean
  have done := blames before clean
  cases ran : program.run before with
  | ok value after =>
      rw [ran] at done
      rw [run_recover_ok ran]
      exact done
  | error reason after =>
      rw [ran] at done
      cases known : handler reason with
      | none =>
          rw [run_recover_unknown ran known]
          exact iff_of_true (done.mpr ((light reason).mp known)) trivial
      | some value =>
          rw [run_recover_known ran known]
          intro dirty
          rw [(light reason).mpr (done.mp dirty)] at known
          cases known

/-- A program with every reason grave returns exactly when it leaves nothing to blame. -/
theorem Blames.returns_iff {program : Program Reason Store α}
    (blames : Blames blame (fun _ => True) program) {before : Store} (clean : ¬ blame before) :
    (∃ value after, Returns program before value after) ↔ ¬ blame (finalStore program before) := by
  have done := blames before clean
  unfold Returns finalStore
  cases ran : program.run before with
  | ok value after =>
      rw [ran] at done
      simpa using done
  | error reason after =>
      rw [ran] at done
      simpa using done

end Blames

end CheckerOlimp.Std.Program
