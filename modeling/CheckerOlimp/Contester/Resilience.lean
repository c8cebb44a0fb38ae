import CheckerOlimp.Contester.Loading
import CheckerOlimp.Judging.Report

/-!
# What stops the contester

The loop of `main` goes on as long as every answer of the database is `Harmless`: the
poll does not fail, no result is missing and every numeric column that is read holds
a number. A failed query of another kind, or a missing row, is reported and only its
solution is skipped; the exceptions of `std::stoll` are of another type than the one
that is caught, and the poll is outside of the `try` block.
-/

namespace CheckerOlimp.Contester

open CheckerOlimp.Std CheckerOlimp.CheckerRc

variable {File Rest Database : Type}

/-! ## Batches -/

section Batches

variable [DecidableEq File]

/-- The solutions of a batch, one after another: each is judged, or skipped with a
message, and the next one starts from what it leaves. -/
inductive Batch (deployment : Deployment File Rest Database) (settings : Settings) :
    List Int32 → Site File Rest Database → Site File Rest Database → Prop
  | done {site} : Batch deployment settings [] site site
  | judged {id ids before middle after}
      (returned : Program.Returns (judge deployment settings id) before () middle)
      (rest : Batch deployment settings ids middle after) :
      Batch deployment settings (id :: ids) before after
  | skipped {id ids before middle after message}
      (stopped : Program.Stops (judge deployment settings id) before (.exception message) middle)
      (rest : Batch deployment settings ids middle after) :
      Batch deployment settings (id :: ids) before after

/-- So many turns of the loop: each polls for a batch and goes through all of it. -/
inductive Turns (deployment : Deployment File Rest Database) (settings : Settings) :
    Nat → Site File Rest Database → Site File Rest Database → Prop
  | start {site} : Turns deployment settings 0 site site
  | turn {count ids before polled next after}
      (poll : Program.Returns (Solution.getNotCheckedIds deployment) before ids polled)
      (batch : Batch deployment settings ids polled next)
      (rest : Turns deployment settings count next after) :
      Turns deployment settings (count + 1) before after

/-- The loop survives so many turns. -/
def Survives (deployment : Deployment File Rest Database) (settings : Settings) (count : Nat)
    (before : Site File Rest Database) : Prop :=
  ∃ after, Turns deployment settings count before after

variable {deployment : Deployment File Rest Database} {settings : Settings}

theorem caught_eq_some_iff {reason : Thrown} {message : Str} :
    caught reason = some message ↔ reason = .exception message := by
  cases reason with
  | exception other => simp [caught]
  | invalidArgument => simp [caught]
  | outOfRange => simp [caught]
  | undefined => simp [caught]

/-- An attempt that returns has judged the solution, or has caught an `exception`. -/
theorem returns_attempt_iff {id : Int32} {before after : Site File Rest Database}
    {printed : Option Str} :
    Program.Returns (attempt deployment settings id) before printed after ↔
      (printed = none ∧ Program.Returns (judge deployment settings id) before () after) ∨
      ∃ message, printed = some message ∧
        Program.Stops (judge deployment settings id) before (.exception message) after := by
  simp only [attempt, Program.returns_recover_iff, Program.returns_bind_iff,
    Program.returns_pure_iff, Program.stops_bind_pure_iff, Option.map_eq_some_iff,
    caught_eq_some_iff]
  constructor
  · rintro (⟨_, _, returned, rfl, rfl⟩ | ⟨reason, stopped, message, rfl, rfl⟩)
    · exact .inl ⟨rfl, returned⟩
    · exact .inr ⟨message, rfl, stopped⟩
  · rintro (⟨rfl, returned⟩ | ⟨message, rfl, stopped⟩)
    · exact .inl ⟨(), after, returned, rfl, rfl⟩
    · exact .inr ⟨_, stopped, message, rfl, rfl⟩

/-- The loop over a batch returns when it has gone through all of it. -/
theorem returns_attempts_iff {ids : List Int32} {before after : Site File Rest Database} :
    (∃ printed, Program.Returns (ids.mapM (attempt deployment settings)) before printed after) ↔
      Batch deployment settings ids before after := by
  induction ids generalizing before with
  | nil =>
      simp only [Program.returns_mapM_nil_iff]
      constructor
      · rintro ⟨_, _, rfl⟩
        exact .done
      · intro batch
        cases batch
        exact ⟨[], rfl, rfl⟩
  | cons id ids inductionHypothesis =>
      simp only [Program.returns_mapM_cons_iff, returns_attempt_iff]
      constructor
      · rintro ⟨_, _, middle, others, ⟨rfl, returned⟩ | ⟨message, rfl, stopped⟩, rest, rfl⟩
        · exact .judged returned (inductionHypothesis.mp ⟨others, rest⟩)
        · exact .skipped stopped (inductionHypothesis.mp ⟨others, rest⟩)
      · intro batch
        cases batch with
        | judged returned rest =>
            obtain ⟨others, rest⟩ := inductionHypothesis.mpr rest
            exact ⟨_, _, _, others, .inl ⟨rfl, returned⟩, rest, rfl⟩
        | skipped stopped rest =>
            obtain ⟨others, rest⟩ := inductionHypothesis.mpr rest
            exact ⟨_, _, _, others, .inr ⟨_, rfl, stopped⟩, rest, rfl⟩

/-- The loop returns after so many turns when each has gone through its batch. -/
theorem returns_cycles_iff {count : Nat} {before after : Site File Rest Database} :
    Program.Returns (cycles deployment settings count) before () after ↔
      Turns deployment settings count before after := by
  induction count generalizing before with
  | zero =>
      simp only [cycles, Program.returns_pure_iff, true_and]
      constructor
      · rintro rfl
        exact .start
      · intro turns
        cases turns
        rfl
  | succ count inductionHypothesis =>
      simp only [cycles, cycle, Program.returns_bind_iff, inductionHypothesis]
      constructor
      · rintro ⟨printed, next, ⟨ids, polled, poll, attempts⟩, rest⟩
        exact .turn poll (returns_attempts_iff.mp ⟨printed, attempts⟩) rest
      · intro turns
        cases turns with
        | turn poll batch rest =>
            obtain ⟨printed, attempts⟩ := returns_attempts_iff.mpr batch
            exact ⟨printed, _, ⟨_, _, poll, attempts⟩, rest⟩

theorem survives_iff_returns {count : Nat} {before : Site File Rest Database} :
    Survives deployment settings count before ↔
      ∃ value after, Program.Returns (cycles deployment settings count) before value after := by
  unfold Survives
  simp only [← returns_cycles_iff]
  constructor
  · rintro ⟨after, returned⟩
    exact ⟨(), after, returned⟩
  · rintro ⟨_, after, returned⟩
    exact ⟨after, returned⟩

end Batches

/-! ## The answers of a run -/

/-- A query and what came back for it. -/
structure Exchange where
  query : Query
  answer : Answer query.width

/-- The deployment, with a journal of the answers beside the database. -/
def journaled (deployment : Deployment File Rest Database) :
    Deployment File Rest (Database × List Exchange) where
  machine := deployment.machine
  system := deployment.system
  server := {
    query := fun sql state =>
      (deployment.server.query sql state.1).map fun database => (database, state.2) }
  select query state :=
    ((deployment.select query state.1).1,
      ((deployment.select query state.1).2,
        state.2 ++ [⟨query, (deployment.select query state.1).1⟩]))

/-- The site without the journal. -/
def forget (site : Site File Rest (Database × List Exchange)) : Site File Rest Database :=
  ⟨site.world, site.database.1⟩

/-- The text of a numeric column converts. -/
def Converts (text : Str) : Prop := ∃ value, stoi text = .ok value

/-- The contester goes on after the answer. -/
def Harmless : (query : Query) → Answer query.width → Prop
  | .ids sql, .failed _ => sql ≠ pollStatement
  | .record _ _ _, .failed _ => True
  | _, .unstored => False
  | .ids _, .rows rows => ∀ row ∈ rows, ∀ index, Converts (fieldText (row index))
  | .record _ numbers texts, .rows rows => ∀ row ∈ rows.head?, ∀ index : Fin numbers,
      Converts (fieldText (row (Fin.castAdd texts index)))

/-! ## The journal changes nothing -/

section Views

variable {deployment : Deployment File Rest Database}

theorem views_onFiles {α : Type} (operation : World File Rest → α × World File Rest) :
    Program.Views forget
      (Contest.onFiles operation : Contest File Rest (Database × List Exchange) α)
      (Contest.onFiles operation) :=
  .call fun _ => rfl

theorem views_ofExcept {α : Type} (value : Except Thrown α) :
    Program.Views forget (ofExcept value : Contest File Rest (Database × List Exchange) α)
      (ofExcept value) := by
  cases value with
  | ok value => exact .pure value
  | error reason => exact .stop reason

theorem views_q (query : Query) :
    Program.Views forget (q (journaled deployment) query) (q deployment query) := by
  refine .bind (.call fun _ => rfl) fun answer => ?_
  cases answer with
  | failed message => exact .stop _
  | unstored => exact .stop _
  | rows rows => exact .pure _

theorem views_getIds (sql : Str) :
    Program.Views forget (getIds (journaled deployment) sql) (getIds deployment sql) :=
  .bind (views_q _) fun r => Program.Views.sequential.mapM
    (fun _ => .bind (views_ofExcept _) fun _ => .pure _) r

theorem loadingRule_views (id : Int32) :
    LoadingRule (journaled deployment) deployment id (Program.Views forget) where
  sequential := Program.Views.sequential
  ids _ := views_getIds _
  record _ := .bind (views_q _) fun r => by
    cases r with
    | nil => exact .stop _
    | cons row rest => exact .bind (views_ofExcept _) fun _ => .pure _

theorem views_dbExec (sql : Str) :
    Program.Views forget (dbExec (journaled deployment).toHost sql)
      (dbExec deployment.toHost sql) := by
  refine .bind (.call fun site => ?_) fun outcome => ?_
  · simp only [journaled, forget]
    cases deployment.server.query (cString sql) site.database.1 with
    | ok database => rfl
    | error message => rfl
  · cases outcome with
    | ok _ => exact .pure ()
    | error message => exact .stop _

variable [DecidableEq File]

theorem views_run (settings : Settings) (self : Checker) :
    Program.Views forget (self.run (journaled deployment).toHost settings)
      (self.run deployment.toHost settings) := by
  refine .bind (.bind (views_onFiles _) fun _ => .pure _) fun _ => ?_
  refine .bind (.bind (views_onFiles _) fun _ => .pure _) fun _ => ?_
  refine .bind (views_onFiles _) fun _ => ?_
  refine .bind (views_onFiles _) fun _ => ?_
  refine .bind (views_onFiles _) fun _ => ?_
  refine .bind (views_onFiles _) fun _ => ?_
  exact .bind (views_onFiles _) fun _ => views_dbExec _

theorem views_judge (settings : Settings) (id : Int32) :
    Program.Views forget (judge (journaled deployment) settings id)
      (judge deployment settings id) :=
  .bind (loadingRule_views id).solution fun _ => views_run settings _

theorem views_attempt (settings : Settings) (id : Int32) :
    Program.Views forget (attempt (journaled deployment) settings id)
      (attempt deployment settings id) :=
  .recover (.bind (views_judge settings id) fun _ => .pure _) _

theorem views_cycles (settings : Settings) (count : Nat) :
    Program.Views forget (cycles (journaled deployment) settings count)
      (cycles deployment settings count) := by
  induction count with
  | zero => exact .pure ()
  | succ count inductionHypothesis =>
      refine .bind (.bind (views_getIds _) fun ind => ?_) fun _ => inductionHypothesis
      exact Program.Views.sequential.mapM (views_attempt settings) ind

end Views

/-! ## Answers and exceptions -/

section Blames

variable {deployment : Deployment File Rest Database}

/-- The journal has an answer that is not harmless. -/
def Harmed (site : Site File Rest (Database × List Exchange)) : Prop :=
  ∃ exchange ∈ site.database.2, ¬ Harmless exchange.query exchange.answer

/-- An exception that is not caught. -/
def Uncaught (reason : Thrown) : Prop := caught reason = none

/-- What `db::stoi` throws is not caught. -/
theorem uncaught_of_stoi {text : Str} {reason : Thrown} (thrown : stoi text = .error reason) :
    Uncaught reason := by
  unfold stoi stoll at thrown
  dsimp only at thrown
  split_ifs at thrown
  · exact Except.error.inj thrown ▸ rfl
  · exact Except.error.inj thrown ▸ rfl
  · exact Except.error.inj thrown ▸ rfl

/-- Some fields convert when each does; else something is thrown that is not caught. -/
theorem stois_cases {count : Nat} (fields : Fin count → Str) :
    ((∀ index, Converts (fields index)) ∧ ∃ values, stois fields = .ok values) ∨
    ((¬ ∀ index, Converts (fields index)) ∧ ∃ reason, Uncaught reason ∧
      stois fields = .error reason) := by
  induction count with
  | zero => exact .inl ⟨fun index => index.elim0, _, rfl⟩
  | succ count inductionHypothesis =>
      cases first : stoi (fields 0) with
      | error reason =>
          refine .inr ⟨fun all => ?_, reason, uncaught_of_stoi first, by simp [stois, first]; rfl⟩
          obtain ⟨value, converted⟩ := all 0
          rw [first] at converted
          cases converted
      | ok value =>
          rcases inductionHypothesis fun index => fields index.succ with
            ⟨all, values, rest⟩ | ⟨some, reason, uncaught, rest⟩
          · refine .inl ⟨fun index => ?_, Fin.cons value values, by simp [stois, first, rest]; rfl⟩
            cases index using Fin.cases with
            | zero => exact ⟨value, first⟩
            | succ index => exact all index
          · exact .inr ⟨fun all => some fun index => all index.succ, reason, uncaught,
              by simp [stois, first, rest]; rfl⟩

/-- The site after a query: the journal has the answer. -/
def asked (deployment : Deployment File Rest Database) (query : Query)
    (site : Site File Rest (Database × List Exchange)) :
    Site File Rest (Database × List Exchange) :=
  ⟨site.world, ((deployment.select query site.database.1).2,
    site.database.2 ++ [⟨query, (deployment.select query site.database.1).1⟩])⟩

theorem harmed_asked_iff {query : Query} {site : Site File Rest (Database × List Exchange)}
    (clean : ¬ Harmed site) :
    Harmed (asked deployment query site) ↔
      ¬ Harmless query (deployment.select query site.database.1).1 := by
  unfold Harmed asked at *
  simp only [List.mem_append, List.mem_singleton]
  constructor
  · rintro ⟨exchange, before | rfl, harmful⟩
    · exact absurd ⟨exchange, before, harmful⟩ clean
    · exact harmful
  · intro harmful
    exact ⟨_, .inr rfl, harmful⟩

/-- `db::q` on the journaled deployment. -/
theorem run_q (query : Query) (site : Site File Rest (Database × List Exchange)) :
    (q (journaled deployment) query).run site =
      match (deployment.select query site.database.1).1 with
      | .failed message => .error (.exception message) (asked deployment query site)
      | .unstored => .error .undefined (asked deployment query site)
      | .rows rows => .ok (rows.map fun row index => fieldText (row index))
          (asked deployment query site) := by
  unfold q asked
  rw [EStateM.run_bind, Program.run_call]
  simp only [journaled]
  cases (deployment.select query site.database.1).1 with
  | failed message => rfl
  | unstored => rfl
  | rows rows => rfl

/-- The ids of some rows are converted when each of them converts. -/
theorem conversions_cases {Store : Type} (rows : List (Fin 1 → Str)) (store : Store) :
    ((∀ row ∈ rows, Converts (row 0)) ∧ ∃ ids, (rows.mapM fun row => do
      pure (Int32.ofInt (← ofExcept (stoi (row 0)))) : Program Thrown Store _).run store =
        .ok ids store) ∨
    ((¬ ∀ row ∈ rows, Converts (row 0)) ∧ ∃ reason, Uncaught reason ∧ (rows.mapM fun row => do
      pure (Int32.ofInt (← ofExcept (stoi (row 0)))) : Program Thrown Store _).run store =
        .error reason store) := by
  induction rows with
  | nil => exact .inl ⟨by simp, [], rfl⟩
  | cons row rest inductionHypothesis =>
      rw [List.mapM_cons, EStateM.run_bind]
      cases converted : stoi (row 0) with
      | error reason =>
          refine .inr ⟨fun all => ?_, reason, uncaught_of_stoi converted, rfl⟩
          obtain ⟨value, same⟩ := all row List.mem_cons_self
          rw [converted] at same
          cases same
      | ok value =>
          have first : (do pure (Int32.ofInt (← ofExcept (.ok value))) :
              Program Thrown Store _).run store = .ok (Int32.ofInt value) store := rfl
          rw [first]
          simp only [EStateM.run_bind]
          rcases inductionHypothesis with ⟨all, ids, later⟩ | ⟨some, reason, uncaught, later⟩
          · refine .inl ⟨fun other member => ?_, _, by rw [later]; rfl⟩
            rcases List.mem_cons.mp member with rfl | inside
            · exact ⟨value, converted⟩
            · exact all other inside
          · exact .inr ⟨fun all => some fun other member =>
              all other (List.mem_cons_of_mem _ member), reason, uncaught, by rw [later]⟩

/-- Listing ids ends with an exception that is not caught exactly when the answer is
not harmless; of the poll, nothing is caught. -/
theorem blames_getIds (sql : Str) :
    Program.Blames Harmed (fun reason => Uncaught reason ∨ sql = pollStatement)
      (getIds (journaled deployment) sql) := by
  intro before clean
  have harmed : Harmed (asked deployment (.ids sql) before) ↔ _ := harmed_asked_iff clean
  unfold getIds
  rw [EStateM.run_bind, run_q]
  generalize (deployment.select (.ids sql) before.database.1).1 = answer at harmed ⊢
  cases answer with
  | failed message =>
      refine harmed.trans ?_
      simp [Harmless, Uncaught, caught]
  | unstored =>
      refine harmed.trans ?_
      simp [Harmless, Uncaught, caught]
  | rows rows =>
      have texts : (∀ row ∈ rows.map fun row index => fieldText (row index), Converts (row 0)) ↔
          Harmless (.ids sql) (.rows rows) := by
        simp [Harmless]
      rw [← texts] at harmed
      dsimp only
      rcases conversions_cases (rows.map fun row index => fieldText (row index))
          (asked deployment (.ids sql) before) with ⟨all, ids, ran⟩ | ⟨some, reason, uncaught, ran⟩
      · rw [ran]
        exact fun dirty => harmed.mp dirty all
      · rw [ran]
        exact iff_of_true (harmed.mpr some) (.inl uncaught)

/-- Loading a row ends with an exception that is not caught exactly when the answer is
not harmless. -/
theorem blames_loadRecord (sql missing : Str) (numbers texts : Nat) :
    Program.Blames Harmed Uncaught
      (loadRecord (journaled deployment) sql missing numbers texts) := by
  intro before clean
  have harmed : Harmed (asked deployment (.record sql numbers texts) before) ↔ _ :=
    harmed_asked_iff clean
  unfold loadRecord
  rw [EStateM.run_bind, run_q]
  generalize (deployment.select (.record sql numbers texts) before.database.1).1 = answer
    at harmed ⊢
  cases answer with
  | failed message =>
      refine harmed.trans ?_
      simp [Harmless, Uncaught, caught]
  | unstored =>
      refine harmed.trans ?_
      simp [Harmless, Uncaught, caught]
  | rows rows =>
      cases rows with
      | nil =>
          refine harmed.trans ?_
          simp [Harmless, Uncaught, caught]
      | cons row rest =>
          simp only [Harmless, List.head?_cons, Option.mem_def, Option.some.injEq,
            forall_eq'] at harmed
          rcases stois_cases fun index => fieldText (row (Fin.castAdd texts index)) with
            ⟨all, values, converted⟩ | ⟨some, reason, uncaught, thrown⟩
          · simp only [List.map_cons, converted]
            exact fun dirty => harmed.mp dirty all
          · simp only [List.map_cons, thrown]
            exact iff_of_true (harmed.mpr some) uncaught

/-- The statements that list ids are not that of the poll. -/
theorem ne_pollStatement_of_loads {id : Int32} {sql : Str} (loads : Loads id (.ids sql)) :
    sql ≠ pollStatement := by
  intro same
  cases loads with
  | chGroupIds tid =>
      have letter : some 'c' = some 's' := congrArg (·[15]?) same
      exact absurd letter (by decide)
  | chTestIds gid =>
      have letter : some 'c' = some 's' := congrArg (·[15]?) same
      exact absurd letter (by decide)
  | testIds sid =>
      have letter : some 't' = some 's' := congrArg (·[15]?) same
      exact absurd letter (by decide)

theorem loadingRule_blames (id : Int32) :
    LoadingRule (journaled deployment) (journaled deployment) id
      (fun program _ => Program.Blames Harmed Uncaught program) where
  sequential := Program.Blames.sequential
  ids {sql} loads := (blames_getIds sql).congr fun _ =>
    or_iff_left (ne_pollStatement_of_loads loads)
  record _ := blames_loadRecord _ _ _ _

theorem blames_onFiles {α : Type} {grave : Thrown → Prop}
    (operation : World File Rest → α × World File Rest) :
    Program.Blames Harmed grave
      (Contest.onFiles operation : Contest File Rest (Database × List Exchange) α) :=
  .call fun _ clean => clean

/-- What `db::exec` throws is caught. -/
theorem blames_dbExec (sql : Str) :
    Program.Blames Harmed Uncaught (dbExec (journaled deployment).toHost sql) := by
  refine .bind (.call fun site clean => ?_) fun outcome => ?_
  · simp only [journaled]
    cases deployment.server.query (cString sql) site.database.1 with
    | ok database => exact clean
    | error message => exact clean
  · cases outcome with
    | ok _ => exact .pure ()
    | error message => exact .stop (by simp [Uncaught, caught])

variable [DecidableEq File]

theorem blames_run (settings : Settings) (self : Checker) :
    Program.Blames Harmed Uncaught (self.run (journaled deployment).toHost settings) := by
  refine .bind (.bind (blames_onFiles _) fun _ => .pure _) fun _ => ?_
  refine .bind (.bind (blames_onFiles _) fun _ => .pure _) fun _ => ?_
  refine .bind (blames_onFiles _) fun _ => ?_
  refine .bind (blames_onFiles _) fun _ => ?_
  refine .bind (blames_onFiles _) fun _ => ?_
  refine .bind (blames_onFiles _) fun _ => ?_
  exact .bind (blames_onFiles _) fun _ => blames_dbExec _

/-- The `try` block ends with an exception that is not caught exactly when it has had
an answer that is not harmless. -/
theorem blames_judge (settings : Settings) (id : Int32) :
    Program.Blames Harmed Uncaught (judge (journaled deployment) settings id) :=
  .bind (loadingRule_blames id).solution fun _ => blames_run settings _

/-- After its handler, nothing else is left to stop for. -/
theorem blames_attempt (settings : Settings) (id : Int32) :
    Program.Blames Harmed (fun _ => True) (attempt (journaled deployment) settings id) :=
  .recover (.bind (blames_judge settings id) fun _ => .pure _) fun _ => Option.map_eq_none_iff

theorem blames_cycles (settings : Settings) (count : Nat) :
    Program.Blames Harmed (fun _ => True) (cycles (journaled deployment) settings count) := by
  have polls : Program.Blames Harmed (fun _ => True)
      (Solution.getNotCheckedIds (journaled deployment)) :=
    (blames_getIds pollStatement).congr fun _ => iff_of_true (.inr rfl) trivial
  induction count with
  | zero => exact .pure ()
  | succ count inductionHypothesis =>
      refine .bind (.bind polls fun ind => ?_) fun _ => inductionHypothesis
      exact .mapM (blames_attempt settings) ind

end Blames

/-! ## The condition -/

section Condition

variable [DecidableEq File]

/-- The answers that the database gives in so many turns of the loop. -/
def answers (deployment : Deployment File Rest Database) (settings : Settings) (count : Nat)
    (before : Site File Rest Database) : List Exchange :=
  (Program.finalStore (cycles (journaled deployment) settings count)
    ⟨before.world, (before.database, [])⟩).database.2

/-- The loop goes on, through all of every batch, exactly as long as every answer of the
database is harmless. -/
theorem survives_iff {deployment : Deployment File Rest Database} {settings : Settings}
    {count : Nat} {before : Site File Rest Database} :
    Survives deployment settings count before ↔
      ∀ exchange ∈ answers deployment settings count before,
        Harmless exchange.query exchange.answer := by
  have clean : ¬ Harmed (⟨before.world, (before.database, [])⟩ :
      Site File Rest (Database × List Exchange)) := by
    rintro ⟨_, member, _⟩
    cases member
  have views : Program.Views forget (cycles (journaled deployment) settings count)
      (cycles deployment settings count) := views_cycles settings count
  have same := views.outcome_eq ⟨before.world, (before.database, [])⟩
  have blames : Program.Blames Harmed (fun _ => True)
      (cycles (journaled deployment) settings count) := blames_cycles settings count
  have returns := blames.returns_iff clean
  rw [survives_iff_returns]
  have harmless : (∀ exchange ∈ answers deployment settings count before,
      Harmless exchange.query exchange.answer) ↔
        ¬ Harmed (Program.finalStore (cycles (journaled deployment) settings count)
          ⟨before.world, (before.database, [])⟩) := by
    simp [Harmed, answers]
  rw [harmless, ← returns]
  simp only [← Program.outcome_eq_ok_iff, ← same]
  rfl

end Condition

/-- A database with solution 7, and with no number in its column `tid`. -/
def brokenTask : Deployment Str Unit Unit where
  machine := pairMachine
  system _ world := world
  server := ⟨fun _ database => .ok database⟩
  select _ database :=
    (.rows [fun index => some (if index.val = 2 then "abc".toList else "7".toList)], database)

/-- The contester does not survive the turn in which it finds this solution. -/
theorem brokenTask_not_survives :
    ¬ ∀ (deployment : Deployment Str Unit Unit) (settings : Settings) (count : Nat)
        (before : Site Str Unit Unit), Survives deployment settings count before := by
  intro always
  have thrown : Program.outcome (cycles brokenTask ⟨[], [], []⟩ 1) ⟨⟨pairFiles, ()⟩, ()⟩ =
      .error .invalidArgument := by
    decide +kernel
  have survives := always brokenTask ⟨[], [], []⟩ 1 ⟨⟨pairFiles, ()⟩, ()⟩
  obtain ⟨value, returned⟩ := survives_iff_returns.mp survives
  rw [Program.outcome_eq_ok_iff.mpr returned] at thrown
  cases thrown

end CheckerOlimp.Contester
