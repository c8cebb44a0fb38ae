import CheckerOlimp.Contester.Serving

/-!
# Progress through the queue

The poll lists ten unchecked solutions, whichever the server finds first. A solution
that cannot be loaded keeps its status, and so it is listed again; one whose loading
throws something else than an `exception` ends the contester. `progresses_iff` says
when a turn of the loop is sure to mark a solution that can be loaded, and so many
turns to mark all of them: exactly when fewer than ten cannot be loaded, and none of
these ends the contester.
-/

namespace CheckerOlimp.Contester

open CheckerOlimp.Std CheckerOlimp.CheckerRc

/-! ## The table of solutions -/

/-- The table has the columns that the loop names, and its ids are `int`s. -/
def Serves (database : Sql.Database) : Prop :=
  ∃ table, database "solutions".toList = some table ∧ markedColumns ⊆ table.columns ∧
    ∀ row ∈ table.rows, ∃ id : Int32, row "id".toList = some (toString id)

/-- The rows of the solutions. -/
def solutions (database : Sql.Database) : List Sql.Row :=
  (database "solutions".toList).elim [] Sql.Table.rows

/-- The rows of the unchecked solutions. -/
def unchecked (database : Sql.Database) : List Sql.Row :=
  (solutions database).filter fun row => row "status".toList = some "0".toList

/-- The id of a row, as the poll converts it. -/
def rowId (row : Sql.Row) : Int32 :=
  match stoi (fieldText (row "id".toList)) with
  | .ok id => .ofInt id
  | .error _ => 0

/-- The solution of the id is checked. -/
def Checked (id : Int32) (database : Sql.Database) : Prop :=
  ∀ row ∈ solutions database, row "id".toList = some (toString id) →
    row "status".toList = some "1".toList

theorem rowId_eq {row : Sql.Row} {id : Int32} (own : row "id".toList = some (toString id)) :
    rowId row = id := by
  unfold rowId
  rw [own, fieldText_toString, stoi_toString]
  exact Int32.ofInt_toInt id

/-- The cell of an id is the text of the id. -/
theorem Serves.id_of_mem {database : Sql.Database} (serves : Serves database) {row : Sql.Row}
    (member : row ∈ solutions database) : row "id".toList = some (toString (rowId row)) := by
  obtain ⟨table, found, _, ids⟩ := serves
  rw [solutions, found] at member
  obtain ⟨id, own⟩ := ids row member
  rw [rowId_eq own, own]

theorem solutions_marking (id : Int32) (text : Str) (database : Sql.Database) :
    solutions (marking id text database) = (solutions database).map (marked id text) := by
  unfold solutions marking
  rw [Function.update_self]
  cases database "solutions".toList with
  | none => rfl
  | some table => rfl

theorem Serves.marking {database : Sql.Database} (serves : Serves database) (id : Int32)
    (text : Str) : Serves (marking id text database) := by
  obtain ⟨table, found, columns, ids⟩ := serves
  refine ⟨{ table with rows := table.rows.map (marked id text) }, ?_, columns, ?_⟩
  · rw [Contester.marking, Function.update_self, found]
    rfl
  · intro row member
    obtain ⟨before, inside, rfl⟩ := List.mem_map.mp member
    rw [marked_id]
    exact ids before inside

/-- What a row holds after it is marked. -/
theorem marked_status {id : Int32} {text : Str} {row : Sql.Row}
    (own : row "id".toList = some (toString id)) :
    marked id text row "status".toList = some "1".toList := by
  rw [marked, if_pos own, Function.update_self]

/-- Marking a solution takes its rows from the unchecked ones and leaves the others. -/
theorem unchecked_marking (id : Int32) (text : Str) (database : Sql.Database) :
    unchecked (marking id text database) =
      (unchecked database).filter fun row => row "id".toList ≠ some (toString id) := by
  unfold unchecked
  rw [solutions_marking]
  induction solutions database with
  | nil => rfl
  | cons row rest inductionHypothesis =>
      rw [List.map_cons, List.filter_cons, List.filter_cons, inductionHypothesis]
      by_cases own : row "id".toList = some (toString id)
      · have checked : ¬ decide (some "1".toList = some "0".toList) = true := by decide
        rw [marked_status own, if_neg checked]
        split
        · rw [List.filter_cons, if_neg (by simpa using own)]
        · rfl
      · rw [marked, if_neg own]
        split
        · rw [List.filter_cons, if_pos (by simpa using own)]
        · rfl

theorem Checked.marking {id : Int32} {database : Sql.Database} (checked : Checked id database)
    (other : Int32) (text : Str) : Checked id (marking other text database) := by
  intro row member own
  rw [solutions_marking] at member
  obtain ⟨before, inside, rfl⟩ := List.mem_map.mp member
  rw [marked_id] at own
  by_cases same : before "id".toList = some (toString other)
  · exact marked_status same
  · rw [marked, if_neg same]
    exact checked before inside own

theorem checked_marking (id : Int32) (text : Str) (database : Sql.Database) :
    Checked id (marking id text database) := by
  intro row member own
  rw [solutions_marking] at member
  obtain ⟨before, _, rfl⟩ := List.mem_map.mp member
  rw [marked_id] at own
  exact marked_status own

/-- An unchecked solution is not checked. -/
theorem not_checked_of_unchecked {database : Sql.Database} (serves : Serves database)
    {row : Sql.Row} (member : row ∈ unchecked database) : ¬ Checked (rowId row) database := by
  intro checked
  obtain ⟨inside, status⟩ := List.mem_filter.mp member
  have marked := checked row inside (serves.id_of_mem inside)
  rw [of_decide_eq_true status] at marked
  exact absurd marked (by decide)

/-! ## The poll -/

section Loop

variable {File Rest : Type} {machine : Machine File Rest}
  {system : Str → World File Rest → World File Rest} {limited unlimited : Sql.Order}
  {site : Site File Rest Sql.Database}

/-- The rows that the poll finds. -/
def polled (limited : Sql.Order) (database : Sql.Database) : List Sql.Row :=
  (limited.arrange (unchecked database)).take 10

theorem mem_unchecked_of_polled {database : Sql.Database} {row : Sql.Row}
    (member : row ∈ polled limited database) : row ∈ unchecked database :=
  (limited.perm _).mem_iff.mp (List.mem_of_mem_take member)

theorem Serves.poll {database : Sql.Database} (serves : Serves database) :
    sqlAnswer limited unlimited (.ids pollStatement) database =
      .rows ((polled limited database).map fun row _ => row "id".toList) := by
  obtain ⟨table, found, columns, _⟩ := serves
  have named : pollSelect.names ⊆ table.columns := by
    refine List.Subset.trans ?_ columns
    decide
  have zero : (Sql.Value.integer 0).cell = "0".toList := by decide
  have rows : pollSelect.found limited table.rows = polled limited database := by
    simp only [polled, unchecked, solutions, found, Option.elim_some, Sql.Select.found, pollSelect,
      Option.all_some, Sql.Equation.holds, zero]
  have executed : pollSelect.execute limited database =
      some ((polled limited database).map fun row => [row "id".toList]) := by
    have looked : database pollSelect.table = some table := found
    rw [Sql.Select.execute, looked, Option.bind_eq_bind, Option.bind_some, if_pos named, rows]
    rfl
  have counted : (if pollSelect.limit.isSome then limited else unlimited) = limited := rfl
  simp only [sqlAnswer, Query.sql, parse_pollStatement, counted, executed, List.map_map]
  congr 1
  apply List.map_congr_left
  intro row _
  funext index
  obtain rfl : index = 0 := Subsingleton.elim _ _
  rfl

/-- Each of them gives its id. -/
theorem returns_rowIds {Store : Type} {store : Store} {rows : List Sql.Row}
    (ids : ∀ row ∈ rows, row "id".toList = some (toString (rowId row))) :
    Program.Returns ((rows.map fun row (_ : Fin 1) => fieldText (row "id".toList)).mapM
      fun row => do pure (Int32.ofInt (← ofExcept (stoi (row 0))))) store (rows.map rowId)
        store := by
  induction rows with
  | nil => exact Program.returns_mapM_nil_iff.mpr ⟨rfl, rfl⟩
  | cons row rest inductionHypothesis =>
      have own := ids row List.mem_cons_self
      have later := inductionHypothesis fun other member =>
        ids other (List.mem_cons_of_mem _ member)
      refine Program.returns_mapM_cons_iff.mpr ⟨rowId row, store, rest.map rowId, ?_, later, rfl⟩
      dsimp only
      rw [own, fieldText_toString, stoi_toString]
      refine Program.returns_bind_iff.mpr ⟨_, store, returns_ofExcept_iff.mpr ⟨rfl, rfl⟩, ?_⟩
      exact Program.returns_pure_iff.mpr ⟨(Int32.ofInt_toInt _).symm, rfl⟩

/-- The poll gives the ids of the rows that it finds. -/
theorem returns_poll (serves : Serves site.database) :
    Program.Returns
      (Solution.getNotCheckedIds (sqlDeployment machine system limited unlimited)) site
      ((polled limited site.database).map rowId) site := by
  unfold Solution.getNotCheckedIds getIds
  refine Program.returns_bind_iff.mpr
    ⟨(polled limited site.database).map fun row _ => fieldText (row "id".toList), site, ?_, ?_⟩
  · unfold Program.Returns
    rw [run_q_sql, serves.poll, answered, List.map_map]
    rfl
  · apply returns_rowIds
    intro row member
    have among := mem_unchecked_of_polled member
    exact serves.id_of_mem (List.mem_filter.mp among).1

/-! ## Obstacles -/

/-- The reason for which the solution of an id cannot be loaded. -/
def obstacle (machine : Machine File Rest) (system : Str → World File Rest → World File Rest)
    (unlimited : Sql.Order) (site : Site File Rest Sql.Database) (id : Int32) : Option Thrown :=
  match loaded machine system unlimited site id with
  | .ok _ => none
  | .error reason => some reason

/-- It is the same in a database that answers alike. -/
theorem obstacle_congr {database : Sql.Database} {id : Int32}
    (unaffected : Unaffected unlimited id site.database database) (world : World File Rest) :
    obstacle machine system unlimited ⟨world, database⟩ id =
      obstacle machine system unlimited site id := by
  have same : loaded machine system unlimited ⟨world, database⟩ id =
      loaded machine system unlimited site id :=
    outcome_of_settled (run_new unaffected world)
  unfold obstacle
  rw [same]

/-- The solution of the row can be loaded. -/
def judgeable (machine : Machine File Rest) (system : Str → World File Rest → World File Rest)
    (unlimited : Sql.Order) (site : Site File Rest Sql.Database) (row : Sql.Row) : Bool :=
  (obstacle machine system unlimited site (rowId row)).isNone

/-- Loading the solution of the row ends the contester. -/
def fatal (machine : Machine File Rest) (system : Str → World File Rest → World File Rest)
    (unlimited : Sql.Order) (site : Site File Rest Sql.Database) (row : Sql.Row) : Bool :=
  (obstacle machine system unlimited site (rowId row)).any fun reason => (caught reason).isNone

/-- An exception that ends the contester is not handled. -/
theorem fatal_eq_false_iff {row : Sql.Row} :
    fatal machine system unlimited site row = false ↔
      ∀ reason, obstacle machine system unlimited site (rowId row) = some reason →
        ¬ Uncaught reason := by
  unfold fatal Uncaught
  cases obstacle machine system unlimited site (rowId row) with
  | none => simp
  | some reason => simp [Option.isSome_iff_ne_none]

/-! ## What the loop keeps -/

/-- What the loop keeps: an unchecked solution is as it was, or it is checked, and stays so. -/
structure Continues (unlimited : Sql.Order) (before after : Sql.Database) : Prop where
  serves : Serves after
  kept : ∀ {id}, Checked id before → Checked id after
  rest : (unchecked after).Sublist (unchecked before)
  alike : ∀ row ∈ unchecked after, Unaffected unlimited (rowId row) before after
  done : ∀ row ∈ unchecked before, row ∈ unchecked after ∨ Checked (rowId row) after

theorem Continues.refl {database : Sql.Database} (serves : Serves database) :
    Continues unlimited database database where
  serves := serves
  kept checked := checked
  rest := List.Sublist.refl _
  alike row _ := Unaffected.refl unlimited (rowId row) database
  done _ member := .inl member

theorem Continues.trans {before middle after : Sql.Database}
    (first : Continues unlimited before middle) (second : Continues unlimited middle after) :
    Continues unlimited before after where
  serves := second.serves
  kept checked := second.kept (first.kept checked)
  rest := second.rest.trans first.rest
  alike row member := (first.alike row (second.rest.subset member)).trans (second.alike row member)
  done row member := by
    rcases first.done row member with remains | checked
    · exact second.done row remains
    · exact .inr (second.kept checked)

/-- Marking a solution continues. -/
theorem continues_marking {database : Sql.Database} (serves : Serves database) (id : Int32)
    (text : Str) : Continues unlimited database (marking id text database) where
  serves := serves.marking id text
  kept checked := checked.marking id text
  rest := by
    rw [unchecked_marking]
    exact List.filter_sublist
  alike row member := by
    rw [unchecked_marking] at member
    obtain ⟨inside, foreign⟩ := List.mem_filter.mp member
    have own := serves.id_of_mem (List.mem_filter.mp inside).1
    apply unaffected_marking
    rintro rfl
    exact absurd own (of_decide_eq_true foreign)
  done row member := by
    rw [unchecked_marking]
    by_cases same : row "id".toList = some (toString id)
    · rw [rowId_eq same]
      exact .inr (checked_marking id text database)
    · exact .inl (List.mem_filter.mpr ⟨member, by simpa using same⟩)

/-- A solution that remains is loaded as before. -/
theorem Continues.obstacle_eq {after : Site File Rest Sql.Database}
    (continues : Continues unlimited site.database after.database) {row : Sql.Row}
    (remains : row ∈ unchecked after.database) :
    obstacle machine system unlimited after (rowId row) =
      obstacle machine system unlimited site (rowId row) :=
  obstacle_congr (continues.alike row remains) after.world

/-- So are all that remain. -/
theorem Continues.countP_eq {after : Site File Rest Sql.Database}
    (continues : Continues unlimited site.database after.database) (wanted : Option Thrown → Bool) :
    (unchecked after.database).countP
        (fun row => wanted (obstacle machine system unlimited after (rowId row))) =
      (unchecked after.database).countP
        fun row => wanted (obstacle machine system unlimited site (rowId row)) := by
  apply List.countP_congr
  intro row remains
  rw [continues.obstacle_eq remains]

/-- The queue moves: fewer unchecked solutions than a batch has cannot be loaded, and none
of them ends the contester. -/
structure Moves (machine : Machine File Rest) (system : Str → World File Rest → World File Rest)
    (unlimited : Sql.Order) (site : Site File Rest Sql.Database) : Prop where
  handled : ∀ row ∈ unchecked site.database, fatal machine system unlimited site row = false
  fewer : (unchecked site.database).countP (!judgeable machine system unlimited site ·) < 10

/-- It still does when the loop continues. -/
theorem Moves.continues {after : Site File Rest Sql.Database}
    (moves : Moves machine system unlimited site)
    (continues : Continues unlimited site.database after.database) :
    Moves machine system unlimited after where
  handled row remains := by
    rw [fatal, continues.obstacle_eq remains]
    exact moves.handled row (continues.rest.subset remains)
  fewer := by
    have same : (unchecked after.database).countP (!judgeable machine system unlimited after ·) =
        (unchecked after.database).countP (!judgeable machine system unlimited site ·) :=
      continues.countP_eq fun failed => !failed.isNone
    rw [same]
    exact continues.rest.countP_le.trans_lt moves.fewer

/-! ## Attempts -/

variable [DecidableEq File] {settings : Settings}

/-- The judge works from these files on: whatever it judges, it leaves a text that the
statement stores, and after the run it still works. -/
def JudgeWorks (machine : Machine File Rest) (system : Str → World File Rest → World File Rest)
    (settings : Settings) (world : World File Rest) : Prop :=
  ∃ ready : World File Rest → Prop, ready world ∧
    ∀ (solution : Solution) (world : World File Rest), ready world →
      let checker := Checker.new settings solution "solution".toList "solution.json".toList
        "result.json".toList
      '\x00' ∉ checker.resultText machine system settings world ∧
        Sql.Literal (checker.resultText machine system settings world) ∧
        ∀ database after, Program.Returns (checker.run ⟨machine, system, sqlServer⟩ settings)
          ⟨world, database⟩ () after → ready after.world

/-- A solution that is loaded is judged and marked. -/
theorem returns_judge (works : JudgeWorks machine system settings site.world)
    (serves : Serves site.database) {id : Int32} {solution : Solution}
    (loads : loaded machine system unlimited site id = .ok solution) :
    ∃ world text, JudgeWorks machine system settings world ∧
      Program.Returns (judge (sqlDeployment machine system limited unlimited) settings id) site
        () ⟨world, marking id text site.database⟩ := by
  obtain ⟨table, found, columns, _⟩ := serves
  obtain ⟨ready, now, always⟩ := works
  obtain ⟨printable, literal, later⟩ := always solution site.world now
  have stored := (storesResult_iff_stores printable).mpr (stores_of_literal literal solution.id)
  obtain ⟨after, returned, same⟩ := stored.effect site.database table found columns
  have ran : Program.Returns (Solution.new (sqlDeployment machine system limited unlimited) id) site
      solution site :=
    (run_new (Unaffected.refl unlimited id site.database) site.world).trans
      (congrArg (settled · site) loads)
  have judged : Program.Returns (judge (sqlDeployment machine system limited unlimited) settings id)
      site () after :=
    ran.bind returned
  obtain ⟨text, database⟩ : ∃ text, after.database = marking id text site.database :=
    ⟨_, id_of_loaded loads ▸ same⟩
  refine ⟨after.world, text, ⟨ready, later _ _ returned, always⟩, ?_⟩
  rw [← database]
  exact judged

/-- One that is not loaded leaves everything as it is. -/
theorem stops_judge {id : Int32} {reason : Thrown}
    (failed : loaded machine system unlimited site id = .error reason) :
    Program.Stops (judge (sqlDeployment machine system limited unlimited) settings id) site
      reason site := by
  have ran : (Solution.new (sqlDeployment machine system limited unlimited) id).run site =
      settled (loaded machine system unlimited site id) site :=
    run_new (Unaffected.refl unlimited id site.database) site.world
  unfold Program.Stops judge
  rw [EStateM.run_bind, ran, failed]
  rfl

/-- What an attempt does: it marks the solution, or it fails to load it and leaves
everything as it is. -/
theorem attempt_cases (works : JudgeWorks machine system settings site.world)
    (serves : Serves site.database) (id : Int32) :
    (obstacle machine system unlimited site id = none ∧ ∃ world text,
      JudgeWorks machine system settings world ∧
      Program.Returns (attempt (sqlDeployment machine system limited unlimited) settings id) site
        none ⟨world, marking id text site.database⟩) ∨
    (∃ message, obstacle machine system unlimited site id = some (.exception message) ∧
      Program.Returns (attempt (sqlDeployment machine system limited unlimited) settings id) site
        (some message) site) ∨
    (∃ reason, obstacle machine system unlimited site id = some reason ∧ Uncaught reason ∧
      Program.Stops (attempt (sqlDeployment machine system limited unlimited) settings id) site
        reason site) := by
  unfold obstacle
  cases loads : loaded machine system unlimited site id with
  | ok solution =>
      obtain ⟨world, text, still, judged⟩ := returns_judge works serves loads
      exact .inl ⟨rfl, world, text, still, returns_attempt_iff.mpr (.inl ⟨rfl, judged⟩)⟩
  | error reason =>
      have stopped : Program.Stops (judge (sqlDeployment machine system limited unlimited) settings
          id) site reason site := stops_judge loads
      cases known : caught reason with
      | some message =>
          obtain rfl := caught_eq_some_iff.mp known
          have returned := returns_attempt_iff.mpr (.inr ⟨message, rfl, stopped⟩)
          exact .inr (.inl ⟨message, rfl, returned⟩)
      | none =>
          refine .inr (.inr ⟨reason, rfl, known, ?_⟩)
          have unhandled : (caught reason).map some = none := by
            rw [known]
            rfl
          exact Program.run_recover_unknown (Program.stops_bind_pure_iff.mpr stopped) unhandled

/-- What marking keeps is kept by the attempts of a batch, whether all are made or not. -/
theorem kept_by_attempts (property : Site File Rest Sql.Database → Prop)
    (works : JudgeWorks machine system settings site.world)
    (kept : ∀ {site : Site File Rest Sql.Database}, Serves site.database → property site →
      ∀ id text world, JudgeWorks machine system settings world →
        property ⟨world, marking id text site.database⟩)
    (ids : List Int32) (serves : Serves site.database) (holds : property site) :
    property (Program.finalStore (ids.mapM
      (attempt (sqlDeployment machine system limited unlimited) settings)) site) := by
  induction ids generalizing site with
  | nil => exact holds
  | cons id ids inductionHypothesis =>
      rcases attempt_cases works serves id with
        ⟨_, world, text, still, returned⟩ | ⟨message, _, returned⟩ | ⟨reason, _, _, stopped⟩
      · rw [returned.finalStore_mapM]
        exact inductionHypothesis still (serves.marking id text)
          (kept serves holds id text world still)
      · rw [returned.finalStore_mapM]
        exact inductionHypothesis works serves holds
      · rw [stopped.finalStore_mapM]
        exact holds

/-- A batch of solutions that cannot be loaded changes nothing. -/
theorem unchanged_by_attempts (works : JudgeWorks machine system settings site.world)
    {ids : List Int32} (serves : Serves site.database)
    (blocked : ∀ id ∈ ids, obstacle machine system unlimited site id ≠ none) :
    Program.finalStore (ids.mapM
      (attempt (sqlDeployment machine system limited unlimited) settings)) site = site := by
  induction ids with
  | nil => rfl
  | cons id ids inductionHypothesis =>
      have later := inductionHypothesis fun other member =>
        blocked other (List.mem_cons_of_mem _ member)
      rcases attempt_cases works serves id with
        ⟨free, _⟩ | ⟨message, _, returned⟩ | ⟨reason, _, _, stopped⟩
      · exact absurd free (blocked id List.mem_cons_self)
      · rw [returned.finalStore_mapM]
        exact later
      · rw [stopped.finalStore_mapM]

/-- A batch with a solution that can be loaded marks the first one, if nothing ends the
contester before. -/
theorem checked_by_attempts (works : JudgeWorks machine system settings site.world)
    {ids : List Int32} (serves : Serves site.database)
    (free : ∃ id ∈ ids, obstacle machine system unlimited site id = none)
    (handled : ∀ id ∈ ids, ∀ reason, obstacle machine system unlimited site id = some reason →
      ¬ Uncaught reason) :
    ∃ id ∈ ids, obstacle machine system unlimited site id = none ∧
      Checked id (Program.finalStore (ids.mapM
        (attempt (sqlDeployment machine system limited unlimited) settings)) site).database := by
  induction ids with
  | nil =>
      obtain ⟨_, member, _⟩ := free
      cases member
  | cons id ids inductionHypothesis =>
      rcases attempt_cases works serves id with
        ⟨loads, world, text, still, returned⟩ | ⟨message, failed, returned⟩ |
          ⟨reason, failed, uncaught, _⟩
      · refine ⟨id, List.mem_cons_self, loads, ?_⟩
        rw [returned.finalStore_mapM]
        exact kept_by_attempts (fun site => Checked id site.database) still
          (fun _ checked other text _ _ => checked.marking other text) ids (serves.marking id text)
          (checked_marking id text site.database)
      · rw [returned.finalStore_mapM]
        obtain ⟨other, member, loads⟩ := free
        have inside : other ∈ ids := by
          rcases List.mem_cons.mp member with rfl | inside
          · rw [failed] at loads
            cases loads
          · exact inside
        obtain ⟨first, among, loads, checked⟩ := inductionHypothesis ⟨other, inside, loads⟩
          fun other member => handled other (List.mem_cons_of_mem _ member)
        exact ⟨first, List.mem_cons_of_mem _ among, loads, checked⟩
      · exact absurd uncaught (handled id List.mem_cons_self reason failed)

/-! ## One turn of the loop -/

/-- A turn of the loop marks a solution that can be loaded. -/
def MarksOne (machine : Machine File Rest) (system : Str → World File Rest → World File Rest)
    (limited unlimited : Sql.Order) (settings : Settings) (site : Site File Rest Sql.Database) :
    Prop :=
  ∃ row ∈ unchecked site.database, judgeable machine system unlimited site row = true ∧
    Checked (rowId row) (Program.finalStore
      (cycle (sqlDeployment machine system limited unlimited) settings) site).database

theorem finalStore_cycle (serves : Serves site.database) :
    Program.finalStore (cycle (sqlDeployment machine system limited unlimited) settings) site =
      Program.finalStore (((polled limited site.database).map rowId).mapM
        (attempt (sqlDeployment machine system limited unlimited) settings)) site :=
  (returns_poll serves).finalStore_bind

/-- Among the first of a list is one with a property, if fewer are without it. -/
theorem exists_mem_take {α : Type} {items : List α} {wanted : α → Bool} {count : Nat}
    (fewer : items.countP (!wanted ·) < count) (found : ∃ item ∈ items, wanted item = true) :
    ∃ item ∈ items.take count, wanted item = true := by
  by_contra missing
  have unwanted : ∀ item ∈ items.take count, (!wanted item) = true := by
    intro item member
    rw [Bool.not_eq_true', ← Bool.not_eq_true]
    exact fun holds => missing ⟨item, member, holds⟩
  rcases Nat.lt_or_ge count items.length with longer | whole
  · have all := List.countP_eq_length.mpr unwanted
    have within := (List.take_sublist count items).countP_le (p := (!wanted ·))
    rw [List.length_take] at all
    omega
  · rw [List.take_of_length_le whole] at missing
    exact missing found

/-- Where the queue moves, every turn marks a solution, whichever the poll lists. -/
theorem marksOne_of_moves (works : JudgeWorks machine system settings site.world)
    (serves : Serves site.database) (moves : Moves machine system unlimited site)
    (free : ∃ row ∈ unchecked site.database, judgeable machine system unlimited site row = true)
    (limited : Sql.Order) : MarksOne machine system limited unlimited settings site := by
  have perm := limited.perm (unchecked site.database)
  have fewer := moves.fewer
  rw [← perm.countP_eq] at fewer
  obtain ⟨row, member, loads⟩ : ∃ row ∈ polled limited site.database,
      judgeable machine system unlimited site row = true := by
    obtain ⟨row, member, loads⟩ := free
    exact exists_mem_take fewer ⟨row, perm.mem_iff.mpr member, loads⟩
  have handled : ∀ id ∈ (polled limited site.database).map rowId, ∀ reason,
      obstacle machine system unlimited site id = some reason → ¬ Uncaught reason := by
    intro id member
    obtain ⟨row, inside, rfl⟩ := List.mem_map.mp member
    exact fatal_eq_false_iff.mp (moves.handled row (mem_unchecked_of_polled inside))
  unfold MarksOne
  rw [finalStore_cycle serves]
  obtain ⟨id, inside, first, checked⟩ := checked_by_attempts works serves
    ⟨rowId row, List.mem_map_of_mem member, Option.isNone_iff_eq_none.mp loads⟩ handled
  obtain ⟨row, found, rfl⟩ := List.mem_map.mp inside
  exact ⟨row, mem_unchecked_of_polled found, Option.isNone_iff_eq_none.mpr first, checked⟩

/-- A turn that changes nothing marks nothing. -/
theorem not_marksOne_of_unchanged (serves : Serves site.database)
    (same : Program.finalStore (((polled limited site.database).map rowId).mapM
      (attempt (sqlDeployment machine system limited unlimited) settings)) site = site) :
    ¬ MarksOne machine system limited unlimited settings site := by
  rintro ⟨row, member, _, checked⟩
  rw [finalStore_cycle serves, same] at checked
  exact not_checked_of_unchecked serves member checked

/-- A solution that ends the contester does so before anything is marked, when the poll
lists it first. -/
theorem not_marksOne_of_fatal (works : JudgeWorks machine system settings site.world)
    (serves : Serves site.database) {row : Sql.Row} (member : row ∈ unchecked site.database)
    (ends : fatal machine system unlimited site row = true) :
    ¬ MarksOne machine system (.first (fatal machine system unlimited site)) unlimited settings
      site := by
  apply not_marksOne_of_unchanged serves
  obtain ⟨head, rest, firsts⟩ := List.exists_cons_of_ne_nil
    (List.ne_nil_of_mem (List.mem_filter.mpr ⟨member, ends⟩))
  have listed : polled (.first (fatal machine system unlimited site)) site.database =
      head :: (rest ++ (unchecked site.database).filter
        (!fatal machine system unlimited site ·)).take 9 := by
    simp only [polled, Sql.Order.first, firsts, List.cons_append, List.take_succ_cons]
  have own : fatal machine system unlimited site head = true :=
    (List.mem_filter.mp (firsts ▸ List.mem_cons_self)).2
  unfold fatal at own
  rw [listed, List.map_cons]
  rcases attempt_cases works serves (rowId head) with
    ⟨loads, _⟩ | ⟨message, failed, _⟩ | ⟨reason, _, _, stopped⟩
  · rw [loads] at own
    cases own
  · rw [failed] at own
    cases own
  · exact stopped.finalStore_mapM

/-- Ten solutions that cannot be loaded keep the others waiting, when the poll lists
them first. -/
theorem not_marksOne_of_many (works : JudgeWorks machine system settings site.world)
    (serves : Serves site.database)
    (many : 10 ≤ (unchecked site.database).countP (!judgeable machine system unlimited site ·)) :
    ¬ MarksOne machine system (.first (!judgeable machine system unlimited site ·)) unlimited
      settings site := by
  apply not_marksOne_of_unchanged serves
  apply unchanged_by_attempts works serves
  intro id member
  obtain ⟨row, inside, rfl⟩ := List.mem_map.mp member
  rw [List.countP_eq_length_filter] at many
  rw [polled, Sql.Order.first, List.take_append_of_le_length many] at inside
  have blocked := (List.mem_filter.mp (List.mem_of_mem_take inside)).2
  simpa [judgeable, Option.isSome_iff_ne_none] using blocked

/-- Every turn marks a solution, whichever the poll lists, only where the queue moves. -/
theorem moves_of_marksOne (works : JudgeWorks machine system settings site.world)
    (serves : Serves site.database)
    (always : ∀ limited, MarksOne machine system limited unlimited settings site) :
    Moves machine system unlimited site where
  handled row member := by
    by_contra ends
    rw [Bool.not_eq_false] at ends
    exact not_marksOne_of_fatal works serves member ends (always _)
  fewer := by
    by_contra many
    exact not_marksOne_of_many works serves (Nat.le_of_not_lt many) (always _)

/-! ## So many turns -/

/-- A turn of the loop continues. -/
theorem continues_cycle (works : JudgeWorks machine system settings site.world)
    (serves : Serves site.database) (limited : Sql.Order) :
    Continues unlimited site.database (Program.finalStore
      (cycle (sqlDeployment machine system limited unlimited) settings) site).database := by
  rw [finalStore_cycle serves]
  refine kept_by_attempts (fun after => Continues unlimited site.database after.database) works ?_ _
    serves (Continues.refl serves)
  intro site serves continues id text world _
  exact continues.trans (continues_marking serves id text)

/-- After a turn the judge still works. -/
theorem works_cycle (works : JudgeWorks machine system settings site.world)
    (serves : Serves site.database) (limited : Sql.Order) :
    JudgeWorks machine system settings (Program.finalStore
      (cycle (sqlDeployment machine system limited unlimited) settings) site).world := by
  rw [finalStore_cycle serves]
  exact kept_by_attempts (fun after => JudgeWorks machine system settings after.world) works
    (fun _ _ _ _ _ still => still) _ serves works

/-- A batch of different solutions is gone through, if none of them ends the contester. -/
theorem returns_attempts (works : JudgeWorks machine system settings site.world) {ids : List Int32}
    (serves : Serves site.database) (distinct : ids.Nodup)
    (handled : ∀ id ∈ ids, ∀ reason, obstacle machine system unlimited site id = some reason →
      ¬ Uncaught reason) :
    ∃ printed after, Program.Returns (ids.mapM
      (attempt (sqlDeployment machine system limited unlimited) settings)) site printed after := by
  induction ids generalizing site with
  | nil => exact ⟨[], site, Program.returns_mapM_nil_iff.mpr ⟨rfl, rfl⟩⟩
  | cons id ids inductionHypothesis =>
      obtain ⟨other, rest⟩ := List.nodup_cons.mp distinct
      have later := fun other member => handled other (List.mem_cons_of_mem id member)
      rcases attempt_cases works serves id with
        ⟨_, world, text, still, returned⟩ | ⟨message, _, returned⟩ | ⟨reason, failed, uncaught, _⟩
      · -- What is left of the batch is not what has been marked.
        have next : ∀ next ∈ ids, ∀ reason, obstacle machine system unlimited
            ⟨world, marking id text site.database⟩ next = some reason → ¬ Uncaught reason := by
          intro next member reason
          have different : next ≠ id := fun same => other (same ▸ member)
          rw [obstacle_congr (unaffected_marking unlimited different text site.database) world]
          exact later next member reason
        obtain ⟨printed, after, following⟩ :=
          inductionHypothesis still (serves.marking id text) rest next
        exact ⟨_, after, Program.returns_mapM_cons_iff.mpr
          ⟨_, _, printed, returned, following, rfl⟩⟩
      · obtain ⟨printed, after, following⟩ := inductionHypothesis works serves rest later
        exact ⟨_, after, Program.returns_mapM_cons_iff.mpr
          ⟨_, _, printed, returned, following, rfl⟩⟩
      · exact absurd uncaught (handled id List.mem_cons_self reason failed)

/-- The ids of the unchecked solutions are different. -/
def Keyed (database : Sql.Database) : Prop := ((unchecked database).map rowId).Nodup

/-- The loop survives a turn in which no solution ends the contester. -/
theorem returns_cycle (works : JudgeWorks machine system settings site.world)
    (serves : Serves site.database) (keyed : Keyed site.database)
    (handled : ∀ row ∈ unchecked site.database, fatal machine system unlimited site row = false)
    (limited : Sql.Order) :
    ∃ printed after, Program.Returns
      (cycle (sqlDeployment machine system limited unlimited) settings) site printed after := by
  have distinct : ((polled limited site.database).map rowId).Nodup := by
    have perm := (limited.perm (unchecked site.database)).map rowId
    exact (perm.nodup_iff.mpr keyed).sublist ((List.take_sublist _ _).map rowId)
  have batch : ∃ printed after, Program.Returns (((polled limited site.database).map rowId).mapM
      (attempt (sqlDeployment machine system limited unlimited) settings)) site printed after := by
    refine returns_attempts works serves distinct ?_
    intro id member
    obtain ⟨row, inside, rfl⟩ := List.mem_map.mp member
    exact fatal_eq_false_iff.mp (handled row (mem_unchecked_of_polled inside))
  obtain ⟨printed, after, returned⟩ := batch
  exact ⟨printed, after, (returns_poll serves).bind returned⟩

/-- A part of a list without one of its items with a property has fewer of them. -/
theorem countP_lt_of_sublist {α : Type} {items others : List α} {wanted : α → Bool} {item : α}
    (part : others.Sublist items) (member : item ∈ items) (holds : wanted item = true)
    (absent : item ∉ others) : others.countP wanted < items.countP wanted := by
  rw [List.countP_eq_length_filter, List.countP_eq_length_filter]
  refine Nat.lt_of_le_of_ne (part.filter wanted).length_le fun same => absent ?_
  have all := (part.filter wanted).eq_of_length same
  exact List.mem_of_mem_filter (all ▸ List.mem_filter.mpr ⟨member, holds⟩)

/-- Fewer solutions are left to judge after a turn, until there is none. -/
theorem left_to_judge (works : JudgeWorks machine system settings site.world)
    (serves : Serves site.database) (moves : Moves machine system unlimited site)
    (limited : Sql.Order)
    {after : Site File Rest Sql.Database}
    (left : after = Program.finalStore
      (cycle (sqlDeployment machine system limited unlimited) settings) site) {count : Nat}
    (most : (unchecked site.database).countP (judgeable machine system unlimited site) ≤
      count + 1) :
    (unchecked after.database).countP (judgeable machine system unlimited after) ≤ count := by
  have continues : Continues unlimited site.database after.database :=
    left ▸ continues_cycle works serves limited
  have same : (unchecked after.database).countP (judgeable machine system unlimited after) =
      (unchecked after.database).countP (judgeable machine system unlimited site) :=
    continues.countP_eq Option.isNone
  rw [same]
  by_cases free : ∃ row ∈ unchecked site.database,
      judgeable machine system unlimited site row = true
  · obtain ⟨row, member, loads, checked⟩ := marksOne_of_moves works serves moves free limited
    rw [← left] at checked
    have absent : row ∉ unchecked after.database := fun remains =>
      not_checked_of_unchecked continues.serves remains checked
    have fewer := countP_lt_of_sublist continues.rest member loads absent
    omega
  · have none : (unchecked site.database).countP (judgeable machine system unlimited site) = 0 :=
      List.countP_eq_zero.mpr fun row member loads => free ⟨row, member, loads⟩
    have fewer := continues.rest.countP_le (p := judgeable machine system unlimited site)
    omega

/-- The loop, with a server that has an order for every poll. -/
def turns (machine : Machine File Rest) (system : Str → World File Rest → World File Rest)
    (unlimited : Sql.Order) (settings : Settings) (orders : List Sql.Order) :
    Contest File Rest Sql.Database (List (List (Option Str))) :=
  orders.mapM fun limited => cycle (sqlDeployment machine system limited unlimited) settings

/-- After as many turns as there are solutions to judge, all of them are checked. -/
def Drains (machine : Machine File Rest) (system : Str → World File Rest → World File Rest)
    (unlimited : Sql.Order) (settings : Settings) (site : Site File Rest Sql.Database)
    (orders : List Sql.Order) : Prop :=
  (unchecked site.database).countP (judgeable machine system unlimited site) ≤ orders.length →
    ∀ row ∈ unchecked site.database, judgeable machine system unlimited site row = true →
      Checked (rowId row)
        (Program.finalStore (turns machine system unlimited settings orders) site).database

theorem finalStore_turns_cons {limited : Sql.Order} {orders : List Sql.Order}
    {printed : List (Option Str)} {after : Site File Rest Sql.Database}
    (returned : Program.Returns
      (cycle (sqlDeployment machine system limited unlimited) settings) site printed after) :
    Program.finalStore (turns machine system unlimited settings (limited :: orders)) site =
      Program.finalStore (turns machine system unlimited settings orders) after := by
  unfold turns
  apply Program.Returns.finalStore_mapM
  exact returned

/-- The turns continue, whether all are made or not. -/
theorem continues_turns (works : JudgeWorks machine system settings site.world)
    (serves : Serves site.database) (orders : List Sql.Order) :
    Continues unlimited site.database (Program.finalStore
      (turns machine system unlimited settings orders) site).database := by
  induction orders generalizing site with
  | nil => exact Continues.refl serves
  | cons limited orders inductionHypothesis =>
      have continues : Continues unlimited site.database _ := continues_cycle works serves limited
      have still : JudgeWorks machine system settings (Program.finalStore
          (cycle (sqlDeployment machine system limited unlimited) settings) site).world :=
        works_cycle works serves limited
      cases ran : (cycle (sqlDeployment machine system limited unlimited) settings).run site with
      | ok printed after =>
          have returned : Program.Returns _ site printed after := ran
          rw [returned.finalStore_eq] at continues still
          rw [finalStore_turns_cons returned]
          exact continues.trans (inductionHypothesis still continues.serves)
      | error reason after =>
          have stopped : Program.Stops _ site reason after := ran
          have same : Program.finalStore
              (turns machine system unlimited settings (limited :: orders)) site = after := by
            unfold turns
            apply Program.Stops.finalStore_mapM
            exact stopped
          rw [stopped.finalStore_eq] at continues
          rw [same]
          exact continues

/-- Where the queue moves, it drains. -/
theorem drains_of_moves (works : JudgeWorks machine system settings site.world)
    (serves : Serves site.database) (moves : Moves machine system unlimited site)
    (keyed : Keyed site.database) (orders : List Sql.Order) :
    Drains machine system unlimited settings site orders := by
  intro enough row member loads
  induction orders generalizing site with
  | nil =>
      have none := List.countP_eq_zero.mp (Nat.le_zero.mp enough) row member
      exact absurd loads none
  | cons limited orders inductionHypothesis =>
      obtain ⟨printed, after, returned⟩ := returns_cycle works serves keyed moves.handled limited
      have continues : Continues unlimited site.database after.database :=
        returned.finalStore_eq ▸ continues_cycle works serves limited
      have still : JudgeWorks machine system settings after.world :=
        returned.finalStore_eq ▸ works_cycle works serves limited
      have fewer := left_to_judge works serves moves limited returned.finalStore_eq.symm enough
      rw [finalStore_turns_cons returned]
      rcases continues.done row member with remains | checked
      · refine inductionHypothesis still continues.serves (moves.continues continues) ?_ fewer
          remains ?_
        · exact keyed.sublist (continues.rest.map rowId)
        · rw [judgeable, continues.obstacle_eq remains]
          exact loads
      · exact (continues_turns still continues.serves orders).kept checked

/-- No turn of the loop is without progress, and so all solutions that can be loaded are
checked in the end. -/
structure Progresses (machine : Machine File Rest)
    (system : Str → World File Rest → World File Rest) (unlimited : Sql.Order)
    (settings : Settings) (site : Site File Rest Sql.Database) : Prop where
  one : ∀ limited, MarksOne machine system limited unlimited settings site
  all : Keyed site.database → ∀ orders, Drains machine system unlimited settings site orders

/-- Whichever solutions the polls list, the loop progresses exactly when the queue moves. -/
theorem progresses_iff (works : JudgeWorks machine system settings site.world)
    (serves : Serves site.database)
    (free : ∃ row ∈ unchecked site.database, judgeable machine system unlimited site row = true) :
    Progresses machine system unlimited settings site ↔ Moves machine system unlimited site := by
  constructor
  · intro progresses
    exact moves_of_marksOne works serves progresses.one
  · intro moves
    exact ⟨marksOne_of_moves works serves moves free, drains_of_moves works serves moves⟩

end Loop

/-! ## A queue of solutions -/

/-- The row of an unchecked solution. -/
def queuedRow (tid id : Int32) : Sql.Row := fun column =>
  [("id".toList, toString id), ("tid".toList, toString tid), ("lid".toList, "1".toList),
    ("status".toList, "0".toList)].lookup column

/-- The solutions of these rows, language 1 and task 1, which has no tests. -/
def queueDatabase (rows : List Sql.Row) : Sql.Database := fun name =>
  [("solutions".toList, ⟨(solutionSelect 0).columns, rows⟩),
    ("tasks".toList, ⟨["id", "cid", "time_limit", "memory_limit", "title", "content", "input",
      "output", "checker"].map String.toList, [queuedRow 1 1]⟩),
    ("langs".toList, ⟨["id", "name", "compiler", "extension", "identifier"].map String.toList,
      [queuedRow 1 1]⟩),
    ("checkergroups".toList, ⟨["id", "tid", "method", "scores", "name"].map String.toList, []⟩),
    ("tests".toList,
      (⟨["id", "sid", "num", "res", "cid"].map String.toList, []⟩ : Sql.Table))].lookup name

/-- A judge to which no solution compiles. -/
def rejects : Str → World Str Unit → World Str Unit :=
  leaves (textWrite (verdictText ⟨"bad".toList, "compilation_error".toList, []⟩))

def queueSite (rows : List Sql.Row) : Site Str Unit Sql.Database :=
  ⟨⟨pairFiles, ()⟩, queueDatabase rows⟩

/-- The files of a solution are not the file of its result. -/
theorem separate_new (solution : Solution) :
    Separate strictMachine (Checker.new oneLanguage solution "solution".toList
      "solution.json".toList "result.json".toList) := by
  refine ⟨fun same => ?_, fun same => ?_⟩
  · have letter : some 'r' = some 's' := congrArg List.head? same
    exact absurd letter (by decide)
  · have letter : some 'r' = some 's' := congrArg List.head? same
    exact absurd letter (by decide)

/-- Every solution gets the same text. -/
theorem resultText_rejects (solution : Solution) (world : World Str Unit) :
    (Checker.new oneLanguage solution "solution".toList "solution.json".toList
      "result.json".toList).resultText strictMachine rejects oneLanguage world =
        verdictText ⟨"bad".toList, "compilation_error".toList, []⟩ :=
  (resultText_leaves (separate_new solution) rfl _ oneLanguage world).trans
    (textRead_verdictText _)

set_option maxRecDepth 1000 in
theorem literal_rejection :
    '\x00' ∉ verdictText ⟨"bad".toList, "compilation_error".toList, []⟩ ∧
      Sql.Literal (verdictText ⟨"bad".toList, "compilation_error".toList, []⟩) := by
  decide

theorem judgeWorks_rejects (world : World Str Unit) :
    JudgeWorks strictMachine rejects oneLanguage world := by
  refine ⟨fun _ => True, trivial, fun solution world _ => ?_⟩
  intro checker
  rw [resultText_rejects]
  exact ⟨literal_rejection.1, literal_rejection.2, fun _ _ _ => trivial⟩

theorem serves_queueDatabase (queue : List (Int32 × Int32)) :
    Serves (queueDatabase (queue.map fun (tid, id) => queuedRow tid id)) := by
  have columns : markedColumns ⊆ (solutionSelect 0).columns := by decide
  refine ⟨_, rfl, columns, ?_⟩
  intro row member
  obtain ⟨⟨tid, id⟩, _, rfl⟩ := List.mem_map.mp member
  exact ⟨id, rfl⟩

/-- Ten solutions of a missing task before one of task 1. -/
def blockedQueue : List (Int32 × Int32) :=
  [(2, 1), (2, 2), (2, 3), (2, 4), (2, 5), (2, 6), (2, 7), (2, 8), (2, 9), (2, 10), (1, 11)]

def blockedSite : Site Str Unit Sql.Database :=
  queueSite (blockedQueue.map fun (tid, id) => queuedRow tid id)

/-- The eleventh solution is not marked when the poll lists the ten others. -/
theorem blocked_not_progresses :
    ¬ ∀ (machine : Machine Str Unit) (system : Str → World Str Unit → World Str Unit)
        (unlimited : Sql.Order) (settings : Settings) (site : Site Str Unit Sql.Database),
      JudgeWorks machine system settings site.world → Serves site.database →
      (∃ row ∈ unchecked site.database, judgeable machine system unlimited site row = true) →
      Progresses machine system unlimited settings site := by
  intro always
  have works := judgeWorks_rejects blockedSite.world
  have serves : Serves blockedSite.database := serves_queueDatabase blockedQueue
  have judged : (unchecked blockedSite.database).map
      (judgeable strictMachine rejects .stored blockedSite) =
        List.replicate 10 false ++ [true] := by
    decide +kernel
  have free : (unchecked blockedSite.database).any
      (judgeable strictMachine rejects .stored blockedSite) = true := by
    have listed := congrArg (List.any · id) judged
    rw [List.any_map] at listed
    exact listed
  have many : 10 ≤ (unchecked blockedSite.database).countP
      (!judgeable strictMachine rejects .stored blockedSite ·) := by
    have counted := congrArg (List.countP (!·)) judged
    rw [List.countP_map] at counted
    exact counted.ge
  have progresses := always strictMachine rejects .stored oneLanguage blockedSite works serves
    (List.any_eq_true.mp free)
  exact not_marksOne_of_many works serves many (progresses.one _)

/-- One solution that can be loaded is marked. -/
theorem progresses_iff_single :
    Progresses strictMachine rejects .stored oneLanguage (queueSite [queuedRow 1 7]) ↔
      Moves strictMachine rejects .stored (queueSite [queuedRow 1 7]) := by
  have free : judgeable strictMachine rejects .stored (queueSite [queuedRow 1 7])
      (queuedRow 1 7) = true := by
    decide +kernel
  have member : queuedRow 1 7 ∈ unchecked (queueSite [queuedRow 1 7]).database := by
    exact List.mem_filter.mpr ⟨List.mem_singleton_self _, rfl⟩
  exact progresses_iff (judgeWorks_rejects _) (serves_queueDatabase [(1, 7)]) ⟨_, member, free⟩

end CheckerOlimp.Contester
