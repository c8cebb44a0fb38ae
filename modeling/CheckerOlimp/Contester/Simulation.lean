import CheckerOlimp.Contester.Backlog
import CheckerOlimp.Contester.Interleaving
import Mathlib.Tactic.FinCases

/-!
# The loop on the tables follows the backlog

In a database that keeps a catalog, the statements, orders and files of the contester
come to the turns of a backlog: the loop always goes on, and after each turn the database
keeps a catalog again, to which a turn of the backlog leads.
-/

namespace CheckerOlimp.Contester

open CheckerOlimp.Std CheckerOlimp.CheckerRc

/-! ## The tables of a catalog -/

theorem numbers_mark (row : SolutionRow) (text : Str) :
    solutionLayout.numbers (row.mark text) =
      Function.update (solutionLayout.numbers row) 5 (wide 1) := by
  funext index
  by_cases same : index = 5
  · rw [same, Function.update_self]
    simp [solutionLayout, SolutionRow.mark]
  · rw [Function.update_of_ne same]
    fin_cases index <;> simp [solutionLayout, SolutionRow.mark] at same ⊢

theorem texts_mark (row : SolutionRow) (text : Str) :
    solutionLayout.texts (row.mark text) =
      Function.update (solutionLayout.texts row) 3 (some text) := by
  funext index
  fin_cases index <;> rfl

/-- Marking sets two cells of the row. -/
theorem cells_mark (row : SolutionRow) (text : Str) :
    solutionLayout.sheet.cells (row.mark text) = Function.update (Function.update
      (solutionLayout.sheet.cells row) (Fin.natAdd 7 3) (some text)) (Fin.castAdd 4 5)
        (some "1".toList) := by
  have one : some (Json.decimal (wide 1).1) = some "1".toList := by decide
  have numbers : (fun index => some (Json.decimal
        ((solutionLayout.numbers (row.mark text)) index).1)) =
      Function.update (fun index => some (Json.decimal (solutionLayout.numbers row index).1)) 5
        (some "1".toList) := by
    funext index
    rw [numbers_mark, ← one]
    exact Function.apply_update (fun _ number => some (Json.decimal number.1))
      (solutionLayout.numbers row) 5 (wide 1) index
  unfold Layout.sheet
  simp only
  rw [Sql.update_append, numbers, texts_mark]

theorem row_id (row : SolutionRow) :
    solutionLayout.sheet.row row "id".toList = some (toString row.id) :=
  solutionLayout.sheet.row_columns row 0

/-- Marking a row of the table is marking the row. -/
theorem marked_row (id : Int32) (text : Str) (row : SolutionRow) :
    marked id text (solutionLayout.sheet.row row) =
      solutionLayout.sheet.row (if row.id = id then row.mark text else row) := by
  unfold marked
  rw [row_id]
  by_cases same : row.id = id
  · rw [if_pos (by rw [same]), if_pos same]
    have result : "result".toList = solutionLayout.sheet.columns (Fin.natAdd 7 3) := rfl
    have status : "status".toList = solutionLayout.sheet.columns (Fin.castAdd 4 5) := rfl
    rw [result, status, Sql.Sheet.row, Sql.Sheet.update_spread, Sql.Sheet.update_spread,
      ← cells_mark]
    rfl
  · rw [if_neg fun equal => same (toString_injective (Option.some.inj equal)), if_neg same]

variable {catalog : Catalog} {database : Sql.Database}

/-- The database with a solution marked keeps the catalog with it marked. -/
theorem keptIn_marking (kept : catalog.KeptIn database) (id : Int32) (text : Str) :
    (catalog.mark id text).KeptIn (marking id text database) := by
  have others : ∀ {name : String}, name ≠ "solutions" →
      marking id text database name.toList = database name.toList := by
    intro name other
    exact Function.update_of_ne (fun same => other (String.toList_inj.mp same)) _ _
  refine ⟨?_, ?_, ?_, ?_, ?_, ?_⟩
  · have own : database "solutions".toList = some (solutionLayout.sheet.table catalog.solutions) :=
      kept.solutions
    have rows : (solutionLayout.sheet.table catalog.solutions).rows.map (marked id text) =
        (solutionLayout.sheet.table (catalog.mark id text).solutions).rows := by
      simp only [Sql.Sheet.table, Catalog.mark, List.map_map, Function.comp_def, marked_row]
    change marking id text database "solutions".toList = _
    rw [marking, Function.update_self, own, Option.map_some, rows]
    rfl
  · exact (others (by decide)).trans kept.tasks
  · exact (others (by decide)).trans kept.langs
  · exact (others (by decide)).trans kept.groups
  · exact (others (by decide)).trans kept.chTests
  · exact (others (by decide)).trans kept.tests

/-- Such a database serves the loop. -/
theorem serves_of_keptIn (kept : catalog.KeptIn database) : Serves database := by
  have named : markedColumns ⊆ List.ofFn solutionLayout.sheet.columns := by decide
  refine ⟨_, kept.solutions, named, fun row member => ?_⟩
  obtain ⟨solution, _, rfl⟩ := List.mem_map.mp member
  exact ⟨solution.id, row_id solution⟩

theorem unchecked_of_keptIn (kept : catalog.KeptIn database) :
    unchecked database = catalog.unchecked.map solutionLayout.sheet.row := by
  have own : database "solutions".toList = some (solutionLayout.sheet.table catalog.solutions) :=
    kept.solutions
  have status : ∀ row : SolutionRow, (decide (solutionLayout.sheet.row row "status".toList =
      some "0".toList)) = decide (row.status = statusNotChecked) := by
    intro row
    have cell : solutionLayout.sheet.row row "status".toList = some (toString row.status) :=
      solutionLayout.sheet.row_columns row 5
    have zero : "0".toList = toString statusNotChecked := by decide
    rw [cell, zero, decide_eq_decide, Option.some.injEq]
    exact ⟨toString_injective, congrArg toString⟩
  unfold unchecked solutions Catalog.unchecked
  rw [own, Option.elim_some]
  change (catalog.solutions.map solutionLayout.sheet.row).filter _ = _
  rw [List.filter_map]
  exact congrArg _ (List.filter_congr fun row _ => status row)

/-- What the poll finds are up to ten of the unchecked rows, in some order. -/
theorem exists_batch (kept : catalog.KeptIn database) (limited : Sql.Order) :
    ∃ batch : List SolutionRow, batch.Perm catalog.unchecked ∧
      (polled limited database).map rowId = (batch.take 10).map SolutionRow.id := by
  obtain ⟨batch, arranged, perm⟩ :=
    limited.exists_arrange_map solutionLayout.sheet.row catalog.unchecked
  refine ⟨batch, perm, ?_⟩
  rw [polled, unchecked_of_keptIn kept, arranged, ← List.map_take, List.map_map]
  exact List.map_congr_left fun row _ => rowId_eq (row_id row)

/-! ## Following the backlog -/

section Run

variable {File Rest : Type} [DecidableEq File] {machine : Machine File Rest}
  {system : Str → World File Rest → World File Rest} (limited unlimited : Sql.Order)
  {settings : Settings} {proper : Solution → Prop} {ready : World File Rest → Prop}

/-- The judge leaves the text for the solution, on some files that are ready. -/
def JudgedBy (machine : Machine File Rest) (system : Str → World File Rest → World File Rest)
    (settings : Settings) (ready : World File Rest → Prop) (solution : Solution) (text : Str) :
    Prop :=
  ∃ world, ready world ∧ text = (solution.job settings).resultText machine system settings world

/-- The site is ready, and its database keeps the catalog. -/
structure Follows (ready : World File Rest → Prop) (catalog : Catalog)
    (site : Site File Rest Sql.Database) : Prop where
  ready : ready site.world
  kept : catalog.KeptIn site.database

/-- The unchecked solutions that can be joined are proper. -/
def Sound (proper : Solution → Prop) (catalog : Catalog) : Prop :=
  ∀ row ∈ catalog.unchecked, ∀ solution, catalog.Joins row.id (.ok solution) → proper solution

/-- They stay so when rows are marked. -/
theorem Sound.advances {judged : Solution → Str → Prop} {after : Catalog}
    (sound : Sound proper catalog) (advances : catalog.Advances judged after) :
    Sound proper after := by
  intro row remains solution joins
  have before := advances.mem_unchecked remains
  exact sound row before solution (advances.joins (List.mem_of_mem_filter before)
    (List.mem_of_mem_filter remains) joins)

/-- Loading fails with exceptions only. -/
theorem joins_cases {id : Int32} {outcome : Except Thrown Solution}
    (joins : catalog.Joins id outcome) :
    (∃ solution, outcome = .ok solution ∧ solution.id = id) ∨
      ∃ message, outcome = .error (.exception message) := by
  cases joins with
  | noSolution _ => exact .inr ⟨_, rfl⟩
  | noTask _ _ => exact .inr ⟨_, rfl⟩
  | noLang _ _ _ => exact .inr ⟨_, rfl⟩
  | joined found _ _ _ =>
      have own := List.find?_some found
      exact .inl ⟨_, rfl, of_decide_eq_true own⟩

variable {site : Site File Rest Sql.Database}

/-- A proper solution that has been loaded is judged and marked. -/
theorem run_follows (keeps : JudgeKeeps machine system settings proper ready)
    (follows : Follows ready catalog site) {solution : Solution} (sound : proper solution) :
    ∃ after, Program.Returns ((solution.job settings).run ⟨machine, system, sqlServer⟩ settings)
        site () after ∧
      Follows ready (catalog.mark solution.id
        ((solution.job settings).resultText machine system settings site.world)) after := by
  have printable := keeps.printable sound follows.ready
  have literal := keeps.literal sound follows.ready
  have stored := (storesResult_iff_stores printable).mpr (stores_of_literal literal solution.id)
  obtain ⟨table, found, columns, _⟩ := serves_of_keptIn follows.kept
  obtain ⟨after, returned, same⟩ := stored.effect site.database table found columns
  obtain ⟨before, database, rfl, _, rfl⟩ := (ensures_run _ (· = site)).returns rfl returned
  refine ⟨_, returned, keeps.again sound follows.ready, ?_⟩
  rw [same]
  exact keptIn_marking follows.kept _ _

/-- An attempt follows an attempt of the backlog. -/
theorem attempt_follows (keeps : JudgeKeeps machine system settings proper ready)
    (follows : Follows ready catalog site) {id : Int32}
    (sound : ∀ {solution}, catalog.Joins id (.ok solution) → proper solution) :
    ∃ line after catalog', Program.Returns
        (attempt (sqlDeployment machine system limited unlimited) settings id) site line after ∧
      Follows ready catalog' after ∧
      catalog.Attempt (JudgedBy machine system settings ready) id line catalog' := by
  obtain ⟨outcome, joins, settles⟩ : ∃ outcome, catalog.Joins id outcome ∧
      Settles site.database (Solution.new (sqlDeployment machine system limited unlimited) id)
        outcome :=
    settles_new follows.kept id
  rcases joins_cases joins with ⟨solution, rfl, rfl⟩ | ⟨message, rfl⟩
  · obtain ⟨after, returned, later⟩ := run_follows keeps follows (sound joins)
    refine ⟨none, after, _, returns_attempt_iff.mpr (.inl ⟨rfl, ?_⟩), later,
      .marks joins ⟨site.world, follows.ready, rfl⟩⟩
    exact Program.Returns.bind (settles site.world) returned
  · refine ⟨some message, site, catalog, returns_attempt_iff.mpr (.inr ⟨message, rfl, ?_⟩), follows,
      .reports joins⟩
    exact Settles.bind_error settles site.world

/-- So do the attempts at different unchecked rows. -/
theorem attempts_follow (keeps : JudgeKeeps machine system settings proper ready)
    (follows : Follows ready catalog site)
    (sound : Sound proper catalog) {rows : List SolutionRow}
    (pending : ∀ row ∈ rows, row ∈ catalog.unchecked)
    (distinct : (rows.map SolutionRow.id).Nodup) :
    ∃ lines after catalog', Program.Returns ((rows.map SolutionRow.id).mapM
        (attempt (sqlDeployment machine system limited unlimited) settings)) site lines after ∧
      Follows ready catalog' after ∧
      Catalog.Attempts (JudgedBy machine system settings ready) catalog (rows.map SolutionRow.id)
        lines catalog' := by
  induction rows generalizing catalog site with
  | nil => exact ⟨[], site, catalog, Program.returns_mapM_nil_iff.mpr ⟨rfl, rfl⟩, follows, .nil⟩
  | cons row rest inductionHypothesis =>
      obtain ⟨absent, distinct⟩ := List.nodup_cons.mp distinct
      have member := pending row List.mem_cons_self
      obtain ⟨line, middle, between, made, on, first⟩ :=
        attempt_follows limited unlimited keeps follows fun {_} => sound row member _
      obtain ⟨advances, others⟩ := first.advances member
      have waiting : ∀ other ∈ rest, other ∈ between.unchecked := by
        intro other inside
        refine others other (pending other (List.mem_cons_of_mem _ inside)) fun same => absent ?_
        exact same ▸ List.mem_map_of_mem inside
      obtain ⟨lines, after, catalog', rested, follows', later⟩ :=
        inductionHypothesis on (sound.advances advances) waiting distinct
      exact ⟨_, after, catalog',
        Program.returns_mapM_cons_iff.mpr ⟨line, middle, lines, made, rested, rfl⟩, follows',
        .cons first later⟩

/-- A turn of the loop follows a turn of the backlog. -/
theorem cycle_follows (keeps : JudgeKeeps machine system settings proper ready)
    (follows : Follows ready catalog site) (sound : Sound proper catalog) :
    ∃ lines after catalog', Program.Returns
        (cycle (sqlDeployment machine system limited unlimited) settings) site lines after ∧
      Follows ready catalog' after ∧
      catalog.Turn (JudgedBy machine system settings ready) lines catalog' := by
  obtain ⟨batch, order, polled⟩ := exists_batch follows.kept limited
  have distinct : (batch.map SolutionRow.id).Nodup :=
    (order.map _).nodup_iff.mpr (catalog.solutionKey.sublist (List.filter_sublist.map _))
  obtain ⟨lines, after, catalog', made, follows', attempts⟩ :=
    attempts_follow limited unlimited keeps follows sound
      (fun row member => order.mem_iff.mp (List.mem_of_mem_take member))
      (distinct.sublist ((List.take_sublist 10 batch).map _))
  refine ⟨lines, after, catalog', ?_, follows', .attempts order attempts⟩
  have poll : Program.Returns
      (Solution.getNotCheckedIds (sqlDeployment machine system limited unlimited)) site
      ((Contester.polled limited site.database).map rowId) site :=
    returns_poll (serves_of_keptIn follows.kept)
  rw [polled] at poll
  exact poll.bind made

/-- The loop follows the backlog. -/
theorem cycles_follow (keeps : JudgeKeeps machine system settings proper ready)
    (follows : Follows ready catalog site)
    (sound : Sound proper catalog) (count : Nat) :
    ∃ after catalog', Program.Returns
        (cycles (sqlDeployment machine system limited unlimited) settings count) site () after ∧
      Follows ready catalog' after ∧
      Catalog.Turns (JudgedBy machine system settings ready) count catalog catalog' := by
  induction count generalizing catalog site with
  | zero => exact ⟨site, catalog, Program.returns_pure_iff.mpr ⟨rfl, rfl⟩, follows, .none⟩
  | succ count inductionHypothesis =>
      obtain ⟨lines, middle, between, made, on, turn⟩ :=
        cycle_follows limited unlimited keeps follows sound
      obtain ⟨after, catalog', rested, follows', turns⟩ :=
        inductionHypothesis on (sound.advances turn.counts.1)
      exact ⟨after, catalog', made.bind rested, follows', .next turn turns⟩

end Run

end CheckerOlimp.Contester
