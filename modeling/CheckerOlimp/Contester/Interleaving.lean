import CheckerOlimp.Contester.Invocation
import CheckerOlimp.Contester.Progress
import CheckerOlimp.Contester.Triples
import Mathlib.Data.List.Nodup

/-!
# Other clients of the database

The web site works on the same tables as the contester: between any two statements of
the contester it may submit solutions, change or withdraw those that wait, and edit
tasks. It leaves the solutions alone that have been judged. Under every interleaving
the row of a judged solution is final, and whatever a row gets is what the judge left
in a run on a solution that was loaded under the id of this row.
-/

namespace CheckerOlimp.Contester

open CheckerOlimp.Std CheckerOlimp.CheckerRc

/-! ## A shared database -/

/-- The tables, and the number of statements that the contester has had executed. -/
structure Shared where
  tables : Sql.Database
  statements : Nat

/-- What the server does beside the contester's statements: what the other clients have made
of the tables when a statement arrives, and the orders in which its rows are worked on. -/
structure Clients where
  beforeSelect : Nat → Sql.Database → Sql.Database
  beforeUpdate : Nat → Sql.Database → Sql.Database
  limited : Nat → Sql.Order
  unlimited : Nat → Sql.Order

/-- The tables that the next selection finds. -/
def Clients.selected (clients : Clients) (shared : Shared) : Sql.Database :=
  clients.beforeSelect shared.statements shared.tables

variable {File Rest : Type}

/-- The rows of the solutions that do not wait for the contester. -/
def judgedRows (database : Sql.Database) : List Sql.Row :=
  (solutions database).filter fun row => row "status".toList ≠ some "0".toList

/-- The ids of the solutions are a primary key of `int`s. -/
structure Tidy (database : Sql.Database) : Prop where
  key : ((solutions database).map fun row => row "id".toList).Nodup
  ids : ∀ row ∈ solutions database, ∃ id : Int32, row "id".toList = some (toString id)

/-- What the other clients leave alone: the primary key and the judged solutions. -/
structure Respects (before after : Sql.Database) : Prop where
  tidy : Tidy before → Tidy after
  judged : ∀ row, row ∈ judgedRows after ↔ row ∈ judgedRows before

/-- No judged solution has the id. -/
def Waiting (id : Int32) (database : Sql.Database) : Prop :=
  ∀ row ∈ judgedRows database, row "id".toList ≠ some (toString id)

theorem Respects.waiting {before after : Sql.Database} (respects : Respects before after)
    {id : Int32} (waiting : Waiting id before) : Waiting id after :=
  fun row member => waiting row ((respects.judged row).mp member)

/-- The key is one of rows. -/
theorem Tidy.row_unique {database : Sql.Database} (tidy : Tidy database) {row other : Sql.Row}
    (member : row ∈ solutions database) (member' : other ∈ solutions database)
    (same : row "id".toList = other "id".toList) : row = other :=
  List.inj_on_of_nodup_map tidy.key member member' same

theorem Tidy.marking {database : Sql.Database} (tidy : Tidy database) (id : Int32) (text : Str) :
    Tidy (marking id text database) where
  key := by
    have kept : (fun row => marked id text row "id".toList) = fun row => row "id".toList :=
      funext fun row => marked_id id text row
    rw [solutions_marking, List.map_map]
    change ((solutions database).map fun row => marked id text row "id".toList).Nodup
    rw [kept]
    exact tidy.key
  ids row member := by
    rw [solutions_marking] at member
    obtain ⟨before, inside, rfl⟩ := List.mem_map.mp member
    rw [marked_id]
    exact tidy.ids before inside

/-- Marking a waiting solution leaves the judged ones as they are. -/
theorem judged_marking {database : Sql.Database} {id : Int32} (waiting : Waiting id database)
    (text : Str) {row : Sql.Row} (member : row ∈ judgedRows database) :
    row ∈ judgedRows (marking id text database) := by
  obtain ⟨inside, status⟩ := List.mem_filter.mp member
  have same : marked id text row = row := if_neg (waiting row member)
  refine List.mem_filter.mpr ⟨?_, status⟩
  rw [solutions_marking]
  exact List.mem_map.mpr ⟨row, inside, same⟩

/-- What is judged after it was so before, or has just been marked. -/
theorem judged_of_marking {database : Sql.Database} {id : Int32} {text : Str} {row : Sql.Row}
    (member : row ∈ judgedRows (marking id text database)) :
    row ∈ judgedRows database ∨ row "id".toList = some (toString id) ∧
      row "status".toList = some "1".toList ∧ row "result".toList = some text := by
  obtain ⟨inside, status⟩ := List.mem_filter.mp member
  rw [solutions_marking] at inside
  obtain ⟨before, among, rfl⟩ := List.mem_map.mp inside
  by_cases own : before "id".toList = some (toString id)
  · refine .inr ⟨(marked_id id text before).trans own, marked_status own, ?_⟩
    rw [marked, if_pos own, Function.update_of_ne (by decide), Function.update_self]
  · rw [marked, if_neg own] at status ⊢
    exact .inl (List.mem_filter.mpr ⟨among, status⟩)

theorem Waiting.marking {database : Sql.Database} {id other : Int32}
    (waiting : Waiting id database) (different : id ≠ other) (text : Str) :
    Waiting id (marking other text database) := by
  intro row member same
  rcases judged_of_marking member with before | ⟨own, _, _⟩
  · exact waiting row before same
  · rw [own, Option.some.injEq] at same
    exact different (toString_injective same.symm)

/-- All that has become of judged solutions: none is lost, and what is new has been put. -/
structure Final (start : Sql.Database) (put : Sql.Row → Prop) (tables : Sql.Database) : Prop where
  tidy : Tidy tables
  kept : ∀ row ∈ judgedRows start, row ∈ judgedRows tables
  new : ∀ row ∈ judgedRows tables, row ∈ judgedRows start ∨ put row

section Final

variable {start tables after : Sql.Database} {put : Sql.Row → Prop}

theorem Final.respects (final : Final start put tables) (respects : Respects tables after) :
    Final start put after where
  tidy := respects.tidy final.tidy
  kept row member := (respects.judged row).mpr (final.kept row member)
  new row member := final.new row ((respects.judged row).mp member)

theorem Final.marking (final : Final start put tables) {id : Int32} (waiting : Waiting id tables)
    {text : Str} (marks : ∀ row : Sql.Row, row "id".toList = some (toString id) →
      row "status".toList = some "1".toList → row "result".toList = some text → put row) :
    Final start put (marking id text tables) where
  tidy := final.tidy.marking id text
  kept row member := judged_marking waiting text (final.kept row member)
  new row member := by
    rcases judged_of_marking member with before | ⟨own, status, result⟩
    · exact final.new row before
    · exact .inr (marks row own status result)

end Final

/-! ## The poll -/

/-- The judge works on files that are ready: of a proper solution it leaves a text that the
statement stores, and when the run is over the files are ready again. -/
structure JudgeKeeps [DecidableEq File] (machine : Machine File Rest)
    (system : Str → World File Rest → World File Rest) (settings : Settings)
    (proper : Solution → Prop) (ready : World File Rest → Prop) : Prop where
  printable : ∀ {solution world}, proper solution → ready world →
    '\x00' ∉ (solution.job settings).resultText machine system settings world
  literal : ∀ {solution world}, proper solution → ready world →
    Sql.Literal ((solution.job settings).resultText machine system settings world)
  again : ∀ {solution world}, proper solution → ready world →
    ready ((solution.job settings).swept machine system settings world)

section Run

variable [DecidableEq File] {deployment : Deployment File Rest Shared} {settings : Settings}
  {start : Site File Rest Shared}

variable {machine : Machine File Rest} {system : Str → World File Rest → World File Rest}
  {clients : Clients} {proper : Solution → Prop} {ready : World File Rest → Prop}
  {put : Sql.Row → Prop} {tables : Sql.Database}

/-- What holds in a batch: the judged solutions are final, and those to come are not judged. -/
structure Settling (ready : World File Rest → Prop) (tables : Sql.Database) (put : Sql.Row → Prop)
    (ids : List Int32) (site : Site File Rest Shared) : Prop where
  ready : ready site.world
  final : Final tables put site.database.tables
  waiting : ∀ id ∈ ids, Waiting id site.database.tables

omit [DecidableEq File] in
theorem Settling.sublist {ids others : List Int32} {site : Site File Rest Shared}
    (settling : Settling ready tables put ids site) (fewer : others ⊆ ids) :
    Settling ready tables put others site :=
  ⟨settling.ready, settling.final, fun id member => settling.waiting id (fewer member)⟩

/-- In a run from `start`, so many turns lead to this site. -/
def After (deployment : Deployment File Rest Shared) (settings : Settings)
    (start : Site File Rest Shared) (turns : Nat) (site : Site File Rest Shared) : Prop :=
  Program.Returns (cycles deployment settings turns) start () site

theorem After.none : After deployment settings start 0 start :=
  Program.returns_pure_iff.mpr ⟨rfl, rfl⟩

/-- A turn more. -/
theorem After.cycle {turns : Nat} {site next : Site File Rest Shared}
    {printed : List (Option Str)} (after : After deployment settings start turns site)
    (turn : Program.Returns (cycle deployment settings) site printed next) :
    After deployment settings start (turns + 1) next := by
  induction turns generalizing start with
  | zero =>
      obtain ⟨_, rfl⟩ := Program.returns_pure_iff.mp after
      exact turn.bind After.none
  | succ turns inductionHypothesis =>
      obtain ⟨printed, middle, first, rest⟩ := Program.returns_bind_iff.mp after
      exact first.bind (inductionHypothesis rest)

end Run

/-! ## A client that withdraws -/

end CheckerOlimp.Contester
