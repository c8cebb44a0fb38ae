import CheckerOlimp.Contester.Catalog

/-!
# The backlog of a catalog

What the contester's loop comes to on a catalog, without files, statements and orders of
rows: a turn attempts up to ten unchecked solutions, marks those whose task and language
are there with a text of the judge, and reports the others. No row is changed in another
way, and the lines that a turn prints account for the rows that it marks.
-/

namespace CheckerOlimp.Contester

open CheckerOlimp.Std CheckerOlimp.CheckerRc

/-! ## Marking a row -/

/-- The row with a result and status 1. -/
def SolutionRow.mark (self : SolutionRow) (text : Str) : SolutionRow :=
  { self with status := 1, result := some text }

namespace Catalog

/-- The catalog with the solution of the id marked. -/
def mark (self : Catalog) (id : Int32) (text : Str) : Catalog :=
  { self with
    solutions := self.solutions.map fun row => if row.id = id then row.mark text else row
    solutionKey := by
      have ids : (self.solutions.map fun row => if row.id = id then row.mark text else row).map
          SolutionRow.id = self.solutions.map SolutionRow.id := by
        rw [List.map_map]
        apply List.map_congr_left
        intro row _
        rw [Function.comp_apply]
        split <;> rfl
      rw [ids]
      exact self.solutionKey }

/-- The rows that the poll asks for. -/
def unchecked (self : Catalog) : List SolutionRow :=
  self.solutions.filter (·.status = statusNotChecked)

/-- The task and the language of the row are there. -/
def complete (self : Catalog) (row : SolutionRow) : Bool :=
  (self.task? row.tid).isSome && (self.lang? row.lid).isSome

theorem solution?_of_mem {self : Catalog} {row : SolutionRow} (member : row ∈ self.solutions) :
    self.solution? row.id = some row :=
  Sql.find?_of_mem self.solutionKey member

theorem row_unique {self : Catalog} {row other : SolutionRow} (member : row ∈ self.solutions)
    (member' : other ∈ self.solutions) (same : row.id = other.id) : row = other := by
  have found := solution?_of_mem member
  rw [same, solution?_of_mem member'] at found
  exact (Option.some.inj found).symm

/-- Marking takes a row from the unchecked ones and leaves the others. -/
theorem unchecked_mark (self : Catalog) (id : Int32) (text : Str) :
    (self.mark id text).unchecked = self.unchecked.filter (·.id ≠ id) := by
  unfold unchecked mark
  simp only
  induction self.solutions with
  | nil => rfl
  | cons row rest inductionHypothesis =>
      rw [List.map_cons, List.filter_cons, inductionHypothesis]
      by_cases same : row.id = id
      · have checked : (row.mark text).status ≠ statusNotChecked :=
          (by decide : (1 : Int32) ≠ 0)
        rw [if_pos same]
        by_cases status : row.status = statusNotChecked
        · simp [checked, status, same]
        · simp [checked, status]
      · rw [if_neg same]
        by_cases status : row.status = statusNotChecked
        · simp [status, same]
        · simp [status]

/-! ## Attempts and turns -/

/-- An attempt at the solution of an id, the line that is printed for it, and the catalog
afterwards. Of a solution, the judge leaves a text with `judged`. -/
inductive Attempt (judged : Solution → Str → Prop) (catalog : Catalog) (id : Int32) :
    Option Str → Catalog → Prop
  | marks {solution text} (joins : catalog.Joins id (.ok solution)) (tells : judged solution text) :
      Attempt judged catalog id none (catalog.mark id text)
  | reports {message} (fails : catalog.Joins id (.error (.exception message))) :
      Attempt judged catalog id (some message) catalog

/-- Attempts one after another. -/
inductive Attempts (judged : Solution → Str → Prop) :
    Catalog → List Int32 → List (Option Str) → Catalog → Prop
  | nil {catalog} : Attempts judged catalog [] [] catalog
  | cons {before middle after id ids line lines} (first : Attempt judged before id line middle)
      (later : Attempts judged middle ids lines after) :
      Attempts judged before (id :: ids) (line :: lines) after

/-- A turn: up to ten of the unchecked solutions, in some order, are attempted. -/
inductive Turn (judged : Solution → Str → Prop) (before : Catalog) (lines : List (Option Str))
    (after : Catalog) : Prop
  | attempts {batch : List SolutionRow} (order : batch.Perm before.unchecked)
      (made : Attempts judged before ((batch.take 10).map SolutionRow.id) lines after) :
      Turn judged before lines after

/-- So many turns. -/
inductive Turns (judged : Solution → Str → Prop) : Nat → Catalog → Catalog → Prop
  | none {catalog} : Turns judged 0 catalog catalog
  | next {count before middle after lines} (turn : Turn judged before lines middle)
      (later : Turns judged count middle after) : Turns judged (count + 1) before after

variable {judged : Solution → Str → Prop} {before middle after catalog : Catalog}

/-- An attempt at a row marks it when its task and language are there, and otherwise says
which of them is missing. -/
theorem Attempt.cases_of_mem {row : SolutionRow} {line : Option Str}
    (member : row ∈ catalog.solutions) (attempt : Attempt judged catalog row.id line after) :
    (catalog.complete row = true ∧ line = none ∧ ∃ solution text,
      catalog.Joins row.id (.ok solution) ∧ judged solution text ∧
        after = catalog.mark row.id text) ∨
    (catalog.complete row = false ∧ after = catalog ∧
      (line = some (notExist "task" row.tid) ∨ line = some (notExist "lang" row.lid))) := by
  have own : ∀ {other}, catalog.solution? row.id = some other → other = row := by
    intro other found
    rw [solution?_of_mem member] at found
    exact (Option.some.inj found).symm
  cases attempt with
  | marks joins tells =>
      have complete : catalog.complete row = true := by
        cases joins with
        | joined found tasked written whole =>
            obtain rfl := own found
            simp [Catalog.complete, tasked, written]
      exact .inl ⟨complete, rfl, _, _, joins, tells, rfl⟩
  | reports fails =>
      refine .inr ?_
      cases fails with
      | noSolution missing => rw [solution?_of_mem member] at missing; cases missing
      | noTask found missing =>
          obtain rfl := own found
          exact ⟨by simp [Catalog.complete, missing], rfl, .inl rfl⟩
      | noLang found tasked missing =>
          obtain rfl := own found
          exact ⟨by simp [Catalog.complete, missing], rfl, .inr rfl⟩

/-! ## What a turn changes -/

/-- The row is as it was, or it was unchecked and is marked with a text of the judge for the
join of its rows. -/
def Advance (judged : Solution → Str → Prop) (before : Catalog) (row row' : SolutionRow) : Prop :=
  row' = row ∨ row.status = statusNotChecked ∧ ∃ solution text,
    before.Joins row.id (.ok solution) ∧ judged solution text ∧ row' = row.mark text

/-- The other tables are as they were, and so are the rows of the solutions, up to such
marks. -/
structure Advances (judged : Solution → Str → Prop) (before after : Catalog) : Prop where
  tasks : after.tasks = before.tasks
  langs : after.langs = before.langs
  groups : after.groups = before.groups
  chTests : after.chTests = before.chTests
  tests : after.tests = before.tests
  rows : List.Forall₂ (Advance judged before) before.solutions after.solutions

theorem Advances.refl (catalog : Catalog) : Advances judged catalog catalog where
  tasks := rfl
  langs := rfl
  groups := rfl
  chTests := rfl
  tests := rfl
  rows := List.forall₂_same.mpr fun _ _ => .inl rfl

theorem Advances.complete (advances : Advances judged before after) :
    after.complete = before.complete := by
  funext row
  simp only [Catalog.complete, task?, lang?, advances.tasks, advances.langs]

/-- A row that is still the same has the same join. -/
theorem Advances.joins (advances : Advances judged before after) {row : SolutionRow}
    (member : row ∈ before.solutions) (remains : row ∈ after.solutions) {solution : Solution}
    (joins : after.Joins row.id (.ok solution)) : before.Joins row.id (.ok solution) := by
  cases joins with
  | joined found tasked written whole =>
      rw [solution?_of_mem remains] at found
      obtain rfl := Option.some.inj found
      have groups : after.IsGroup = before.IsGroup := by
        funext row group
        simp only [IsGroup, advances.chTests]
      simp only [task?, advances.tasks] at tasked
      simp only [lang?, advances.langs] at written
      simp only [IsTask, groups, advances.groups] at whole
      exact .joined (solution?_of_mem member) tasked written whole

/-- Two steps that mark rows are one. -/
theorem forall₂_trans_of_mem {α : Type} {first second whole : α → α → Prop}
    {items middle others : List α} (left : List.Forall₂ first items middle)
    (right : List.Forall₂ second middle others)
    (compose : ∀ item ∈ items, ∀ between ∈ middle, ∀ other, first item between →
      second between other → whole item other) : List.Forall₂ whole items others := by
  induction left generalizing others with
  | nil =>
      cases right
      exact .nil
  | cons head tail inductionHypothesis =>
      cases right with
      | cons head' tail' =>
          refine .cons (compose _ List.mem_cons_self _ List.mem_cons_self _ head head') ?_
          exact inductionHypothesis tail' fun item member between member' =>
            compose item (List.mem_cons_of_mem _ member) between (List.mem_cons_of_mem _ member')

theorem Advances.trans (first : Advances judged before middle)
    (second : Advances judged middle after) : Advances judged before after where
  tasks := second.tasks.trans first.tasks
  langs := second.langs.trans first.langs
  groups := second.groups.trans first.groups
  chTests := second.chTests.trans first.chTests
  tests := second.tests.trans first.tests
  rows := by
    refine forall₂_trans_of_mem first.rows second.rows fun row member between remains other => ?_
    rintro (rfl | ⟨status, solution, text, joins, tells, rfl⟩) later
    · rcases later with rfl | ⟨status, solution, text, joins, tells, rfl⟩
      · exact .inl rfl
      · exact .inr ⟨status, solution, text, first.joins member remains joins, tells, rfl⟩
    · rcases later with rfl | ⟨unchecked, _⟩
      · exact .inr ⟨status, solution, text, joins, tells, rfl⟩
      · exact absurd unchecked (by decide : (1 : Int32) ≠ 0)

/-- What is known of all texts of the judge is known of the marks. -/
theorem Advances.mono {known : Solution → Str → Prop} (advances : Advances judged before after)
    (tells : ∀ row ∈ before.unchecked, ∀ solution text, before.Joins row.id (.ok solution) →
      judged solution text → known solution text) : Advances known before after where
  tasks := advances.tasks
  langs := advances.langs
  groups := advances.groups
  chTests := advances.chTests
  tests := advances.tests
  rows := by
    have rows : List.Forall₂ Eq before.solutions before.solutions :=
      List.forall₂_same.mpr fun _ _ => rfl
    refine forall₂_trans_of_mem rows advances.rows fun row member _ _ other same step => ?_
    subst same
    rcases step with rfl | ⟨status, solution, text, joins, holds, rfl⟩
    · exact .inl rfl
    · have waiting : row ∈ before.unchecked := List.mem_filter.mpr ⟨member, decide_eq_true status⟩
      exact .inr ⟨status, solution, text, joins, tells row waiting solution text joins holds, rfl⟩

/-- Marking an unchecked row is such a step. -/
theorem advances_mark {row : SolutionRow} (member : row ∈ catalog.unchecked) {solution : Solution}
    {text : Str} (joins : catalog.Joins row.id (.ok solution)) (tells : judged solution text) :
    Advances judged catalog (catalog.mark row.id text) where
  tasks := rfl
  langs := rfl
  groups := rfl
  chTests := rfl
  tests := rfl
  rows := by
    obtain ⟨inside, status⟩ := List.mem_filter.mp member
    refine List.forall₂_map_right_iff.mpr (List.forall₂_same.mpr fun other member' => ?_)
    by_cases same : other.id = row.id
    · obtain rfl := row_unique member' inside same
      rw [if_pos rfl]
      exact .inr ⟨of_decide_eq_true status, solution, text, joins, tells, rfl⟩
    · rw [if_neg same]
      exact .inl rfl

theorem exists_of_mem_right {α β : Type} {related : α → β → Prop} {items : List α}
    {others : List β} (all : List.Forall₂ related items others) {other : β}
    (member : other ∈ others) : ∃ item ∈ items, related item other := by
  induction all with
  | nil => cases member
  | cons head _ inductionHypothesis =>
      rcases List.mem_cons.mp member with rfl | later
      · exact ⟨_, List.mem_cons_self, head⟩
      · obtain ⟨item, inside, holds⟩ := inductionHypothesis later
        exact ⟨item, List.mem_cons_of_mem _ inside, holds⟩

theorem exists_of_mem_left {α β : Type} {related : α → β → Prop} {items : List α}
    {others : List β} (all : List.Forall₂ related items others) {item : α}
    (member : item ∈ items) : ∃ other ∈ others, related item other :=
  exists_of_mem_right all.flip member

/-- A row that is still unchecked was so before. -/
theorem Advances.mem_unchecked (advances : Advances judged before after) {row : SolutionRow}
    (member : row ∈ after.unchecked) : row ∈ before.unchecked := by
  obtain ⟨inside, status⟩ := List.mem_filter.mp member
  obtain ⟨origin, present, rfl | ⟨_, _, _, _, _, rfl⟩⟩ := exists_of_mem_right advances.rows inside
  · exact List.mem_filter.mpr ⟨present, status⟩
  · exact absurd (of_decide_eq_true status) (by decide : (1 : Int32) ≠ 0)

/-- An attempt at an unchecked row is such a step, and leaves the other rows unchecked. -/
theorem Attempt.advances {row : SolutionRow} {line : Option Str}
    (member : row ∈ catalog.unchecked) (attempt : Attempt judged catalog row.id line after) :
    Advances judged catalog after ∧
      ∀ other ∈ catalog.unchecked, other.id ≠ row.id → other ∈ after.unchecked := by
  rcases attempt.cases_of_mem (List.mem_of_mem_filter member) with
    ⟨_, _, solution, text, joins, tells, rfl⟩ | ⟨_, rfl, _⟩
  · refine ⟨advances_mark member joins tells, fun other member' different => ?_⟩
    rw [unchecked_mark]
    exact List.mem_filter.mpr ⟨member', decide_eq_true different⟩
  · exact ⟨Advances.refl _, fun _ member' _ => member'⟩

/-! ## What a turn accounts for -/

/-- Unchecked solutions that can be judged. -/
def free (self : Catalog) : Nat := self.unchecked.countP self.complete

/-- Unchecked solutions that cannot be judged. -/
def stuck (self : Catalog) : Nat := self.unchecked.countP (!self.complete ·)

theorem length_eq_countP {α : Type} (items : List α) (wanted : α → Bool) :
    items.length = items.countP wanted + items.countP (!wanted ·) := by
  simpa using List.length_eq_countP_add_countP wanted (l := items)

theorem length_unchecked (self : Catalog) : self.unchecked.length = self.free + self.stuck :=
  length_eq_countP _ _

/-- Attempts at different unchecked rows mark those of them that are complete, and print a
line without a message for each. -/
theorem Attempts.marks {rows : List SolutionRow} {lines : List (Option Str)}
    (attempts : Attempts judged before (rows.map SolutionRow.id) lines after)
    (pending : ∀ row ∈ rows, row ∈ before.unchecked) (distinct : (rows.map SolutionRow.id).Nodup) :
    Advances judged before after ∧
      after.unchecked = before.unchecked.filter (fun row =>
        !(decide (row ∈ rows) && before.complete row)) ∧
      lines.count none = rows.countP before.complete := by
  induction rows generalizing before lines with
  | nil =>
      cases attempts
      exact ⟨Advances.refl _, by simp, rfl⟩
  | cons row rest inductionHypothesis =>
      obtain ⟨absent, distinct⟩ := List.nodup_cons.mp distinct
      cases attempts with
      | @cons _ _ _ _ _ line _ first later =>
          have member := pending row List.mem_cons_self
          have inside := List.mem_of_mem_filter member
          rcases first.cases_of_mem inside with
            ⟨complete, rfl, solution, text, joins, tells, rfl⟩ | ⟨incomplete, rfl, message⟩
          · have step : Advances judged before (before.mark row.id text) :=
              advances_mark member joins tells
            have waiting : ∀ other ∈ rest, other ∈ (before.mark row.id text).unchecked := by
              intro other member'
              rw [unchecked_mark, List.mem_filter]
              refine ⟨pending other (List.mem_cons_of_mem _ member'), decide_eq_true fun same => ?_⟩
              exact absent (same ▸ List.mem_map_of_mem member')
            obtain ⟨advances, remaining, counted⟩ := inductionHypothesis later waiting distinct
            rw [step.complete] at remaining counted
            refine ⟨step.trans advances, ?_, ?_⟩
            · rw [remaining, unchecked_mark, List.filter_filter]
              refine List.filter_congr fun other member' => ?_
              by_cases same : other.id = row.id
              · obtain rfl := row_unique (List.mem_of_mem_filter member') inside same
                simp [complete]
              · have different : other ≠ row := fun equal => same (congrArg SolutionRow.id equal)
                simp [same, different]
            · rw [List.count_cons_self, counted, List.countP_cons_of_pos complete]
          · obtain ⟨advances, remaining, counted⟩ := inductionHypothesis later
              (fun other member' => pending other (List.mem_cons_of_mem _ member')) distinct
            refine ⟨advances, ?_, ?_⟩
            · rw [remaining]
              refine List.filter_congr fun other member' => ?_
              by_cases same : other = row
              · simp [same, incomplete]
              · simp [same]
            · have reported : line ≠ none := by
                rcases message with rfl | rfl <;> simp
              rw [List.count_cons_of_ne reported, counted,
                List.countP_cons_of_neg (by simp [incomplete])]

/-- Of the wanted items those at the beginning of a list are taken out. -/
theorem countP_filter_take {α : Type} [DecidableEq α] {items : List α} (distinct : items.Nodup)
    (count : Nat) (wanted : α → Bool) :
    (items.filter fun item => !(decide (item ∈ items.take count) && wanted item)).countP wanted =
        (items.drop count).countP wanted ∧
      (items.filter fun item => !(decide (item ∈ items.take count) && wanted item)).countP
        (!wanted ·) = items.countP (!wanted ·) := by
  have parts : items.take count ++ items.drop count = items := List.take_append_drop count items
  have apart : ∀ item ∈ items.drop count, item ∉ items.take count := by
    intro item late early
    rw [← parts] at distinct
    exact (List.nodup_append.mp distinct).2.2 item early item late rfl
  constructor
  · have split : ∀ kept : α → Bool, items.countP kept =
        (items.take count).countP kept + (items.drop count).countP kept := by
      intro kept
      rw [← List.countP_append, parts]
    have early : (items.take count).countP (fun item => wanted item &&
        !(decide (item ∈ items.take count) && wanted item)) = 0 := by
      rw [List.countP_eq_zero]
      intro item member
      simp [member]
    have late : (items.drop count).countP (fun item => wanted item &&
        !(decide (item ∈ items.take count) && wanted item)) = (items.drop count).countP wanted := by
      refine List.countP_congr fun item member => ?_
      simp [apart item member]
    rw [List.countP_filter, split, early, late, Nat.zero_add]
  · rw [List.countP_filter]
    refine List.countP_congr fun item _ => ?_
    cases wanted item <;> simp

/-- A turn marks as many rows as it prints lines without a message, at least as many as the
rows that cannot be judged leave room for. -/
theorem Turn.counts {lines : List (Option Str)} (turn : Turn judged before lines after) :
    Advances judged before after ∧ after.stuck = before.stuck ∧
      after.free + lines.count none = before.free ∧
      min before.free (10 - before.stuck) ≤ lines.count none ∧ lines.count none ≤ 10 := by
  obtain ⟨order, made⟩ := turn
  rename_i batch
  have distinct : (batch.map SolutionRow.id).Nodup :=
    (order.map _).nodup_iff.mpr (before.solutionKey.sublist (List.filter_sublist.map _))
  have parts : batch.take 10 ++ batch.drop 10 = batch := List.take_append_drop 10 batch
  obtain ⟨advances, remaining, counted⟩ := made.marks
    (fun row member => order.mem_iff.mp (List.mem_of_mem_take member))
    (distinct.sublist ((List.take_sublist 10 batch).map _))
  obtain ⟨judgeable, others⟩ := countP_filter_take (.of_map _ distinct) 10 before.complete
  have perm := order.filter fun row =>
    !(decide (row ∈ batch.take 10) && before.complete row)
  rw [← remaining] at perm
  have free : after.free = (batch.drop 10).countP before.complete := by
    rw [Catalog.free, advances.complete, ← perm.countP_eq, judgeable]
  have stuck : after.stuck = before.stuck := by
    rw [Catalog.stuck, advances.complete, ← perm.countP_eq, others, order.countP_eq]
    rfl
  have whole : before.free = (batch.take 10).countP before.complete +
      (batch.drop 10).countP before.complete := by
    rw [← List.countP_append, parts, order.countP_eq]
    rfl
  have few : (batch.take 10).countP (!before.complete ·) ≤ before.stuck := by
    rw [Catalog.stuck, ← order.countP_eq]
    exact (List.take_sublist 10 batch).countP_le
  have taken : (batch.take 10).length = (batch.take 10).countP before.complete +
      (batch.take 10).countP (!before.complete ·) :=
    length_eq_countP _ _
  have size : (batch.take 10).length = min 10 (before.free + before.stuck) := by
    rw [List.length_take, order.length_eq, length_unchecked]
  exact ⟨advances, stuck, by omega, by omega, by omega⟩

/-- So many turns keep the rows that cannot be judged. Of the others each turn takes at most
ten, and at least as many as those leave room for. -/
theorem Turns.counts {count : Nat} (turns : Turns judged count before after) :
    Advances judged before after ∧ after.stuck = before.stuck ∧
      after.free ≤ before.free - count * (10 - before.stuck) ∧
      before.free - count * 10 ≤ after.free := by
  induction turns with
  | none => exact ⟨Advances.refl _, rfl, by omega, by omega⟩
  | @next count before middle after lines turn later inductionHypothesis =>
      obtain ⟨first, same, accounted, least, most⟩ := turn.counts
      obtain ⟨second, still, below, above⟩ := inductionHypothesis
      rw [same] at below still
      refine ⟨first.trans second, still, ?_, ?_⟩
      · rw [Nat.succ_mul]
        omega
      · rw [Nat.succ_mul]
        omega

end Catalog

end CheckerOlimp.Contester
