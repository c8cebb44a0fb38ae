import CheckerOlimp.Contester.Serving
import CheckerOlimp.Std.Sheet
import Mathlib.Data.Fin.VecNotation
import Mathlib.Data.Fintype.Basic

/-!
# The catalog behind the contester

The tables from which solutions are loaded, as lists of typed rows. In a database that
keeps a catalog, loading a solution comes to the join of its rows, whatever the order in
which the server lists rows: it fails for a missing row of the solution, of its task or
of its language only, and then with an exception that names the row.
-/

namespace CheckerOlimp.Contester

open CheckerOlimp.Std CheckerOlimp.CheckerRc

/-! ## Numbers and texts of a row -/

/-- A number of 64 bits. -/
abbrev Wide := {value : Int // -2 ^ 63 ≤ value ∧ value < 2 ^ 63}

/-- An `int` is one. -/
def wide (value : Int32) : Wide :=
  ⟨value.toInt, by
    have low := value.le_toInt
    have high := value.toInt_lt
    have large : (2 : Int) ^ 31 < 2 ^ 63 := by decide
    omega⟩

@[simp] theorem ofInt_wide (value : Int32) : Int32.ofInt (wide value).1 = value :=
  Int32.ofInt_toInt value

/-- How the rows of a table are kept: numeric columns, of which the first one is the id,
and then text columns. -/
structure Layout (α : Type) (numeric textual : Nat) where
  table : String
  columns : Fin (numeric + textual) → String
  distinct : Function.Injective fun index => (columns index).toList
  numbers : α → Fin numeric → Wide
  texts : α → Fin textual → Option Str

namespace Layout

variable {α : Type} {numeric textual : Nat}

def sheet (self : Layout α numeric textual) : Sql.Sheet α (numeric + textual) where
  name := self.table.toList
  columns index := (self.columns index).toList
  distinct := self.distinct
  cells row := Fin.append (fun index => some (Json.decimal (self.numbers row index).1))
    (self.texts row)

/-- What `loadRecord` makes of a row. -/
def record (self : Layout α numeric textual) (row : α) :
    (Fin numeric → Int) × (Fin textual → Str) :=
  (fun index => (self.numbers row index).1, fun index => fieldText (self.texts row index))

/-- The selection of some columns of the rows with a number. -/
def select (self : Layout α numeric textual) (columns : List (Fin (numeric + textual)))
    (key : Fin numeric) (wanted : Int32) : Sql.Select :=
  ⟨columns.map self.sheet.columns, self.sheet.name,
    some ⟨self.sheet.columns (Fin.castAdd textual key), .integer wanted.toInt⟩, none⟩

theorem cells_number (self : Layout α numeric textual) (row : α) (index : Fin numeric) :
    self.sheet.cells row (Fin.castAdd textual index) =
      some (Json.decimal (self.numbers row index).1) := by
  simp [sheet]

theorem cells_text (self : Layout α numeric textual) (row : α) (index : Fin textual) :
    self.sheet.cells row (Fin.natAdd numeric index) = self.texts row index := by
  simp [sheet]

end Layout

/-- The text of a number of 64 bits is the field that it is read from. -/
theorem stoi_fieldText_decimal (value : Wide) :
    stoi (fieldText (some (Json.decimal value.1))) = .ok value.1 := by
  have plain : '\x00' ∉ Json.decimal value.1 := fun member =>
    absurd (Json.printable_of_structural (Json.structural_of_mem_decimal member)) (by decide)
  rw [fieldText, Option.getD_some, cString_of_plain plain]
  exact stoi_decimal value.2.1 value.2.2

theorem stois_of_stoi {count : Nat} {fields : Fin count → Str} {values : Fin count → Int}
    (converted : ∀ index, stoi (fields index) = .ok (values index)) :
    stois fields = .ok values := by
  induction count with
  | zero =>
      unfold stois
      congr 1
      exact Subsingleton.elim _ _
  | succ count inductionHypothesis =>
      have rest := inductionHypothesis fun index => converted index.succ
      have whole : (Fin.cons (values 0) fun index => values index.succ : Fin (count + 1) → Int) =
          values := Fin.cons_self_tail values
      rw [stois, converted 0, rest]
      exact congrArg Except.ok whole

/-! ## Programs that only read -/

section Reading

variable {File Rest : Type} {database : Sql.Database} {α β : Type}

/-- On this database, whatever the files are, the program ends like this and changes
nothing. -/
def Settles (database : Sql.Database) (program : Contest File Rest Sql.Database α)
    (outcome : Except Thrown α) : Prop :=
  ∀ world, program.run ⟨world, database⟩ = settled outcome ⟨world, database⟩

namespace Settles

theorem pure {value result : α} (same : value = result) :
    Settles database (pure value : Contest File Rest Sql.Database α) (.ok result) :=
  fun _ => congrArg (settled · _) (congrArg Except.ok same)

theorem bind {program : Contest File Rest Sql.Database α}
    {rest : α → Contest File Rest Sql.Database β} {value : α} {outcome : Except Thrown β}
    (first : Settles database program (.ok value)) (later : Settles database (rest value) outcome) :
    Settles database (program >>= rest) outcome := by
  intro world
  rw [EStateM.run_bind, first world]
  exact later world

theorem bind_error {program : Contest File Rest Sql.Database α}
    {rest : α → Contest File Rest Sql.Database β} {reason : Thrown}
    (first : Settles database program (.error reason)) :
    Settles database (program >>= rest) (.error reason) := by
  intro world
  rw [EStateM.run_bind, first world]
  rfl

theorem mapM {body : α → Contest File Rest Sql.Database β} {items : List α} {results : List β}
    (each : List.Forall₂ (fun item result => Settles database (body item) (.ok result)) items
      results) : Settles database (items.mapM body) (.ok results) := by
  induction each with
  | nil => exact Settles.pure rfl
  | cons first _ inductionHypothesis =>
      rw [List.mapM_cons]
      exact first.bind (inductionHypothesis.bind (Settles.pure rfl))

end Settles

variable {machine : Machine File Rest} {system : Str → World File Rest → World File Rest}
  {limited unlimited : Sql.Order}

theorem settles_q {query : Query} {rows : List (Fin query.width → Option Str)}
    (answer : sqlAnswer limited unlimited query database = .rows rows) :
    Settles database (q (sqlDeployment machine system limited unlimited) query)
      (.ok (rows.map fun row index => fieldText (row index))) := by
  intro world
  rw [run_q_sql, answer]
  rfl

theorem settles_ofExcept {found : Except Thrown α} {value : α} (converted : found = .ok value) :
    Settles database (ofExcept found : Contest File Rest Sql.Database α) (.ok value) := by
  rw [converted]
  exact Settles.pure rfl

variable {Row : Type} {numeric textual : Nat} {layout : Layout Row numeric textual}
  {rows : List Row} {key : Fin numeric} {number : Row → Int32} {wanted : Int32}

/-- The rows that come back for a selection by a number. -/
theorem exists_answer (limited unlimited : Sql.Order) (holds : layout.sheet.Holds database rows)
    (numbered : ∀ row, layout.numbers row key = wide (number row)) {query : Query}
    {columns : List (Fin (numeric + textual))}
    (parsed : Sql.parse query.sql = some (.select (layout.select columns key wanted))) :
    ∃ found : List Row, found.Perm (rows.filter (number · = wanted)) ∧
      sqlAnswer limited unlimited query database = .rows (found.map fun row index =>
        (columns.map (layout.sheet.cells row)).getD index none) := by
  have cells : ∀ row, layout.sheet.cells row (Fin.castAdd textual key) =
      some (Json.decimal (number row).toInt) := by
    intro row
    rw [layout.cells_number, numbered row]
    rfl
  obtain ⟨found, perm, executed⟩ := holds.execute unlimited columns cells wanted.toInt
  refine ⟨found, ?_, ?_⟩
  · simpa only [Int32.toInt_inj] using perm
  · have whole : (layout.select columns key wanted).execute unlimited database =
        some (found.map fun row => columns.map (layout.sheet.cells row)) := executed
    have unlimitedSelect : (layout.select columns key wanted).limit.isSome = false := rfl
    simp only [sqlAnswer, parsed, unlimitedSelect, Bool.false_eq_true, ↓reduceIte, whole,
      List.map_map]
    rfl

/-- A row is loaded by its id. -/
theorem settles_loadRecord {sql missing : Str} (holds : layout.sheet.Holds database rows)
    (unique : (rows.map number).Nodup)
    (parsed : Sql.parse sql =
      some (.select (layout.select (List.finRange (numeric + textual)) key wanted)))
    (numbered : ∀ row, layout.numbers row key = wide (number row)) :
    Settles database
      (loadRecord (sqlDeployment machine system limited unlimited) sql missing numeric textual)
      (match rows.find? (number · = wanted) with
        | none => .error (.exception missing)
        | some row => .ok (layout.record row)) := by
  have parsed : Sql.parse (Query.record sql numeric textual).sql =
      some (.select (layout.select (List.finRange (numeric + textual)) key wanted)) := parsed
  obtain ⟨found, perm, answer⟩ := exists_answer limited unlimited holds numbered parsed
  rw [Sql.filter_eq_find? unique] at perm
  unfold loadRecord
  refine (settles_q answer).bind ?_
  cases looked : rows.find? (number · = wanted) with
  | none =>
      rw [looked] at perm
      obtain rfl : found = [] := perm.eq_nil
      exact fun _ => rfl
  | some row =>
      rw [looked] at perm
      obtain rfl : found = [row] := perm.eq_singleton
      have cells : ∀ index : Fin (numeric + textual),
          ((List.finRange (numeric + textual)).map (layout.sheet.cells row)).getD index none =
            layout.sheet.cells row index := by
        intro index
        simp
      have converted : stois (fun index : Fin numeric => fieldText
          (((List.finRange (numeric + textual)).map (layout.sheet.cells row)).getD
            (Fin.castAdd textual index) none)) = .ok (layout.record row).1 := by
        refine stois_of_stoi fun index => ?_
        rw [cells, layout.cells_number]
        exact stoi_fieldText_decimal _
      have texts : (fun index : Fin textual => fieldText
          (((List.finRange (numeric + textual)).map (layout.sheet.cells row)).getD
            (Fin.natAdd numeric index) none)) = (layout.record row).2 := by
        funext index
        rw [cells, layout.cells_text]
        rfl
      exact (settles_ofExcept converted).bind
        (Settles.pure (congrArg (Prod.mk (layout.record row).1) texts))

/-- So is a row of the table. -/
theorem settles_member {sql missing : Str} (holds : layout.sheet.Holds database rows)
    (unique : (rows.map number).Nodup) {row : Row} (member : row ∈ rows)
    (parsed : Sql.parse sql =
      some (.select (layout.select (List.finRange (numeric + textual)) key (number row))))
    (numbered : ∀ row, layout.numbers row key = wide (number row)) :
    Settles database
      (loadRecord (sqlDeployment machine system limited unlimited) sql missing numeric textual)
      (.ok (layout.record row)) := by
  have settles : Settles database
      (loadRecord (sqlDeployment machine system limited unlimited) sql missing numeric textual) _ :=
    settles_loadRecord holds unique parsed numbered
  rwa [Sql.find?_of_mem unique member] at settles

/-- Ids are listed by a number of their rows. -/
theorem settles_getIds {sql : Str} {id : Row → Int32} {first : Fin numeric}
    (holds : layout.sheet.Holds database rows)
    (parsed : Sql.parse sql =
      some (.select (layout.select [Fin.castAdd textual first] key wanted)))
    (numbered : ∀ row, layout.numbers row key = wide (number row))
    (identified : ∀ row, layout.numbers row first = wide (id row)) :
    ∃ found : List Row, found.Perm (rows.filter (number · = wanted)) ∧
      Settles database (getIds (sqlDeployment machine system limited unlimited) sql)
        (.ok (found.map id)) := by
  have parsed : Sql.parse (Query.ids sql).sql =
      some (.select (layout.select [Fin.castAdd textual first] key wanted)) := parsed
  obtain ⟨found, perm, answer⟩ := exists_answer limited unlimited holds numbered parsed
  refine ⟨found, perm, (settles_q answer).bind (Settles.mapM ?_)⟩
  rw [List.map_map, List.forall₂_map_left_iff, List.forall₂_map_right_iff, List.forall₂_same]
  intro row _
  have cell : layout.sheet.cells row (Fin.castAdd textual first) =
      some (Json.decimal (wide (id row)).1) := by
    rw [layout.cells_number, identified]
  have converted : stoi (fieldText (([Fin.castAdd textual first].map
      (layout.sheet.cells row)).getD (0 : Fin 1) none)) = .ok (wide (id row)).1 := by
    rw [← stoi_fieldText_decimal, ← cell]
    rfl
  exact (settles_ofExcept converted).bind (Settles.pure (ofInt_wide (id row)))

end Reading

/-! ## The tables -/

/-- A row of `solutions`. -/
structure SolutionRow where
  id : Int32
  uid : Int32
  tid : Int32
  lid : Int32
  createdAt : Wide
  status : Int32
  score : Int32
  code : Option Str
  file : Option Str
  hash : Option Str
  result : Option Str
deriving DecidableEq, Repr

/-- A row of `tasks`. -/
structure TaskRow where
  id : Int32
  cid : Int32
  timeLimit : Wide
  memoryLimit : Wide
  title : Option Str
  content : Option Str
  input : Option Str
  output : Option Str
  checker : Option Str
deriving DecidableEq, Repr

/-- A row of `langs`. -/
structure LangRow where
  id : Int32
  name : Option Str
  compiler : Option Str
  extension : Option Str
  identifier : Option Str
deriving DecidableEq, Repr

/-- A row of `checkergroups`. -/
structure GroupRow where
  id : Int32
  tid : Int32
  method : Int32
  scores : Int32
  name : Option Str
deriving DecidableEq, Repr

/-- A row of `checkertests`. -/
structure ChTestRow where
  id : Int32
  gid : Int32
  scores : Int32
  input : Option Str
  output : Option Str
deriving DecidableEq, Repr

/-- A row of `tests`. -/
structure TestRow where
  id : Int32
  sid : Int32
  num : Int32
  res : Int32
  cid : Int32
deriving DecidableEq, Repr

def solutionLayout : Layout SolutionRow 7 4 where
  table := "solutions"
  columns := !["id", "uid", "tid", "lid", "created_at", "status", "score", "code", "file", "hash",
    "result"]
  distinct := by decide
  numbers row := ![wide row.id, wide row.uid, wide row.tid, wide row.lid, row.createdAt,
    wide row.status, wide row.score]
  texts row := ![row.code, row.file, row.hash, row.result]

def taskLayout : Layout TaskRow 4 5 where
  table := "tasks"
  columns := !["id", "cid", "time_limit", "memory_limit", "title", "content", "input", "output",
    "checker"]
  distinct := by decide
  numbers row := ![wide row.id, wide row.cid, row.timeLimit, row.memoryLimit]
  texts row := ![row.title, row.content, row.input, row.output, row.checker]

def langLayout : Layout LangRow 1 4 where
  table := "langs"
  columns := !["id", "name", "compiler", "extension", "identifier"]
  distinct := by decide
  numbers row := ![wide row.id]
  texts row := ![row.name, row.compiler, row.extension, row.identifier]

def groupLayout : Layout GroupRow 4 1 where
  table := "checkergroups"
  columns := !["id", "tid", "method", "scores", "name"]
  distinct := by decide
  numbers row := ![wide row.id, wide row.tid, wide row.method, wide row.scores]
  texts row := ![row.name]

def chTestLayout : Layout ChTestRow 3 2 where
  table := "checkertests"
  columns := !["id", "gid", "scores", "input", "output"]
  distinct := by decide
  numbers row := ![wide row.id, wide row.gid, wide row.scores]
  texts row := ![row.input, row.output]

def testLayout : Layout TestRow 5 0 where
  table := "tests"
  columns := !["id", "sid", "num", "res", "cid"]
  distinct := by decide
  numbers row := ![wide row.id, wide row.sid, wide row.num, wide row.res, wide row.cid]
  texts _ := ![]

theorem parse_solution (id : Int32) : Sql.parse (solutionStatement id) =
    some (.select (solutionLayout.select (List.finRange 11) 0 id)) :=
  parse_solutionStatement id

theorem parse_task (id : Int32) : Sql.parse (taskStatement id) =
    some (.select (taskLayout.select (List.finRange 9) 0 id)) :=
  parse_taskStatement id

theorem parse_lang (id : Int32) : Sql.parse (langStatement id) =
    some (.select (langLayout.select (List.finRange 5) 0 id)) :=
  parse_langStatement id

theorem parse_chGroup (id : Int32) : Sql.parse (chGroupStatement id) =
    some (.select (groupLayout.select (List.finRange 5) 0 id)) :=
  parse_chGroupStatement id

theorem parse_chGroupIds (tid : Int32) : Sql.parse (chGroupIdsStatement tid) =
    some (.select (groupLayout.select [Fin.castAdd 1 0] 1 tid)) :=
  parse_chGroupIdsStatement tid

theorem parse_chTest (id : Int32) : Sql.parse (chTestStatement id) =
    some (.select (chTestLayout.select (List.finRange 5) 0 id)) :=
  parse_chTestStatement id

theorem parse_chTestIds (gid : Int32) : Sql.parse (chTestIdsStatement gid) =
    some (.select (chTestLayout.select [Fin.castAdd 2 0] 1 gid)) :=
  parse_chTestIdsStatement gid

theorem parse_test (id : Int32) : Sql.parse (testStatement id) =
    some (.select (testLayout.select (List.finRange 5) 0 id)) :=
  parse_testStatement id

theorem parse_testIds (sid : Int32) : Sql.parse (testIdsStatement sid) =
    some (.select (testLayout.select [Fin.castAdd 0 0] 1 sid)) :=
  parse_testIdsStatement sid

/-! ## Catalogs -/

/-- What is loaded of a test. -/
def ChTestRow.chTest (self : ChTestRow) : ChTest :=
  ⟨self.id, self.scores, fieldText self.input, fieldText self.output⟩

/-- What is loaded of a task with these groups. -/
def TaskRow.task (self : TaskRow) (chgs : List ChGroup) : Task where
  chgs
  cid := self.cid
  timeLimit := .ofInt self.timeLimit.1
  memoryLimit := .ofInt self.memoryLimit.1
  title := fieldText self.title
  input := fieldText self.input
  output := fieldText self.output
  checker := fieldText self.checker

/-- What is loaded of a language. -/
def LangRow.lang (self : LangRow) : Lang := ⟨fieldText self.identifier⟩

/-- What is loaded of a solution with this task and language. -/
def SolutionRow.solution (self : SolutionRow) (pt : Task) (pl : Lang) : Solution :=
  ⟨pt, pl, self.id, self.tid, fieldText self.code, fieldText self.result⟩

/-- The tables from which solutions are loaded, each with the ids of its rows as a key. -/
structure Catalog where
  solutions : List SolutionRow
  tasks : List TaskRow
  langs : List LangRow
  groups : List GroupRow
  chTests : List ChTestRow
  tests : List TestRow
  solutionKey : (solutions.map SolutionRow.id).Nodup
  taskKey : (tasks.map TaskRow.id).Nodup
  langKey : (langs.map LangRow.id).Nodup
  groupKey : (groups.map GroupRow.id).Nodup
  chTestKey : (chTests.map ChTestRow.id).Nodup
  testKey : (tests.map TestRow.id).Nodup

namespace Catalog

def solution? (self : Catalog) (id : Int32) : Option SolutionRow :=
  self.solutions.find? (·.id = id)

def task? (self : Catalog) (id : Int32) : Option TaskRow := self.tasks.find? (·.id = id)

def lang? (self : Catalog) (id : Int32) : Option LangRow := self.langs.find? (·.id = id)

/-- The group is the one of the row, with its tests in some order. -/
def IsGroup (self : Catalog) (row : GroupRow) (group : ChGroup) : Prop :=
  group.chts.Perm ((self.chTests.filter (·.gid = row.id)).map ChTestRow.chTest)

/-- The task is the one of the row, with its groups in some order. -/
def IsTask (self : Catalog) (row : TaskRow) (task : Task) : Prop :=
  ∃ groups chgs, groups.Perm (self.groups.filter (·.tid = row.id)) ∧
    List.Forall₂ self.IsGroup groups chgs ∧ task = row.task chgs

/-- What loading the solution of an id may come to: the first of its rows that is missing
is reported, or it is the join of its rows. -/
inductive Joins (self : Catalog) (id : Int32) : Except Thrown Solution → Prop
  | noSolution (missing : self.solution? id = none) :
      Joins self id (.error (.exception (notExist "solution" id)))
  | noTask {row} (found : self.solution? id = some row) (missing : self.task? row.tid = none) :
      Joins self id (.error (.exception (notExist "task" row.tid)))
  | noLang {row task} (found : self.solution? id = some row)
      (tasked : self.task? row.tid = some task) (missing : self.lang? row.lid = none) :
      Joins self id (.error (.exception (notExist "lang" row.lid)))
  | joined {row task lang pt} (found : self.solution? id = some row)
      (tasked : self.task? row.tid = some task) (written : self.lang? row.lid = some lang)
      (whole : self.IsTask task pt) : Joins self id (.ok (row.solution pt lang.lang))

/-- The database keeps the catalog. -/
structure KeptIn (catalog : Catalog) (database : Sql.Database) : Prop where
  solutions : solutionLayout.sheet.Holds database catalog.solutions
  tasks : taskLayout.sheet.Holds database catalog.tasks
  langs : langLayout.sheet.Holds database catalog.langs
  groups : groupLayout.sheet.Holds database catalog.groups
  chTests : chTestLayout.sheet.Holds database catalog.chTests
  tests : testLayout.sheet.Holds database catalog.tests

end Catalog

/-! ## Loading from a catalog -/

section Loading

variable {File Rest : Type} {machine : Machine File Rest}
  {system : Str → World File Rest → World File Rest} {limited unlimited : Sql.Order}
  {database : Sql.Database} {catalog : Catalog}

/-- Rows whose ids are listed are loaded one after another. -/
theorem settles_rows {Row α : Type} {id : Row → Int32} {rows : List Row}
    {Loaded : Row → α → Prop} {new : Int32 → Contest File Rest Sql.Database α}
    (each : ∀ row ∈ rows, ∃ value, Loaded row value ∧ Settles database (new (id row)) (.ok value)) :
    ∃ values, List.Forall₂ Loaded rows values ∧
      Settles database ((rows.map id).mapM new) (.ok values) := by
  induction rows with
  | nil => exact ⟨[], .nil, Settles.pure rfl⟩
  | cons row rest inductionHypothesis =>
      obtain ⟨value, loaded, settles⟩ := each row List.mem_cons_self
      obtain ⟨values, others, later⟩ := inductionHypothesis fun row member =>
        each row (List.mem_cons_of_mem _ member)
      refine ⟨value :: values, .cons loaded others, ?_⟩
      rw [List.map_cons, List.mapM_cons]
      exact settles.bind (later.bind (Settles.pure rfl))

theorem settles_chTest (kept : catalog.KeptIn database) {row : ChTestRow}
    (member : row ∈ catalog.chTests) :
    Settles database (ChTest.new (sqlDeployment machine system limited unlimited) row.id)
      (.ok row.chTest) := by
  refine (settles_member kept.chTests catalog.chTestKey member (parse_chTest row.id)
    fun _ => rfl).bind (Settles.pure ?_)
  simp [chTestLayout, ChTestRow.chTest]

theorem settles_test (kept : catalog.KeptIn database) {row : TestRow}
    (member : row ∈ catalog.tests) :
    ∃ test, Settles database
      (Test.new (sqlDeployment machine system limited unlimited) row.id) (.ok test) :=
  ⟨_, (settles_member kept.tests catalog.testKey member (parse_test row.id) fun _ => rfl).bind
    (Settles.pure rfl)⟩

/-- The tests of a solution are loaded, whatever they are. -/
theorem settles_tests (kept : catalog.KeptIn database) (sid : Int32) :
    ∃ tis tests, Settles database
        (Test.getIds (sqlDeployment machine system limited unlimited) sid) (.ok tis) ∧
      Settles database
        (tis.mapM (Test.new (sqlDeployment machine system limited unlimited))) (.ok tests) := by
  obtain ⟨found, perm, listed⟩ : ∃ found : List TestRow,
      found.Perm (catalog.tests.filter (·.sid = sid)) ∧
      Settles database (Test.getIds (sqlDeployment machine system limited unlimited) sid)
        (.ok (found.map TestRow.id)) :=
    settles_getIds kept.tests (parse_testIds sid) (fun _ => rfl) fun _ => rfl
  obtain ⟨tests, _, loaded⟩ : ∃ tests, List.Forall₂ (fun _ _ => True) found tests ∧
      Settles database ((found.map TestRow.id).mapM
        (Test.new (sqlDeployment machine system limited unlimited))) (.ok tests) := by
    refine settles_rows fun test inside => ?_
    obtain ⟨loaded, settles⟩ :=
      settles_test kept (List.mem_of_mem_filter (perm.mem_iff.mp inside))
    exact ⟨loaded, trivial, settles⟩
  exact ⟨_, tests, listed, loaded⟩

theorem settles_chGroup (kept : catalog.KeptIn database) {row : GroupRow}
    (member : row ∈ catalog.groups) :
    ∃ group, catalog.IsGroup row group ∧ Settles database
      (ChGroup.new (sqlDeployment machine system limited unlimited) row.id) (.ok group) := by
  obtain ⟨found, perm, listed⟩ : ∃ found : List ChTestRow,
      found.Perm (catalog.chTests.filter (·.gid = row.id)) ∧
      Settles database (ChTest.getIds (sqlDeployment machine system limited unlimited) row.id)
        (.ok (found.map ChTestRow.id)) :=
    settles_getIds kept.chTests (parse_chTestIds row.id) (fun _ => rfl) fun _ => rfl
  have loaded : Settles database ((found.map ChTestRow.id).mapM
      (ChTest.new (sqlDeployment machine system limited unlimited)))
      (.ok (found.map ChTestRow.chTest)) := by
    refine Settles.mapM ?_
    rw [List.forall₂_map_left_iff, List.forall₂_map_right_iff, List.forall₂_same]
    exact fun test inside => settles_chTest kept (List.mem_of_mem_filter (perm.mem_iff.mp inside))
  refine ⟨⟨found.map ChTestRow.chTest⟩, perm.map _, ?_⟩
  exact (settles_member kept.groups catalog.groupKey member (parse_chGroup row.id)
    fun _ => rfl).bind (listed.bind (loaded.bind (Settles.pure rfl)))

theorem settles_task (kept : catalog.KeptIn database) {row : TaskRow}
    (member : row ∈ catalog.tasks) :
    ∃ task, catalog.IsTask row task ∧ Settles database
      (Task.new (sqlDeployment machine system limited unlimited) row.id) (.ok task) := by
  obtain ⟨found, perm, listed⟩ : ∃ found : List GroupRow,
      found.Perm (catalog.groups.filter (·.tid = row.id)) ∧
      Settles database (ChGroup.getIds (sqlDeployment machine system limited unlimited) row.id)
        (.ok (found.map GroupRow.id)) :=
    settles_getIds kept.groups (parse_chGroupIds row.id) (fun _ => rfl) fun _ => rfl
  obtain ⟨chgs, groups, loaded⟩ : ∃ chgs, List.Forall₂ catalog.IsGroup found chgs ∧
      Settles database ((found.map GroupRow.id).mapM
        (ChGroup.new (sqlDeployment machine system limited unlimited))) (.ok chgs) :=
    settles_rows fun group inside =>
      settles_chGroup kept (List.mem_of_mem_filter (perm.mem_iff.mp inside))
  refine ⟨row.task chgs, ⟨found, chgs, perm, groups, rfl⟩, ?_⟩
  refine (settles_member kept.tasks catalog.taskKey member (parse_task row.id) fun _ => rfl).bind
    (listed.bind (loaded.bind (Settles.pure ?_)))
  simp [taskLayout, TaskRow.task]

theorem settles_lang (kept : catalog.KeptIn database) {row : LangRow}
    (member : row ∈ catalog.langs) :
    Settles database (Lang.new (sqlDeployment machine system limited unlimited) row.id)
      (.ok row.lang) :=
  (settles_member kept.langs catalog.langKey member (parse_lang row.id) fun _ => rfl).bind
    (Settles.pure rfl)

theorem settles_missing_task (kept : catalog.KeptIn database) {id : Int32}
    (missing : catalog.task? id = none) :
    Settles database (Task.new (sqlDeployment machine system limited unlimited) id)
      (.error (.exception (notExist "task" id))) := by
  have settles : Settles database (loadRecord (sqlDeployment machine system limited unlimited)
      (taskStatement id) (notExist "task" id) 4 5) _ :=
    settles_loadRecord kept.tasks catalog.taskKey (parse_task id) fun _ => rfl
  rw [show catalog.tasks.find? (·.id = id) = none from missing] at settles
  exact settles.bind_error

theorem settles_missing_lang (kept : catalog.KeptIn database) {id : Int32}
    (missing : catalog.lang? id = none) :
    Settles database (Lang.new (sqlDeployment machine system limited unlimited) id)
      (.error (.exception (notExist "lang" id))) := by
  have settles : Settles database (loadRecord (sqlDeployment machine system limited unlimited)
      (langStatement id) (notExist "lang" id) 1 4) _ :=
    settles_loadRecord kept.langs catalog.langKey (parse_lang id) fun _ => rfl
  rw [show catalog.langs.find? (·.id = id) = none from missing] at settles
  exact settles.bind_error

/-- The rest of the constructor of a solution, with its own row at hand. -/
theorem settles_new_row (kept : catalog.KeptIn database) {row : SolutionRow}
    (found : catalog.solution? row.id = some row) :
    ∃ outcome, catalog.Joins row.id outcome ∧ Settles database
      (Solution.new (sqlDeployment machine system limited unlimited) row.id) outcome := by
  have member : row ∈ catalog.solutions := List.mem_of_find?_eq_some found
  have own : Settles database (loadRecord (sqlDeployment machine system limited unlimited)
      (solutionStatement row.id) (notExist "solution" row.id) 7 4)
      (.ok (solutionLayout.record row)) :=
    settles_member kept.solutions catalog.solutionKey member (parse_solution row.id) fun _ => rfl
  have id : Int32.ofInt ((solutionLayout.record row).1 0) = row.id := ofInt_wide row.id
  have tid : Int32.ofInt ((solutionLayout.record row).1 2) = row.tid := ofInt_wide row.tid
  have lid : Int32.ofInt ((solutionLayout.record row).1 3) = row.lid := ofInt_wide row.lid
  have code : (solutionLayout.record row).2 0 = fieldText row.code := rfl
  have result : (solutionLayout.record row).2 3 = fieldText row.result := rfl
  unfold Solution.new
  generalize solutionLayout.record row = record at own id tid lid code result
  obtain ⟨numbers, texts⟩ := record
  cases tasked : catalog.task? row.tid with
  | none =>
      refine ⟨_, .noTask found tasked, own.bind ?_⟩
      simp only [tid]
      exact (settles_missing_task kept tasked).bind_error
  | some task =>
      obtain ⟨pt, whole, loaded⟩ : ∃ pt, catalog.IsTask task pt ∧ Settles database
          (Task.new (sqlDeployment machine system limited unlimited) row.tid) (.ok pt) := by
        have same : task.id = row.tid := by simpa using List.find?_some tasked
        exact same ▸ settles_task kept (List.mem_of_find?_eq_some tasked)
      cases written : catalog.lang? row.lid with
      | none =>
          refine ⟨_, .noLang found tasked written, own.bind ?_⟩
          simp only [tid, lid]
          exact loaded.bind (settles_missing_lang kept written).bind_error
      | some lang =>
          have named : Settles database
              (Lang.new (sqlDeployment machine system limited unlimited) row.lid)
              (.ok lang.lang) := by
            have same : lang.id = row.lid := by simpa using List.find?_some written
            exact same ▸ settles_lang kept (List.mem_of_find?_eq_some written)
          obtain ⟨tis, tests, listed, read⟩ := settles_tests kept row.id
          refine ⟨_, .joined found tasked written whole, own.bind ?_⟩
          simp only [id, tid, lid]
          refine loaded.bind (named.bind (listed.bind (read.bind (Settles.pure ?_))))
          simp only [SolutionRow.solution, ← code, ← result]

/-- In a database that keeps a catalog, loading a solution comes to its join, and changes
nothing. -/
theorem settles_new (kept : catalog.KeptIn database) (id : Int32) :
    ∃ outcome, catalog.Joins id outcome ∧ Settles database
      (Solution.new (sqlDeployment machine system limited unlimited) id) outcome := by
  cases found : catalog.solution? id with
  | none =>
      have settles : Settles database (loadRecord (sqlDeployment machine system limited unlimited)
          (solutionStatement id) (notExist "solution" id) 7 4) _ :=
        settles_loadRecord kept.solutions catalog.solutionKey (parse_solution id) fun _ => rfl
      rw [show catalog.solutions.find? (·.id = id) = none from found] at settles
      exact ⟨_, .noSolution found, settles.bind_error⟩
  | some row =>
      obtain rfl : row.id = id := by simpa using List.find?_some found
      exact settles_new_row kept found

/-- Whatever the files are and in whatever order the server lists rows, loading a solution from
the tables of a catalog comes to the join of its rows, or to an exception that names the first
row that is missing, and changes nothing. -/
theorem loading_joins (kept : catalog.KeptIn database) (machine : Machine File Rest)
    (system : Str → World File Rest → World File Rest) (limited unlimited : Sql.Order)
    (world : World File Rest) (id : Int32) :
    ∃ outcome, catalog.Joins id outcome ∧
      (Solution.new (sqlDeployment machine system limited unlimited) id).run ⟨world, database⟩ =
        settled outcome ⟨world, database⟩ := by
  obtain ⟨outcome, joins, settles⟩ : ∃ outcome, catalog.Joins id outcome ∧ Settles database
      (Solution.new (sqlDeployment machine system limited unlimited) id) outcome :=
    settles_new kept id
  exact ⟨outcome, joins, settles world⟩

end Loading

/-! ## The database of a catalog -/

/-- The tables of a catalog, and no others. -/
def Catalog.store (self : Catalog) : Sql.Database := fun name =>
  if name = "solutions".toList then some (solutionLayout.sheet.table self.solutions)
  else if name = "tasks".toList then some (taskLayout.sheet.table self.tasks)
  else if name = "langs".toList then some (langLayout.sheet.table self.langs)
  else if name = "checkergroups".toList then some (groupLayout.sheet.table self.groups)
  else if name = "checkertests".toList then some (chTestLayout.sheet.table self.chTests)
  else if name = "tests".toList then some (testLayout.sheet.table self.tests)
  else none

theorem keptIn_store (catalog : Catalog) : catalog.KeptIn catalog.store :=
  ⟨rfl, rfl, rfl, rfl, rfl, rfl⟩

/-- Two solutions of one task; the task of a third one is missing. -/
def sampleCatalog : Catalog where
  solutions := [⟨7, 1, 5, 2, wide 0, 0, 0, some "a+b".toList, none, none, none⟩,
    ⟨8, 1, 6, 2, wide 0, 0, 0, some "a-b".toList, none, none, none⟩,
    ⟨9, 2, 5, 2, wide 0, 0, 0, none, none, none, none⟩]
  tasks := [⟨5, 1, wide 2000, wide 65536, some "sum".toList, none, some "input.txt".toList,
    some "output.txt".toList, some "check.exe".toList⟩]
  langs := [⟨2, some "C++".toList, none, none, some "mingw_cpp".toList⟩]
  groups := [⟨3, 5, 0, 0, none⟩, ⟨4, 5, 0, 0, none⟩]
  chTests := [⟨1, 3, 40, some "1.in".toList, some "1.out".toList⟩,
    ⟨2, 4, 60, some "2.in".toList, some "2.out".toList⟩]
  tests := []
  solutionKey := by decide
  taskKey := by decide
  langKey := by decide
  groupKey := by decide
  chTestKey := by decide
  testKey := by decide

/-- Its solution 7 is loaded from groups in the order of the server. -/
theorem loading_joins_sample :
    ∃ outcome, sampleCatalog.Joins 7 outcome ∧
      (Solution.new (sqlDeployment strictMachine (fun _ world => world) .stored
        (.first fun row => row "id".toList = some "4".toList)) 7).run
          ⟨⟨pairFiles, ()⟩, sampleCatalog.store⟩ =
        settled outcome ⟨⟨pairFiles, ()⟩, sampleCatalog.store⟩ :=
  loading_joins (keptIn_store sampleCatalog) strictMachine _ _ _ _ 7

end CheckerOlimp.Contester
