import CheckerOlimp.Contester.Resilience
import CheckerOlimp.Contester.Transport

/-!
# Loading from the SQL server

The contester's selections have one meaning each to a server that reads SQL. What
loading a solution comes to does not depend on the files or on the order in which the
server works on a limited selection, and marking another solution does not change it.
-/

namespace CheckerOlimp.Contester

open CheckerOlimp.Std CheckerOlimp.CheckerRc

/-! ## The SQL server behind the contester -/

/-- What comes back for a query, when the server works on the rows of a selection with
and without a limit in these orders. -/
def sqlAnswer (limited unlimited : Sql.Order) (query : Query) (database : Sql.Database) :
    Answer query.width :=
  match Sql.parse query.sql with
  | some (.select select) =>
    match select.execute (if select.limit.isSome then limited else unlimited) database with
    | some rows => .rows (rows.map fun row index => row.getD index none)
    | none => .failed "Unknown column".toList
  | some (.update _) => .unstored
  | none => .failed "You have an error in your SQL syntax".toList

variable {File Rest : Type}

/-- The contester before this server, without other clients. -/
def sqlDeployment (machine : Machine File Rest)
    (system : Str → World File Rest → World File Rest) (limited unlimited : Sql.Order) :
    Deployment File Rest Sql.Database where
  machine
  system
  server := sqlServer
  select query database := (sqlAnswer limited unlimited query database, database)

/-- The selection of the poll. -/
def pollSelect : Sql.Select :=
  ⟨["id".toList], "solutions".toList, some ⟨"status".toList, .integer 0⟩, some 10⟩

theorem parse_pollStatement : Sql.parse pollStatement = some (.select pollSelect) := by
  decide

/-- The selection that loads the row of a solution. -/
def solutionSelect (id : Int32) : Sql.Select :=
  ⟨["id", "uid", "tid", "lid", "created_at", "status", "score", "code", "file", "hash",
      "result"].map String.toList,
    "solutions".toList, some ⟨"id".toList, .integer id.toInt⟩, none⟩

set_option maxRecDepth 1000 in
theorem parse_solutionStatement (id : Int32) :
    Sql.parse (solutionStatement id) = some (.select (solutionSelect id)) :=
  Sql.parse_lookup (by decide) (by simp) (by decide) (by decide) id.toInt

/-- The selection by a number in a column. -/
def lookupSelect (columns : List String) (table column : String) (number : Int32) : Sql.Select :=
  ⟨columns.map String.toList, table.toList, some ⟨column.toList, .integer number.toInt⟩, none⟩

theorem parse_lookupSelect {head : Str} (columns : List String) (table column : String)
    (read : Sql.scan ⟨[], .blank⟩ head =
      ⟨Sql.lookupTokens (columns.map String.toList) table.toList column.toList, .blank⟩)
    (nonempty : columns ≠ []) (listed : "from".toList ∉ columns.map String.toList)
    (named : column.toList ≠ "limit".toList) (number : Int32) :
    Sql.parse (head ++ toString number) =
      some (.select (lookupSelect columns table column number)) :=
  Sql.parse_lookup read (by simpa using nonempty) listed named number.toInt

set_option maxRecDepth 1000 in
theorem parse_taskStatement (id : Int32) : Sql.parse (taskStatement id) =
    some (.select (lookupSelect ["id", "cid", "time_limit", "memory_limit", "title", "content",
      "input", "output", "checker"] "tasks" "id" id)) :=
  parse_lookupSelect _ _ _ (by decide) (by decide) (by decide) (by decide) id

theorem parse_langStatement (id : Int32) : Sql.parse (langStatement id) =
    some (.select (lookupSelect ["id", "name", "compiler", "extension", "identifier"] "langs" "id"
      id)) :=
  parse_lookupSelect _ _ _ (by decide) (by decide) (by decide) (by decide) id

theorem parse_chGroupStatement (id : Int32) : Sql.parse (chGroupStatement id) =
    some (.select (lookupSelect ["id", "tid", "method", "scores", "name"] "checkergroups" "id"
      id)) :=
  parse_lookupSelect _ _ _ (by decide) (by decide) (by decide) (by decide) id

theorem parse_chGroupIdsStatement (tid : Int32) : Sql.parse (chGroupIdsStatement tid) =
    some (.select (lookupSelect ["id"] "checkergroups" "tid" tid)) :=
  parse_lookupSelect _ _ _ (by decide) (by decide) (by decide) (by decide) tid

theorem parse_chTestStatement (id : Int32) : Sql.parse (chTestStatement id) =
    some (.select (lookupSelect ["id", "gid", "scores", "input", "output"] "checkertests" "id"
      id)) :=
  parse_lookupSelect _ _ _ (by decide) (by decide) (by decide) (by decide) id

theorem parse_chTestIdsStatement (gid : Int32) : Sql.parse (chTestIdsStatement gid) =
    some (.select (lookupSelect ["id"] "checkertests" "gid" gid)) :=
  parse_lookupSelect _ _ _ (by decide) (by decide) (by decide) (by decide) gid

theorem parse_testStatement (id : Int32) : Sql.parse (testStatement id) =
    some (.select (lookupSelect ["id", "sid", "num", "res", "cid"] "tests" "id" id)) :=
  parse_lookupSelect _ _ _ (by decide) (by decide) (by decide) (by decide) id

theorem parse_testIdsStatement (sid : Int32) : Sql.parse (testIdsStatement sid) =
    some (.select (lookupSelect ["id"] "tests" "sid" sid)) :=
  parse_lookupSelect _ _ _ (by decide) (by decide) (by decide) (by decide) sid

/-- A selection from another table. -/
theorem exists_elsewhere {sql : Str} {columns : List String} {table column : String}
    {number : Int32}
    (parsed : Sql.parse sql = some (.select (lookupSelect columns table column number)))
    (other : table.toList ≠ "solutions".toList) {id : Int32} :
    ∃ select, Sql.parse sql = some (.select select) ∧ select.limit = none ∧
      (select.table = "solutions".toList →
        select.condition = some ⟨"id".toList, .integer id.toInt⟩) :=
  ⟨_, parsed, rfl, fun same => absurd same other⟩

/-- A query that loads a solution is a selection without a limit, and of the table of
solutions it selects by the id. -/
theorem parse_loads {id : Int32} {query : Query} (loads : Loads id query) :
    ∃ select, Sql.parse query.sql = some (.select select) ∧ select.limit = none ∧
      (select.table = "solutions".toList →
        select.condition = some ⟨"id".toList, .integer id.toInt⟩) := by
  cases loads with
  | solution => exact ⟨_, parse_solutionStatement id, rfl, fun _ => rfl⟩
  | task tid => exact exists_elsewhere (parse_taskStatement tid) (by decide)
  | lang lid => exact exists_elsewhere (parse_langStatement lid) (by decide)
  | chGroup gid => exact exists_elsewhere (parse_chGroupStatement gid) (by decide)
  | chTest cid => exact exists_elsewhere (parse_chTestStatement cid) (by decide)
  | test tid => exact exists_elsewhere (parse_testStatement tid) (by decide)
  | chGroupIds tid => exact exists_elsewhere (parse_chGroupIdsStatement tid) (by decide)
  | chTestIds gid => exact exists_elsewhere (parse_chTestIdsStatement gid) (by decide)
  | testIds sid => exact exists_elsewhere (parse_testIdsStatement sid) (by decide)

/-! ## Ids -/

/-- A number whose digits are those of a natural number. -/
theorem stoll_of_toDigits {number : Str} {magnitude : Nat} {value : Int}
    (starts : number.dropWhile isspace = number)
    (digits : unsigned number = Nat.toDigits 10 magnitude)
    (sign : (if number.head? = some '-' then -(magnitude : Int) else magnitude) = value)
    (low : -2 ^ 63 ≤ value) (high : value < 2 ^ 63) : stoll number = .ok value := by
  have all : (Nat.toDigits 10 magnitude).takeWhile Char.isDigit = Nat.toDigits 10 magnitude :=
    List.takeWhile_eq_self_iff.mpr fun letter member =>
      Nat.isDigit_of_mem_toDigits (by decide) (by decide) member
  unfold stoll
  simp only [starts, digits, all, Nat.toDigits_ne_nil, ↓reduceIte, Nat.ofDigitChars_ten_toDigits,
    sign]
  rw [if_pos ⟨low, high⟩]

/-- The text of a number of 64 bits converts to it. -/
theorem stoi_decimal {value : Int} (low : -2 ^ 63 ≤ value) (high : value < 2 ^ 63) :
    stoi (Json.decimal value) = .ok value := by
  unfold stoi Json.decimal
  split
  · next negative =>
      have digits : unsigned ('-' :: Nat.toDigits 10 value.natAbs) =
          Nat.toDigits 10 value.natAbs := rfl
      rw [if_neg (List.cons_ne_nil _ _)]
      refine stoll_of_toDigits rfl digits ?_ low high
      rw [List.head?_cons, if_pos rfl]
      omega
  · next nonneg =>
      obtain ⟨head, tail, spelled⟩ := List.exists_cons_of_ne_nil
        (Nat.toDigits_ne_nil (b := 10) (n := value.natAbs))
      have digit : head.isDigit = true := Nat.isDigit_of_mem_toDigits (by decide) (by decide)
        (spelled ▸ List.mem_cons_self)
      have space : isspace head = false := Sql.isSpace_of_isDigit digit
      have sign : head ≠ '-' ∧ head ≠ '+' := by
        constructor <;> rintro rfl <;> exact absurd digit (by decide)
      have starts : (Nat.toDigits 10 value.natAbs).dropWhile isspace =
          Nat.toDigits 10 value.natAbs := by
        rw [spelled, List.dropWhile_cons, space]
        rfl
      have digits : unsigned (Nat.toDigits 10 value.natAbs) = Nat.toDigits 10 value.natAbs := by
        rw [spelled, unsigned]
        · exact fun _ same => sign.1 (List.cons.inj same).1
        · exact fun _ same => sign.2 (List.cons.inj same).1
      rw [if_neg Nat.toDigits_ne_nil]
      refine stoll_of_toDigits starts digits ?_ low high
      have plain : ¬ some head = some '-' := fun same => sign.1 (Option.some.inj same)
      rw [spelled, List.head?_cons, if_neg plain]
      omega

/-- The text of an `int` converts to it. -/
theorem stoi_toString (id : Int32) : stoi (toString id) = .ok id.toInt := by
  have low := id.le_toInt
  have high := id.toInt_lt
  have large : (2 : Int) ^ 31 < 2 ^ 63 := by decide
  exact stoi_decimal (by omega) (by omega)

theorem toString_injective {id other : Int32} (same : toString id = toString other) :
    id = other := by
  have converted := stoi_toString id
  rw [same, stoi_toString other] at converted
  rw [← Int32.ofInt_toInt id, ← Int32.ofInt_toInt other, Except.ok.inj converted]

/-! ## What marking leaves alone -/

/-- Marking changes no id. -/
theorem marked_id (id : Int32) (text : Str) (row : Sql.Row) :
    marked id text row "id".toList = row "id".toList := by
  unfold marked
  split
  · rw [Function.update_of_ne (by decide), Function.update_of_ne (by decide)]
  · rfl

/-- A query for a solution finds the same rows after another one is marked. -/
theorem filter_marked {id other : Int32} (different : id ≠ other) (text : Str)
    (rows : List Sql.Row) :
    ((rows.map (marked other text)).filter fun row =>
      Sql.Equation.holds ⟨"id".toList, .integer id.toInt⟩ row) =
    rows.filter fun row => Sql.Equation.holds ⟨"id".toList, .integer id.toInt⟩ row := by
  induction rows with
  | nil => rfl
  | cons row rest inductionHypothesis =>
      have same : Sql.Equation.holds ⟨"id".toList, .integer id.toInt⟩ (marked other text row) =
          Sql.Equation.holds ⟨"id".toList, .integer id.toInt⟩ row := by
        unfold Sql.Equation.holds
        rw [marked_id]
      rw [List.map_cons, List.filter_cons, List.filter_cons, same, inductionHypothesis]
      split
      · next holds =>
          have own : row "id".toList = some (toString id) := of_decide_eq_true holds
          have foreign : ¬ row "id".toList = some (toString other) := by
            rw [own, Option.some.injEq]
            exact fun same => different (toString_injective same)
          rw [marked, if_neg foreign]
      · rfl

/-- The answers with which a solution is loaded are the same in both databases. -/
def Unaffected (unlimited : Sql.Order) (id : Int32) (left right : Sql.Database) : Prop :=
  ∀ query, Loads id query → ∀ limited limited',
    sqlAnswer limited unlimited query left = sqlAnswer limited' unlimited query right

theorem Unaffected.refl (unlimited : Sql.Order) (id : Int32) (database : Sql.Database) :
    Unaffected unlimited id database database := by
  intro query loads limited limited'
  obtain ⟨select, parsed, unlimitedSelect, _⟩ := parse_loads loads
  simp [sqlAnswer, parsed, unlimitedSelect]

theorem Unaffected.trans {unlimited : Sql.Order} {id : Int32} {left middle right : Sql.Database}
    (first : Unaffected unlimited id left middle) (second : Unaffected unlimited id middle right) :
    Unaffected unlimited id left right :=
  fun query loads limited limited' =>
    (first query loads limited limited).trans (second query loads limited limited')

/-- They are, when another solution is marked. -/
theorem unaffected_marking (unlimited : Sql.Order) {id other : Int32}
    (different : id ≠ other) (text : Str) (database : Sql.Database) :
    Unaffected unlimited id database (marking other text database) := by
  intro query loads limited limited'
  obtain ⟨select, parsed, unlimitedSelect, condition⟩ := parse_loads loads
  have executed : select.execute unlimited database =
      select.execute unlimited (marking other text database) := by
    by_cases solutions : select.table = "solutions".toList
    · unfold Sql.Select.execute marking
      rw [solutions, Function.update_self]
      cases database "solutions".toList with
      | none => rfl
      | some table =>
          simp only [Option.map_some, Option.bind_eq_bind, Option.bind_some, Sql.Select.found,
            unlimitedSelect, condition solutions, Option.all_some,
            filter_marked different text table.rows]
    · unfold Sql.Select.execute marking
      rw [Function.update_of_ne solutions]
  simp [sqlAnswer, parsed, unlimitedSelect, executed]

/-! ## Loading from the SQL server -/

/-- The result of a program that leaves its store as it is. -/
def settled {Store α : Type} : Except Thrown α → Store → EStateM.Result Thrown Store α
  | .ok value, store => .ok value store
  | .error reason, store => .error reason store

/-- On these databases, whatever the files are, the programs end in the same way and
change nothing. -/
def Steady (left right : Sql.Database) {α : Type}
    (program program' : Contest File Rest Sql.Database α) : Prop :=
  ∃ outcome : Except Thrown α,
    (∀ world, program.run ⟨world, left⟩ = settled outcome ⟨world, left⟩) ∧
    ∀ world, program'.run ⟨world, right⟩ = settled outcome ⟨world, right⟩

theorem Steady.sequential (left right : Sql.Database) :
    Program.Sequential fun {α} (program program' : Contest File Rest Sql.Database α) =>
      Steady left right program program' where
  pure value := ⟨.ok value, fun _ => rfl, fun _ => rfl⟩
  bind {α β first first' rest rest'} steady later := by
    obtain ⟨outcome, run, run'⟩ := steady
    cases outcome with
    | error reason =>
        refine ⟨.error reason, fun world => ?_, fun world => ?_⟩
        · rw [EStateM.run_bind, run world]
          rfl
        · rw [EStateM.run_bind, run' world]
          rfl
    | ok value =>
        obtain ⟨outcome, ran, ran'⟩ := later value
        refine ⟨outcome, fun world => ?_, fun world => ?_⟩
        · rw [EStateM.run_bind, run world]
          exact ran world
        · rw [EStateM.run_bind, run' world]
          exact ran' world

variable {machine : Machine File Rest} {system : Str → World File Rest → World File Rest}
  {limited limited' unlimited : Sql.Order}

/-- How `db::q` ends. -/
def answered {width : Nat} : Answer width → Except Thrown (List (Fin width → Str))
  | .failed message => .error (.exception message)
  | .unstored => .error .undefined
  | .rows rows => .ok (rows.map fun row index => fieldText (row index))

theorem run_q_sql (query : Query) (site : Site File Rest Sql.Database) :
    (q (sqlDeployment machine system limited unlimited) query).run site =
      settled (answered (sqlAnswer limited unlimited query site.database)) site := by
  unfold q
  rw [EStateM.run_bind, Program.run_call]
  simp only [sqlDeployment]
  cases sqlAnswer limited unlimited query site.database with
  | failed message => rfl
  | unstored => rfl
  | rows rows => rfl

theorem steady_q {left right : Sql.Database} {query : Query}
    (same : sqlAnswer limited unlimited query left = sqlAnswer limited' unlimited query right) :
    Steady left right (q (sqlDeployment machine system limited unlimited) query)
      (q (sqlDeployment machine system limited' unlimited) query) := by
  refine ⟨answered (sqlAnswer limited unlimited query left), fun world => run_q_sql _ _,
    fun world => ?_⟩
  rw [same]
  exact run_q_sql _ _

theorem steady_ofExcept {left right : Sql.Database} {α : Type} (value : Except Thrown α) :
    Steady left right (ofExcept value : Contest File Rest Sql.Database α) (ofExcept value) := by
  cases value with
  | ok value => exact ⟨.ok value, fun _ => rfl, fun _ => rfl⟩
  | error reason => exact ⟨.error reason, fun _ => rfl, fun _ => rfl⟩

/-- A solution is loaded alike from databases that answer alike. -/
theorem loadingRule_steady {left right : Sql.Database} {id : Int32}
    (unaffected : Unaffected unlimited id left right) :
    LoadingRule (sqlDeployment machine system limited unlimited)
      (sqlDeployment machine system limited' unlimited) id (Steady left right) where
  sequential := Steady.sequential left right
  ids loads := (Steady.sequential left right).bind (steady_q (unaffected _ loads _ _)) fun r =>
    (Steady.sequential left right).mapM (fun _ =>
      (Steady.sequential left right).bind (steady_ofExcept _) fun _ =>
        (Steady.sequential left right).pure _) r
  record loads := by
    refine (Steady.sequential left right).bind (steady_q (unaffected _ loads _ _)) fun r => ?_
    cases r with
    | nil => exact ⟨.error _, fun _ => rfl, fun _ => rfl⟩
    | cons row rest =>
        exact (Steady.sequential left right).bind (steady_ofExcept _) fun _ =>
          (Steady.sequential left right).pure _

/-- What loading the solution of an id comes to. -/
def loaded (machine : Machine File Rest) (system : Str → World File Rest → World File Rest)
    (unlimited : Sql.Order) (site : Site File Rest Sql.Database) (id : Int32) :
    Except Thrown Solution :=
  Program.outcome (Solution.new (sqlDeployment machine system .stored unlimited) id) site

theorem outcome_of_settled {Store α : Type} {program : Program Thrown Store α} {store : Store}
    {outcome : Except Thrown α} (ran : program.run store = settled outcome store) :
    Program.outcome program store = outcome := by
  unfold Program.outcome
  rw [ran]
  cases outcome with
  | ok value => rfl
  | error reason => rfl

/-- It is the same for every order, with other files, and as long as the database
answers alike; and it changes nothing. -/
theorem run_new {site : Site File Rest Sql.Database} {database : Sql.Database} {id : Int32}
    (unaffected : Unaffected unlimited id site.database database) (world : World File Rest) :
    (Solution.new (sqlDeployment machine system limited unlimited) id).run ⟨world, database⟩ =
      settled (loaded machine system unlimited site id) ⟨world, database⟩ := by
  have steady : Steady site.database database
      (Solution.new (sqlDeployment machine system .stored unlimited) id)
      (Solution.new (sqlDeployment machine system limited unlimited) id) :=
    (loadingRule_steady unaffected).solution
  obtain ⟨outcome, ran, ran'⟩ := steady
  have same : loaded machine system unlimited site id = outcome :=
    outcome_of_settled (ran site.world)
  rw [same]
  exact ran' world

/-- Converted fields are converted one by one. -/
theorem stoi_of_stois {count : Nat} {fields : Fin count → Str} {values : Fin count → Int}
    (converted : stois fields = .ok values) (index : Fin count) :
    stoi (fields index) = .ok (values index) := by
  induction count with
  | zero => exact index.elim0
  | succ count inductionHypothesis =>
      simp only [stois, bind, Except.bind] at converted
      split at converted
      · cases converted
      · next first same =>
          split at converted
          · cases converted
          · next rest others =>
              cases converted
              cases index using Fin.cases with
              | zero => exact same
              | succ index => exact inductionHypothesis others index

theorem fieldText_toString (id : Int32) : fieldText (some (toString id)) = toString id :=
  cString_of_plain (nul_not_mem_toString id)

/-- A row that is found for a solution begins with the id. -/
theorem head_of_answer {id : Int32} {database : Sql.Database}
    {row : Fin 11 → Option Str} {rest : List (Fin 11 → Option Str)}
    (found : sqlAnswer limited unlimited (.record (solutionStatement id) 7 4) database =
      .rows (row :: rest)) : row 0 = some (toString id) := by
  simp only [sqlAnswer, Query.sql, parse_solutionStatement] at found
  split at found
  · next cells executed =>
      simp only [Sql.Select.execute, Option.bind_eq_bind, Option.bind_eq_some_iff] at executed
      obtain ⟨table, _, executed⟩ := executed
      split at executed
      · cases executed
        have listed := List.mem_of_mem_head? (congrArg List.head? (Answer.rows.inj found))
        simp only [List.mem_map] at listed
        obtain ⟨_, ⟨stored, member, rfl⟩, same⟩ := listed
        have among := (unlimited.perm _).mem_iff.mp member
        have holds := (List.mem_filter.mp among).2
        rw [← same]
        exact of_decide_eq_true holds
      · cases executed
  · cases found

/-- A solution that is loaded has the id that was asked for. -/
theorem id_of_loaded {site : Site File Rest Sql.Database} {id : Int32} {solution : Solution}
    (loads : loaded machine system unlimited site id = .ok solution) : solution.id = id := by
  obtain ⟨after, returned⟩ := Program.outcome_eq_ok_iff.mp loads
  simp only [Solution.new, loadRecord, Program.returns_bind_iff] at returned
  obtain ⟨⟨numbers, texts⟩, _, ⟨rows, _, asked, first⟩, pt, _, _, pl, _, _, tis, _, _, _, _, _,
    made⟩ := returned
  have own : solution.id = Int32.ofInt (numbers 0) := by
    rw [Program.returns_pure_iff] at made
    rw [made.1]
  unfold Program.Returns at asked
  rw [run_q_sql] at asked
  cases answer : sqlAnswer .stored unlimited (.record (solutionStatement id) 7 4) site.database with
  | failed message =>
      rw [answer] at asked
      cases asked
  | unstored =>
      rw [answer] at asked
      cases asked
  | rows cells =>
      rw [answer] at asked
      cases asked
      cases cells with
      | nil => exact absurd first Program.not_returns_stop
      | cons row rest =>
          simp only [List.map_cons, Program.returns_bind_iff] at first
          obtain ⟨values, _, converted, done⟩ := first
          have numeric := stoi_of_stois (returns_ofExcept_iff.mp converted).1 0
          have head : row 0 = some (toString id) := head_of_answer answer
          change stoi (fieldText (row 0)) = .ok (values 0) at numeric
          rw [head, fieldText_toString, stoi_toString] at numeric
          rw [own, (Prod.mk.inj (Program.returns_pure_iff.mp done).1).1, ← Except.ok.inj numeric,
            Int32.ofInt_toInt]

end CheckerOlimp.Contester
