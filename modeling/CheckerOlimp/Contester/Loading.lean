import CheckerOlimp.Contester.Data
import CheckerOlimp.Std.Recovery
import Mathlib.Data.Fin.Tuple.Basic

/-!
# Loading a solution, and the contester's loop

A solution is loaded by a constructor that loads its task, language and tests by
constructors of their own. Each reads one row, converts its numeric columns and then
goes on to the next tables. The contester polls for unchecked solutions and judges
one after another; what is thrown for one of them is caught when it is an
`exception`.
-/

namespace CheckerOlimp.Contester

open CheckerOlimp.Std CheckerOlimp.CheckerRc

/-! ## Numbers -/

/-- `isspace`. -/
def isspace (letter : Char) : Bool := letter = ' ' || ('\t' ≤ letter && letter ≤ '\r')

/-- A number without its sign. -/
def unsigned : Str → Str
  | '-' :: rest => rest
  | '+' :: rest => rest
  | text => text

/-- `std::stoll`: what follows the digits is ignored. -/
def stoll (str : Str) : Except Thrown Int :=
  let number := str.dropWhile isspace
  let digits := (unsigned number).takeWhile Char.isDigit
  if digits = [] then .error .invalidArgument
  else
    let magnitude : Int := Nat.ofDigitChars 10 digits 0
    let value := if number.head? = some '-' then -magnitude else magnitude
    if -2 ^ 63 ≤ value ∧ value < 2 ^ 63 then .ok value else .error .outOfRange

/-- `db::stoi`. -/
def stoi (str : Str) : Except Thrown Int := if str = [] then .ok 0 else stoll str

/-- `db::stoi` of some fields, one after another. -/
def stois : {count : Nat} → (Fin count → Str) → Except Thrown (Fin count → Int)
  | 0, _ => .ok Fin.elim0
  | _ + 1, fields => do
    let first ← stoi (fields 0)
    let rest ← stois fun index => fields index.succ
    pure (Fin.cons first rest)

/-- A thrown exception ends the program. -/
def ofExcept {Store α : Type} : Except Thrown α → Program Thrown Store α
  | .ok value => pure value
  | .error reason => Program.stop reason

theorem returns_ofExcept_iff {Store α : Type} {value : Except Thrown α} {before after : Store}
    {result : α} :
    Program.Returns (ofExcept value) before result after ↔
      value = .ok result ∧ after = before := by
  cases value with
  | ok found => simp [ofExcept, eq_comm]
  | error reason => simp [ofExcept]

/-! ## Queries -/

variable {File Rest Database : Type}

/-- The `std::string` made from a field: NULL gives an empty one. -/
def fieldText (field : Option Str) : Str := cString (field.getD [])

/-- `db::q`. Without a result, `mysql_num_fields` is called on a null pointer. -/
def q (deployment : Deployment File Rest Database) (query : Query) :
    Contest File Rest Database (List (Fin query.width → Str)) := do
  let answer ← Program.call fun site =>
    ((deployment.select query site.database).1,
      { site with database := (deployment.select query site.database).2 })
  match answer with
  | .failed message => Program.stop (.exception message)
  | .unstored => Program.stop .undefined
  | .rows rows => pure (rows.map fun row index => fieldText (row index))

/-- The body of all functions that list ids. -/
def getIds (deployment : Deployment File Rest Database) (sql : Str) :
    Contest File Rest Database (List Int32) := do
  let r ← q deployment (.ids sql)
  r.mapM fun row => do pure (Int32.ofInt (← ofExcept (stoi (row 0))))

/-- The beginning of all constructors that load a row: its numeric columns, converted,
and its text columns. -/
def loadRecord (deployment : Deployment File Rest Database) (sql missing : Str)
    (numbers texts : Nat) :
    Contest File Rest Database ((Fin numbers → Int) × (Fin texts → Str)) := do
  let r ← q deployment (.record sql numbers texts)
  match r with
  | [] => Program.stop (.exception missing)
  | row :: _ => do
    let values ← ofExcept (stois fun index => row (Fin.castAdd texts index))
    pure (values, fun index => row (Fin.natAdd numbers index))

/-- The text of the exception for a missing row. -/
def notExist (kind : String) (id : Int32) : Str :=
  kind.toList ++ " #".toList ++ toString id ++ " not exist".toList

/-! ## Statements -/

def langStatement (id : Int32) : Str :=
  "SELECT id, name, compiler, extension, identifier FROM langs WHERE id = ".toList ++ toString id

def testStatement (id : Int32) : Str :=
  "SELECT id, sid, num, res, cid FROM tests WHERE id = ".toList ++ toString id

def testIdsStatement (sid : Int32) : Str :=
  "select id from tests where sid = ".toList ++ toString sid

def chTestStatement (id : Int32) : Str :=
  "SELECT id, gid, scores, input, output FROM checkertests WHERE id = ".toList ++ toString id

def chTestIdsStatement (gid : Int32) : Str :=
  "select id from checkertests where gid = ".toList ++ toString gid

def chGroupStatement (id : Int32) : Str :=
  "SELECT id, tid, method, scores, name FROM checkergroups WHERE id = ".toList ++ toString id

def chGroupIdsStatement (sid : Int32) : Str :=
  "select id from checkergroups where tid = ".toList ++ toString sid

def taskStatement (id : Int32) : Str :=
  "SELECT id, cid, time_limit, memory_limit, title, content, input, output, checker ".toList ++
    "FROM tasks WHERE id = ".toList ++ toString id

def solutionStatement (id : Int32) : Str :=
  "SELECT id, uid, tid, lid, created_at, status, score, code, file, hash, result ".toList ++
    "FROM solutions WHERE id = ".toList ++ toString id

/-! ## Constructors -/

/-- `lang::lang`. -/
def Lang.new (deployment : Deployment File Rest Database) (id : Int32) :
    Contest File Rest Database Lang := do
  let (_, texts) ← loadRecord deployment (langStatement id) (notExist "lang" id) 1 4
  pure ⟨texts 3⟩

/-- `test`: its `id`, `sid`, `num`, `res` and `cid`. -/
structure Test where
  numbers : Fin 5 → Int32

/-- `test::test`. -/
def Test.new (deployment : Deployment File Rest Database) (id : Int32) :
    Contest File Rest Database Test := do
  let (numbers, _) ← loadRecord deployment (testStatement id) (notExist "test" id) 5 0
  pure ⟨fun index => .ofInt (numbers index)⟩

/-- `test::get_ids`. -/
def Test.getIds (deployment : Deployment File Rest Database) (sid : Int32) :
    Contest File Rest Database (List Int32) :=
  Contester.getIds deployment (testIdsStatement sid)

/-- `ch_test::ch_test`. A missing test is reported as a missing group. -/
def ChTest.new (deployment : Deployment File Rest Database) (id : Int32) :
    Contest File Rest Database ChTest := do
  let (numbers, texts) ← loadRecord deployment (chTestStatement id)
    (notExist "checker group" id) 3 2
  pure ⟨.ofInt (numbers 0), .ofInt (numbers 2), texts 0, texts 1⟩

/-- `ch_test::get_ids`. -/
def ChTest.getIds (deployment : Deployment File Rest Database) (gid : Int32) :
    Contest File Rest Database (List Int32) :=
  Contester.getIds deployment (chTestIdsStatement gid)

/-- `ch_group::ch_group`. -/
def ChGroup.new (deployment : Deployment File Rest Database) (id : Int32) :
    Contest File Rest Database ChGroup := do
  let _ ← loadRecord deployment (chGroupStatement id) (notExist "checker group" id) 4 1
  let inds ← ChTest.getIds deployment id
  let chts ← inds.mapM (ChTest.new deployment)
  pure ⟨chts⟩

/-- `ch_group::get_ids`. -/
def ChGroup.getIds (deployment : Deployment File Rest Database) (sid : Int32) :
    Contest File Rest Database (List Int32) :=
  Contester.getIds deployment (chGroupIdsStatement sid)

/-- The five text columns of a task are numbered from 0. -/
local instance textColumns : NeZero 5 := ⟨by decide⟩

/-- `task::task`. The limits are converted to 64 unsigned bits. -/
def Task.new (deployment : Deployment File Rest Database) (id : Int32) :
    Contest File Rest Database Task := do
  let (numbers, texts) ← loadRecord deployment (taskStatement id) (notExist "task" id) 4 5
  let inds ← ChGroup.getIds deployment id
  let chgs ← inds.mapM (ChGroup.new deployment)
  pure {
    chgs
    cid := .ofInt (numbers 1)
    timeLimit := .ofInt (numbers 2)
    memoryLimit := .ofInt (numbers 3)
    title := texts 0
    input := texts 2
    output := texts 3
    checker := texts 4 }

/-- `solution::solution`. Its tests are loaded and not used. -/
def Solution.new (deployment : Deployment File Rest Database) (id : Int32) :
    Contest File Rest Database Solution := do
  let (numbers, texts) ← loadRecord deployment (solutionStatement id) (notExist "solution" id) 7 4
  let tid := Int32.ofInt (numbers 2)
  let lid := Int32.ofInt (numbers 3)
  let pt ← Task.new deployment tid
  let pl ← Lang.new deployment lid
  let tis ← Test.getIds deployment id
  let _ ← tis.mapM (Test.new deployment)
  pure ⟨pt, pl, .ofInt (numbers 0), tid, texts 0, texts 3⟩

/-! ## A rule for loading -/

section Rule

/-- The queries with which the solution of an id is loaded. -/
inductive Loads (id : Int32) : Query → Prop
  | solution : Loads id (.record (solutionStatement id) 7 4)
  | task (tid : Int32) : Loads id (.record (taskStatement tid) 4 5)
  | lang (lid : Int32) : Loads id (.record (langStatement lid) 1 4)
  | chGroup (gid : Int32) : Loads id (.record (chGroupStatement gid) 4 1)
  | chTest (cid : Int32) : Loads id (.record (chTestStatement cid) 3 2)
  | test (tid : Int32) : Loads id (.record (testStatement tid) 5 0)
  | chGroupIds (tid : Int32) : Loads id (.ids (chGroupIdsStatement tid))
  | chTestIds (gid : Int32) : Loads id (.ids (chTestIdsStatement gid))
  | testIds (sid : Int32) : Loads id (.ids (testIdsStatement sid))

variable {Other : Type}

/-- A relation between programs on two deployments that is kept by sequences and holds
of the queries with which a solution is loaded. -/
structure LoadingRule (left : Deployment File Rest Database) (right : Deployment File Rest Other)
    (id : Int32)
    (Related : ∀ {α : Type}, Contest File Rest Database α → Contest File Rest Other α → Prop) :
    Prop where
  sequential : Program.Sequential Related
  ids : ∀ {sql : Str}, Loads id (.ids sql) → Related (getIds left sql) (getIds right sql)
  record : ∀ {sql missing : Str} {numbers texts : Nat}, Loads id (.record sql numbers texts) →
    Related (loadRecord left sql missing numbers texts) (loadRecord right sql missing numbers texts)

variable {left : Deployment File Rest Database} {right : Deployment File Rest Other} {id : Int32}
  {Related : ∀ {α : Type}, Contest File Rest Database α → Contest File Rest Other α → Prop}

namespace LoadingRule

theorem lang (rule : LoadingRule left right id Related) (lid : Int32) :
    Related (Lang.new left lid) (Lang.new right lid) :=
  rule.sequential.bind (rule.record (.lang lid)) fun (_, _) => rule.sequential.pure _

theorem test (rule : LoadingRule left right id Related) (tid : Int32) :
    Related (Test.new left tid) (Test.new right tid) :=
  rule.sequential.bind (rule.record (.test tid)) fun (_, _) => rule.sequential.pure _

theorem chTest (rule : LoadingRule left right id Related) (cid : Int32) :
    Related (ChTest.new left cid) (ChTest.new right cid) :=
  rule.sequential.bind (rule.record (.chTest cid)) fun (_, _) => rule.sequential.pure _

theorem chGroup (rule : LoadingRule left right id Related) (gid : Int32) :
    Related (ChGroup.new left gid) (ChGroup.new right gid) := by
  refine rule.sequential.bind (rule.record (.chGroup gid)) fun _ => ?_
  refine rule.sequential.bind (rule.ids (.chTestIds gid)) fun inds => ?_
  exact rule.sequential.bind (rule.sequential.mapM rule.chTest inds) fun chts =>
    rule.sequential.pure _

theorem task (rule : LoadingRule left right id Related) (tid : Int32) :
    Related (Task.new left tid) (Task.new right tid) := by
  refine rule.sequential.bind (rule.record (.task tid)) fun (numbers, texts) => ?_
  refine rule.sequential.bind (rule.ids (.chGroupIds tid)) fun inds => ?_
  exact rule.sequential.bind (rule.sequential.mapM rule.chGroup inds) fun chgs =>
    rule.sequential.pure _

/-- The relation holds of loading the solution. -/
theorem solution (rule : LoadingRule left right id Related) :
    Related (Solution.new left id) (Solution.new right id) := by
  refine rule.sequential.bind (rule.record .solution) fun (numbers, texts) => ?_
  refine rule.sequential.bind (rule.task _) fun pt => ?_
  refine rule.sequential.bind (rule.lang _) fun pl => ?_
  refine rule.sequential.bind (rule.ids (.testIds id)) fun tis => ?_
  exact rule.sequential.bind (rule.sequential.mapM rule.test tis) fun _ => rule.sequential.pure _

end LoadingRule

end Rule

/-! ## The loop of `main` -/

/-- `solution::STATUS_NOT_CHECKED`. -/
def statusNotChecked : Int32 := 0

/-- The statement of `solution::get_not_checked_ids`. -/
def pollStatement : Str :=
  "select id from solutions where status = ".toList ++ toString statusNotChecked ++
    " limit 10".toList

/-- `solution::get_not_checked_ids`. -/
def Solution.getNotCheckedIds (deployment : Deployment File Rest Database) :
    Contest File Rest Database (List Int32) :=
  Contester.getIds deployment pollStatement

variable [DecidableEq File]

/-- The `try` block: a solution is loaded and judged. -/
def judge (deployment : Deployment File Rest Database) (settings : Settings) (id : Int32) :
    Contest File Rest Database Unit := do
  let ps ← Solution.new deployment id
  let ch := Checker.new settings ps "solution".toList "solution.json".toList "result.json".toList
  ch.run deployment.toHost settings

/-- `catch (exception e)`: the message. Other exceptions are not caught. -/
def caught : Thrown → Option Str
  | .exception message => some message
  | _ => none

/-- The `try` block with its handler: the message that is printed, if any. -/
def attempt (deployment : Deployment File Rest Database) (settings : Settings) (id : Int32) :
    Contest File Rest Database (Option Str) :=
  Program.recover (judge deployment settings id >>= fun _ => pure none)
    fun reason => (caught reason).map some

/-- One turn of the `while` loop: what becomes of each solution of the batch. -/
def cycle (deployment : Deployment File Rest Database) (settings : Settings) :
    Contest File Rest Database (List (Option Str)) := do
  let ind ← Solution.getNotCheckedIds deployment
  ind.mapM (attempt deployment settings)

/-- So many turns of the `while` loop. -/
def cycles (deployment : Deployment File Rest Database) (settings : Settings) :
    Nat → Contest File Rest Database Unit
  | 0 => pure ()
  | count + 1 => do
    let _ ← cycle deployment settings
    cycles deployment settings count

end CheckerOlimp.Contester
