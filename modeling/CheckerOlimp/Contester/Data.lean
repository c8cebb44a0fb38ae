import CheckerOlimp.CheckerRc.Checker
import CheckerOlimp.Platform.Host

/-!
# A solution and its judging by the contester

A solution is loaded with its task and language, written out as a source file
and a configuration for the judge, judged by a process, and marked in the
database with the text that the process left.
-/

namespace CheckerOlimp.Contester

open CheckerOlimp.Std CheckerOlimp.CheckerRc

/-- `checker::clng`: the source extension and the compile command of a language. -/
structure Clng where
  ext : Str
  cmd : Str
deriving DecidableEq, Repr

/-- The static members of `checker`. -/
structure Settings where
  chBin : Str
  testsDir : Str
  clngs : List (Str × Clng)
deriving DecidableEq, Repr

/-- `clngs[identifier]`: a missing language is an empty one. -/
def Settings.clng (self : Settings) (identifier : Str) : Clng :=
  (self.clngs.lookup identifier).getD ⟨[], []⟩

/-- `lang`. -/
structure Lang where
  identifier : Str
deriving DecidableEq, Repr

/-- `ch_test`. -/
structure ChTest where
  id : Int32
  scores : Int32
  input : Str
  output : Str
deriving DecidableEq, Repr

/-- `ch_group`. -/
structure ChGroup where
  chts : List ChTest
deriving DecidableEq, Repr

/-- `task`. -/
structure Task where
  chgs : List ChGroup
  cid : Int32
  timeLimit : UInt64
  memoryLimit : UInt64
  title : Str
  input : Str
  output : Str
  checker : Str
deriving DecidableEq, Repr

/-- `solution`. -/
structure Solution where
  pt : Task
  pl : Lang
  id : Int32
  tid : Int32
  code : Str
  result : Str
deriving DecidableEq, Repr

/-- `std::to_string` of an `int`. -/
def toString (value : Int32) : Str := Json.decimal value.toInt

/-- `solution::get_src_ext`. -/
def Solution.getSrcExt (settings : Settings) (self : Solution) : Str :=
  (settings.clng self.pl.identifier).ext

/-- `solution::get_tests_dir`. -/
def Solution.getTestsDir (settings : Settings) (self : Solution) : Str :=
  settings.testsDir ++ toString self.pt.cid ++ ['\\'] ++ toString self.tid

/-! ## The configuration for the judge -/

/-- `writer.String` of a `std::string` passed as a C string. -/
def stringEvent (value : Str) : Json.Event := .string (cString value)

/-- The writer calls for one test. The `int` id is converted to 64 unsigned bits. -/
def ChTest.events (self : ChTest) : List Json.Event :=
  [.startObject,
    .string "id".toList, .number (UInt64.ofInt self.id.toInt).toNat,
    .string "scores".toList, .number self.scores.toInt,
    .string "input".toList, stringEvent self.input,
    .string "outputs".toList, .startArray, stringEvent self.output, .endArray,
    .endObject]

/-- The writer calls of `solution::create_cfg_json`. -/
def Solution.events (settings : Settings) (self : Solution) : List Json.Event :=
  [.startObject,
    .string "problem".toList, .startObject,
      .string "name".toList, stringEvent self.pt.title,
      .string "config".toList, .startObject,
        .string "time_limit".toList, .number self.pt.timeLimit.toNat,
        .string "memory_limit".toList, .number self.pt.memoryLimit.toNat,
        .string "input".toList, stringEvent self.pt.input,
        .string "output".toList, stringEvent self.pt.output,
        .string "test_dir".toList, stringEvent (self.getTestsDir settings),
        .string "checker".toList, stringEvent self.pt.checker,
        .string "tests".toList, .startArray] ++
  self.pt.chgs.flatMap (fun group => group.chts.flatMap ChTest.events) ++
        [.endArray,
      .endObject,
    .endObject,
    .string "language".toList, .startObject,
      .string "name".toList, stringEvent self.pl.identifier,
      .string "template".toList, stringEvent (settings.clng self.pl.identifier).cmd,
    .endObject,
  .endObject]

/-- The text that `solution::create_cfg_json` writes. -/
def Solution.cfgJson (settings : Settings) (self : Solution) : Str :=
  cString (Json.Writer.run (self.events settings))

/-! ## Judging -/

variable {File Rest Database : Type} [DecidableEq File]

/-- `solution::create_src`. -/
def Solution.createSrc (host : Host File Rest Database) (self : Solution) (name : Str) :
    Contest File Rest Database Str := do
  Contest.onFiles fun world => ((), host.machine.writeBinary name (cString self.code) world)
  pure name

/-- `solution::create_cfg_json`. -/
def Solution.createCfgJson (host : Host File Rest Database) (settings : Settings)
    (self : Solution) (name : Str) : Contest File Rest Database Str := do
  Contest.onFiles fun world =>
    ((), host.machine.writeBinary name (self.cfgJson settings) world)
  pure name

/-- `db::exec`: the statement ends at its first NUL. -/
def dbExec (host : Host File Rest Database) (sql : Str) : Contest File Rest Database Unit := do
  let outcome ← Program.call fun site =>
    match host.server.query (cString sql) site.database with
    | .ok database => (Except.ok (), { site with database })
    | .error message => (Except.error message, site)
  match outcome with
  | .ok () => pure ()
  | .error message => Program.stop (.exception message)

/-- The statement of `solution::save_result_to_db`. -/
def updateStatement (result : Str) (id : Int32) : Str :=
  "UPDATE solutions SET result = '".toList ++ result ++ "', status = 1 WHERE id = ".toList ++
    toString id

/-- `solution::save_result_to_db`. -/
def Solution.saveResultToDb (host : Host File Rest Database) (self : Solution) :
    Contest File Rest Database Unit :=
  dbExec host (updateStatement self.result self.id)

/-- `checker`: a solution and the names of its three files. -/
structure Checker where
  sol : Solution
  src : Str
  cfg : Str
  res : Str
deriving DecidableEq, Repr

/-- The constructor of `checker`. -/
def Checker.new (settings : Settings) (sol : Solution) (srcName cfgName resName : Str) : Checker :=
  ⟨sol, srcName ++ sol.getSrcExt settings, cfgName, resName⟩

/-- The command line of `checker::run`. -/
def Checker.command (settings : Settings) (self : Checker) : Str :=
  settings.chBin ++ " ".toList ++ self.cfg ++ " . ".toList ++ self.src ++ " ".toList ++ self.res

/-- `checker::run`. A result file that does not open reads as an empty one. -/
def Checker.run (host : Host File Rest Database) (settings : Settings) (self : Checker) :
    Contest File Rest Database Unit := do
  let srcName ← self.sol.createSrc host self.src
  let cfgName ← self.sol.createCfgJson host settings self.cfg
  Contest.onFiles fun world => ((), host.system (self.command settings) world)
  Contest.onFiles fun world => ((), host.machine.windows.remove srcName world)
  Contest.onFiles fun world => ((), host.machine.windows.remove cfgName world)
  let file ← Contest.onFiles (host.machine.windows.ifstream self.res)
  let sol := { self.sol with result := file.getD [] }
  Contest.onFiles fun world => ((), host.machine.windows.remove self.res world)
  sol.saveResultToDb host

end CheckerOlimp.Contester
