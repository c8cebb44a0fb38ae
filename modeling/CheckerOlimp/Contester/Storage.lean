import CheckerOlimp.Contester.ConfigRoundTrip
import CheckerOlimp.Judging.Build

/-!
# What the contester marks as checked

The contester starts the judge, reads whatever file then stands at the name of the
result and marks the solution with its text. `Judged` lists the ends of the judge's
process; the row is marked by a verdict exactly when that process has written one,
or the server leaves the row alone.
-/

namespace CheckerOlimp.Contester

open CheckerOlimp.Std CheckerOlimp.CheckerRc

/-! ## The row of a solution -/

/-- The columns of a solution that judging writes. -/
structure Row where
  status : Int32
  result : Str
deriving DecidableEq, Repr

/-- The text that `main` writes for a verdict. -/
def verdictText (v : Verdict) : Str := serizlize v ++ ['\n']

/-- The server executes an update whose literal needs no escapes: when it succeeds,
the row of the solution has the new columns. -/
structure UpdatesRow {Database : Type} (server : Server Database)
    (row : Database → Int32 → Option Row) : Prop where
  update : ∀ {text id database database'}, (∀ letter ∈ text, SqlPlain letter) →
    server.query (updateStatement text id) database = .ok database' →
    row database' id = (row database id).map fun _ => ⟨1, text⟩

/-- A statement with a text without NUL has none. -/
theorem cString_updateStatement_of_nul {text : Str} (printable : '\x00' ∉ text) (id : Int32) :
    cString (updateStatement text id) = updateStatement text id := by
  apply cString_of_plain
  have opening : '\x00' ∉ "UPDATE solutions SET result = '".toList := by decide
  have closing : '\x00' ∉ "', status = 1 WHERE id = ".toList := by decide
  unfold updateStatement
  intro member
  rcases List.mem_append.mp member with inside | inside
  · rcases List.mem_append.mp inside with inside | inside
    · rcases List.mem_append.mp inside with inside | inside
      · exact opening inside
      · exact printable inside
    · exact closing inside
  · exact nul_not_mem_toString id inside

/-- A statement with a plain literal has no NUL. -/
theorem cString_updateStatement {text : Str} {id : Int32}
    (plain : ∀ letter ∈ text, SqlPlain letter) :
    cString (updateStatement text id) = updateStatement text id :=
  cString_updateStatement_of_nul (fun member => absurd rfl (plain '\x00' member).2.2) id

theorem sqlPlain_verdictText {v : Verdict} (known : v.Known) :
    ∀ letter ∈ verdictText v, SqlPlain letter := by
  intro letter member
  rcases List.mem_append.mp member with inside | last
  · exact sqlPlain_serizlize known letter inside
  · rw [List.mem_singleton.mp last]
    decide

/-- The file of a verdict reads as the text of the verdict. -/
theorem textRead_verdictText (v : Verdict) :
    textRead (textWrite (verdictText v)) = verdictText v := by
  apply textRead_textWrite
  intro letter member
  rcases List.mem_append.mp member with inside | last
  · rw [serizlize_eq] at inside
    exact streamable_of_mem_text v.json letter inside
  · rw [List.mem_singleton.mp last]
    decide

/-! ## The judge's process -/

section Process

variable {File Rest : Type} [DecidableEq File]

/-- The words of the command line of `checker::run`. -/
def Checker.arguments (settings : Settings) (self : Checker) : List Str :=
  [settings.chBin, self.cfg, ".".toList, self.src, self.res]

/-- The files when the process is started. -/
def Checker.staged (machine : Machine File Rest) (settings : Settings) (self : Checker)
    (world : World File Rest) : World File Rest :=
  machine.writeBinary self.cfg (self.sol.cfgJson settings)
    (machine.writeBinary self.src (cString self.sol.code) world)

/-- The ends of the judge's process: the verdict it has written, if any, and the
files it leaves. -/
inductive Judged (machine : Machine File Rest) (parse : Str → Option Json) (settings : Settings)
    (self : Checker) (before : World File Rest) : Option Verdict → World File Rest → Prop
  /-- A normal end with the result file open. -/
  | wrote {config profile verdict middle after}
      (fullConfig : machine.fullPathName self.cfg = some config)
      (fullProfile : machine.fullPathName ".".toList = some profile)
      (checked : Program.Returns (check machine.windows parse config profile self.src) before
        verdict middle)
      (opened : machine.creatable (machine.fileOf self.res) = true)
      (returned : Program.Returns (main machine.windows parse (self.arguments settings)) before 0
        after) :
      Judged machine parse settings self before (some verdict) after
  /-- A normal end without a result file. -/
  | unopened {after} (closed : machine.creatable (machine.fileOf self.res) = false)
      (returned : Program.Returns (main machine.windows parse (self.arguments settings)) before 0
        after) :
      Judged machine parse settings self before none after
  /-- `exit(1)` from a failed assertion. -/
  | aborted {after}
      (stopped : Program.Stops (main machine.windows parse (self.arguments settings)) before
        .assertion after) :
      Judged machine parse settings self before none after
  /-- Undefined behaviour, after which the files may be anything. -/
  | crashed {left after}
      (stopped : Program.Stops (main machine.windows parse (self.arguments settings)) before
        .undefined left) :
      Judged machine parse settings self before none after
  | notStarted : Judged machine parse settings self before none before

/-- What `main` does when it returns. -/
theorem returns_main_iff {machine : Machine File Rest} {parse : Str → Option Json}
    {bin config profile sourceName resultName : Str} {status : Dword}
    {before after : World File Rest} :
    Program.Returns (main machine.windows parse [bin, config, profile, sourceName, resultName])
        before status after ↔
      status = 0 ∧ ∃ fullConfig fullProfile verdict middle,
        machine.fullPathName config = some fullConfig ∧
        machine.fullPathName profile = some fullProfile ∧
        Program.Returns (check machine.windows parse fullConfig fullProfile sourceName) before
          verdict middle ∧
        after = (machine.windows.ofstream resultName (verdictText verdict) middle).2 := by
  simp only [main, getFullPathName, Program.returns_bind_iff, Program.returns_call_iff,
    Program.returns_ofOption_iff, Program.returns_pure_iff, Machine.windows_getFullPathName,
    Prod.mk.injEq]
  constructor
  · rintro ⟨fullConfig, _, ⟨_, _, ⟨rfl, rfl⟩, foundConfig, rfl⟩, fullProfile, _,
      ⟨_, _, ⟨rfl, rfl⟩, foundProfile, rfl⟩, verdict, middle, checked, _, _, written, rfl, rfl⟩
    exact ⟨rfl, fullConfig, fullProfile, verdict, middle, foundConfig, foundProfile, checked,
      (congrArg Prod.snd written).symm⟩
  · rintro ⟨rfl, fullConfig, fullProfile, verdict, middle, foundConfig, foundProfile, checked, rfl⟩
    exact ⟨fullConfig, _, ⟨_, _, ⟨rfl, rfl⟩, foundConfig, rfl⟩, fullProfile, _,
      ⟨_, _, ⟨rfl, rfl⟩, foundProfile, rfl⟩, verdict, middle, checked, _, _, rfl, rfl, rfl⟩

/-- A written verdict stands in the result file, and is made of the judge's words. -/
theorem Judged.file {machine : Machine File Rest} {parse : Str → Option Json}
    {settings : Settings} {self : Checker} {before after : World File Rest} {verdict : Verdict}
    (judged : Judged machine parse settings self before (some verdict) after) :
    verdict.Known ∧
      after.files (machine.fileOf self.res) = some (textWrite (verdictText verdict)) := by
  cases judged with
  | wrote fullConfig fullProfile checked opened returned =>
      obtain ⟨_, config, profile, other, middle, foundConfig, foundProfile, checked', rfl⟩ :=
        returns_main_iff.mp returned
      cases fullConfig.symm.trans foundConfig
      cases fullProfile.symm.trans foundProfile
      obtain ⟨rfl, rfl⟩ := checked.unique checked'
      refine ⟨check_known checked, ?_⟩
      simp [Machine.windows_ofstream, opened]

/-- The text that `checker::run` finds at the name of the result, once the source and
the configuration are removed. -/
def Checker.leftover (machine : Machine File Rest) (self : Checker) (world : World File Rest) :
    Str :=
  ((((world.put (machine.fileOf self.src) none).put (machine.fileOf self.cfg) none).files
    (machine.fileOf self.res)).map textRead).getD []

/-- The result is neither the source nor the configuration. -/
structure Separate (machine : Machine File Rest) (checker : Checker) : Prop where
  source : machine.fileOf checker.res ≠ machine.fileOf checker.src
  config : machine.fileOf checker.res ≠ machine.fileOf checker.cfg

/-- A separate result file is read as it stands. -/
theorem leftover_of_separate {machine : Machine File Rest} {self : Checker}
    (separate : Separate machine self) (world : World File Rest) :
    self.leftover machine world =
      ((world.files (machine.fileOf self.res)).map textRead).getD [] := by
  unfold Checker.leftover
  rw [World.put_files_of_ne _ _ separate.config, World.put_files_of_ne _ _ separate.source]

/-- A result file that is not separate has been removed before it is read. -/
theorem leftover_of_not_separate {machine : Machine File Rest} {self : Checker}
    (together : ¬ Separate machine self) (world : World File Rest) :
    self.leftover machine world = [] := by
  have removed : ((world.put (machine.fileOf self.src) none).put (machine.fileOf self.cfg)
      none).files (machine.fileOf self.res) = none := by
    by_cases config : machine.fileOf self.res = machine.fileOf self.cfg
    · rw [config, World.put_files_self]
    · have source : machine.fileOf self.res = machine.fileOf self.src := by
        by_contra different
        exact together ⟨different, config⟩
      rw [World.put_files_of_ne _ _ config, source, World.put_files_self]
  unfold Checker.leftover
  rw [removed]
  rfl

/-- What is read after a written verdict is its text. -/
theorem Judged.leftover_eq {machine : Machine File Rest} {parse : Str → Option Json}
    {settings : Settings} {self : Checker} {before after : World File Rest} {verdict : Verdict}
    (judged : Judged machine parse settings self before (some verdict) after)
    (separate : Separate machine self) : self.leftover machine after = verdictText verdict := by
  rw [leftover_of_separate separate, judged.file.2]
  exact textRead_verdictText verdict

end Process

/-! ## Marking -/

section Marking

variable {File Rest Database : Type} [DecidableEq File] {host : Host File Rest Database}
  {parse : Str → Option Json} {settings : Settings} {self : Checker}
  {row : Database → Int32 → Option Row} {before : Site File Rest Database}
  {outcome : Option Verdict}

omit [DecidableEq File] in
/-- The statement returns when the server has executed it. -/
theorem returns_dbExec_iff {sql : Str} {after : Site File Rest Database} {result : Unit} :
    Program.Returns (dbExec host sql) before result after ↔
      ∃ database, host.server.query (cString sql) before.database = .ok database ∧
        after = { before with database } := by
  simp only [dbExec, Program.returns_bind_iff, Program.returns_call_iff]
  cases answer : host.server.query (cString sql) before.database with
  | ok database =>
      constructor
      · rintro ⟨_, _, called, returned⟩
        cases called
        exact ⟨database, rfl, (Program.returns_pure_iff.mp returned).2⟩
      · rintro ⟨_, same, rfl⟩
        cases same
        exact ⟨_, _, rfl, rfl⟩
  | error message =>
      constructor
      · rintro ⟨_, _, called, returned⟩
        cases called
        exact absurd returned Program.not_returns_stop
      · rintro ⟨_, same, _⟩
        cases same

/-- The files that the process leaves. -/
def Checker.left (host : Host File Rest Database) (settings : Settings) (self : Checker)
    (before : Site File Rest Database) : World File Rest :=
  host.system (self.command settings) (self.staged host.machine settings before.world)

/-- The statement that `checker::run` executes: it stores the text that is left over. -/
def Checker.statement (host : Host File Rest Database) (settings : Settings) (self : Checker)
    (before : Site File Rest Database) : Str :=
  updateStatement (self.leftover host.machine (self.left host settings before)) self.sol.id

/-- `checker::run` returns when the server has executed its statement, and does nothing
else to the database. -/
theorem returns_run_iff {after : Site File Rest Database} {result : Unit} :
    Program.Returns (self.run host settings) before result after ↔
      ∃ database, host.server.query (cString (self.statement host settings before))
          before.database = .ok database ∧
        after = ⟨(((self.left host settings before).put (host.machine.fileOf self.src) none).put
          (host.machine.fileOf self.cfg) none).put (host.machine.fileOf self.res) none,
            database⟩ := by
  simp only [Checker.run, Solution.createSrc, Solution.createCfgJson, Solution.saveResultToDb,
    Program.returns_bind_iff, Contest.returns_onFiles_iff, Program.returns_pure_iff,
    returns_dbExec_iff, Machine.windows_remove, Machine.windows_ifstream]
  constructor
  · rintro ⟨_, _, ⟨_, _, ⟨_, rfl⟩, rfl, rfl⟩, _, _, ⟨_, _, ⟨_, rfl⟩, rfl, rfl⟩, _, _, ⟨_, rfl⟩,
      _, _, ⟨_, rfl⟩, _, _, ⟨_, rfl⟩, _, _, ⟨rfl, rfl⟩, _, _, ⟨_, rfl⟩, database, executed, rfl⟩
    exact ⟨database, executed, rfl⟩
  · rintro ⟨database, executed, rfl⟩
    exact ⟨_, _, ⟨(), _, ⟨trivial, rfl⟩, rfl, rfl⟩, _, _, ⟨(), _, ⟨trivial, rfl⟩, rfl, rfl⟩, (), _,
      ⟨trivial, rfl⟩, (), _, ⟨trivial, rfl⟩, (), _, ⟨trivial, rfl⟩, _, _, ⟨rfl, rfl⟩, (), _,
      ⟨trivial, rfl⟩, database, executed, rfl⟩

/-- A run marks soundly: the row holds the verdict that the process has written, or is
as it was. -/
def MarksSoundly (host : Host File Rest Database) (settings : Settings) (self : Checker)
    (row : Database → Int32 → Option Row) (before : Site File Rest Database)
    (outcome : Option Verdict) : Prop :=
  ∀ after, Program.Returns (self.run host settings) before () after →
    (∃ verdict, outcome = some verdict ∧
      row after.database self.sol.id = some ⟨1, verdictText verdict⟩) ∨
    row after.database self.sol.id = row before.database self.sol.id

/-- The server refuses a statement. -/
def Refuses (server : Server Database) (sql : Str) (database : Database) : Prop :=
  ∀ database', server.query (cString sql) database ≠ .ok database'

/-- The server leaves the row of a solution alone on a statement that it executes. -/
def LeavesRow (server : Server Database) (row : Database → Int32 → Option Row) (id : Int32)
    (sql : Str) (database : Database) : Prop :=
  ∀ database', server.query (cString sql) database = .ok database' →
    row database' id = row database id

omit [DecidableEq File] in
/-- A plain text is stored unless the server refuses it. -/
theorem leavesRow_iff_of_plain {server : Server Database} {text old : Str} {id : Int32}
    {database : Database} (law : UpdatesRow server row)
    (unchecked : row database id = some ⟨0, old⟩) (plain : ∀ letter ∈ text, SqlPlain letter) :
    LeavesRow server row id (updateStatement text id) database ↔
      Refuses server (updateStatement text id) database := by
  constructor
  · intro leaves database' executed
    have kept := leaves database' executed
    rw [cString_updateStatement plain] at executed
    rw [law.update plain executed, unchecked] at kept
    cases kept
  · intro refuses database' executed
    exact absurd executed (refuses database')

/-- The row is marked soundly exactly when the process has written its verdict to a
file of its own, or the server leaves the row alone on the statement: when the text
that is left over is plain, only by refusing it. -/
theorem marksSoundly_iff {old : Str} (law : UpdatesRow host.server row)
    (unchecked : row before.database self.sol.id = some ⟨0, old⟩)
    (judged : Judged host.machine parse settings self
      (self.staged host.machine settings before.world) outcome
      (self.left host settings before)) :
    (MarksSoundly host settings self row before outcome ↔
      (outcome.isSome ∧ Separate host.machine self) ∨
      LeavesRow host.server row self.sol.id (self.statement host settings before)
        before.database) ∧
    ((∀ letter ∈ self.leftover host.machine (self.left host settings before), SqlPlain letter) →
      (LeavesRow host.server row self.sol.id (self.statement host settings before)
          before.database ↔
        Refuses host.server (self.statement host settings before) before.database)) := by
  refine ⟨⟨?_, ?_⟩, leavesRow_iff_of_plain law unchecked⟩
  · intro sound
    by_cases own : outcome.isSome ∧ Separate host.machine self
    · exact .inl own
    refine .inr fun database executed => ?_
    rcases sound _ (returns_run_iff.mpr ⟨database, executed, rfl⟩) with
      ⟨verdict, rfl, marked⟩ | kept
    · -- The verdict was written to a file that is removed unread.
      have together : ¬ Separate host.machine self := fun separate => own ⟨rfl, separate⟩
      have plain : ∀ letter ∈ ([] : Str), SqlPlain letter := by simp
      rw [Checker.statement, leftover_of_not_separate together,
        cString_updateStatement plain] at executed
      change row database self.sol.id = _ at marked
      rw [law.update plain executed, unchecked] at marked
      have empty : [] = verdictText verdict := congrArg Row.result (Option.some.inj marked)
      exact absurd empty (by simp [verdictText])
    · exact kept
  · rintro (⟨written, separate⟩ | leaves) after returned
    · obtain ⟨verdict, rfl⟩ := Option.isSome_iff_exists.mp written
      obtain ⟨database, executed, rfl⟩ := returns_run_iff.mp returned
      have plain := sqlPlain_verdictText judged.file.1
      rw [Checker.statement, judged.leftover_eq separate,
        cString_updateStatement plain] at executed
      refine .inl ⟨verdict, rfl, ?_⟩
      rw [law.update plain executed, unchecked]
      rfl
    · obtain ⟨database, executed, rfl⟩ := returns_run_iff.mp returned
      exact .inr (leaves database executed)

end Marking

/-! ## A judge that ends at an assertion -/

/-- The rows of all solutions. -/
abbrev Table := Int32 → Option Row

/-- A server that reads the literal of an update up to its first quote. -/
def tableServer : Server Table where
  query sql table :=
    if "UPDATE solutions SET result = '".toList.isPrefixOf sql then
      let literal := (sql.drop 31).takeWhile (· ≠ '\'')
      .ok fun id =>
        if sql = updateStatement literal id then (table id).map fun _ => ⟨1, literal⟩
        else table id
    else .error "You have an error in your SQL syntax".toList

/-- The literal of an update with a plain text is that text. -/
theorem literal_updateStatement {text : Str} (plain : ∀ letter ∈ text, SqlPlain letter)
    (id : Int32) :
    ((updateStatement text id).drop 31).takeWhile (· ≠ '\'') = text := by
  have unquoted : ∀ letter ∈ text, decide (letter ≠ '\'') = true := fun letter member =>
    decide_eq_true (plain letter member).1
  have opened : (updateStatement text id).drop 31 =
      text ++ '\'' :: (", status = 1 WHERE id = ".toList ++ toString id) := by
    unfold updateStatement
    rw [List.append_assoc, List.append_assoc]
    rfl
  rw [opened, List.takeWhile_append_of_pos unquoted]
  simp

theorem updatesRow_table : UpdatesRow tableServer (fun table id => table id) where
  update {text id database database'} plain executed := by
    have starts : "UPDATE solutions SET result = '".toList.isPrefixOf (updateStatement text id) =
        true := by
      rw [List.isPrefixOf_iff_prefix]
      unfold updateStatement
      rw [List.append_assoc, List.append_assoc]
      exact List.prefix_append _ _
    simp only [tableServer, starts, ↓reduceIte, literal_updateStatement plain,
      Except.ok.injEq] at executed
    rw [← executed]
    simp only [↓reduceIte]

/-- The contester's job for `sumSolution`. -/
def sumChecker (timeLimit : UInt64) : Checker :=
  Checker.new oneLanguage (sumSolution timeLimit) "solution".toList "solution.json".toList
    "result.json".toList

/-- A machine whose compiler rejects every source. -/
def strictMachine : Machine Str Unit :=
  { pairMachine with
    compile := fun _ before => some
      { unknownCommand before with
        pipe := ⟨"solution.cpp:1: error: expected ';'".toList, true, 1⟩ } }

/-- A contester on this machine, which starts the judge on `sumChecker`. -/
def strictHost (timeLimit : UInt64) : Host Str Unit Table where
  machine := strictMachine
  system _ world := Program.finalStore (main strictMachine.windows (sumParse timeLimit)
    ((sumChecker timeLimit).arguments oneLanguage)) world
  server := tableServer

/-- The solution is not checked yet. -/
def strictSite : Site Str Unit Table :=
  ⟨⟨pairFiles, ()⟩, fun id => if id = 7 then some ⟨0, []⟩ else none⟩

/-- The files when the judge is started. -/
def strictStaged (timeLimit : UInt64) : World Str Unit :=
  (sumChecker timeLimit).staged strictMachine oneLanguage strictSite.world

/-- The judge's run on them. -/
abbrev strictMain (timeLimit : UInt64) : Judge (World Str Unit) Dword :=
  main strictMachine.windows (sumParse timeLimit) ((sumChecker timeLimit).arguments oneLanguage)

theorem left_strict (timeLimit : UInt64) :
    (sumChecker timeLimit).left (strictHost timeLimit) oneLanguage strictSite =
      Program.finalStore (strictMain timeLimit) (strictStaged timeLimit) := by
  have applied : ∀ (machine : Machine Str Unit) (checker : Checker) system server,
      checker.left ⟨machine, system, server⟩ oneLanguage strictSite =
        system (checker.command oneLanguage)
          (checker.staged machine oneLanguage strictSite.world) := by
    intros
    rfl
  exact applied _ _ _ _

set_option maxRecDepth 1000 in
/-- A limit of 33 bits ends the judge at an assertion. -/
theorem judged_abort :
    Judged strictMachine (sumParse 4294967296) oneLanguage (sumChecker 4294967296)
      (strictStaged 4294967296) none
      ((sumChecker 4294967296).left (strictHost 4294967296) oneLanguage strictSite) := by
  have ended : Program.outcome (strictMain 4294967296) (strictStaged 4294967296) =
      .error .assertion := by
    decide
  obtain ⟨after, stopped⟩ := Program.outcome_eq_error_iff.mp ended
  rw [left_strict, stopped.finalStore_eq]
  exact .aborted stopped

set_option maxRecDepth 1000 in
/-- Nothing is left over after the assertion. -/
theorem leftover_abort : (sumChecker 4294967296).leftover (strictHost 4294967296).machine
    ((sumChecker 4294967296).left (strictHost 4294967296) oneLanguage strictSite) = [] := by
  decide

/-- The judge ended at an assertion, and its solution is marked with an empty result. -/
theorem abort_not_marksSoundly :
    ¬ ∀ (host : Host Str Unit Table) (parse : Str → Option Json) (settings : Settings)
        (self : Checker) (row : Table → Int32 → Option Row) (before : Site Str Unit Table)
        (outcome : Option Verdict) (old : Str),
      UpdatesRow host.server row →
      row before.database self.sol.id = some ⟨0, old⟩ →
      Judged host.machine parse settings self
        (self.staged host.machine settings before.world) outcome
        (self.left host settings before) →
      MarksSoundly host settings self row before outcome := by
  intro always
  have sound := always (strictHost 4294967296) (sumParse 4294967296) oneLanguage
    (sumChecker 4294967296) (fun table id => table id) strictSite none [] updatesRow_table rfl
    judged_abort
  have plain : ∀ letter ∈ ([] : Str), SqlPlain letter := by simp
  have executed : ∃ database, tableServer.query (cString (updateStatement [] 7))
      strictSite.database = .ok database := by
    rw [cString_updateStatement plain]
    exact ⟨_, rfl⟩
  obtain ⟨database, executed⟩ := executed
  have returned : ∃ after, Program.Returns ((sumChecker 4294967296).run
      (strictHost 4294967296) oneLanguage) strictSite () after ∧ after.database = database := by
    refine ⟨_, returns_run_iff.mpr ⟨database, ?_, rfl⟩, rfl⟩
    rw [Checker.statement, leftover_abort]
    exact executed
  obtain ⟨after, returned, rfl⟩ := returned
  rw [cString_updateStatement plain] at executed
  have marked := updatesRow_table.update plain executed
  rcases sound after returned with ⟨_, absurdity, _⟩ | kept
  · cases absurdity
  · change after.database 7 = some ⟨0, []⟩ at kept
    rw [kept] at marked
    cases marked

set_option maxRecDepth 1000 in
/-- Within 32 bits the judge rejects the source, and writes that verdict. -/
theorem judged_rejected :
    Judged strictMachine (sumParse 2000) oneLanguage (sumChecker 2000) (strictStaged 2000)
      (some ⟨"bad".toList, "compilation_error".toList, []⟩)
      ((sumChecker 2000).left (strictHost 2000) oneLanguage strictSite) := by
  have ended : Program.outcome (strictMain 2000) (strictStaged 2000) = .ok 0 := by
    decide
  have judged : Program.outcome (check strictMachine.windows (sumParse 2000)
      "solution.json".toList ".".toList (sumChecker 2000).src) (strictStaged 2000) =
        .ok ⟨"bad".toList, "compilation_error".toList, []⟩ := by
    decide
  obtain ⟨after, returned⟩ := Program.outcome_eq_ok_iff.mp ended
  obtain ⟨middle, checked⟩ := Program.outcome_eq_ok_iff.mp judged
  rw [left_strict, returned.finalStore_eq]
  exact .wrote rfl rfl checked rfl returned

/-- The rejection is written, and so it is marked soundly. -/
theorem rejected_marksSoundly :
    MarksSoundly (strictHost 2000) oneLanguage (sumChecker 2000) (fun table id => table id)
      strictSite (some ⟨"bad".toList, "compilation_error".toList, []⟩) :=
  (marksSoundly_iff updatesRow_table rfl judged_rejected).1.mpr
    (.inl ⟨rfl, ⟨by decide, by decide⟩⟩)

end CheckerOlimp.Contester
