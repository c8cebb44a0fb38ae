import CheckerOlimp.Contester.Transport
import CheckerOlimp.Contester.Loading
import CheckerOlimp.Std.Triple

/-!
# What the contester's functions ensure

One lemma for each function of the contester that reads or changes something: what it
leaves when it returns, and what when it throws.
-/

namespace CheckerOlimp.Contester

open CheckerOlimp.Std CheckerOlimp.CheckerRc Program

variable {File Rest Database : Type}

/-! ## Queries -/

section Judging

variable [DecidableEq File] {host : Host File Rest Database} {settings : Settings}

/-- The files after `checker::run`: its own three files are gone. -/
def Checker.swept (machine : Machine File Rest) (system : Str → World File Rest → World File Rest)
    (settings : Settings) (self : Checker) (world : World File Rest) : World File Rest :=
  (((system (self.command settings) (self.staged machine settings world)).put
    (machine.fileOf self.src) none).put (machine.fileOf self.cfg) none).put
      (machine.fileOf self.res) none

omit [DecidableEq File] in
/-- `db::exec` does what the server does, or throws its message. -/
theorem run_dbExec (sql : Str) (site : Site File Rest Database) :
    (dbExec host sql).run site =
      match host.server.query (cString sql) site.database with
      | .ok database => .ok () ⟨site.world, database⟩
      | .error message => .error (.exception message) site := by
  unfold dbExec
  rw [EStateM.run_bind, run_call]
  cases host.server.query (cString sql) site.database with
  | ok database => rfl
  | error message => rfl

/-- `checker::run` works on its files, removes them, and executes its statement. -/
theorem run_run (self : Checker) (before : Site File Rest Database) :
    (self.run host settings).run before =
      (dbExec host (self.statement host settings before)).run
        ⟨self.swept host.machine host.system settings before.world, before.database⟩ := by
  rfl

/-- It leaves what the server makes of the statement, or throws what the server says. -/
theorem ensures_run (self : Checker) (before : Site File Rest Database → Prop) :
    Ensures before (self.run host settings)
      (fun _ after => ∃ site database, before site ∧
        host.server.query (cString (self.statement host settings site)) site.database =
          .ok database ∧
        after = ⟨self.swept host.machine host.system settings site.world, database⟩)
      (fun _ after => ∃ site, before site ∧
        after = ⟨self.swept host.machine host.system settings site.world, site.database⟩) := by
  intro site holds
  rw [run_run, run_dbExec]
  cases answer : host.server.query (cString (self.statement host settings site)) site.database with
  | ok database => exact ⟨site, database, holds, answer, rfl⟩
  | error message => exact ⟨site, holds, rfl⟩

end Judging

end CheckerOlimp.Contester
