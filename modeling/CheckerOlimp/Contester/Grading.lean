import CheckerOlimp.Contester.EndToEnd
import CheckerOlimp.Judging.Grading

/-!
# The grades of a contest

The rules of a contest say what the codes of its languages mean, what is in the files of
its tests, and which outputs its checkers accept. So they say which verdicts a solution
deserves. On a machine whose programs keep to the rules, the contester stores such verdicts
and nothing else, and it gets to every solution that it can load.
-/

namespace CheckerOlimp.Contester

open CheckerOlimp.Std CheckerOlimp.CheckerRc

/-! ## The verdicts that a solution deserves -/

/-- The rules of a contest: the content of the files of its tests; whether the checker of a
directory accepts an output, from the quest and the answer; and which program a code is in the
language of an identifier, if it is one. -/
structure Rules where
  shelf : Str → Str
  accepts : Str → Str → Str → Str → Bool
  meaning : Str → Str → Option Behaviour

/-- A verdict that a solution deserves by the rules. -/
def Rules.Grades (rules : Rules) (settings : Settings) (solution : Solution) (verdict : Verdict) :
    Prop :=
  CheckerRc.Grades rules.shelf (rules.accepts (cString (solution.getTestsDir settings)))
    (solution.decoded settings).problem.testPathList
    (rules.meaning (cString solution.pl.identifier) (cString solution.code)) verdict

theorem elem_known (test : TestPathNballsElement) (accepts : Str → Bool) (conduct : Conduct) :
    (conduct.elem test accepts).result ∈ verdictWords := by
  cases conduct with
  | answered output time memory =>
      cases accepted : accepts output with
      | false => simp [Conduct.elem, accepted, verdictWords]
      | true => simp [Conduct.elem, accepted, verdictWords]
  | late | greedy | failed => simp [Conduct.elem, verdictWords]

/-- It is made of the judge's words. -/
theorem Rules.Grades.known {rules : Rules} {settings : Settings} {solution : Solution}
    {verdict : Verdict} (grades : rules.Grades settings solution verdict) : verdict.Known := by
  unfold Rules.Grades at grades
  generalize rules.meaning (cString solution.pl.identifier) (cString solution.code) = program
    at grades
  cases grades with
  | refused => exact ⟨by simp [verdictWords], by simp [verdictWords], by simp⟩
  | judged entries =>
      refine ⟨by simp [verdictWords], by simp [verdictWords], fun elem member => ?_⟩
      obtain ⟨test, _, conduct, _, rfl⟩ := Catalog.exists_of_mem_right entries member
      exact elem_known _ _ _

/-- The text is that of such a verdict. -/
def Rules.Graded (rules : Rules) (settings : Settings) (solution : Solution) (text : Str) : Prop :=
  ∃ verdict, rules.Grades settings solution verdict ∧ text = verdictText verdict

/-! ## A machine that keeps to the rules -/

section Machine

variable {File Rest : Type} [DecidableEq File]

/-- Where the judge is started, it finds its configuration and can write its result. -/
structure Located (machine : Machine File Rest) (parse : Str → Option Json) (profilePath : Str) :
    Prop where
  readable : Readable machine parse
  config : (machine.fullPathName "solution.json".toList).isSome
  profile : machine.fullPathName ".".toList = some profilePath
  result : machine.creatable (resultFile machine) = true

/-- A solution that can be judged by the rules: its limits fit, the files of its job are files
of their own, and there is a workshop for its language and its tests, which they do not
disturb. -/
structure Equipped (machine : Machine File Rest) (settings : Settings) (profilePath : Str)
    (rules : Rules) (stocked : World File Rest → Prop) (solution : Solution) : Prop where
  timeLimit : solution.pt.timeLimit.toNat < 2 ^ 32
  memoryLimit : solution.pt.memoryLimit.toNat < 2 ^ 32
  separate : Separate machine (solution.job settings)
  apart : machine.fileOf (solution.job settings).src ≠ machine.fileOf (solution.job settings).cfg
  source : machine.creatable (machine.fileOf (solution.job settings).src) = true
  undisturbed : ∀ {world}, stocked world → ∀ file ∈ [machine.fileOf (solution.job settings).src,
    machine.fileOf (solution.job settings).cfg, resultFile machine],
      ∀ content, stocked (world.put file content)
  workshop : ∃ executable ready, Workshop machine profilePath (solution.job settings).src
    executable (solution.decoded settings) (machine.fileOf (solution.job settings).src) rules.shelf
    (rules.accepts (cString (solution.getTestsDir settings)))
    (rules.meaning (cString solution.pl.identifier)) stocked ready

variable {machine : Machine File Rest} {parse : Str → Option Json} {settings : Settings}
  {profilePath : Str} {rules : Rules} {stocked : World File Rest → Prop} {solution : Solution}
  {world : World File Rest} {system : Str → World File Rest → World File Rest}

/-- The judge is started on files that are stocked, and among them its source. -/
theorem Equipped.staged (equipped : Equipped machine settings profilePath rules stocked solution)
    (now : stocked world) :
    stocked ((solution.job settings).staged machine settings world) ∧
      ((solution.job settings).staged machine settings world).files
        (machine.fileOf (solution.job settings).src) = some (cString solution.code) := by
  have kept : ∀ {path content before}, stocked before →
      machine.fileOf path ∈ [machine.fileOf (solution.job settings).src,
        machine.fileOf (solution.job settings).cfg, resultFile machine] →
      stocked (machine.writeBinary path content before) := by
    intro path content before now own
    unfold Machine.writeBinary
    split
    · exact equipped.undisturbed now _ own _
    · exact now
  refine ⟨kept (kept now List.mem_cons_self) (by simp), ?_⟩
  exact (Machine.writeBinary_files_of_ne equipped.apart _ _).trans
    (Machine.writeBinary_files_self equipped.source _ _)

/-- The judge writes a verdict that the solution deserves. -/
theorem Equipped.main_grades (located : Located machine parse profilePath)
    (equipped : Equipped machine settings profilePath rules stocked solution)
    (now : stocked world) :
    ∃ verdict after, Program.Returns (main machine.windows parse
        ((solution.job settings).arguments settings))
        ((solution.job settings).staged machine settings world) 0 after ∧
      stocked after ∧ rules.Grades settings solution verdict ∧
      Has (resultFile machine) (some (textWrite (verdictText verdict))) after := by
  obtain ⟨config, found⟩ := Option.isSome_iff_exists.mp located.config
  obtain ⟨staged, source⟩ := equipped.staged now
  have file : ((solution.job settings).staged machine settings world).files
      (machine.fileOf config) = some (solution.cfgJson settings) := by
    rw [machine.fileOf_fullPathName found]
    exact Machine.writeBinary_files_self located.readable.creatable _ _
  have reads : Program.Returns (readMainConfig machine.windows parse config)
      ((solution.job settings).staged machine settings world) (solution.decoded settings)
      ((solution.job settings).staged machine settings world) := by
    refine (returns_readMainConfig_iff file (located.readable.parses _)).mpr ?_
    rw [readDocument_json, if_pos ⟨equipped.timeLimit, equipped.memoryLimit⟩]
    rfl
  obtain ⟨executable, ready, workshop⟩ := equipped.workshop
  obtain ⟨verdict, middle, judged, later, grades⟩ := workshop.checkConfig_grades staged source
  have opened := machine.windows_ofstream "result.json".toList (verdictText verdict) middle
  rw [if_pos located.result] at opened
  refine ⟨verdict, _, returns_main_iff.mpr ⟨rfl, config, profilePath, _, middle, found,
    located.profile, reads.bind judged, rfl⟩, ?_⟩
  change stocked (machine.windows.ofstream "result.json".toList (verdictText verdict) middle).2 ∧
    rules.Grades settings solution verdict ∧
      (machine.windows.ofstream "result.json".toList (verdictText verdict) middle).2.files
        (resultFile machine) = _
  rw [opened]
  have result : resultFile machine ∈ [machine.fileOf (solution.job settings).src,
      machine.fileOf (solution.job settings).cfg, resultFile machine] := by simp
  exact ⟨equipped.undisturbed later _ result _, grades, World.put_files_self _ _ _⟩

/-- The contester reads this verdict, and the files are stocked again. -/
theorem Equipped.resultText_grades (located : Located machine parse profilePath)
    (starts : StartsJudge machine parse settings system)
    (equipped : Equipped machine settings profilePath rules stocked solution)
    (now : stocked world) :
    rules.Graded settings solution
        ((solution.job settings).resultText machine system settings world) ∧
      stocked ((solution.job settings).swept machine system settings world) := by
  obtain ⟨verdict, after, returned, later, grades, written⟩ := equipped.main_grades located now
  have ran : system ((solution.job settings).command settings)
      ((solution.job settings).staged machine settings world) = after := by
    rw [starts.starts solution world fun _ stopped => stopped.not_returns returned,
      returned.finalStore_eq]
  constructor
  · refine ⟨verdict, grades, ?_⟩
    unfold Checker.resultText
    rw [ran, leftover_of_separate equipped.separate]
    have file : after.files (machine.fileOf (solution.job settings).res) =
        some (textWrite (verdictText verdict)) := written
    rw [file, Option.map_some, Option.getD_some, textRead_verdictText]
  · unfold Checker.swept
    rw [ran]
    have unsourced := equipped.undisturbed later _ List.mem_cons_self none
    have unconfigured := equipped.undisturbed unsourced (machine.fileOf (solution.job settings).cfg)
      (by simp) none
    have result : resultFile machine ∈ [machine.fileOf (solution.job settings).src,
        machine.fileOf (solution.job settings).cfg, resultFile machine] := by simp
    exact equipped.undisturbed unconfigured _ result none

/-- So the judge works on stocked files. -/
theorem judgeKeeps_of_equipped (located : Located machine parse profilePath)
    (starts : StartsJudge machine parse settings system) :
    JudgeKeeps machine system settings (Equipped machine settings profilePath rules stocked)
      stocked where
  printable equipped now := by
    obtain ⟨verdict, grades, same⟩ := (equipped.resultText_grades located starts now).1
    rw [same]
    exact nul_not_mem_verdictText grades.known
  literal equipped now := by
    obtain ⟨verdict, grades, same⟩ := (equipped.resultText_grades located starts now).1
    rw [same]
    exact literal_verdictText grades.known
  again equipped now := (equipped.resultText_grades located starts now).2

end Machine

/-! ## Every solution gets its verdict -/

/-- Rows that are left unchecked, when no complete one is, are incomplete. -/
theorem Catalog.Advances.marked {judged : Solution → Str → Prop} {before after : Catalog}
    (advances : before.Advances judged after) (done : after.free = 0) {row : SolutionRow}
    (member : row ∈ before.unchecked) (complete : before.complete row = true) :
    ∃ solution text, before.Joins row.id (.ok solution) ∧ judged solution text ∧
      row.mark text ∈ after.solutions := by
  obtain ⟨inside, status⟩ := List.mem_filter.mp member
  obtain ⟨row', present, same | ⟨_, solution, text, joins, tells, marked⟩⟩ :=
    exists_of_mem_left advances.rows inside
  · have waiting : row ∈ after.unchecked := List.mem_filter.mpr ⟨same ▸ present, status⟩
    have none := List.countP_eq_zero.mp done row waiting
    rw [advances.complete, complete] at none
    exact absurd rfl none
  · exact ⟨solution, text, joins, tells, marked ▸ present⟩

/-- The contest as a whole. On a machine that keeps to the rules the loop always goes on, and
stores for a solution nothing but a verdict that it deserves; and after enough turns every
solution whose task and language are there has got one. -/
theorem catalog_graded {File Rest : Type} [DecidableEq File] {machine : Machine File Rest}
    {parse : Str → Option Json} {settings : Settings} {profilePath : Str} {rules : Rules}
    {stocked : World File Rest → Prop} {system : Str → World File Rest → World File Rest}
    {site : Site File Rest Sql.Database} {catalog : Catalog}
    (located : Located machine parse profilePath)
    (starts : StartsJudge machine parse settings system)
    (equipped : Sound (Equipped machine settings profilePath rules stocked) catalog)
    (now : stocked site.world) (kept : catalog.KeptIn site.database)
    (limited unlimited : Sql.Order) (count : Nat) :
    ∃ after catalog', Program.Returns
        (cycles (sqlDeployment machine system limited unlimited) settings count) site () after ∧
      catalog'.KeptIn after.database ∧ catalog.Advances (rules.Graded settings) catalog' ∧
      (catalog.free ≤ count * (10 - catalog.stuck) →
        ∀ row ∈ catalog.unchecked, catalog.complete row = true →
          ∃ solution verdict, catalog.Joins row.id (.ok solution) ∧
            rules.Grades settings solution verdict ∧
            row.mark (verdictText verdict) ∈ catalog'.solutions) := by
  obtain ⟨after, catalog', returned, follows, turns⟩ := cycles_follow limited unlimited
    (judgeKeeps_of_equipped located starts) ⟨now, kept⟩ equipped count
  have advances : catalog.Advances (rules.Graded settings) catalog' := by
    refine turns.counts.1.mono ?_
    rintro row member solution _ joins ⟨world, stocked, rfl⟩
    exact ((equipped row member solution joins).resultText_grades located starts stocked).1
  refine ⟨after, catalog', returned, follows.kept, advances, fun enough row member complete => ?_⟩
  have done : catalog'.free = 0 := by
    have below := turns.counts.2.2.1
    omega
  obtain ⟨solution, text, joins, ⟨verdict, grades, rfl⟩, marked⟩ :=
    advances.marked done member complete
  exact ⟨solution, verdict, joins, grades, marked⟩

/-! ## The sample -/

/-- The rules of the sample. -/
def copyRules : Rules where
  shelf := copyShelf
  accepts _ := copyAccepts
  meaning _ := copyMeaning

/-- The solutions that can be loaded from the sample. -/
structure CopySolution (solution : Solution) : Prop where
  timeLimit : solution.pt.timeLimit = 2000
  memoryLimit : solution.pt.memoryLimit = 65536
  input : solution.pt.input = "input.txt".toList
  output : solution.pt.output = "output.txt".toList
  checker : solution.pt.checker = "check.exe".toList
  language : solution.pl = ⟨"mingw_cpp".toList⟩
  cid : solution.pt.cid = 1
  tid : solution.tid = 5
  tests : ∀ test ∈ solution.pt.tests.map (ChTest.decoded "C:\\tests\\1\\5".toList),
    test ∈ copyTests

theorem copySolution_of_joins {id : Int32} {solution : Solution}
    (joins : sampleCatalog.Joins id (.ok solution)) : CopySolution solution := by
  cases joins with
  | @joined row task lang pt found tasked written whole =>
      obtain ⟨groups, chgs, _, members, rfl⟩ := whole
      have inTasks := List.mem_of_find?_eq_some tasked
      have inLangs := List.mem_of_find?_eq_some written
      have own := List.find?_some tasked
      have tid : task.id = row.tid := of_decide_eq_true own
      obtain rfl := List.mem_singleton.mp inTasks
      obtain rfl := List.mem_singleton.mp inLangs
      refine ⟨rfl, rfl, rfl, rfl, rfl, rfl, rfl, tid.symm, fun decoded member => ?_⟩
      obtain ⟨test, inside, rfl⟩ := List.mem_map.mp member
      obtain ⟨group, listed, own⟩ := List.mem_flatMap.mp inside
      obtain ⟨_, _, same⟩ := Catalog.exists_of_mem_right members listed
      obtain ⟨chTest, kept, rfl⟩ := List.mem_map.mp (same.mem_iff.mp own)
      have first := List.mem_of_mem_filter kept
      rcases List.mem_pair.mp first with rfl | rfl
      · exact List.mem_cons_self
      · exact List.mem_cons_of_mem _ List.mem_cons_self

theorem job_src_copy {solution : Solution} (copy : CopySolution solution) :
    (solution.job oneLanguage).src = "solution.cpp".toList := by
  unfold Solution.job Checker.new Solution.getSrcExt
  rw [copy.language]
  rfl

/-- The configuration that the judge reads of such a solution. -/
theorem decoded_copy {solution : Solution} (copy : CopySolution solution) :
    solution.decoded oneLanguage =
      copyConfig (solution.pt.tests.map (ChTest.decoded "C:\\tests\\1\\5".toList)) := by
  have directory : cString (solution.getTestsDir oneLanguage) = "C:\\tests\\1\\5".toList := by
    unfold Solution.getTestsDir
    rw [copy.cid, copy.tid]
    decide
  have checker : cString solution.pt.checker = "check.exe".toList := by
    rw [copy.checker]
    rfl
  unfold Solution.decoded
  rw [directory, checker, copy.language, copy.timeLimit, copy.memoryLimit, copy.input, copy.output]
  rfl

/-- Every solution of the sample can be judged. -/
theorem equipped_copy {solution : Solution} (copy : CopySolution solution) :
    Equipped copyMachine oneLanguage ".".toList copyRules CopyStocked solution := by
  have own : ∀ file ∈ ["solution.cpp".toList, "solution.json".toList, "result.json".toList],
      file ∉ copyPaths := by
    decide
  have src : copyMachine.fileOf (solution.job oneLanguage).src = "solution.cpp".toList :=
    job_src_copy copy
  exact {
    timeLimit := by
      rw [copy.timeLimit]
      decide
    memoryLimit := by
      rw [copy.memoryLimit]
      decide
    separate := by
      constructor
      · rw [src]
        change "result.json".toList ≠ "solution.cpp".toList
        decide
      · change "result.json".toList ≠ "solution.json".toList
        decide
    apart := by
      rw [src]
      change "solution.cpp".toList ≠ "solution.json".toList
      decide
    source := rfl
    undisturbed := by
      intro world now file member content
      rw [src] at member
      exact now.put (own file member) content
    workshop := by
      rw [src, job_src_copy copy, decoded_copy copy, copy.language]
      exact ⟨copyExecutable, CopyReady, workshop_copy copy.tests⟩ }

theorem located_copy : Located copyMachine Json.parse ".".toList where
  readable := {
    creatable := rfl
    parses := readable_strict.parses }
  config := rfl
  profile := rfl
  result := rfl

/-- The files of the tests, and the tables of the sample. -/
def copySite : Site Str Unit Sql.Database :=
  ⟨copyFiles, sampleCatalog.store⟩

/-- Of the three solutions of the sample one gets a verdict on its tests, one is refused, and one
has no task. -/
theorem catalog_graded_copy :
    ∃ after catalog', Program.Returns
        (cycles (sqlDeployment copyMachine (splits copyMachine Json.parse) .stored .stored)
          oneLanguage 1) copySite () after ∧
      catalog'.KeptIn after.database ∧
      sampleCatalog.Advances (copyRules.Graded oneLanguage) catalog' ∧
      (sampleCatalog.free ≤ 1 * (10 - sampleCatalog.stuck) →
        ∀ row ∈ sampleCatalog.unchecked, sampleCatalog.complete row = true →
          ∃ solution verdict, sampleCatalog.Joins row.id (.ok solution) ∧
            copyRules.Grades oneLanguage solution verdict ∧
            row.mark (verdictText verdict) ∈ catalog'.solutions) :=
  catalog_graded located_copy (startsJudge_oneLanguage _)
    (fun _ _ _ joins => equipped_copy (copySolution_of_joins joins)) copyStocked_files
    (keptIn_store sampleCatalog) .stored .stored 1

end CheckerOlimp.Contester
