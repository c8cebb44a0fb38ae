import CheckerOlimp.Contester.Simulation
import CheckerOlimp.Judging.Definedness
import CheckerOlimp.Judging.Footprint

/-!
# From the tables to the result

`ReportsOn` says in the terms of the tables what a verdict on a solution may be. The
contester writes a solution out for the judge, starts it, and stores what it leaves.
Between other clients and over any number of turns, a row gets an empty result or the
text of a verdict that reports on the very solution that has been loaded for it.
-/

namespace CheckerOlimp.Contester

open CheckerOlimp.Std CheckerOlimp.CheckerRc

/-! ## What a result may say -/

/-- An entry on a test of a task: its id in 32 bits, its scores only when it is passed, and
measures within the limits of the task where they count. -/
inductive Reported (task : Task) (test : ChTest) : ReportElem → Prop where
  | ok {id time memory : SizeT} (same : (id.toNat : Int) = test.id.toInt % 2 ^ 32)
      (inTime : time.toNat ≤ task.timeLimit.toNat)
      (inMemory : memory.toNat ≤ task.memoryLimit.toNat) :
      Reported task test ⟨"ok".toList, id, time, memory, test.scores⟩
  | bad {id time memory : SizeT} (same : (id.toNat : Int) = test.id.toInt % 2 ^ 32)
      (inTime : time.toNat ≤ task.timeLimit.toNat)
      (inMemory : memory.toNat ≤ task.memoryLimit.toNat) :
      Reported task test ⟨"bad".toList, id, time, memory, 0⟩
  | tle {id memory : SizeT} (same : (id.toNat : Int) = test.id.toInt % 2 ^ 32)
      (inMemory : memory.toNat ≤ task.memoryLimit.toNat) :
      Reported task test ⟨"tle".toList, id, -1, memory, 0⟩
  | mle {id time : SizeT} (same : (id.toNat : Int) = test.id.toInt % 2 ^ 32)
      (inTime : time.toNat ≤ task.timeLimit.toNat) :
      Reported task test ⟨"mle".toList, id, time, -1, 0⟩
  | crash {id : SizeT} (same : (id.toNat : Int) = test.id.toInt % 2 ^ 32) :
      Reported task test ⟨"crash".toList, id, -1, -1, 0⟩

/-- A verdict on a solution: it did not compile, or it has one entry for each test of its
task, in their order; and then the limits of the task fit in 32 bits. -/
inductive ReportsOn (solution : Solution) : Verdict → Prop where
  | rejected : ReportsOn solution ⟨"bad".toList, "compilation_error".toList, []⟩
  | judged {report : List ReportElem} (timeLimit : solution.pt.timeLimit.toNat < 2 ^ 32)
      (memoryLimit : solution.pt.memoryLimit.toNat < 2 ^ 32)
      (entries : List.Forall₂ (Reported solution.pt) solution.pt.tests report) :
      ReportsOn solution ⟨"ok".toList, [], report⟩

theorem Reported.known {task : Task} {test : ChTest} {elem : ReportElem}
    (reported : Reported task test elem) : elem.result ∈ verdictWords := by
  cases reported <;> simp [verdictWords]

theorem known_of_reported {task : Task} {tests : List ChTest} {report : List ReportElem}
    (entries : List.Forall₂ (Reported task) tests report) :
    ∀ elem ∈ report, elem.result ∈ verdictWords := by
  induction entries with
  | nil => simp
  | cons reported _ inductionHypothesis =>
      intro elem member
      rcases List.mem_cons.mp member with rfl | inside
      · exact reported.known
      · exact inductionHypothesis elem inside

/-- It is made of the judge's words. -/
theorem ReportsOn.known {solution : Solution} {verdict : Verdict}
    (reports : ReportsOn solution verdict) : verdict.Known := by
  cases reports with
  | rejected => exact ⟨by decide, by decide, by simp⟩
  | judged _ _ entries =>
      exact ⟨by simp [verdictWords], by simp [verdictWords], known_of_reported entries⟩

section Entries

variable {World : Type} {windows : Windows World} {profilePath sourceName testDir : Str}
  {solution : Solution}

/-- The id of a test in the configuration is its id in 32 bits. -/
theorem decoded_id (test : ChTest) :
    ((test.decoded testDir).id.toNat : Int) = test.id.toInt % 2 ^ 32 := by
  change (((test.id.toInt % 2 ^ 64).toNat % 2 ^ 64 % 2 ^ 32 : Nat) : Int) = test.id.toInt % 2 ^ 32
  omega

/-- A limit that fits is the same in the configuration. -/
theorem toUInt32_of_small {limit : UInt64} (small : limit.toNat < 2 ^ 32) :
    limit.toUInt32.toNat = limit.toNat := by
  change limit.toNat % 2 ^ 32 = limit.toNat
  omega

/-- An entry of the judge on the configured test is one on the test. -/
theorem reported_of_entry {settings : Settings} {bench : Bench} {before : World} {test : ChTest}
    {elem : ReportElem} (timeLimit : solution.pt.timeLimit.toNat < 2 ^ 32)
    (memoryLimit : solution.pt.memoryLimit.toNat < 2 ^ 32)
    (entry : Entry windows profilePath sourceName (solution.decoded settings).problem bench before
      (test.decoded testDir) elem) :
    Reported solution.pt test elem := by
  have time : ∀ {measured : SizeT},
      measured ≤ (solution.decoded settings).problem.timeLimit →
        measured.toNat ≤ solution.pt.timeLimit.toNat := by
    intro measured bound
    rw [← toUInt32_of_small timeLimit]
    exact UInt32.le_iff_toNat_le.mp bound
  have memory : ∀ {measured : SizeT},
      measured ≤ (solution.decoded settings).problem.memoryLimit →
        measured.toNat ≤ solution.pt.memoryLimit.toNat := by
    intro measured bound
    rw [← toUInt32_of_small memoryLimit]
    exact UInt32.le_iff_toNat_le.mp bound
  cases entry with
  | ok _ _ _ inTime inMemory => exact .ok (decoded_id test) (time inTime) (memory inMemory)
  | bad _ _ _ inTime inMemory => exact .bad (decoded_id test) (time inTime) (memory inMemory)
  | tle _ _ inMemory => exact .tle (decoded_id test) (memory inMemory)
  | mle _ _ inTime => exact .mle (decoded_id test) (time inTime)
  | crash _ _ => exact .crash (decoded_id test)

/-- So are those on all tests. -/
theorem reported_of_entries {settings : Settings} {bench : Bench} {before : World}
    {tests : List ChTest} {report : List ReportElem}
    (timeLimit : solution.pt.timeLimit.toNat < 2 ^ 32)
    (memoryLimit : solution.pt.memoryLimit.toNat < 2 ^ 32)
    (entries : Entries windows profilePath sourceName (solution.decoded settings).problem bench
      before (tests.map (ChTest.decoded testDir)) report) :
    List.Forall₂ (Reported solution.pt) tests report := by
  induction tests generalizing bench before report with
  | nil =>
      cases entries
      exact .nil
  | cons test rest inductionHypothesis =>
      cases entries with
      | cons entry _ later =>
          exact .cons (reported_of_entry timeLimit memoryLimit entry) (inductionHypothesis later)

/-- From the configuration of a solution, `check` returns a verdict on it. -/
theorem reportsOn_of_checkConfig {settings : Settings} {verdict : Verdict} {before after : World}
    (timeLimit : solution.pt.timeLimit.toNat < 2 ^ 32)
    (memoryLimit : solution.pt.memoryLimit.toNat < 2 ^ 32)
    (returned : Program.Returns
      (checkConfig windows (solution.decoded settings) profilePath sourceName) before verdict
      after) :
    ReportsOn solution verdict := by
  simp only [checkConfig, Program.returns_bind_iff] at returned
  obtain ⟨⟨built, executable⟩, middle, _, returned⟩ := returned
  cases built with
  | false =>
      simp only [Bool.not_false, ↓reduceIte, Program.returns_pure_iff] at returned
      rw [returned.1]
      exact .rejected
  | true =>
      simp only [Bool.not_true, Bool.false_eq_true, ↓reduceIte, Program.returns_bind_iff,
        Program.returns_pure_iff] at returned
      obtain ⟨report, _, judged, rfl, _⟩ := returned
      obtain ⟨elems, rfl, entries⟩ := entries_of_judgeTests ⟨rfl, rfl⟩ judged
      exact .judged timeLimit memoryLimit (reported_of_entries timeLimit memoryLimit entries)

end Entries

/-! ## The judge on the contester's files -/

section Staged

variable {File Rest : Type} [DecidableEq File] {machine : Machine File Rest}
  {parse : Str → Option Json} {settings : Settings} {solution : Solution}
  {world : World File Rest}

/-- The configuration of a job can be written, and the parser reads what a writer writes. -/
structure Readable (machine : Machine File Rest) (parse : Str → Option Json) : Prop where
  creatable : machine.creatable (machine.fileOf "solution.json".toList) = true
  parses : ∀ value : Json, parse value.text = some value

/-- What the judge reads in the staged files is the configuration of the solution. -/
theorem ensures_readMainConfig (readable : Readable machine parse) {path : Str}
    (named : machine.fileOf path = machine.fileOf "solution.json".toList) :
    Program.Ensures (fun before => before = (solution.job settings).staged machine settings world)
      (readMainConfig machine.windows parse path)
      (fun config _ => config = solution.decoded settings ∧
        solution.pt.timeLimit.toNat < 2 ^ 32 ∧ solution.pt.memoryLimit.toNat < 2 ^ 32)
      (fun reason _ => reason ≠ .undefined) := by
  rintro _ rfl
  have file : ((solution.job settings).staged machine settings world).files
      (machine.fileOf path) = some (solution.cfgJson settings) := by
    rw [named]
    exact Machine.writeBinary_files_self readable.creatable _ _
  have read : machine.windows.ifstream path
      ((solution.job settings).staged machine settings world) =
        (some (textRead (solution.cfgJson settings)),
          (solution.job settings).staged machine settings world) := by
    rw [Machine.windows_ifstream, file]
    rfl
  rw [run_readMainConfig read, read_cfgJson, readable.parses, Program.ofOption, pure_bind,
    readDocument_json]
  by_cases limits : solution.pt.timeLimit.toNat < 2 ^ 32 ∧ solution.pt.memoryLimit.toNat < 2 ^ 32
  · rw [if_pos limits]
    exact ⟨rfl, limits⟩
  · rw [if_neg limits]
    exact (by decide : Halt.assertion ≠ .undefined)

/-- A verdict that the judge reaches from the staged files is one on the solution; and if it
reaches none, its behaviour has been defined. -/
theorem ensures_check_staged (readable : Readable machine parse) {config profile : Str}
    (named : machine.fileOf config = machine.fileOf "solution.json".toList) :
    Program.Ensures (fun before => before = (solution.job settings).staged machine settings world)
      (check machine.windows parse config profile (solution.job settings).src)
      (fun verdict _ => ReportsOn solution verdict)
      (fun reason _ => reason ≠ .undefined) := by
  have answered : ∀ test ∈ (solution.decoded settings).problem.testPathList,
      test.answerPathList ≠ [] := by
    intro test member
    obtain ⟨_, _, rfl⟩ := List.mem_map.mp member
    exact List.cons_ne_nil _ _
  have long : 5 ≤ (solution.job settings).src.length := by
    change 5 ≤ ("solution".toList ++ solution.getSrcExt settings).length
    rw [List.length_append]
    exact Nat.le_add_right_of_le (by decide)
  refine (ensures_readMainConfig readable named).bind fun _ => ?_
  rintro read ⟨rfl, timeLimit, memoryLimit⟩
  have defined := safe_checkConfig machine.windows answered (.inl long) (Loops.of_polling _ _ _)
    profile read trivial
  cases ran : (checkConfig machine.windows (solution.decoded settings) profile
      (solution.job settings).src).run read with
  | ok verdict after => exact reportsOn_of_checkConfig timeLimit memoryLimit ran
  | error reason after =>
      rw [ran] at defined
      rcases defined with rfl | rfl
      · exact (by decide : Halt.assertion ≠ .undefined)
      · exact (by decide : Halt.polling ≠ .undefined)

/-- The file of the result of every job. -/
abbrev resultFile (machine : Machine File Rest) : File := machine.fileOf "result.json".toList

/-- The contester's `system` starts the judge on the words of its command line. What it leaves
is open where the behaviour of the judge is not defined. -/
structure StartsJudge (machine : Machine File Rest) (parse : Str → Option Json)
    (settings : Settings) (system : Str → World File Rest → World File Rest) : Prop where
  starts : ∀ (solution : Solution) world,
    let job := solution.job settings
    (∀ left, ¬ Program.Stops (main machine.windows parse (job.arguments settings))
      (job.staged machine settings world) .undefined left) →
    system (job.command settings) (job.staged machine settings world) =
      Program.finalStore (main machine.windows parse (job.arguments settings))
        (job.staged machine settings world)

/-- What `main` makes of the files that the contester writes: it writes a verdict on the
solution into the file of the result, or it stops without that its behaviour is undefined. -/
theorem ensures_main_staged (readable : Readable machine parse) :
    Program.Ensures
      (fun before => before = (solution.job settings).staged machine settings world)
      (main machine.windows parse ((solution.job settings).arguments settings))
      (fun status after => status = 0 ∧ ∃ verdict, ReportsOn solution verdict ∧
        (machine.creatable (resultFile machine) = true →
          Has (resultFile machine) (some (textWrite (verdictText verdict))) after))
      (fun reason _ => reason ≠ .undefined) := by
  have config : Program.Ensures
      (fun before => before = (solution.job settings).staged machine settings world)
      (getFullPathName machine.windows "solution.json".toList)
      (fun full before => machine.fileOf full = machine.fileOf "solution.json".toList ∧
        before = (solution.job settings).staged machine settings world)
      (fun reason _ => reason ≠ .undefined) :=
    Program.Ensures.ofOption
      (fun _ _ found before => ⟨machine.fileOf_fullPathName found, before⟩) fun _ _ _ => by decide
  have profile : Program.Ensures
      (fun before => before = (solution.job settings).staged machine settings world)
      (getFullPathName machine.windows ".".toList)
      (fun _ before => before = (solution.job settings).staged machine settings world)
      (fun reason _ => reason ≠ .undefined) :=
    Program.Ensures.ofOption (fun _ _ _ before => before) fun _ _ _ => by decide
  refine config.bind fun full => Program.Ensures.given fun named => profile.bind fun _ => ?_
  refine (ensures_check_staged readable named).bind fun verdict => ?_
  rintro left reports
  refine ⟨rfl, verdict, reports, fun opened => ?_⟩
  change (machine.windows.ofstream "result.json".toList (verdictText verdict) left).2.files
    (resultFile machine) = _
  rw [Machine.windows_ofstream, if_pos opened]
  exact World.put_files_self left _ _

/-- The judge on the job of a solution: if it returns, it has written a verdict on the
solution, and it never gets to where its behaviour is not defined. -/
structure Judges (machine : Machine File Rest) (parse : Str → Option Json) (settings : Settings)
    (solution : Solution) (world : World File Rest) : Prop where
  writes : ∀ {status after}, Program.Returns
    (main machine.windows parse ((solution.job settings).arguments settings))
    ((solution.job settings).staged machine settings world) status after →
      status = 0 ∧ ∃ verdict, ReportsOn solution verdict ∧
        (machine.creatable (resultFile machine) = true →
          Has (resultFile machine) (some (textWrite (verdictText verdict))) after)
  defined : ∀ left, ¬ Program.Stops
    (main machine.windows parse ((solution.job settings).arguments settings))
    ((solution.job settings).staged machine settings world) .undefined left

/-- It does so on every solution and on whatever files there are. -/
theorem judges_staged (readable : Readable machine parse) :
    Judges machine parse settings solution world where
  writes returned := (ensures_main_staged readable).returns rfl returned
  defined _ stopped := (ensures_main_staged readable).stops rfl stopped rfl

end Staged

/-! ## Between other clients -/

/-- A `system` that splits the command line and starts the judge on its words. -/
def splits {File Rest : Type} [DecidableEq File] (machine : Machine File Rest)
    (parse : Str → Option Json) (command : Str) (world : World File Rest) : World File Rest :=
  Program.finalStore (main machine.windows parse (windowsQuoting.split command)) world

/-- It starts the judge on every job, when no blank and no quote is in the path of the judge
and in the extensions. -/
theorem startsJudge_splits {File Rest : Type} [DecidableEq File] (machine : Machine File Rest)
    (parse : Str → Option Json) {settings : Settings} (program : windowsQuoting.Word settings.chBin)
    (extensions : ∀ entry ∈ settings.clngs, ∀ letter ∈ entry.2.ext,
      letter ≠ '"' ∧ letter ≠ ' ' ∧ letter ≠ '\t') :
    StartsJudge machine parse settings (splits machine parse) where
  starts solution world := by
    intro job _
    have extension : ∀ letter ∈ solution.getSrcExt settings,
        letter ≠ '"' ∧ letter ≠ ' ' ∧ letter ≠ '\t' := by
      unfold Solution.getSrcExt Settings.clng
      cases found : settings.clngs.lookup solution.pl.identifier with
      | none => simp
      | some clng =>
          obtain ⟨front, back, listed, _⟩ := List.lookup_eq_some_iff.mp found
          have member : (solution.pl.identifier, clng) ∈ settings.clngs := by
            rw [listed]
            simp
          exact extensions _ member
    have words := (word_arguments_iff settings solution).mpr ⟨program, extension⟩
    have read : windowsQuoting.split (job.command settings) = job.arguments settings :=
      (split_command_iff settings job).mpr words
    unfold splits
    rw [read]

theorem readable_strict : Readable strictMachine Json.parse where
  creatable := rfl
  parses value := by
    have read : Json.parse (value.text ++ []) = some value := Json.parse_text value (by simp)
    rwa [List.append_nil] at read

theorem startsJudge_oneLanguage (machine : Machine Str Unit) :
    StartsJudge machine Json.parse oneLanguage (splits machine Json.parse) := by
  have program : windowsQuoting.Word "checker_rc".toList := word_iff.mpr (by simp)
  refine startsJudge_splits _ _ program fun entry listed => ?_
  obtain rfl := List.mem_singleton.mp listed
  simp

theorem judges_staged_sum :
    Judges strictMachine Json.parse oneLanguage (sumSolution 2000) ⟨pairFiles, ()⟩ :=
  judges_staged readable_strict

end CheckerOlimp.Contester
