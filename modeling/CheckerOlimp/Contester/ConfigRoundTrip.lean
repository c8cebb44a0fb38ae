import CheckerOlimp.Contester.Data
import CheckerOlimp.Judging.Serialization
import Mathlib.Data.List.Forall2

/-!
# The configuration from the contester to the judge

The contester drives a JSON writer; the judge reads the document back with
checked accessors. `Solution.json` is the value between them: the writer calls
write its text, and the accessors find every field in it. Only the widths of the
two limits differ on the two sides.
-/

namespace CheckerOlimp.Contester

open CheckerOlimp.Std CheckerOlimp.CheckerRc

/-! ## The document -/

/-- One test as a JSON value. -/
def ChTest.json (self : ChTest) : Json :=
  .object [
    ("id".toList, .number (UInt64.ofInt self.id.toInt).toNat),
    ("scores".toList, .number self.scores.toInt),
    ("input".toList, .string (cString self.input)),
    ("outputs".toList, .array [.string (cString self.output)])]

/-- The tests of all groups, in order. -/
def Task.tests (self : Task) : List ChTest := self.chgs.flatMap (·.chts)

/-- The member `config` of the problem. -/
def Solution.configJson (settings : Settings) (self : Solution) : Json :=
  .object [
    ("time_limit".toList, .number self.pt.timeLimit.toNat),
    ("memory_limit".toList, .number self.pt.memoryLimit.toNat),
    ("input".toList, .string (cString self.pt.input)),
    ("output".toList, .string (cString self.pt.output)),
    ("test_dir".toList, .string (cString (self.getTestsDir settings))),
    ("checker".toList, .string (cString self.pt.checker)),
    ("tests".toList, .array (self.pt.tests.map ChTest.json))]

/-- The configuration of a solution as a JSON value. -/
def Solution.json (settings : Settings) (self : Solution) : Json :=
  .object [
    ("problem".toList, .object [
      ("name".toList, .string (cString self.pt.title)),
      ("config".toList, self.configJson settings)]),
    ("language".toList, .object [
      ("name".toList, .string (cString self.pl.identifier)),
      ("template".toList, .string (cString (settings.clng self.pl.identifier).cmd))])]

theorem valueEvents_tests (tests : List ChTest) :
    Json.valueEvents (tests.map ChTest.json) = tests.flatMap ChTest.events :=
  Json.valueEvents_map ChTest.json tests

/-- The writer is driven along the document. -/
theorem events_json (settings : Settings) (self : Solution) :
    self.events settings = (self.json settings).events := by
  have tests : self.pt.chgs.flatMap (fun group => group.chts.flatMap ChTest.events) =
      Json.valueEvents (self.pt.tests.map ChTest.json) := by
    rw [valueEvents_tests, Task.tests, List.flatMap_assoc]
  unfold Solution.events Solution.json Solution.configJson
  simp only [tests, Json.events, Json.memberEvents, stringEvent, List.cons_append,
    List.nil_append, List.append_assoc, List.append_nil]

/-! ## The text -/

/-- The file that is written holds the text of the document. -/
theorem cfgJson_eq (settings : Settings) (self : Solution) :
    self.cfgJson settings = (self.json settings).text := by
  unfold Solution.cfgJson
  rw [events_json, Json.Writer.run_events]
  exact cString_of_plain (nul_not_mem_text _)

/-- And that is what the judge reads of it. -/
theorem read_cfgJson (settings : Settings) (self : Solution) :
    cString (textRead (self.cfgJson settings)) = (self.json settings).text := by
  rw [cfgJson_eq, textRead_of_plain (streamable_of_mem_text _)]
  exact cString_of_plain (nul_not_mem_text _)

/-! ## The accessors -/

section Access

variable {World α : Type}

/-- A checked member of an object that has it. -/
theorem checkedMember_object {members : List (Str × Json)} {name : Str} {field : Json}
    {isType : Json → Bool} {get : Json → Judge World α}
    (found : members.find? (fun member => member.1 = name) = some (name, field)) :
    checkedMember (.object members) name isType get =
      (checkerAssert (isType field) >>= fun _ => get field) := by
  have has : members.any (fun member => member.1 = name) = true := by
    have member := List.mem_of_find?_eq_some found
    exact List.any_eq_true.mpr ⟨(name, field), member, by simp⟩
  simp only [checkedMember, hasMember, getMember, has, found, pure_bind, checkerAssert_true]
  rfl

@[simp] theorem cString_cString (text : Str) : cString (cString text) = cString text := by
  unfold cString
  exact List.takeWhile_idem

/-- A checked string. -/
theorem checkedString_object {members : List (Str × Json)} {name value : Str}
    (found : members.find? (fun member => member.1 = name) = some (name, .string (cString value))) :
    (checkedMember (.object members) name isString getString : Judge World Str) =
      pure (cString value) := by
  rw [checkedMember_object found]
  simp [isString, getString]

/-- A checked array. -/
theorem checkedArray_object {members : List (Str × Json)} {name : Str} {values : List Json}
    (found : members.find? (fun member => member.1 = name) = some (name, .array values)) :
    (checkedMember (.object members) name isArray getElements : Judge World (List Json)) =
      pure values := by
  rw [checkedMember_object found]
  rfl

/-- A checked object. -/
theorem checkedObject_object {members : List (Str × Json)} {name : Str}
    {inner : List (Str × Json)}
    (found : members.find? (fun member => member.1 = name) = some (name, .object inner)) :
    (checkedMember (.object members) name isObject pure : Judge World Json) =
      pure (.object inner) := by
  rw [checkedMember_object found]
  rfl

/-- A 64-bit number that is read as one. -/
theorem checkedUint64_object {members : List (Str × Json)} {name : Str} {value : UInt64}
    (found : members.find? (fun member => member.1 = name) = some (name, .number value.toNat)) :
    (checkedMember (.object members) name isUint64 getUint64 : Judge World UInt64) =
      pure value := by
  have bounded := value.toNat_lt
  have inRange : isUint64 (.number value.toNat) = true := by
    simp only [isUint64, decide_eq_true_eq]
    omega
  rw [checkedMember_object found]
  simp only [inRange, getUint64, checkerAssert_true, pure_bind, ↓reduceIte]
  have same : UInt64.ofInt value.toNat = value := by
    apply UInt64.toNat.inj
    change ((value.toNat : Int) % 2 ^ 64).toNat % 2 ^ 64 = value.toNat
    omega
  rw [same]

/-- A signed number. -/
theorem checkedInt_object {members : List (Str × Json)} {name : Str} {value : Int32}
    (found : members.find? (fun member => member.1 = name) = some (name, .number value.toInt)) :
    (checkedMember (.object members) name isInt getInt : Judge World Int32) = pure value := by
  have inRange : isInt (.number value.toInt) = true := by
    have low := value.le_toInt
    have high := value.toInt_lt
    simp only [isInt, decide_eq_true_eq]
    omega
  rw [checkedMember_object found]
  simp [inRange, getInt]

/-- A 64-bit number that is read as a 32-bit one: it must fit. -/
theorem checkedUint_object {members : List (Str × Json)} {name : Str} {value : UInt64}
    (found : members.find? (fun member => member.1 = name) = some (name, .number value.toNat)) :
    (checkedMember (.object members) name isUint getUint : Judge World UInt32) =
      if value.toNat < 2 ^ 32 then pure value.toUInt32 else Program.stop .assertion := by
  rw [checkedMember_object found]
  by_cases small : value.toNat < 2 ^ 32
  · have inRange : isUint (.number value.toNat) = true := by
      simp only [isUint, decide_eq_true_eq]
      omega
    have same : UInt32.ofInt value.toNat = value.toUInt32 := by
      apply UInt32.toNat.inj
      change ((value.toNat : Int) % 2 ^ 32).toNat % 2 ^ 32 = value.toNat % 2 ^ 32
      omega
    simp only [inRange, getUint, checkerAssert_true, pure_bind, ↓reduceIte, small, same]
  · have outOfRange : isUint (.number value.toNat) = false := by
      simp only [isUint, decide_eq_false_iff_not]
      omega
    simp only [outOfRange, checkerAssert_false, small, ↓reduceIte]
    rfl

end Access

/-! ## Reading the document -/

section Reading

variable {World : Type}

/-- What the judge makes of one test. -/
def ChTest.decoded (testDir : Str) (self : ChTest) : TestPathNballsElement :=
  ⟨(UInt64.ofInt self.id.toInt).toUInt32, self.scores, restorePath testDir (cString self.input),
    [restorePath testDir (cString self.output)]⟩

theorem readTest_json (testDir : Str) (test : ChTest) :
    (readTest testDir test.json : Judge World TestPathNballsElement) =
      pure (test.decoded testDir) := by
  unfold readTest ChTest.json
  rw [checkedUint64_object rfl]
  simp only [pure_bind]
  rw [checkedInt_object rfl]
  simp only [pure_bind]
  rw [checkedString_object rfl]
  simp only [pure_bind]
  rw [checkedArray_object rfl]
  simp only [pure_bind]
  simp [readOutputs, isString, getString, ChTest.decoded]

/-- The tests are read in order. -/
theorem readTests_json (testDir : Str) (found : List TestPathNballsElement)
    (tests : List ChTest) :
    (readTests testDir found (tests.map ChTest.json) :
      Judge World (List TestPathNballsElement)) =
      pure (found ++ tests.map (ChTest.decoded testDir)) := by
  induction tests generalizing found with
  | nil => simp [readTests]
  | cons test rest inductionHypothesis =>
      simp only [List.map_cons, readTests, readTest_json, pure_bind, inductionHypothesis,
        List.append_assoc, List.singleton_append]

/-- What the judge makes of the document. -/
def Solution.decoded (settings : Settings) (self : Solution) : MainConfig where
  compilerCommandTemplate := cString (settings.clng self.pl.identifier).cmd
  compilerName := cString self.pl.identifier
  problem := {
    timeLimit := self.pt.timeLimit.toUInt32
    memoryLimit := self.pt.memoryLimit.toUInt32
    inputFileName := cString self.pt.input
    outputFileName := cString self.pt.output
    checkerFilePath := restorePath (cString (self.getTestsDir settings)) (cString self.pt.checker)
    testPathList := self.pt.tests.map (ChTest.decoded (cString (self.getTestsDir settings))) }

/-- The document is read when both limits fit in 32 bits, and otherwise the judge
ends at an assertion. -/
theorem readDocument_json (settings : Settings) (self : Solution) :
    (readDocument (self.json settings) : Judge World MainConfig) =
      if self.pt.timeLimit.toNat < 2 ^ 32 ∧ self.pt.memoryLimit.toNat < 2 ^ 32 then
        pure (self.decoded settings)
      else Program.stop .assertion := by
  unfold readDocument Solution.json Solution.configJson
  rw [checkedObject_object rfl]
  simp only [pure_bind]
  rw [checkedString_object rfl]
  simp only [pure_bind]
  rw [checkedObject_object rfl]
  simp only [pure_bind]
  rw [checkedUint_object rfl]
  by_cases time : self.pt.timeLimit.toNat < 2 ^ 32
  · simp only [time, ↓reduceIte, pure_bind, true_and]
    rw [checkedUint_object rfl]
    by_cases memory : self.pt.memoryLimit.toNat < 2 ^ 32
    · simp only [memory, ↓reduceIte, pure_bind]
      rw [checkedString_object rfl]
      simp only [pure_bind]
      rw [checkedString_object rfl]
      simp only [pure_bind]
      rw [checkedString_object rfl]
      simp only [pure_bind]
      rw [checkedString_object rfl]
      simp only [pure_bind]
      rw [checkedArray_object rfl]
      simp only [pure_bind, readTests_json, List.nil_append]
      rw [checkedObject_object rfl]
      simp only [pure_bind]
      rw [checkedString_object rfl]
      simp only [pure_bind]
      rw [checkedString_object rfl]
      rfl
    · simp only [memory, ↓reduceIte]
      rfl
  · simp only [time, ↓reduceIte, false_and]
    rfl

end Reading

/-! ## The round trip -/

/-- An element that stands for a test: same number, same score, and the paths of its
two files. -/
structure TestAgrees (testDir : Str) (test : ChTest) (element : TestPathNballsElement) : Prop where
  id : (element.id.toNat : Int) = test.id.toInt
  scores : element.scores = test.scores
  questFile : element.questFile = restorePath testDir test.input
  answerPathList : element.answerPathList = [restorePath testDir test.output]

/-- A configuration that stands for a solution. -/
structure ConfigAgrees (settings : Settings) (solution : Solution) (config : MainConfig) :
    Prop where
  timeLimit : config.problem.timeLimit.toNat = solution.pt.timeLimit.toNat
  memoryLimit : config.problem.memoryLimit.toNat = solution.pt.memoryLimit.toNat
  inputFileName : config.problem.inputFileName = solution.pt.input
  outputFileName : config.problem.outputFileName = solution.pt.output
  checkerFilePath : config.problem.checkerFilePath =
    restorePath (solution.getTestsDir settings) solution.pt.checker
  compilerName : config.compilerName = solution.pl.identifier
  compilerCommandTemplate : config.compilerCommandTemplate =
    (settings.clng solution.pl.identifier).cmd
  tests : List.Forall₂ (TestAgrees (solution.getTestsDir settings)) solution.pt.tests
    config.problem.testPathList

/-- All strings that go into the configuration. -/
def Solution.strings (settings : Settings) (self : Solution) : List Str :=
  [self.pt.title, self.pt.input, self.pt.output, self.pt.checker, self.pl.identifier,
    (settings.clng self.pl.identifier).cmd, settings.testsDir] ++
  self.pt.tests.flatMap fun test => [test.input, test.output]

/-- A decimal has no NUL. -/
theorem nul_not_mem_toString (value : Int32) : '\x00' ∉ toString value := fun member =>
  absurd (Json.printable_of_structural (Json.structural_of_mem_decimal member)) (by decide)

/-- So the directory of the tests has none either. -/
theorem getTestsDir_plain {settings : Settings} {self : Solution}
    (plain : '\x00' ∉ settings.testsDir) : '\x00' ∉ self.getTestsDir settings := by
  simp [Solution.getTestsDir, plain, nul_not_mem_toString]

/-- A non-negative `int` survives its conversions. -/
theorem toNat_ofInt_of_nonneg {value : Int32} (nonneg : 0 ≤ value.toInt) :
    ((UInt64.ofInt value.toInt).toUInt32.toNat : Int) = value.toInt := by
  have high := value.toInt_lt
  change (((value.toInt % 2 ^ 64).toNat % 2 ^ 64 % 2 ^ 32 : Nat) : Int) = value.toInt
  omega

theorem testAgrees_decoded {testDir : Str} {test : ChTest} (nonneg : 0 ≤ test.id.toInt)
    (input : '\x00' ∉ test.input) (output : '\x00' ∉ test.output) :
    TestAgrees testDir test (test.decoded testDir) where
  id := toNat_ofInt_of_nonneg nonneg
  scores := rfl
  questFile := by rw [ChTest.decoded, cString_of_plain input]
  answerPathList := by rw [ChTest.decoded, cString_of_plain output]

/-- What is read stands for the solution, within the range of the limits. -/
theorem configAgrees_decoded {settings : Settings} {solution : Solution}
    (plain : ∀ string ∈ solution.strings settings, '\x00' ∉ string)
    (nonneg : ∀ test ∈ solution.pt.tests, 0 ≤ test.id.toInt)
    (time : solution.pt.timeLimit.toNat < 2 ^ 32)
    (memory : solution.pt.memoryLimit.toNat < 2 ^ 32) :
    ConfigAgrees settings solution (solution.decoded settings) := by
  have testDir : cString (solution.getTestsDir settings) = solution.getTestsDir settings :=
    cString_of_plain (getTestsDir_plain (plain _ (by simp [Solution.strings])))
  have same : ∀ string ∈ solution.strings settings, cString string = string :=
    fun string member => cString_of_plain (plain string member)
  constructor
  · change solution.pt.timeLimit.toNat % 2 ^ 32 = _
    omega
  · change solution.pt.memoryLimit.toNat % 2 ^ 32 = _
    omega
  · exact same _ (by simp [Solution.strings])
  · exact same _ (by simp [Solution.strings])
  · change restorePath _ (cString solution.pt.checker) = _
    rw [testDir, same _ (by simp [Solution.strings])]
  · exact same _ (by simp [Solution.strings])
  · exact same _ (by simp [Solution.strings])
  · change List.Forall₂ _ _ (solution.pt.tests.map (ChTest.decoded _))
    rw [testDir, List.forall₂_map_right_iff]
    refine List.forall₂_same.mpr fun test member => ?_
    have listed : ∀ string ∈ [test.input, test.output], string ∈ solution.strings settings := by
      intro string inside
      exact List.mem_append_right _ (List.mem_flatMap.mpr ⟨test, member, inside⟩)
    exact testAgrees_decoded (nonneg test member)
      (plain _ (listed _ List.mem_cons_self))
      (plain _ (listed _ (List.mem_cons_of_mem _ List.mem_cons_self)))

variable {File Rest Database : Type} [DecidableEq File]

/-- The configuration that the contester writes is read by the judge, and stands for
the solution. -/
def RoundTrips (host : Host File Rest Database) (parse : Str → Option Json) (settings : Settings)
    (solution : Solution) (name : Str) (before : Site File Rest Database) : Prop :=
  ∃ written config read,
    Program.Returns (solution.createCfgJson host settings name) before name written ∧
    Program.Returns (readMainConfig host.machine.windows parse name) written.world config read ∧
    ConfigAgrees settings solution config

/-- The judge reads the document from the file that the contester has written. -/
theorem returns_readMainConfig_iff {machine : Machine File Rest} {parse : Str → Option Json}
    {settings : Settings} {solution : Solution} {name : Str} {world read : World File Rest}
    {config : MainConfig}
    (file : world.files (machine.fileOf name) = some (solution.cfgJson settings))
    (parses : parse (solution.json settings).text = some (solution.json settings)) :
    Program.Returns (readMainConfig machine.windows parse name) world config read ↔
      Program.Returns (readDocument (solution.json settings)) world config read := by
  simp only [readMainConfig, Program.returns_bind_iff, Program.returns_call_iff,
    Machine.windows_ifstream, file, Option.map_some, Program.returns_ofOption_iff]
  constructor
  · rintro ⟨_, _, opened, content, _, ⟨rfl, rfl⟩, document, _, ⟨parsed, rfl⟩, returned⟩
    cases opened
    rw [read_cfgJson, parses] at parsed
    cases parsed
    exact returned
  · intro returned
    exact ⟨_, _, rfl, _, _, ⟨rfl, rfl⟩, _, _, ⟨by rw [read_cfgJson, parses], rfl⟩, returned⟩

/-- What is read has passed the reader's checks on the limits. -/
theorem limits_of_roundTrips {host : Host File Rest Database} {parse : Str → Option Json}
    {settings : Settings} {solution : Solution} {name : Str} {before : Site File Rest Database}
    (creatable : host.machine.creatable (host.machine.fileOf name) = true)
    (parses : parse (solution.json settings).text = some (solution.json settings))
    (agrees : RoundTrips host parse settings solution name before) :
    solution.pt.timeLimit.toNat < 2 ^ 32 ∧ solution.pt.memoryLimit.toNat < 2 ^ 32 := by
  have file := Machine.writeBinary_files_self creatable (solution.cfgJson settings) before.world
  obtain ⟨written, config, read, writes, reads, _⟩ := agrees
  simp only [Solution.createCfgJson, Program.returns_bind_iff, Contest.returns_onFiles_iff,
    Program.returns_pure_iff] at writes
  obtain ⟨_, _, ⟨_, rfl⟩, _, rfl⟩ := writes
  rw [returns_readMainConfig_iff file parses, readDocument_json] at reads
  by_contra large
  rw [if_neg large] at reads
  exact Program.not_returns_stop reads

/-- Writer and reader agree exactly when both limits fit in the 32 bits that the
reader demands. -/
theorem roundTrips_iff {host : Host File Rest Database} {parse : Str → Option Json}
    {settings : Settings} {solution : Solution} {name : Str} {before : Site File Rest Database}
    (creatable : host.machine.creatable (host.machine.fileOf name) = true)
    (parses : parse (solution.json settings).text = some (solution.json settings))
    (plain : ∀ string ∈ solution.strings settings, '\x00' ∉ string)
    (nonneg : ∀ test ∈ solution.pt.tests, 0 ≤ test.id.toInt) :
    RoundTrips host parse settings solution name before ↔
      solution.pt.timeLimit.toNat < 2 ^ 32 ∧ solution.pt.memoryLimit.toNat < 2 ^ 32 := by
  refine ⟨limits_of_roundTrips creatable parses, ?_⟩
  rintro ⟨time, memory⟩
  have file := Machine.writeBinary_files_self creatable (solution.cfgJson settings) before.world
  have reads : Program.Returns (readMainConfig host.machine.windows parse name)
      (host.machine.writeBinary name (solution.cfgJson settings) before.world)
      (solution.decoded settings)
      (host.machine.writeBinary name (solution.cfgJson settings) before.world) := by
    rw [returns_readMainConfig_iff file parses, readDocument_json, if_pos ⟨time, memory⟩]
    rfl
  exact ⟨⟨_, before.database⟩, _, _, rfl, reads, configAgrees_decoded plain nonneg time memory⟩

/-! ## A limit of 33 bits -/

/-- One language. -/
def oneLanguage : Settings :=
  ⟨"checker_rc".toList, "C:\\tests\\".toList,
    [("mingw_cpp".toList, ⟨".cpp".toList, "g $1 $2".toList⟩)]⟩

/-- A solution of a task with one group of one test. -/
def sumSolution (timeLimit : UInt64) : Solution where
  pt := {
    chgs := [⟨[⟨1, 5, "q1".toList, "a1".toList⟩]⟩]
    cid := 3
    timeLimit := timeLimit
    memoryLimit := 65536
    title := "sum".toList
    input := "in".toList
    output := "out".toList
    checker := "check.exe".toList }
  pl := ⟨"mingw_cpp".toList⟩
  id := 7
  tid := 12
  code := []
  result := []

/-- A host of the contester on the machine of the pair. -/
def idleHost : Host Str Unit Unit := ⟨pairMachine, fun _ world => world, ⟨fun _ _ => .ok ()⟩⟩

/-- A parser of the configuration of `sumSolution`. -/
def sumParse (timeLimit : UInt64) (text : Str) : Option Json :=
  if text = ((sumSolution timeLimit).json oneLanguage).text then
    some ((sumSolution timeLimit).json oneLanguage)
  else none

/-- A limit of 33 bits is written and not read. -/
theorem longLimit_not_roundTrips :
    ¬ ∀ (host : Host Str Unit Unit) (parse : Str → Option Json) (settings : Settings)
        (solution : Solution) (name : Str) (before : Site Str Unit Unit),
      host.machine.creatable (host.machine.fileOf name) = true →
      parse (solution.json settings).text = some (solution.json settings) →
      (∀ string ∈ solution.strings settings, '\x00' ∉ string) →
      (∀ test ∈ solution.pt.tests, 0 ≤ test.id.toInt) →
      (settings.clngs.lookup solution.pl.identifier).isSome →
      RoundTrips host parse settings solution name before := by
  intro always
  have agrees := always idleHost (sumParse 4294967296) oneLanguage (sumSolution 4294967296)
    "solution.json".toList ⟨⟨pairFiles, ()⟩, ()⟩ rfl (if_pos rfl) (by decide) (by decide)
    (by decide)
  have small := (limits_of_roundTrips rfl (if_pos rfl) agrees).1
  exact absurd small (by decide)

/-- A limit of two seconds. -/
theorem roundTrips_iff_sum :
    RoundTrips idleHost (sumParse 2000) oneLanguage (sumSolution 2000) "solution.json".toList
        ⟨⟨pairFiles, ()⟩, ()⟩ ↔
      (sumSolution 2000).pt.timeLimit.toNat < 2 ^ 32 ∧
        (sumSolution 2000).pt.memoryLimit.toNat < 2 ^ 32 :=
  roundTrips_iff rfl (if_pos rfl) (by decide) (by decide)

end CheckerOlimp.Contester
