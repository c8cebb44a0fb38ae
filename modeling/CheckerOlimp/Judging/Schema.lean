import CheckerOlimp.Judging.Sampling
import CheckerOlimp.Std.JsonParser

/-!
# Which configurations are read

`Conforms` is the schema of a configuration, independent of the reader. `Decides`
follows the reader through its checks: a part of it is either safe, and then returns
on a document that conforms and fails at an assertion on any other, or makes an
access without its precondition. The checks on the elements of `tests` and on the
document itself are the ones that are missing.
-/

namespace CheckerOlimp.CheckerRc

open CheckerOlimp.Std

/-! ## The schema -/

/-- The first member of a name. -/
def member (value : Json) (name : Str) : Option Json :=
  match value with
  | .object members => (members.find? fun member => member.1 = name).map (·.2)
  | _ => none

/-- The value has a member of a type. -/
def HasField (value : Json) (name : Str) (isType : Json → Bool) : Prop :=
  ∃ field, member value name = some field ∧ isType field = true

/-- The outputs of a test, when they are an array, are strings. -/
def OutputsMatch (test : Json) : Prop :=
  ∀ outputs, member test "outputs".toList = some (.array outputs) →
    ∀ output ∈ outputs, isString output = true

/-- An element of `tests`. -/
structure TestMatches (test : Json) : Prop where
  id : HasField test "id".toList isUint64
  scores : HasField test "scores".toList isInt
  input : HasField test "input".toList isString
  outputs : HasField test "outputs".toList isArray
  outputsMatch : OutputsMatch test

/-- The object `language`. -/
structure LanguageMatches (language : Json) : Prop where
  name : HasField language "name".toList isString
  template : HasField language "template".toList isString

/-- The members of `config` beside the tests themselves. -/
structure ConfigMatches (config : Json) : Prop where
  timeLimit : HasField config "time_limit".toList isUint
  memoryLimit : HasField config "memory_limit".toList isUint
  input : HasField config "input".toList isString
  output : HasField config "output".toList isString
  testDir : HasField config "test_dir".toList isString
  checker : HasField config "checker".toList isString
  tests : HasField config "tests".toList isArray

/-- Everything that stands before the tests matches. -/
def PreambleMatches (document : Json) : Prop :=
  ∃ problem config, member document "problem".toList = some problem ∧ isObject problem = true ∧
    HasField problem "name".toList isString ∧
    member problem "config".toList = some config ∧ isObject config = true ∧ ConfigMatches config

/-- The elements of `tests`. -/
def testsOf (document : Json) : List Json :=
  match (member document "problem".toList).bind fun problem =>
    (member problem "config".toList).bind fun config => member config "tests".toList with
  | some (.array tests) => tests
  | _ => []

/-- The member `language` of the document is as it should be. -/
def LanguageConforms (document : Json) : Prop :=
  HasField document "language".toList isObject ∧
    ∀ language, member document "language".toList = some language → LanguageMatches language

/-- The schema of a configuration. -/
structure Conforms (document : Json) : Prop where
  preamble : PreambleMatches document
  tests : ∀ test ∈ testsOf document, TestMatches test
  language : LanguageConforms document

/-! ## Following the reader -/

section Deciding

variable {World α β : Type}

/-- How a part of the reader ends: an access without its precondition where it is not
safe, and otherwise a value where `good` holds and a failed assertion where it does not. -/
inductive Decides (program : Judge World α) (safe good : Prop) : Prop
  | returns (value : α) (same : program = pure value) (isSafe : safe) (isGood : good)
  | asserts (same : program = Program.stop .assertion) (isSafe : safe) (notGood : ¬ good)
  | undefined (same : program = Program.stop .undefined) (notSafe : ¬ safe)

/-- The same decision in other words. -/
theorem Decides.congr {program : Judge World α} {safe good safe' good' : Prop}
    (decided : Decides program safe good) (sameSafe : safe ↔ safe') (sameGood : good ↔ good') :
    Decides program safe' good' :=
  propext sameSafe ▸ propext sameGood ▸ decided

theorem stop_bind (reason : Halt) (rest : α → Judge World β) :
    ((Program.stop reason : Judge World α) >>= rest) = Program.stop reason := rfl

theorem decides_pure (value : α) : Decides (pure value : Judge World α) True True :=
  .returns value rfl trivial trivial

theorem Decides.bind {program : Judge World α} {rest : α → Judge World β}
    {safe good safe' good' : Prop} (first : Decides program safe good)
    (second : ∀ value, good → Decides (rest value) safe' good') :
    Decides (program >>= rest) (safe ∧ (good → safe')) (good ∧ good') := by
  cases first with
  | returns value same isSafe isGood =>
      rw [same, pure_bind]
      exact (second value isGood).congr (by simp [isSafe, isGood]) (by simp [isGood])
  | asserts same isSafe notGood =>
      rw [same, stop_bind]
      exact .asserts rfl ⟨isSafe, fun good => absurd good notGood⟩ fun both => notGood both.1
  | undefined same notSafe =>
      rw [same, stop_bind]
      exact .undefined rfl fun both => notSafe both.1

theorem decides_checkerAssert (expression : Bool) :
    Decides (checkerAssert expression : Judge World Unit) True (expression = true) := by
  cases expression with
  | false => exact .asserts rfl trivial (by decide)
  | true => exact .returns () rfl trivial rfl

/-- An accessor that returns on every value of its type. -/
def Total (isType : Json → Bool) (get : Json → Judge World α) : Prop :=
  ∀ field, isType field = true → ∃ value, get field = pure value

theorem total_getString : Total isString (getString : Json → Judge World Str) := by
  intro field isType
  cases field with
  | string value => exact ⟨cString value, rfl⟩
  | _ => cases isType

theorem total_getUint : Total isUint (getUint : Json → Judge World UInt32) := by
  intro field isType
  cases field with
  | number value => exact ⟨UInt32.ofInt value, by simp [getUint, isType]⟩
  | _ => cases isType

theorem total_getUint64 : Total isUint64 (getUint64 : Json → Judge World UInt64) := by
  intro field isType
  cases field with
  | number value => exact ⟨UInt64.ofInt value, by simp [getUint64, isType]⟩
  | _ => cases isType

theorem total_getInt : Total isInt (getInt : Json → Judge World Int32) := by
  intro field isType
  cases field with
  | number value => exact ⟨Int32.ofInt value, by simp [getInt, isType]⟩
  | _ => cases isType

/-- A checked member of a value that may not be an object. -/
theorem checkedMember_eq (value : Json) (name : Str) (isType : Json → Bool)
    (get : Json → Judge World α) :
    checkedMember value name isType get =
      if isObject value then
        match member value name with
        | some field => if isType field then get field else Program.stop .assertion
        | none => Program.stop .assertion
      else Program.stop .undefined := by
  cases value with
  | object members =>
      simp only [checkedMember, hasMember, getMember, member, isObject, ↓reduceIte, pure_bind]
      cases found : members.find? (fun member => member.1 = name) with
      | none =>
          have absent : members.any (fun member => member.1 = name) = false := by
            simpa [List.find?_eq_none] using found
          simp only [absent, checkerAssert_false, stop_bind, Option.map_none]
      | some entry =>
          have present : members.any (fun member => member.1 = name) = true := by
            have holds := List.find?_some found
            exact List.any_eq_true.mpr ⟨entry, List.mem_of_find?_eq_some found, holds⟩
          simp only [present, checkerAssert_true, pure_bind, Option.map_some, Program.ofOption]
          cases isType entry.2 with
          | false => simp only [checkerAssert_false, stop_bind, Bool.false_eq_true, ↓reduceIte]
          | true => simp only [checkerAssert_true, pure_bind, ↓reduceIte]
  | _ => rfl

/-- A checked member of an object, and what follows it. -/
theorem Decides.checked {value : Json} {name : Str} {isType : Json → Bool}
    {get : Json → Judge World α} {rest : α → Judge World β} {safe good : Prop}
    (object : isObject value = true)
    (next : ∀ field, member value name = some field → isType field = true →
      Decides (get field >>= rest) safe good) :
    Decides (checkedMember value name isType get >>= rest) (HasField value name isType → safe)
      (HasField value name isType ∧ good) := by
  have unfolded := checkedMember_eq value name isType get
  rw [if_pos object] at unfolded
  rw [unfolded]
  have fails : ¬ HasField value name isType →
      Decides (Program.stop .assertion : Judge World β) (HasField value name isType → safe)
        (HasField value name isType ∧ good) := fun absent =>
    .asserts rfl (fun found => absurd found absent) fun both => absent both.1
  cases found : member value name with
  | none =>
      refine fails ?_
      rintro ⟨field, same, _⟩
      rw [found] at same
      cases same
  | some field =>
      by_cases typed : isType field = true
      · have present : HasField value name isType := ⟨field, found, typed⟩
        simp only [if_pos typed]
        exact (next field found typed).congr (by simp [present]) (by simp [present])
      · simp only [if_neg typed]
        refine fails ?_
        rintro ⟨other, same, isType'⟩
        rw [found] at same
        cases same
        exact typed isType'

/-- A checked member whose value plays no part in what is checked later. -/
theorem Decides.scalar {value : Json} {name : Str} {isType : Json → Bool}
    {get : Json → Judge World α} {rest : α → Judge World β} {safe good : Prop}
    (object : isObject value = true) (total : Total isType get)
    (next : ∀ result, HasField value name isType → Decides (rest result) safe good) :
    Decides (checkedMember value name isType get >>= rest) (HasField value name isType → safe)
      (HasField value name isType ∧ good) := by
  refine Decides.checked object fun field found typed => ?_
  obtain ⟨result, returned⟩ := total field typed
  rw [returned, pure_bind]
  exact next result ⟨field, found, typed⟩

/-- Nothing is safe when a member of another value is asked for. -/
theorem Decides.notObject {value : Json} {name : Str} {isType : Json → Bool}
    {get : Json → Judge World α} {rest : α → Judge World β} {safe : Prop} (good : Prop)
    (other : isObject value ≠ true) (unsafeHere : ¬ safe) :
    Decides (checkedMember value name isType get >>= rest) safe good := by
  rw [checkedMember_eq, if_neg other, stop_bind]
  exact .undefined rfl unsafeHere

end Deciding

/-! ## The decisions of the readers -/

section Readers

variable {World : Type}

/-- The loop over the outputs accepts strings. -/
theorem readOutputs_decides (testDir : Str) (answerPathList : List Str) (outputs : List Json) :
    Decides (readOutputs testDir answerPathList outputs : Judge World (List Str)) True
      (∀ output ∈ outputs, isString output = true) := by
  induction outputs generalizing answerPathList with
  | nil => exact (decides_pure answerPathList).congr Iff.rfl (by simp)
  | cons output rest inductionHypothesis =>
      have next : ∀ _ : Unit, isString output = true → Decides (getString output >>= fun path =>
          readOutputs testDir (answerPathList ++ [restorePath testDir path]) rest :
            Judge World (List Str)) True (∀ output ∈ rest, isString output = true) := by
        intro _ typed
        obtain ⟨path, read⟩ : ∃ path, (getString output : Judge World Str) = pure path :=
          total_getString output typed
        rw [read, pure_bind]
        exact inductionHypothesis _
      rw [readOutputs]
      exact ((decides_checkerAssert (isString output)).bind next).congr (by simp)
        (by rw [List.forall_mem_cons])

theorem outputsMatch_iff {test : Json} {outputs : List Json}
    (found : member test "outputs".toList = some (.array outputs)) :
    OutputsMatch test ↔ ∀ output ∈ outputs, isString output = true := by
  unfold OutputsMatch
  rw [found]
  constructor
  · intro strings
    exact strings outputs rfl
  · rintro strings other ⟨⟩
    exact strings

/-- A test is read safely when it is an object, and returns when it matches. -/
theorem readTest_decides (testDir : Str) (test : Json) :
    Decides (readTest testDir test : Judge World TestPathNballsElement) (isObject test = true)
      (TestMatches test) := by
  by_cases object : isObject test = true
  · have outputs : ∀ (id : UInt64) (scores : Int32) (input : Str) (field : Json),
        member test "outputs".toList = some field → isArray field = true →
        Decides (do
          let outputs ← getElements field
          let answerPathList ← readOutputs testDir [] outputs
          pure ⟨id.toUInt32, scores, restorePath testDir input, answerPathList⟩ :
            Judge World TestPathNballsElement) True (OutputsMatch test) := by
      intro id scores input field found typed
      cases field with
      | array outputs =>
          have next : ∀ answerPathList : List Str, (∀ output ∈ outputs, isString output = true) →
              Decides (pure ⟨id.toUInt32, scores, restorePath testDir input, answerPathList⟩ :
                Judge World TestPathNballsElement) True True := fun _ _ => decides_pure _
          refine ((readOutputs_decides testDir [] outputs).bind next).congr (by simp) ?_
          rw [and_true, outputsMatch_iff found]
      | _ => cases typed
    refine (Decides.scalar object total_getUint64 fun id _ => Decides.scalar object total_getInt
      fun scores _ => Decides.scalar object total_getString fun input _ => Decides.checked object
        (outputs id scores input)).congr (by simp [object]) ?_
    constructor
    · rintro ⟨id, scores, input, outputs, outputsMatch⟩
      exact ⟨id, scores, input, outputs, outputsMatch⟩
    · rintro ⟨id, scores, input, outputs, outputsMatch⟩
      exact ⟨id, scores, input, outputs, outputsMatch⟩
  · exact Decides.notObject _ object object

/-- The first test that does not match is an object. -/
def Guarded : List Json → Prop
  | [] => True
  | test :: rest => isObject test = true ∧ (TestMatches test → Guarded rest)

/-- The tests are read safely while they are guarded. -/
theorem readTests_decides (testDir : Str) (testPathList : List TestPathNballsElement)
    (tests : List Json) :
    Decides (readTests testDir testPathList tests : Judge World (List TestPathNballsElement))
      (Guarded tests) (∀ test ∈ tests, TestMatches test) := by
  induction tests generalizing testPathList with
  | nil => exact (decides_pure testPathList).congr Iff.rfl (by simp)
  | cons test rest inductionHypothesis =>
      rw [readTests]
      refine ((readTest_decides testDir test).bind fun element _ =>
        inductionHypothesis (testPathList ++ [element])).congr Iff.rfl ?_
      rw [List.forall_mem_cons]

/-- The document is read safely when it is an object with guarded tests. -/
structure Checked (document : Json) : Prop where
  object : isObject document = true
  guarded : PreambleMatches document → Guarded (testsOf document)

/-- What the preamble needs of a problem. -/
theorem PreambleMatches.problem {document problem : Json} (preamble : PreambleMatches document)
    (found : member document "problem".toList = some problem) :
    HasField problem "name".toList isString ∧ HasField problem "config".toList isObject := by
  obtain ⟨other, config, found', _, name, configFound, object, _⟩ := preamble
  rw [found] at found'
  cases found'
  exact ⟨name, config, configFound, object⟩

/-- What the preamble needs of a configuration. -/
theorem PreambleMatches.config {document problem config : Json}
    (preamble : PreambleMatches document)
    (found : member document "problem".toList = some problem)
    (configFound : member problem "config".toList = some config) : ConfigMatches config := by
  obtain ⟨other, other', found', _, _, configFound', _, matched⟩ := preamble
  rw [found] at found'
  cases found'
  rw [configFound] at configFound'
  cases configFound'
  exact matched

theorem testsOf_eq {document problem config : Json} {tests : List Json}
    (found : member document "problem".toList = some problem)
    (configFound : member problem "config".toList = some config)
    (testsFound : member config "tests".toList = some (.array tests)) :
    testsOf document = tests := by
  simp only [testsOf, found, Option.bind_some, configFound, testsFound]

/-- A check that the preamble needs is part of the schema, and a document that fails it
has been read safely. -/
theorem Decides.needed {α : Type} {program : Judge World α} {document : Json} {need : Prop}
    (object : isObject document = true) (implied : PreambleMatches document → need)
    (decided : Decides program (need → Checked document) (need ∧ Conforms document)) :
    Decides program (Checked document) (Conforms document) := by
  refine decided.congr ⟨fun checked => ?_, fun checked _ => checked⟩
    ⟨And.right, fun conforms => ⟨implied conforms.preamble, conforms⟩⟩
  refine ⟨object, fun preamble => ?_⟩
  exact (checked (implied preamble)).guarded preamble

/-- From the tests on. -/
theorem readRest_decides {document : Json} (object : isObject document = true)
    (preamble : PreambleMatches document) (testDir : Str)
    (make : List TestPathNballsElement → Str → Str → MainConfig) :
    Decides (do
      let testPathList ← readTests testDir [] (testsOf document)
      let language ← checkedMember document "language".toList isObject pure
      let compilerName ← checkedMember language "name".toList isString getString
      let compilerCommandTemplate ← checkedMember language "template".toList isString getString
      pure (make testPathList compilerName compilerCommandTemplate) : Judge World MainConfig)
      (Checked document) (Conforms document) := by
  have languageDecides : ∀ testPathList : List TestPathNballsElement, Decides (do
      let language ← checkedMember document "language".toList isObject pure
      let compilerName ← checkedMember language "name".toList isString getString
      let compilerCommandTemplate ← checkedMember language "template".toList isString getString
      pure (make testPathList compilerName compilerCommandTemplate) : Judge World MainConfig) True
      (LanguageConforms document) := by
    intro testPathList
    refine Decides.congr (?_ : Decides _ (HasField document "language".toList isObject → True)
      (LanguageConforms document)) (by simp) Iff.rfl
    refine Decides.checked object fun language found languageObject => ?_
    rw [pure_bind]
    refine (Decides.scalar languageObject total_getString fun _ _ => Decides.scalar languageObject
      total_getString fun _ _ => decides_pure _).congr (by simp) ?_
    constructor
    · rintro ⟨name, template, _⟩ other found'
      cases found.symm.trans found'
      exact ⟨name, template⟩
    · intro all
      obtain ⟨name, template⟩ := all language found
      exact ⟨name, template, trivial⟩
  refine ((readTests_decides testDir [] (testsOf document)).bind fun testPathList _ =>
    languageDecides testPathList).congr ?_ ?_
  · exact ⟨fun both => ⟨object, fun _ => both.1⟩,
      fun checked => ⟨checked.guarded preamble, by simp⟩⟩
  · exact ⟨fun both => ⟨preamble, both.1, both.2⟩, fun conforms => ⟨conforms.tests,
      conforms.language⟩⟩

/-- The document is read safely when it is checked, and returns when it conforms. -/
theorem readDocument_decides (document : Json) :
    Decides (readDocument document : Judge World MainConfig) (Checked document)
      (Conforms document) := by
  unfold readDocument
  by_cases object : isObject document = true
  · refine .needed object (fun ⟨problem, _, found, isProblem, _⟩ => ⟨problem, found, isProblem⟩)
      (Decides.checked object fun problem found problemObject => ?_)
    rw [pure_bind]
    refine .needed object (fun preamble => (preamble.problem found).1)
      (Decides.scalar problemObject total_getString fun _ name => ?_)
    refine .needed object (fun preamble => (preamble.problem found).2)
      (Decides.checked problemObject fun config configFound configObject => ?_)
    rw [pure_bind]
    have matched : PreambleMatches document → ConfigMatches config := fun preamble =>
      preamble.config found configFound
    refine .needed object (fun preamble => (matched preamble).timeLimit)
      (Decides.scalar configObject total_getUint fun timeLimit isTime => ?_)
    refine .needed object (fun preamble => (matched preamble).memoryLimit)
      (Decides.scalar configObject total_getUint fun memoryLimit isMemory => ?_)
    refine .needed object (fun preamble => (matched preamble).input)
      (Decides.scalar configObject total_getString fun inputFileName isInput => ?_)
    refine .needed object (fun preamble => (matched preamble).output)
      (Decides.scalar configObject total_getString fun outputFileName isOutput => ?_)
    refine .needed object (fun preamble => (matched preamble).testDir)
      (Decides.scalar configObject total_getString fun testDir isTestDir => ?_)
    refine .needed object (fun preamble => (matched preamble).checker)
      (Decides.scalar configObject total_getString fun checker isChecker => ?_)
    refine .needed object (fun preamble => (matched preamble).tests)
      (Decides.checked configObject fun field testsFound typed => ?_)
    cases field with
    | array tests =>
        have preamble : PreambleMatches document := ⟨problem, config, found, problemObject, name,
          configFound, configObject, isTime, isMemory, isInput, isOutput, isTestDir, isChecker,
          _, testsFound, typed⟩
        have same := testsOf_eq found configFound testsFound
        subst same
        exact readRest_decides object preamble testDir _
    | _ => cases typed
  · exact Decides.notObject _ object fun checked => object checked.object

end Readers

/-! ## The whole reader -/

section Whole

variable {World : Type} {windows : Windows World} {parse : Str → Option Json}
  {mainConfigFilePath content : Str} {before opened : World}

/-- The text that the parser is given is a configuration. -/
def TextConforms (parse : Str → Option Json) (content : Str) : Prop :=
  ∃ document, parse (cString content) = some document ∧ Conforms document

/-- The reader makes no access without its precondition, returns on exactly the texts that
conform, and fails at an assertion on all others. -/
structure ReadsSchema (windows : Windows World) (parse : Str → Option Json)
    (mainConfigFilePath content : Str) (before : World) : Prop where
  safe : ∀ after, ¬ Program.Stops (readMainConfig windows parse mainConfigFilePath) before
    .undefined after
  returns_iff : (∃ config after, Program.Returns (readMainConfig windows parse mainConfigFilePath)
    before config after) ↔ TextConforms parse content
  asserts : ¬ TextConforms parse content → ∃ after, Program.Stops
    (readMainConfig windows parse mainConfigFilePath) before .assertion after

/-- With the file open, the reader is what it does to the document. -/
theorem run_readMainConfig (file : windows.ifstream mainConfigFilePath before =
    (some content, opened)) :
    (readMainConfig windows parse mainConfigFilePath).run before =
      (Program.ofOption .undefined (parse (cString content)) >>= readDocument).run opened := by
  unfold readMainConfig
  rw [EStateM.run_bind, Program.run_call, file]
  rfl

/-- A text on which the reader follows the schema parses to a checked document. -/
theorem checked_of_readsSchema (file : windows.ifstream mainConfigFilePath before =
    (some content, opened)) (reads : ReadsSchema windows parse mainConfigFilePath content before) :
    ∃ document, parse (cString content) = some document ∧ Checked document := by
  have run : (readMainConfig windows parse mainConfigFilePath).run before =
      (Program.ofOption .undefined (parse (cString content)) >>= readDocument).run opened :=
    run_readMainConfig file
  cases parsed : parse (cString content) with
  | none =>
      rw [parsed] at run
      exact absurd run (reads.safe opened)
  | some document =>
      refine ⟨document, rfl, ?_⟩
      rw [parsed] at run
      have decided : Decides (readDocument document : Judge World MainConfig) (Checked document)
        (Conforms document) := readDocument_decides document
      cases decided with
      | returns _ _ isSafe _ => exact isSafe
      | asserts _ isSafe _ => exact isSafe
      | undefined same _ =>
          rw [Program.ofOption, pure_bind, same] at run
          exact absurd run (reads.safe opened)

/-- The reader follows the schema exactly on the texts that parse to a checked document:
an object, in which no element of `tests` but an object is the first that does not match. -/
theorem readsSchema_iff (file : windows.ifstream mainConfigFilePath before =
    (some content, opened)) :
    ReadsSchema windows parse mainConfigFilePath content before ↔
      ∃ document, parse (cString content) = some document ∧ Checked document := by
  have run : (readMainConfig windows parse mainConfigFilePath).run before =
      (Program.ofOption .undefined (parse (cString content)) >>= readDocument).run opened :=
    run_readMainConfig file
  constructor
  · exact checked_of_readsSchema file
  · rintro ⟨document, parsed, checked⟩
    have conforms_iff : TextConforms parse content ↔ Conforms document := by
      constructor
      · rintro ⟨other, parsed', conforms⟩
        cases parsed.symm.trans parsed'
        exact conforms
      · intro conforms
        exact ⟨document, parsed, conforms⟩
    rw [parsed, Program.ofOption, pure_bind] at run
    have decided : Decides (readDocument document : Judge World MainConfig) (Checked document)
      (Conforms document) := readDocument_decides document
    cases decided with
    | returns config same _ isGood =>
        rw [same] at run
        have returned : Program.Returns (readMainConfig windows parse mainConfigFilePath) before
            config opened := run
        refine ⟨fun after stopped => stopped.not_returns returned, ?_, ?_⟩
        · rw [conforms_iff]
          exact ⟨fun _ => isGood, fun _ => ⟨config, opened, returned⟩⟩
        · rw [conforms_iff]
          exact fun notGood => absurd isGood notGood
    | asserts same _ notGood =>
        rw [same] at run
        have stopped : Program.Stops (readMainConfig windows parse mainConfigFilePath) before
            .assertion opened := run
        refine ⟨fun after undefined => ?_, ?_, fun _ => ⟨opened, stopped⟩⟩
        · unfold Program.Stops at stopped undefined
          rw [stopped] at undefined
          cases undefined
        · rw [conforms_iff]
          refine ⟨?_, fun good => absurd good notGood⟩
          rintro ⟨config, after, returned⟩
          exact absurd returned stopped.not_returns
    | undefined _ notSafe => exact absurd checked notSafe

end Whole

/-! ## Documents that are no objects -/

/-- An environment in which every file has the same content. -/
def fileWindows (content : Str) : Windows Unit :=
  { quietWindows ⟨0, []⟩ with ifstream := fun _ world => (some content, world) }

/-- The reader asks an empty array for a member. -/
theorem array_not_readsSchema :
    ¬ ∀ (windows : Windows Unit) (parse : Str → Option Json) (mainConfigFilePath content : Str)
        (before opened : Unit),
      windows.ifstream mainConfigFilePath before = (some content, opened) →
      ReadsSchema windows parse mainConfigFilePath content before := by
  intro always
  have reads := always (fileWindows "[]".toList) Json.parse "C:\\cfg".toList "[]".toList () () rfl
  obtain ⟨document, parsed, checked⟩ := checked_of_readsSchema rfl reads
  have array : Json.parse (cString "[]".toList) = some (.array []) := rfl
  rw [array] at parsed
  cases parsed
  exact absurd checked.object (by decide)

/-- The schema at a document without members. -/
theorem readsSchema_iff_empty :
    ReadsSchema (fileWindows "\x7b\x7d".toList) Json.parse "C:\\cfg".toList "\x7b\x7d".toList () ↔
      ∃ document, Json.parse (cString "\x7b\x7d".toList) = some document ∧ Checked document :=
  readsSchema_iff rfl

end CheckerOlimp.CheckerRc
