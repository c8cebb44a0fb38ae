import CheckerOlimp.Judging.Schema
import CheckerOlimp.Judging.Serialization

/-!
# Test ids through a judging run

An id is a 64-bit number in the configuration, a `size_t` in the test list and in the
report, and a 64-bit number again in the result. The way through the loop and the
writer keeps every id and the order of the tests; `idsSurvive_iff` says that the width
of `size_t` is all that is lost on it.
-/

namespace CheckerOlimp.CheckerRc

open CheckerOlimp.Std

/-! ## The ids of documents -/

/-- The id of a test or of an entry. -/
def idOf (value : Json) : Option Int :=
  match member value "id".toList with
  | some (.number id) => some id
  | _ => none

/-- The ids in the `tests` of a configuration. -/
def configIds (document : Json) : List (Option Int) := (testsOf document).map idOf

/-- The ids in the `report` of a verdict. -/
def reportIds (document : Json) : List (Option Int) :=
  match member document "report".toList with
  | some (.array entries) => entries.map idOf
  | _ => []

/-- The written result has the ids of the configuration, in order. -/
def IdsSurvive (document : Json) (verdict : Verdict) : Prop :=
  ∃ result, Json.parse (serizlize verdict) = some result ∧ reportIds result = configIds document

/-- What is written for a verdict parses to the value of the verdict. -/
theorem parse_serizlize (verdict : Verdict) :
    Json.parse (serizlize verdict) = some verdict.json := by
  have read : Json.parse (verdict.json.text ++ []) = some verdict.json :=
    Json.parse_text verdict.json (by simp)
  rwa [List.append_nil, ← serizlize_eq] at read

theorem reportIds_json (verdict : Verdict) :
    reportIds verdict.json = verdict.report.map fun elem => some (elem.id.toNat : Int) := by
  change (verdict.report.map ReportElem.json).map idOf = _
  rw [List.map_map]
  rfl

/-! ## The ids that are read -/

section Reading

variable {World α : Type}

theorem returns_checkedMember_iff {value : Json} {name : Str} {isType : Json → Bool}
    {get : Json → Judge World α} {before after : World} {result : α} :
    Program.Returns (checkedMember value name isType get) before result after ↔
      ∃ field, member value name = some field ∧ isType field = true ∧
        Program.Returns (get field) before result after := by
  rw [checkedMember_eq]
  by_cases object : isObject value = true
  · rw [if_pos object]
    cases member value name with
    | none => simp
    | some field =>
        by_cases typed : isType field = true
        · simp [typed]
        · simp [typed]
  · rw [if_neg object]
    cases value with
    | object members => exact absurd rfl object
    | _ => simp [member]

/-- An element that was read from a test has the lower half of its id. -/
def IdRead (test : Json) (element : TestPathNballsElement) : Prop :=
  ∃ id : Int, idOf test = some id ∧ 0 ≤ id ∧ id < 2 ^ 64 ∧
    element.id = (UInt64.ofInt id).toUInt32

theorem idRead_of_readTest {testDir : Str} {test : Json} {element : TestPathNballsElement}
    {before after : World}
    (returned : Program.Returns (readTest testDir test) before element after) :
    IdRead test element := by
  simp only [readTest, Program.returns_bind_iff, returns_checkedMember_iff,
    Program.returns_pure_iff] at returned
  obtain ⟨id, _, ⟨field, found, typed, read⟩, scores, _, _, input, _, _, outputs, _, _, paths, _, _,
    rfl, _⟩ := returned
  cases field with
  | number value =>
      simp only [getUint64, typed, ↓reduceIte, Program.returns_pure_iff] at read
      simp only [isUint64, decide_eq_true_eq] at typed
      obtain ⟨rfl, _⟩ := read
      exact ⟨value, by simp only [idOf, found], typed.1, typed.2, rfl⟩
  | _ => cases typed

/-- The tests are read in order. -/
theorem idRead_of_readTests {testDir : Str} {tests : List Json}
    {found elements : List TestPathNballsElement} {before after : World}
    (returned : Program.Returns (readTests testDir found tests) before elements after) :
    ∃ later, elements = found ++ later ∧ List.Forall₂ IdRead tests later := by
  induction tests generalizing found before with
  | nil =>
      simp only [readTests, Program.returns_pure_iff] at returned
      exact ⟨[], by simp [returned.1], .nil⟩
  | cons test rest inductionHypothesis =>
      simp only [readTests, Program.returns_bind_iff] at returned
      obtain ⟨element, middle, read, others⟩ := returned
      obtain ⟨later, same, ids⟩ := inductionHypothesis others
      exact ⟨element :: later, by simp [same], .cons (idRead_of_readTest read) ids⟩

/-- The elements of a configuration that was read stand for the tests of its document. -/
theorem idRead_of_readDocument {document : Json} {config : MainConfig} {before after : World}
    (returned : Program.Returns (readDocument document) before config after) :
    List.Forall₂ IdRead (testsOf document) config.problem.testPathList := by
  simp only [readDocument, Program.returns_bind_iff, returns_checkedMember_iff,
    Program.returns_pure_iff] at returned
  obtain ⟨problem, _, ⟨problem', found, _, rfl, _⟩, _, _, _, settings, _,
    ⟨settings', settingsFound, _, rfl, _⟩, timeLimit, _, _, memoryLimit, _, _, input, _, _, output,
    _, _, testDir, _, _, checker, _, _, tests, _, ⟨field, testsFound, typed, read⟩, elements, _,
    readTests, language, _, _, name, _, _, template, _, _, rfl, _⟩ := returned
  cases field with
  | array values =>
      obtain ⟨rfl, _⟩ := Program.returns_pure_iff.mp read
      obtain ⟨later, rfl, ids⟩ := idRead_of_readTests readTests
      rw [testsOf_eq found settingsFound testsFound]
      exact ids
  | _ => cases typed

end Reading

/-! ## The ids that survive -/

/-- The lower half of an id is the id when it fits in 32 bits. -/
theorem toNat_lower_eq_iff {id : Int} (nonneg : 0 ≤ id) (bounded : id < 2 ^ 64) :
    (((UInt64.ofInt id).toUInt32.toNat : Int) = id) ↔ id < 2 ^ 32 := by
  change (((id % 2 ^ 64).toNat % 2 ^ 64 % 2 ^ 32 : Nat) : Int) = id ↔ id < 2 ^ 32
  omega

/-- The ids of the elements are those of the tests when all of them fit in 32 bits. -/
theorem ids_eq_iff {tests : List Json} {elements : List TestPathNballsElement}
    (ids : List.Forall₂ IdRead tests elements) :
    elements.map (fun element => some (element.id.toNat : Int)) = tests.map idOf ↔
      ∀ test ∈ tests, ∃ id, idOf test = some id ∧ id < 2 ^ 32 := by
  induction ids with
  | nil => simp
  | @cons test element tests elements read others inductionHypothesis =>
      obtain ⟨id, found, nonneg, bounded, same⟩ := read
      rw [List.map_cons, List.map_cons, List.cons_eq_cons, inductionHypothesis,
        List.forall_mem_cons, found, same, Option.some.injEq, toNat_lower_eq_iff nonneg bounded]
      simp

/-- The ids of a run that ends with the status `ok` survive it exactly when each of them
fits in 32 bits. -/
theorem idsSurvive_iff {World : Type} {windows : Windows World} {parse : Str → Option Json}
    {mainConfigFilePath profilePath sourceName content : Str} {document : Json}
    {before opened after : World} {verdict : Verdict}
    (file : windows.ifstream mainConfigFilePath before = (some content, opened))
    (parsed : parse (cString content) = some document)
    (returned : Program.Returns
      (check windows parse mainConfigFilePath profilePath sourceName) before verdict after)
    (ok : verdict.status = "ok".toList) :
    IdsSurvive document verdict ↔
      ∀ test ∈ testsOf document, ∃ id, idOf test = some id ∧ id < 2 ^ 32 := by
  simp only [check, Program.returns_bind_iff] at returned
  obtain ⟨config, read, reads, checking⟩ := returned
  obtain ⟨built, executable, middle, _, consistent⟩ := checkConfig_consistent checking
  have run : (readMainConfig windows parse mainConfigFilePath).run before =
      (Program.ofOption .undefined (parse (cString content)) >>= readDocument).run opened :=
    run_readMainConfig file
  rw [parsed, Program.ofOption, pure_bind] at run
  have reads' : Program.Returns (readDocument document) opened config read := run.symm.trans reads
  have ids : verdict.report.map (·.id) = config.problem.testPathList.map (·.id) := by
    cases consistent with
    | failed _ status _ =>
        rw [ok] at status
        exact absurd status (by decide)
    | judged _ _ ids _ => exact ids
  have same : reportIds verdict.json =
      config.problem.testPathList.map fun element => some (element.id.toNat : Int) := by
    have mapped := congrArg (List.map fun id : SizeT => some (id.toNat : Int)) ids
    rw [List.map_map, List.map_map] at mapped
    rw [reportIds_json]
    exact mapped
  rw [← ids_eq_iff (idRead_of_readDocument reads'), ← same]
  constructor
  · rintro ⟨result, written, survive⟩
    rw [parse_serizlize] at written
    cases written
    exact survive
  · intro survive
    exact ⟨verdict.json, parse_serizlize verdict, survive⟩

/-! ## Two ids with the same lower half -/

/-- The pair of tests with other ids. -/
def pairWith (first second : Int) : Json :=
  .object [
    ("problem".toList, .object [
      ("name".toList, .string "pair".toList),
      ("config".toList, .object [
        ("time_limit".toList, .number 1000),
        ("memory_limit".toList, .number 64),
        ("input".toList, .string "in".toList),
        ("output".toList, .string "out".toList),
        ("test_dir".toList, .string "C:\\t".toList),
        ("checker".toList, .string "check.exe".toList),
        ("tests".toList, .array [
          .object [
            ("id".toList, .number first),
            ("scores".toList, .number 5),
            ("input".toList, .string "q1".toList),
            ("outputs".toList, .array [.string "a1".toList])],
          .object [
            ("id".toList, .number second),
            ("scores".toList, .number 7),
            ("input".toList, .string "q2".toList),
            ("outputs".toList, .array [.string "a2".toList])]])])]),
    ("language".toList, .object [
      ("name".toList, .string "mingw_cpp".toList),
      ("template".toList, .string "g $1 $2".toList)])]

/-- The files of the pair with another configuration. -/
def filesWith (document : Json) : World Str Unit :=
  CheckerOlimp.World.put ⟨pairFiles, ()⟩ "C:\\cfg".toList (some document.text)

/-- The configuration is read as it was written. -/
theorem ifstream_filesWith (document : Json) :
    pairMachine.windows.ifstream "C:\\cfg".toList (filesWith document) =
      (some document.text, filesWith document) := by
  have read : textRead document.text = document.text :=
    textRead_of_plain (streamable_of_mem_text document)
  have file : (filesWith document).files (pairMachine.fileOf "C:\\cfg".toList) =
      some document.text := World.put_files_self _ _ _
  rw [Machine.windows_ifstream, file, Option.map_some, read]

theorem parse_filesWith (document : Json) :
    Json.parse (cString document.text) = some document := by
  have read : Json.parse (document.text ++ []) = some document :=
    Json.parse_text document (by simp)
  rwa [List.append_nil, ← cString_of_plain (nul_not_mem_text document)] at read

/-- The ids 1 and 2^32 + 1 come out of the judging as 1 and 1. -/
theorem sameHalf_not_idsSurvive :
    ¬ ∀ (windows : Windows (World Str Unit)) (parse : Str → Option Json)
        (mainConfigFilePath profilePath sourceName content : Str) (document : Json)
        (before opened after : World Str Unit) (verdict : Verdict),
      windows.ifstream mainConfigFilePath before = (some content, opened) →
      parse (cString content) = some document →
      Program.Returns (check windows parse mainConfigFilePath profilePath sourceName) before
        verdict after →
      verdict.status = "ok".toList → IdsSurvive document verdict := by
  intro always
  have judged : Program.outcome (check pairMachine.windows Json.parse "C:\\cfg".toList
      "C:\\p".toList "a".toList) (filesWith (pairWith 1 4294967297)) =
      .ok ⟨"ok".toList, [], [⟨"ok".toList, 1, 20, 8, 5⟩, ⟨"tle".toList, 1, -1, 0, 0⟩]⟩ := by
    decide +kernel
  obtain ⟨after, returned⟩ := Program.outcome_eq_ok_iff.mp judged
  obtain ⟨result, written, survive⟩ := always _ _ _ _ _ _ _ _ _ _ _
    (ifstream_filesWith (pairWith 1 4294967297)) (parse_filesWith _) returned rfl
  rw [parse_serizlize] at written
  cases written
  exact absurd survive (by decide)

/-- The condition for the ids 1 and 2. -/
theorem idsSurvive_iff_pair :
    IdsSurvive (pairWith 1 2) pairVerdict ↔
      ∀ test ∈ testsOf (pairWith 1 2), ∃ id, idOf test = some id ∧ id < 2 ^ 32 := by
  have judged : Program.outcome (check pairMachine.windows Json.parse "C:\\cfg".toList
      "C:\\p".toList "a".toList) (filesWith (pairWith 1 2)) = .ok pairVerdict := by
    decide +kernel
  obtain ⟨after, returned⟩ := Program.outcome_eq_ok_iff.mp judged
  exact idsSurvive_iff (ifstream_filesWith (pairWith 1 2)) (parse_filesWith _) returned rfl

end CheckerOlimp.CheckerRc
