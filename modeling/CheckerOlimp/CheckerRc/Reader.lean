import CheckerOlimp.Platform.Win32
import CheckerOlimp.Std.Json

/-!
# Reading configurations and tests

The path helpers, the test reader and the validating reader of the main
configuration. RapidJSON is not part of the repository: its parser is the
parameter `parse`, and its accessors keep their documented preconditions, so
that an access outside them ends the run as undefined.
-/

namespace CheckerOlimp.CheckerRc

open CheckerOlimp.Std

variable {World : Type}

/-! ## Paths -/

/-- `get_full_path_name`. -/
def getFullPathName (windows : Windows World) (path : Str) : Judge World Str := do
  let buff ← Program.call (windows.getFullPathName path)
  Program.ofOption .assertion buff

/-- The loop `for (pos = path.length() - 1; pos >= 0; --pos)` that looks for a
backslash from the end, with `count` positions left to look at. -/
def scanBackslash (path : Str) : Nat → Int
  | 0 => -1
  | count + 1 => if path[count]? = some '\\' then count else scanBackslash path count

/-- The split of a full path at its last backslash. The comparison of the `int`
position with `path.length() - 1` is made in `size_t`. -/
def splitFullPath (path : Str) : Option (Str × Str) :=
  let pos := scanBackslash path path.length
  if pos ≠ 0 ∧ UInt32.ofInt pos < UInt32.ofNat path.length - 1 then
    some (path.take pos.toNat, path.drop (pos + 1).toNat)
  else none

/-- `get_directory_and_file`: the directory and the file name. -/
def getDirectoryAndFile (windows : Windows World) (path : Str) : Judge World (Str × Str) := do
  let path ← getFullPathName windows path
  Program.ofOption .assertion (splitFullPath path)

/-- `is_file_exist`. -/
def isFileExist (windows : Windows World) (path : Str) : Judge World Bool := do
  let file ← Program.call (windows.ifstream path)
  pure file.isSome

/-- `restore_path`. -/
def restorePath (profilePath fileName : Str) : Str :=
  profilePath ++ ['\\'] ++ fileName

/-! ## Tests -/

/-- `test_element`: one test. -/
structure TestElement where
  quest : Str
  answerList : List Str
deriving DecidableEq, Repr

/-- `test_path_nballs_element`: the addresses of a question and its valid answers. -/
structure TestPathNballsElement where
  id : SizeT
  scores : Int32
  questFile : Str
  answerPathList : List Str
deriving DecidableEq, Repr

/-- `problem_store`: the limits, the file names and all tests of a problem. -/
structure ProblemStore where
  timeLimit : SizeT
  memoryLimit : SizeT
  inputFileName : Str
  outputFileName : Str
  checkerFilePath : Str
  testPathList : List TestPathNballsElement
deriving DecidableEq, Repr

/-- `test_reader`: it keeps the test it has read last. -/
structure TestReader where
  test : TestElement
deriving DecidableEq, Repr

/-- A default-constructed `test_reader`. -/
def TestReader.fresh : TestReader := ⟨⟨[], []⟩⟩

/-- The loop of `test_reader::read` over the answer files. -/
def TestReader.readAnswers (windows : Windows World) (self : TestReader) :
    List Str → Judge World TestReader
  | [] => pure self
  | path :: rest => do
    let file ← Program.call (windows.ifstream path)
    let answer ← Program.ofOption .assertion file
    let test := { self.test with answerList := self.test.answerList ++ [answer] }
    TestReader.readAnswers windows { self with test } rest

/-- `test_reader::read`: the test is cleared and filled from its files. -/
def TestReader.read (windows : Windows World) (self : TestReader) (questFile : Str)
    (answerFileList : List Str) : Judge World TestReader := do
  let file ← Program.call (windows.ifstream questFile)
  let content ← Program.ofOption .assertion file
  let cleared : TestElement := { self.test with quest := [], answerList := [] }
  let test := { cleared with quest := cleared.quest ++ content }
  TestReader.readAnswers windows { self with test } answerFileList

/-! ## JSON access

`HasMember` and access by name are for objects, `Size` and access by position
for arrays, and each `GetX` for values that are `IsX`. -/

/-- What a C string keeps of a text: everything before the first NUL. -/
def cString (text : Str) : Str := text.takeWhile (· ≠ '\x00')

/-- `value.HasMember(name)`. -/
def hasMember (value : Json) (name : Str) : Judge World Bool :=
  match value with
  | .object members => pure (members.any fun member => member.1 = name)
  | _ => Program.stop .undefined

/-- `value[name]`: the first member of that name. -/
def getMember (value : Json) (name : Str) : Judge World Json :=
  match value with
  | .object members =>
    Program.ofOption .undefined ((members.find? fun member => member.1 = name).map (·.2))
  | _ => Program.stop .undefined

/-- `IsObject`. -/
def isObject : Json → Bool
  | .object _ => true
  | _ => false

/-- `IsArray`. -/
def isArray : Json → Bool
  | .array _ => true
  | _ => false

/-- `IsString`. -/
def isString : Json → Bool
  | .string _ => true
  | _ => false

/-- `IsUint`: an integer that fits in 32 unsigned bits. -/
def isUint : Json → Bool
  | .number value => 0 ≤ value ∧ value < 2 ^ 32
  | _ => false

/-- `IsUint64`: an integer that fits in 64 unsigned bits. -/
def isUint64 : Json → Bool
  | .number value => 0 ≤ value ∧ value < 2 ^ 64
  | _ => false

/-- `IsInt`: an integer that fits in 32 signed bits. -/
def isInt : Json → Bool
  | .number value => -2 ^ 31 ≤ value ∧ value < 2 ^ 31
  | _ => false

/-- `GetString`, as assigned to a `std::string`. -/
def getString : Json → Judge World Str
  | .string value => pure (cString value)
  | _ => Program.stop .undefined

/-- `GetUint`. -/
def getUint (value : Json) : Judge World UInt32 :=
  match value with
  | .number number => if isUint value then pure (UInt32.ofInt number) else Program.stop .undefined
  | _ => Program.stop .undefined

/-- `GetUint64`. -/
def getUint64 (value : Json) : Judge World UInt64 :=
  match value with
  | .number number => if isUint64 value then pure (UInt64.ofInt number) else Program.stop .undefined
  | _ => Program.stop .undefined

/-- `GetInt`. -/
def getInt (value : Json) : Judge World Int32 :=
  match value with
  | .number number => if isInt value then pure (Int32.ofInt number) else Program.stop .undefined
  | _ => Program.stop .undefined

/-- The elements of an array, behind `Size` and access by position. -/
def getElements : Json → Judge World (List Json)
  | .array values => pure values
  | _ => Program.stop .undefined

/-- The pattern of every checked field: `checker_assert(value.HasMember(name))`,
`checker_assert(value[name].IsX())`, and then `value[name].GetX()`. -/
def checkedMember {α : Type} (value : Json) (name : Str) (isType : Json → Bool)
    (get : Json → Judge World α) : Judge World α := do
  checkerAssert (← hasMember value name)
  let field ← getMember value name
  checkerAssert (isType field)
  get field

/-! ## The main configuration -/

/-- What `read_main_config` fills in through its reference parameters. -/
structure MainConfig where
  compilerCommandTemplate : Str
  compilerName : Str
  problem : ProblemStore
deriving DecidableEq, Repr

/-- The loop of `read_main_config` over the outputs of a test. -/
def readOutputs (testDir : Str) (answerPathList : List Str) :
    List Json → Judge World (List Str)
  | [] => pure answerPathList
  | output :: rest => do
    checkerAssert (isString output)
    let path ← getString output
    readOutputs testDir (answerPathList ++ [restorePath testDir path]) rest

/-- One test of the configuration. -/
def readTest (testDir : Str) (value : Json) : Judge World TestPathNballsElement := do
  let id ← checkedMember value "id".toList isUint64 getUint64
  let scores ← checkedMember value "scores".toList isInt getInt
  let input ← checkedMember value "input".toList isString getString
  let outputs ← checkedMember value "outputs".toList isArray getElements
  let answerPathList ← readOutputs testDir [] outputs
  -- `e.id` is a `size_t`: the upper half of the number is dropped.
  pure ⟨id.toUInt32, scores, restorePath testDir input, answerPathList⟩

/-- The loop of `read_main_config` over the tests. -/
def readTests (testDir : Str) (testPathList : List TestPathNballsElement) :
    List Json → Judge World (List TestPathNballsElement)
  | [] => pure testPathList
  | value :: rest => do
    let test ← readTest testDir value
    readTests testDir (testPathList ++ [test]) rest

/-- What `read_main_config` takes from the parsed document. -/
def readDocument (document : Json) : Judge World MainConfig := do
  let problem ← checkedMember document "problem".toList isObject pure
  let _ ← checkedMember problem "name".toList isString getString
  let config ← checkedMember problem "config".toList isObject pure
  let timeLimit ← checkedMember config "time_limit".toList isUint getUint
  let memoryLimit ← checkedMember config "memory_limit".toList isUint getUint
  let inputFileName ← checkedMember config "input".toList isString getString
  let outputFileName ← checkedMember config "output".toList isString getString
  let testDir ← checkedMember config "test_dir".toList isString getString
  let checker ← checkedMember config "checker".toList isString getString
  let tests ← checkedMember config "tests".toList isArray getElements
  let testPathList ← readTests testDir [] tests
  let language ← checkedMember document "language".toList isObject pure
  let compilerName ← checkedMember language "name".toList isString getString
  let compilerCommandTemplate ← checkedMember language "template".toList isString getString
  pure {
    compilerCommandTemplate
    compilerName
    problem := {
      timeLimit, memoryLimit, inputFileName, outputFileName
      checkerFilePath := restorePath testDir checker
      testPathList } }

/-- `config_reader::read_main_config`. A text that does not parse leaves no
document to access. -/
def readMainConfig (windows : Windows World) (parse : Str → Option Json)
    (mainConfigFilePath : Str) : Judge World MainConfig := do
  let file ← Program.call (windows.ifstream mainConfigFilePath)
  let content ← Program.ofOption .assertion file
  let document ← Program.ofOption .undefined (parse (cString content))
  readDocument document

end CheckerOlimp.CheckerRc
