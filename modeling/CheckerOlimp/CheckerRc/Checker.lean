import CheckerOlimp.CheckerRc.Builder
import CheckerOlimp.CheckerRc.Matcher

/-!
# Judging a solution

`check` reads the configuration, builds the solution and judges it on every
test in turn, with one executor and one test reader for all of them.
-/

namespace CheckerOlimp.CheckerRc

open CheckerOlimp.Std

variable {World : Type}

/-- `report_elem`. -/
structure ReportElem where
  result : Str
  id : SizeT
  time : SizeT
  memory : SizeT
  score : Int32
deriving DecidableEq, Repr

/-- `verdict`. -/
structure Verdict where
  status : Str
  errorMsg : Str
  report : List ReportElem
deriving DecidableEq, Repr

/-- A default-constructed `verdict`. -/
def Verdict.fresh : Verdict := ⟨"bad".toList, "unknown".toList, []⟩

/-- The locals of `check` that one test hands to the next. -/
structure Bench where
  executorMachine : Executor
  tReader : TestReader
deriving DecidableEq, Repr

/-- The body of the loop of `check`: one test, judged to its report element. -/
def judgeTest (windows : Windows World) (profilePath sourceName : Str) (problems : ProblemStore)
    (bench : Bench) (it : TestPathNballsElement) : Judge World (ReportElem × Bench) := do
  let tReader ← bench.tReader.read windows it.questFile it.answerPathList
  let test := tReader.test
  let executorMachine ← bench.executorMachine.execute windows test.quest
  let requestEl := executorMachine.requestReport
  let bench := { bench with executorMachine, tReader }
  match requestEl.correct with
  | .correct =>
    -- `*it->answer_path_list.begin()`: an empty list has no first element to read.
    let answer ← Program.ofOption .undefined it.answerPathList.head?
    if !(← answersMatch windows it.questFile answer
        (restorePath profilePath problems.outputFileName)
        (restorePath profilePath (sourceName ++ "testlib_checker.report".toList))) then
      pure (⟨"bad".toList, it.id, requestEl.timeOut, requestEl.memory, 0⟩, bench)
    else
      pure (⟨"ok".toList, it.id, requestEl.timeOut, requestEl.memory, it.scores⟩, bench)
  | .tle => pure (⟨"tle".toList, it.id, -1, requestEl.memory, 0⟩, bench)
  | .mle => pure (⟨"mle".toList, it.id, requestEl.timeOut, -1, 0⟩, bench)
  | _ => pure (⟨"crash".toList, it.id, -1, -1, 0⟩, bench)

/-- The loop of `check` over the tests. -/
def judgeTests (windows : Windows World) (profilePath sourceName : Str) (problems : ProblemStore) :
    Bench → List ReportElem → List TestPathNballsElement → Judge World (List ReportElem)
  | _, report, [] => pure report
  | bench, report, it :: rest => do
    let (elem, bench) ← judgeTest windows profilePath sourceName problems bench it
    judgeTests windows profilePath sourceName problems bench (report ++ [elem]) rest

/-- The executor as `check` configures it before the loop. -/
def configuredExecutor (profilePath executableFilePath : Str) (problems : ProblemStore)
    (executorMachine : Executor) : Executor :=
  executorMachine.setConfig profilePath executableFilePath
    (restorePath profilePath problems.inputFileName)
    (restorePath profilePath problems.outputFileName) problems.timeLimit problems.memoryLimit

/-- `check`, from the configuration it has read. -/
def checkConfig (windows : Windows World) (config : MainConfig) (profilePath sourceName : Str) :
    Judge World Verdict := do
  let result := Verdict.fresh
  let (built, executableFilePath) ← buildFromSource windows profilePath sourceName
    config.compilerName config.compilerCommandTemplate []
  if !built then
    return { result with errorMsg := "compilation_error".toList, status := "bad".toList }
  let executorMachine :=
    configuredExecutor profilePath executableFilePath config.problem Executor.fresh
  let result := { result with status := "ok".toList, errorMsg := [] }
  let report ← judgeTests windows profilePath sourceName config.problem
    ⟨executorMachine, TestReader.fresh⟩ result.report config.problem.testPathList
  return { result with report }

/-- `check`. -/
def check (windows : Windows World) (parse : Str → Option Json)
    (mainConfigFilePath profilePath sourceName : Str) : Judge World Verdict := do
  let config ← readMainConfig windows parse mainConfigFilePath
  checkConfig windows config profilePath sourceName

/-! ## The written verdict -/

/-- `writer.Uint64` of a `size_t`. -/
def sizeEvent (value : SizeT) : Json.Event := .number value.toNat

/-- The writer calls of `serizlize` for one element. -/
def ReportElem.events (elem : ReportElem) : List Json.Event :=
  [.startObject,
    .string "id".toList, sizeEvent elem.id,
    .string "result".toList, .string (cString elem.result),
    .string "time".toList, sizeEvent elem.time,
    .string "memory".toList, sizeEvent elem.memory,
    .string "score".toList, .number elem.score.toInt,
    .endObject]

/-- The writer calls of `serizlize`. -/
def Verdict.events (v : Verdict) : List Json.Event :=
  [.startObject,
    .string "status".toList, .string (cString v.status),
    .string "error_msg".toList, .string (cString v.errorMsg),
    .string "report".toList, .startArray] ++
  v.report.flatMap ReportElem.events ++
  [.endArray, .endObject]

/-- `serizlize`. -/
def serizlize (v : Verdict) : Str := Json.Writer.run v.events

/-- `main`: the exit status. The result file is written when it opens. -/
def main (windows : Windows World) (parse : Str → Option Json) (argv : List Str) :
    Judge World Dword :=
  match argv with
  | [_, config, profile, sourceName, resultName] => do
    let mainConfigFilePath ← getFullPathName windows config
    let profilePath ← getFullPathName windows profile
    let v ← check windows parse mainConfigFilePath profilePath sourceName
    let _ ← Program.call (windows.ofstream resultName (serizlize v ++ ['\n']))
    pure 0
  | _ => Program.stop .assertion

end CheckerOlimp.CheckerRc
