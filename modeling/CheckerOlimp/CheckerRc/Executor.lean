import CheckerOlimp.CheckerRc.Reader
import CheckerOlimp.Std.Polling

/-!
# Running the contestant's program and the checker

Two monitor loops poll a process until they can stop it. The contestant's
monitor checks time and memory; the checker's monitor checks time and turns
the exit code into a return code.
-/

namespace CheckerOlimp.CheckerRc

open CheckerOlimp.Std

variable {World : Type}

/-- `request_type`. -/
inductive RequestType where
  | crash
  | correct
  | tle
  | mle
  | nif
  | cpf
  | cctf
deriving DecidableEq, Repr

/-- `request`: how the program worked, for how long and with how much memory. -/
structure Request where
  reportProgram : Str
  timeOut : SizeT
  memory : SizeT
  correct : RequestType
deriving DecidableEq, Repr

/-- A default-constructed `request`. -/
def Request.fresh : Request := ⟨[], 0, 0, .crash⟩

/-- `executor`, without its process handles. -/
structure Executor where
  executableFilePath : Str
  executableFileDirectory : Str
  inputFilePath : Str
  outputFilePath : Str
  timeLimit : SizeT
  memoryLimit : SizeT
  requestReport : Request
deriving DecidableEq, Repr

/-- A default-constructed `executor`. -/
def Executor.fresh : Executor := ⟨[], [], [], [], 0, 0, .fresh⟩

/-- `executor::set_config`. -/
def Executor.setConfig (self : Executor) (executableFileDirectory executableFilePath
    inputFilePath outputFilePath : Str) (timeLimit memoryLimit : SizeT) : Executor :=
  { self with
    executableFileDirectory, executableFilePath, inputFilePath, outputFilePath
    timeLimit, memoryLimit }

/-- `executor::eps_time`, in milliseconds. -/
def epsTime : SizeT := 2048

/-- `FILETIME_TO_ULONGLONG`. -/
def filetimeToUlonglong (ft : Filetime) : Ulonglong :=
  (ft.dwHighDateTime.toUInt64 <<< 32) + ft.dwLowDateTime.toUInt64

/-- `get_process_kernel_plus_user_time`, in milliseconds. The 64-bit counts are
converted to `size_t` before they are divided. -/
def getProcessKernelPlusUserTime (kernelTime userTime : Filetime) : SizeT :=
  let kT : SizeT := (filetimeToUlonglong kernelTime).toUInt32
  let uT : SizeT := (filetimeToUlonglong userTime).toUInt32
  let kernelT := kT / 10000
  let userT := uT / 10000
  userT + kernelT

/-- `abs((long long) timer - work_time)`. -/
def timeDifference (timer workTime : SizeT) : Nat :=
  ((timer.toNat : Int) - (workTime.toNat : Int)).natAbs

/-- The stop condition of both monitors on time. -/
def overTime (timeLimit workTime timer : SizeT) : Bool :=
  workTime > timeLimit ∨ timeDifference timer workTime > epsTime.toNat

/-- `get_memory_usage`: a failed query reads as -1. -/
def getMemoryUsage (poll : Poll) : SizeT :=
  match poll.workingSetSize with
  | none => -1
  | some size => size

/-! ## The contestant's monitor -/

/-- The locals `work_time` and `memory` of `executor::execute`. -/
structure Meter where
  workTime : SizeT
  memory : SizeT
deriving DecidableEq, Repr

/-- One turn of the loop of `executor::execute`. -/
def executeStep (timeLimit memoryLimit timeStart : SizeT) (meter : Meter) (poll : Poll) :
    Meter × Option RequestType :=
  if poll.exitCode = stillActive then
    let workTime := getProcessKernelPlusUserTime poll.kernelTime poll.userTime
    let timer := poll.tickCount - timeStart
    if overTime timeLimit workTime timer then
      ({ meter with workTime }, some .tle)
    else
      let memory := max meter.memory (getMemoryUsage poll)
      if memory = -1 ∨ memory > memoryLimit then
        ({ workTime, memory }, some .mle)
      else
        ({ workTime, memory }, none)
  else if poll.exitCode = 0 then
    (meter, some .correct)
  else
    (meter, some .crash)

/-- The loop of `executor::execute`. -/
def executeMonitor (timeLimit memoryLimit timeStart : SizeT) :
    Monitor Meter Poll RequestType where
  step := executeStep timeLimit memoryLimit timeStart

namespace Executor

/-- `executor::remove_in_out_files`. -/
def removeInOutFiles (windows : Windows World) (self : Executor) : Judge World Unit := do
  Program.call fun world => ((), windows.remove self.inputFilePath world)
  Program.call fun world => ((), windows.remove self.outputFilePath world)

/-- `executor::make_input_file`. -/
def makeInputFile (windows : Windows World) (self : Executor) (quest : Str) :
    Judge World Bool :=
  Program.call (windows.ofstream self.inputFilePath quest)

/-- `executor::create_child_process`, with the polls that follow it. -/
def createChildProcess (windows : Windows World) (self : Executor) :
    Judge World (Option Launch) :=
  Program.call (windows.createProcess self.executableFilePath self.executableFileDirectory)

/-- `executor::read_output_file`: the executor when the file opened. -/
def readOutputFile (windows : Windows World) (self : Executor) :
    Judge World (Option Executor) := do
  let file ← Program.call (windows.ifstream self.outputFilePath)
  match file with
  | none => pure none
  | some content =>
    let request := self.requestReport
    let reportProgram := request.reportProgram ++ content
    pure (some { self with requestReport := { request with reportProgram } })

/-- `executor::execute(quest)`. The request it returns a reference to is the
`requestReport` of the executor it leaves. -/
def execute (windows : Windows World) (self : Executor) (quest : Str) :
    Judge World Executor := do
  let self := { self with requestReport := { self.requestReport with correct := .correct } }
  let self := { self with requestReport := { self.requestReport with reportProgram := [] } }
  let self := { self with requestReport := { self.requestReport with timeOut := 0, memory := 0 } }
  removeInOutFiles windows self
  if !(← makeInputFile windows self quest) then
    return { self with requestReport := { self.requestReport with correct := .cctf } }
  match ← createChildProcess windows self with
  | none => return { self with requestReport := { self.requestReport with correct := .cpf } }
  | some launch =>
    let monitor := executeMonitor self.timeLimit self.memoryLimit launch.timeStart
    let (meter, verdict) ← Program.ofOption .polling (monitor.run ⟨0, 0⟩ launch.polls)
    let self := { self with requestReport := { self.requestReport with correct := verdict } }
    let finish (self : Executor) : Executor :=
      let request := self.requestReport
      { self with
        requestReport := { request with timeOut := meter.workTime, memory := meter.memory } }
    if verdict = .correct then
      match ← readOutputFile windows self with
      | none => return { self with requestReport := { self.requestReport with correct := .nif } }
      | some self => return finish self
    else
      return finish self

end Executor

/-! ## The checker's monitor -/

/-- `time_limit` of the static `execute`, in milliseconds. -/
def checkerTimeLimit : SizeT := 10000

/-- One turn of the loop of the static `execute`. The variable `exit_code` keeps
its value when `GetExitCodeProcess` fails; `exit_code >= 0` is always true. -/
def checkerStep (timeStart : SizeT) (exitCode : Dword) (poll : CheckerPoll) :
    Dword × Option SizeT :=
  let exitCode := poll.exitCode.getD exitCode
  if exitCode = stillActive then
    let kT : SizeT := (filetimeToUlonglong poll.kernelTime).toUInt32
    let uT : SizeT := (filetimeToUlonglong poll.userTime).toUInt32
    let kernelT := kT / 10000
    let userT := uT / 10000
    let workTime := userT + kernelT
    let timer := poll.tickCount - timeStart
    if overTime checkerTimeLimit workTime timer then
      (exitCode, some (-1))
    else
      (exitCode, none)
  else if exitCode ≤ 4 then
    (exitCode, some exitCode)
  else
    (exitCode, some (-1))

/-- The loop of the static `execute`. -/
def checkerMonitor (timeStart : SizeT) : Monitor Dword CheckerPoll SizeT where
  step := checkerStep timeStart

/-- The command line of the static `execute`. -/
def commandLine (applicationDirectory applicationName : Str) (argv : List Str) : Str :=
  applicationDirectory ++ ['\\'] ++
    argv.foldl (fun line argument => line ++ (" \"".toList ++ argument ++ "\"".toList))
      applicationName

/-- The static `execute(program_path, argv)`. Its success flag for `CreateProcess`
is never read, and the `size_t` it ends with is returned as an `int`. -/
def executeProgram (windows : Windows World) (programPath : Str) (argv : List Str) :
    Judge World Int32 := do
  checkerAssert (!(programPath.length = 0))
  let (applicationDirectory, applicationName) ← getDirectoryAndFile windows programPath
  let line := commandLine applicationDirectory applicationName argv
  let launch ← Program.call (windows.createChecker line)
  let (_, returnCode) ←
    Program.ofOption .polling ((checkerMonitor launch.timeStart).run 0 launch.polls)
  pure returnCode.toInt32

end CheckerOlimp.CheckerRc
