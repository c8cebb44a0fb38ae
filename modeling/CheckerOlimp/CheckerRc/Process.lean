import CheckerOlimp.CheckerRc.Executor

/-!
# Processes and their handles

The two functions that start a process, with the Win32 calls that they make: the child is
polled through its handle, terminated when it is over a limit, and its handles are closed.
-/

namespace CheckerOlimp.CheckerRc

open CheckerOlimp.Std

/-- `HANDLE`. -/
abbrev Handle := Dword

/-- `PROCESS_INFORMATION`. -/
structure ProcessInformation where
  hProcess : Handle
  hThread : Handle
deriving DecidableEq, Repr

/-- After `ZeroMemory`. -/
def ProcessInformation.zero : ProcessInformation := ⟨0, 0⟩

/-- The calls for processes, over an arbitrary world. -/
structure Kernel (World : Type) where
  /-- `CreateProcess(application, commandLine, directory)`, where a null pointer is `none`:
  the handles, or `none` when it fails and leaves the structure as it was. -/
  createProcess : Option Str → Option Str → Option Str → World → Option ProcessInformation × World
  /-- `GetExitCodeProcess`: what it writes, or `none` when it fails. -/
  getExitCodeProcess : Handle → World → Option Dword × World
  /-- `GetProcessTimes`: the times in the kernel and in the program. -/
  getProcessTimes : Handle → World → (Filetime × Filetime) × World
  /-- `GetProcessMemoryInfo`: `WorkingSetSize`, or `none` when it fails. -/
  getProcessMemoryInfo : Handle → World → Option SizeT × World
  getTickCount : World → Dword × World
  /-- `TerminateProcess(process, NO_ERROR)`. -/
  terminateProcess : Handle → World → World
  closeHandle : Handle → World → World
  /-- `Sleep`. -/
  sleep : Dword → World → World
  /-- What a variable holds that is not initialised. -/
  uninitialised : World → Dword

variable {World : Type}

namespace Executor

/-- `executor::get_exit_code`. -/
def getExitCode (kernel : Kernel World) (piProcInfo : ProcessInformation) : Judge World Dword := do
  let written ← Program.call (kernel.getExitCodeProcess piProcInfo.hProcess)
  match written with
  | some exitCode => pure exitCode
  | none => Program.call fun world => (kernel.uninitialised world, world)

/-- `executor::child_process_active`. -/
def childProcessActive (kernel : Kernel World) (piProcInfo : ProcessInformation) :
    Judge World Bool := do
  let exitCode ← getExitCode kernel piProcInfo
  pure (exitCode = stillActive)

/-- `executor::kill_child_process`. -/
def killChildProcess (kernel : Kernel World) (piProcInfo : ProcessInformation) :
    Judge World Unit := do
  if ← childProcessActive kernel piProcInfo then
    Program.call fun world => ((), kernel.terminateProcess piProcInfo.hProcess world)

/-- `executor::close_handles`. The last one is the null handle of `siStartInfo`. -/
def closeHandles (kernel : Kernel World) (piProcInfo : ProcessInformation) :
    Judge World Unit := do
  Program.call fun world => ((), kernel.closeHandle piProcInfo.hProcess world)
  Program.call fun world => ((), kernel.closeHandle piProcInfo.hThread world)
  Program.call fun world => ((), kernel.closeHandle 0 world)

/-- `executor::get_process_kernel_plus_user_time()`. -/
def processTime (kernel : Kernel World) (piProcInfo : ProcessInformation) :
    Judge World SizeT := do
  let (kernelTime, userTime) ← Program.call (kernel.getProcessTimes piProcInfo.hProcess)
  pure (getProcessKernelPlusUserTime kernelTime userTime)

/-- `executor::get_memory_usage`. -/
def processMemory (kernel : Kernel World) (piProcInfo : ProcessInformation) :
    Judge World SizeT := do
  let size ← Program.call (kernel.getProcessMemoryInfo piProcInfo.hProcess)
  pure (size.getD (-1))

/-- The loop of `executor::execute`, for so many turns. -/
def watch (kernel : Kernel World) (piProcInfo : ProcessInformation)
    (timeLimit memoryLimit timeStart : SizeT) : Nat → Meter → Judge World (Meter × RequestType)
  | 0, _ => Program.stop .polling
  | turns + 1, meter => do
    let exitCode ← getExitCode kernel piProcInfo
    if exitCode = stillActive then
      let workTime ← processTime kernel piProcInfo
      let tickCount ← Program.call kernel.getTickCount
      let timer := tickCount - timeStart
      if overTime timeLimit workTime timer then
        killChildProcess kernel piProcInfo
        pure ({ meter with workTime }, .tle)
      else
        let memoryUsage ← processMemory kernel piProcInfo
        let memory := max meter.memory memoryUsage
        if memory = -1 ∨ memory > memoryLimit then
          killChildProcess kernel piProcInfo
          pure ({ workTime, memory }, .mle)
        else
          watch kernel piProcInfo timeLimit memoryLimit timeStart turns { workTime, memory }
    else if exitCode = 0 then
      pure (meter, .correct)
    else
      pure (meter, .crash)

/-- `executor::execute(quest)` with its calls. -/
def executeCalls (windows : Windows World) (kernel : Kernel World) (turns : Nat) (self : Executor)
    (quest : Str) : Judge World Executor := do
  let self := { self with requestReport := { self.requestReport with correct := .correct } }
  let self := { self with requestReport := { self.requestReport with reportProgram := [] } }
  let self := { self with requestReport := { self.requestReport with timeOut := 0, memory := 0 } }
  removeInOutFiles windows self
  if !(← makeInputFile windows self quest) then
    return { self with requestReport := { self.requestReport with correct := .cctf } }
  let created ← Program.call (kernel.createProcess (some self.executableFilePath) none
    (some self.executableFileDirectory))
  match created with
  | none => return { self with requestReport := { self.requestReport with correct := .cpf } }
  | some piProcInfo =>
    let timeStart ← Program.call kernel.getTickCount
    let (meter, verdict) ←
      watch kernel piProcInfo self.timeLimit self.memoryLimit timeStart turns ⟨0, 0⟩
    let self := { self with requestReport := { self.requestReport with correct := verdict } }
    Program.call fun world => ((), kernel.sleep 100 world)
    closeHandles kernel piProcInfo
    let finish (self : Executor) : Executor :=
      let request := self.requestReport
      { self with
        requestReport := { request with timeOut := meter.workTime, memory := meter.memory } }
    if verdict = .correct then
      match ← readOutputFile windows self with
      | none => return { self with requestReport := { self.requestReport with correct := .nif } }
      | some self => return finish self
    else
      return finish self

end Executor

/-- The loop of the static `execute`, for so many turns. The variable `exit_code` that is
declared in it is another one. -/
def watchProgram (kernel : Kernel World) (piProcInfo : ProcessInformation) (timeStart : SizeT) :
    Nat → Dword → Judge World SizeT
  | 0, _ => Program.stop .polling
  | turns + 1, exitCode => do
    let written ← Program.call (kernel.getExitCodeProcess piProcInfo.hProcess)
    let exitCode := written.getD exitCode
    if exitCode = stillActive then
      let (kernelTime, userTime) ← Program.call (kernel.getProcessTimes piProcInfo.hProcess)
      let kT : SizeT := (filetimeToUlonglong kernelTime).toUInt32
      let uT : SizeT := (filetimeToUlonglong userTime).toUInt32
      let kernelT := kT / 10000
      let userT := uT / 10000
      let workTime := userT + kernelT
      let tickCount ← Program.call kernel.getTickCount
      let timer := tickCount - timeStart
      if overTime checkerTimeLimit workTime timer then
        Executor.killChildProcess kernel piProcInfo
        pure (-1)
      else
        watchProgram kernel piProcInfo timeStart turns exitCode
    else if exitCode ≤ 4 then
      pure exitCode
    else
      pure (-1)

/-- The static `execute(program_path, argv)` with its calls. -/
def executeProgramCalls (windows : Windows World) (kernel : Kernel World) (turns : Nat)
    (programPath : Str) (argv : List Str) : Judge World Int32 := do
  checkerAssert (!(programPath.length = 0))
  let (applicationDirectory, applicationName) ← getDirectoryAndFile windows programPath
  let line := commandLine applicationDirectory applicationName argv
  let created ← Program.call (kernel.createProcess none (some line) none)
  let piProcInfo := created.getD .zero
  let timeStart ← Program.call kernel.getTickCount
  let returnCode ← watchProgram kernel piProcInfo timeStart turns 0
  Program.call fun world => ((), kernel.closeHandle piProcInfo.hProcess world)
  Program.call fun world => ((), kernel.closeHandle piProcInfo.hThread world)
  pure returnCode.toInt32

end CheckerOlimp.CheckerRc
