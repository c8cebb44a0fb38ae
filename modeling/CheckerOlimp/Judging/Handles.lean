import CheckerOlimp.Judging.Calls
import CheckerOlimp.Judging.Invariants
import CheckerOlimp.Judging.Report
import CheckerOlimp.Std.Ledger

/-!
# What becomes of a process and its handles

The calls on processes are entered in a ledger. Whatever the kernel answers, a run that
returns has asked only about the process that it started, has left it ended or terminated
as far as it was told, and has then closed each of its handles once.
-/

namespace CheckerOlimp.CheckerRc

open CheckerOlimp.Std

variable {World : Type}

/-- A call on a process or a handle, with what it gave. -/
inductive Event where
  | created (piProcInfo : Option ProcessInformation)
  | exitCode (process : Handle) (written : Option Dword)
  | times (process : Handle)
  | memory (process : Handle)
  | terminated (process : Handle)
  | closed (handle : Handle)
deriving DecidableEq, Repr

/-- The kernel with a ledger of its calls on processes and handles. -/
def Kernel.logged (kernel : Kernel World) : Kernel (World × List Event) where
  createProcess application line directory := fun (world, ledger) =>
    let created := kernel.createProcess application line directory world
    (created.1, created.2, ledger ++ [.created created.1])
  getExitCodeProcess process := fun (world, ledger) =>
    let written := kernel.getExitCodeProcess process world
    (written.1, written.2, ledger ++ [.exitCode process written.1])
  getProcessTimes process := fun (world, ledger) =>
    let times := kernel.getProcessTimes process world
    (times.1, times.2, ledger ++ [.times process])
  getProcessMemoryInfo process := fun (world, ledger) =>
    let size := kernel.getProcessMemoryInfo process world
    (size.1, size.2, ledger ++ [.memory process])
  getTickCount := fun (world, ledger) =>
    let ticks := kernel.getTickCount world
    (ticks.1, ticks.2, ledger)
  terminateProcess process := fun (world, ledger) =>
    (kernel.terminateProcess process world, ledger ++ [.terminated process])
  closeHandle handle := fun (world, ledger) =>
    (kernel.closeHandle handle world, ledger ++ [.closed handle])
  sleep time := fun (world, ledger) => (kernel.sleep time world, ledger)
  uninitialised := fun (world, _) => kernel.uninitialised world

/-- The rest of the environment enters nothing. -/
def silent {α : Type} (operation : World → α × World) (world : World × List Event) :
    α × (World × List Event) :=
  ((operation world.1).1, (operation world.1).2, world.2)

/-- The environment beside a ledger. -/
def unlogged (windows : Windows World) : Windows (World × List Event) where
  ifstream path := silent (windows.ifstream path)
  ofstream path content := silent (windows.ofstream path content)
  remove path := fun (world, ledger) => (windows.remove path world, ledger)
  getFullPathName path := silent (windows.getFullPathName path)
  popen command := silent (windows.popen command)
  createProcess application directory := silent (windows.createProcess application directory)
  createChecker line := silent (windows.createChecker line)

/-! ## Watching a process -/

/-- The event asks about the process and does nothing to it. -/
inductive Event.Asks (process : Handle) : Event → Prop where
  | exitCode (written : Option Dword) : Asks process (.exitCode process written)
  | times : Asks process (.times process)
  | memory : Asks process (.memory process)

/-- Either the last exit code, as far as it was told, is not that of a running process, or the
process is terminated. -/
inductive Killed (process : Handle) : List Event → Prop where
  | ended {written : Option Dword} (told : ∀ code, written = some code → code ≠ stillActive) :
      Killed process [.exitCode process written]
  | terminated {written : Option Dword} (told : ∀ code, written = some code → code = stillActive) :
      Killed process [.exitCode process written, .terminated process]

/-- The last calls of `executor::execute` on the process, with its verdict. -/
inductive Left (process : Handle) : RequestType → List Event → Prop where
  | correct {written : Option Dword} (told : ∀ code, written = some code → code = 0) :
      Left process .correct [.exitCode process written]
  | crash {written : Option Dword}
      (told : ∀ code, written = some code → code ≠ 0 ∧ code ≠ stillActive) :
      Left process .crash [.exitCode process written]
  | tle {last : List Event} (killed : Killed process last) : Left process .tle last
  | mle {last : List Event} (killed : Killed process last) : Left process .mle last

/-- The last calls of the static `execute` on the process, with its return code. -/
inductive CheckerLeft (process : Handle) : SizeT → List Event → Prop where
  | code {written : Option Dword} {exitCode : Dword}
      (told : ∀ code, written = some code → code = exitCode) (known : exitCode ≤ 4) :
      CheckerLeft process exitCode [.exitCode process written]
  | unknown {written : Option Dword}
      (told : ∀ code, written = some code → 4 < code ∧ code ≠ stillActive) :
      CheckerLeft process (-1) [.exitCode process written]
  | late {last : List Event} (killed : Killed process last) : CheckerLeft process (-1) last

/-- Questions about the process, and then the last calls on it. -/
inductive Watched (process : Handle) (left : List Event → Prop) : List Event → Prop where
  | last {events : List Event} (holds : left events) : Watched process left events
  | asks {event : Event} {events : List Event} (asks : event.Asks process)
      (rest : Watched process left events) : Watched process left (event :: events)

/-- What `executor::execute` enters, with the verdict that it reports. -/
inductive Handled : RequestType → List Event → Prop where
  | noInput : Handled .cctf []
  | refused : Handled .cpf [.created none]
  | ran {piProcInfo : ProcessInformation} {verdict reported : RequestType} {watched : List Event}
      (watch : Watched piProcInfo.hProcess (Left piProcInfo.hProcess verdict) watched)
      (report : reported = verdict ∨ verdict = .correct ∧ reported = .nif) :
      Handled reported (.created (some piProcInfo) :: watched ++
        [.closed piProcInfo.hProcess, .closed piProcInfo.hThread, .closed 0])

/-- What the static `execute` enters, with the code that it returns. It does not look whether
a process was created. -/
inductive CheckerHandled : Int32 → List Event → Prop where
  | ran {created : Option ProcessInformation} {piProcInfo : ProcessInformation}
      {returnCode : SizeT} {watched : List Event} (taken : created.getD .zero = piProcInfo)
      (watch : Watched piProcInfo.hProcess (CheckerLeft piProcInfo.hProcess returnCode) watched) :
      CheckerHandled returnCode.toInt32 (.created created :: watched ++
        [.closed piProcInfo.hProcess, .closed piProcInfo.hThread])

/-! ## The calls of the executor -/

section Calls

variable (kernel : Kernel World) (piProcInfo : ProcessInformation)

/-- The exit code that is used is the one told, if one was told. -/
theorem getExitCode_enters :
    Program.Enters (Executor.getExitCode kernel piProcInfo)
      (Executor.getExitCode kernel.logged piProcInfo) fun exitCode events =>
        ∃ written, events = [.exitCode piProcInfo.hProcess written] ∧
          ∀ code, written = some code → code = exitCode := by
  unfold Executor.getExitCode
  refine Program.Enters.call_bind (fun written => [.exitCode piProcInfo.hProcess written])
    (fun _ _ => rfl) fun written => ?_
  cases written with
  | none =>
      refine Program.Enters.call (fun _ => []) (fun _ _ => ?_) fun exitCode => ?_
      · rw [List.append_nil]
        rfl
      · exact ⟨none, rfl, fun _ told => by cases told⟩
  | some exitCode =>
      exact Program.Enters.pure ⟨some exitCode, rfl, fun _ told => (Option.some.inj told).symm⟩

/-- What `kill_child_process` leaves. -/
theorem killChildProcess_enters :
    Program.Enters (Executor.killChildProcess kernel piProcInfo)
      (Executor.killChildProcess kernel.logged piProcInfo) fun _ events =>
        Killed piProcInfo.hProcess events := by
  unfold Executor.killChildProcess Executor.childProcessActive
  rw [bind_assoc, bind_assoc]
  refine (getExitCode_enters kernel piProcInfo).bind ?_
  rintro exitCode _ ⟨written, rfl, told⟩
  rw [pure_bind, pure_bind]
  by_cases active : exitCode = stillActive
  · simp only [active, decide_true, ↓reduceIte]
    refine Program.Enters.call (fun _ => [.terminated piProcInfo.hProcess]) (fun _ _ => rfl)
      fun _ => ?_
    exact .terminated fun code known => (told code known).trans active
  · simp only [active, decide_false, Bool.false_eq_true, ↓reduceIte]
    refine Program.Enters.pure (.ended fun code known => ?_)
    rw [told code known]
    exact active

theorem closeHandles_enters :
    Program.Enters (Executor.closeHandles kernel piProcInfo)
      (Executor.closeHandles kernel.logged piProcInfo) fun _ events =>
        events = [.closed piProcInfo.hProcess, .closed piProcInfo.hThread, .closed 0] := by
  unfold Executor.closeHandles
  refine Program.Enters.call_bind (fun _ => [.closed piProcInfo.hProcess]) (fun _ _ => rfl)
    fun _ => ?_
  refine Program.Enters.call_bind (fun _ => [.closed piProcInfo.hThread]) (fun _ _ => rfl)
    fun _ => ?_
  exact Program.Enters.call (fun _ => [.closed 0]) (fun _ _ => rfl) fun _ => rfl

theorem processTime_enters :
    Program.Enters (Executor.processTime kernel piProcInfo)
      (Executor.processTime kernel.logged piProcInfo) fun _ events =>
        events = [.times piProcInfo.hProcess] :=
  Program.Enters.call_bind (fun _ => [.times piProcInfo.hProcess]) (fun _ _ => rfl)
    fun _ => Program.Enters.pure rfl

theorem processMemory_enters :
    Program.Enters (Executor.processMemory kernel piProcInfo)
      (Executor.processMemory kernel.logged piProcInfo) fun _ events =>
        events = [.memory piProcInfo.hProcess] :=
  Program.Enters.call_bind (fun _ => [.memory piProcInfo.hProcess]) (fun _ _ => rfl)
    fun _ => Program.Enters.pure rfl

/-- An operation that enters nothing. -/
theorem silent_enters {α β : Type} (operation : World → α × World)
    {operation' : World × List Event → α × (World × List Event)}
    {rest : α → Judge World β} {rest' : α → Judge (World × List Event) β}
    {adds : β → List Event → Prop}
    (nothing : ∀ world ledger,
      operation' (world, ledger) = ((operation world).1, (operation world).2, ledger))
    (second : ∀ value, Program.Enters (rest value) (rest' value) adds) :
    Program.Enters (Program.call operation >>= rest) (Program.call operation' >>= rest') adds := by
  refine Program.Enters.call_bind (fun _ => []) (fun world ledger => ?_) second
  rw [nothing, List.append_nil]

end Calls

/-! ## The loops -/

/-- The loop of `executor::execute` only asks until it leaves the process with its verdict. -/
theorem watch_enters (kernel : Kernel World) (piProcInfo : ProcessInformation)
    (timeLimit memoryLimit timeStart : SizeT) (turns : Nat) (meter : Meter) :
    Program.Enters
      (Executor.watch kernel piProcInfo timeLimit memoryLimit timeStart turns meter)
      (Executor.watch kernel.logged piProcInfo timeLimit memoryLimit timeStart turns meter)
      fun ended events =>
        Watched piProcInfo.hProcess (Left piProcInfo.hProcess ended.2) events := by
  induction turns generalizing meter with
  | zero => exact Program.Enters.stop Halt.polling
  | succ turns inductionHypothesis =>
      unfold Executor.watch
      refine (getExitCode_enters kernel piProcInfo).bind ?_
      rintro exitCode _ ⟨written, rfl, told⟩
      by_cases active : exitCode = stillActive
      · simp only [active, ↓reduceIte]
        refine (processTime_enters kernel piProcInfo).bind ?_
        rintro workTime _ rfl
        refine silent_enters kernel.getTickCount (fun _ _ => rfl) fun tickCount => ?_
        split
        · refine (killChildProcess_enters kernel piProcInfo).bind fun _ events killed => ?_
          exact Program.Enters.pure (.asks (.exitCode written) (.asks .times
            (.last (by rw [List.append_nil]; exact .tle killed))))
        · refine (processMemory_enters kernel piProcInfo).bind ?_
          rintro memoryUsage _ rfl
          split
          · refine (killChildProcess_enters kernel piProcInfo).bind fun _ events killed => ?_
            exact Program.Enters.pure (.asks (.exitCode written) (.asks .times (.asks .memory
              (.last (by rw [List.append_nil]; exact .mle killed)))))
          · refine (inductionHypothesis _).weaken fun ended events rest => ?_
            exact .asks (.exitCode written) (.asks .times (.asks .memory rest))
      · simp only [active, ↓reduceIte]
        split
        · next zero =>
          refine Program.Enters.pure (.last (.correct fun code known => ?_))
          exact (told code known).trans zero
        · next nonzero =>
          refine Program.Enters.pure (.last (.crash fun code known => ?_))
          rw [told code known]
          exact ⟨nonzero, active⟩

/-- The loop of the static `execute` likewise. -/
theorem watchProgram_enters (kernel : Kernel World) (piProcInfo : ProcessInformation)
    (timeStart : SizeT) (turns : Nat) (exitCode : Dword) :
    Program.Enters (watchProgram kernel piProcInfo timeStart turns exitCode)
      (watchProgram kernel.logged piProcInfo timeStart turns exitCode)
      fun returnCode events =>
        Watched piProcInfo.hProcess (CheckerLeft piProcInfo.hProcess returnCode) events := by
  induction turns generalizing exitCode with
  | zero => exact Program.Enters.stop Halt.polling
  | succ turns inductionHypothesis =>
      unfold watchProgram
      refine Program.Enters.call_bind (fun written => [.exitCode piProcInfo.hProcess written])
        (fun _ _ => rfl) fun written => ?_
      have told : ∀ code, written = some code → code = written.getD exitCode := by
        rintro code rfl
        rfl
      generalize written.getD exitCode = exitCode at told ⊢
      by_cases active : exitCode = stillActive
      · simp only [active, ↓reduceIte]
        refine Program.Enters.call_bind (fun _ => [.times piProcInfo.hProcess])
          (fun _ _ => rfl) fun times => ?_
        refine silent_enters kernel.getTickCount (fun _ _ => rfl) fun tickCount => ?_
        split
        · refine (killChildProcess_enters kernel piProcInfo).bind fun _ events killed => ?_
          exact Program.Enters.pure (.asks (.exitCode written) (.asks .times
            (.last (by rw [List.append_nil]; exact .late killed))))
        · refine (inductionHypothesis _).weaken fun returnCode events rest => ?_
          exact .asks (.exitCode written) (.asks .times rest)
      · simp only [active, ↓reduceIte]
        split
        · next known => exact Program.Enters.pure (.last (.code told known))
        · next unknown =>
          refine Program.Enters.pure (.last (.unknown fun code known => ?_))
          rw [told code known]
          exact ⟨UInt32.not_le.mp unknown, active⟩

/-! ## The two functions -/

theorem executeCalls_enters (windows : Windows World) (kernel : Kernel World) (turns : Nat)
    (self : Executor) (quest : Str) :
    Program.Enters (Executor.executeCalls windows kernel turns self quest)
      (Executor.executeCalls (unlogged windows) kernel.logged turns self quest)
      fun left events => Handled left.requestReport.correct events := by
  unfold Executor.executeCalls Executor.removeInOutFiles
  simp only [bind_assoc]
  refine silent_enters (fun world => ((), windows.remove self.inputFilePath world))
    (fun _ _ => rfl) fun _ => ?_
  refine silent_enters (fun world => ((), windows.remove self.outputFilePath world))
    (fun _ _ => rfl) fun _ => ?_
  refine silent_enters (windows.ofstream self.inputFilePath quest) (fun _ _ => rfl) fun made => ?_
  cases made with
  | false => exact Program.Enters.pure .noInput
  | true =>
  simp only [Bool.not_true, Bool.false_eq_true, ↓reduceIte]
  refine Program.Enters.call_bind (fun created => [.created created]) (fun _ _ => rfl)
    fun created => ?_
  cases created with
  | none => exact Program.Enters.pure .refused
  | some piProcInfo =>
  refine silent_enters kernel.getTickCount (fun _ _ => rfl) fun timeStart => ?_
  refine (watch_enters kernel piProcInfo _ _ timeStart turns ⟨0, 0⟩).bind ?_
  rintro ⟨meter, verdict⟩ watched watch
  refine silent_enters (fun world => ((), kernel.sleep 100 world)) (fun _ _ => rfl) fun _ => ?_
  refine (closeHandles_enters kernel piProcInfo).bind ?_
  rintro _ _ rfl
  have handled : ∀ reported, (reported = verdict ∨ verdict = .correct ∧ reported = .nif) →
      Handled reported ([.created (some piProcInfo)] ++ ([] ++ (watched ++ ([] ++
        ([.closed piProcInfo.hProcess, .closed piProcInfo.hThread, .closed 0] ++ []))))) := by
    intro reported report
    simpa using Handled.ran watch report
  by_cases worked : verdict = .correct
  · subst worked
    simp only [↓reduceIte, Executor.readOutputFile, bind_assoc]
    refine silent_enters (windows.ifstream self.outputFilePath) (fun _ _ => rfl) fun file => ?_
    cases file with
    | none => exact Program.Enters.pure (handled .nif (.inr ⟨rfl, rfl⟩))
    | some content => exact Program.Enters.pure (handled .correct (.inl rfl))
  · simp only [worked, ↓reduceIte]
    exact Program.Enters.pure (handled verdict (.inl rfl))

theorem checkerAssert_enters (expression : Bool) :
    Program.Enters (checkerAssert expression : Judge World Unit)
      (checkerAssert expression : Judge (World × List Event) Unit) fun _ events => events = [] := by
  cases expression with
  | false => exact Program.Enters.stop Halt.assertion
  | true => exact Program.Enters.pure rfl

/-- A search for a full path enters nothing. -/
theorem getDirectoryAndFile_enters (windows : Windows World) (path : Str) :
    Program.Enters (getDirectoryAndFile windows path) (getDirectoryAndFile (unlogged windows) path)
      fun _ events => events = [] := by
  unfold getDirectoryAndFile getFullPathName
  simp only [bind_assoc]
  refine silent_enters (windows.getFullPathName path) (fun _ _ => rfl) fun buff => ?_
  have full : Program.Enters (Program.ofOption .assertion buff : Judge World Str)
      (Program.ofOption .assertion buff) fun _ (events : List Event) => events = [] :=
    Program.Enters.ofOption fun _ => rfl
  refine full.bind ?_
  rintro path _ rfl
  exact Program.Enters.ofOption fun _ => rfl

theorem executeProgramCalls_enters (windows : Windows World) (kernel : Kernel World)
    (turns : Nat) (programPath : Str) (argv : List Str) :
    Program.Enters (executeProgramCalls windows kernel turns programPath argv)
      (executeProgramCalls (unlogged windows) kernel.logged turns programPath argv)
      CheckerHandled := by
  unfold executeProgramCalls
  refine (checkerAssert_enters _).bind ?_
  rintro _ _ rfl
  refine (getDirectoryAndFile_enters windows programPath).bind ?_
  rintro ⟨applicationDirectory, applicationName⟩ _ rfl
  refine Program.Enters.call_bind (fun created => [.created created]) (fun _ _ => rfl)
    fun created => ?_
  refine silent_enters kernel.getTickCount (fun _ _ => rfl) fun timeStart => ?_
  refine (watchProgram_enters kernel (created.getD .zero) timeStart turns 0).bind ?_
  intro returnCode watched watch
  refine Program.Enters.call_bind (fun _ => [.closed (created.getD .zero).hProcess])
    (fun _ _ => rfl) fun _ => ?_
  refine Program.Enters.call_bind (fun _ => [.closed (created.getD .zero).hThread])
    (fun _ _ => rfl) fun _ => ?_
  refine Program.Enters.pure ?_
  simpa using CheckerHandled.ran rfl watch

/-! ## The handles that are held -/

/-- The handles held after an event; `none` when it uses or closes one that is not held. The
null handle may be closed at any time. -/
def Event.held (held : List Handle) : Event → Option (List Handle)
  | .created none => some held
  | .created (some piProcInfo) => some (piProcInfo.hProcess :: piProcInfo.hThread :: held)
  | .exitCode process _ | .times process | .memory process | .terminated process =>
    if process ∈ held then some held else none
  | .closed handle =>
    if handle ∈ held then some (held.erase handle) else if handle = 0 then some held else none

/-- The handles held after a ledger. -/
def heldAfter (held : List Handle) (events : List Event) : Option (List Handle) :=
  events.foldlM Event.held held

theorem heldAfter_cons (held : List Handle) (event : Event) (events : List Event) :
    heldAfter held (event :: events) = (event.held held).bind (heldAfter · events) :=
  List.foldlM_cons

theorem heldAfter_append (held : List Handle) (first second : List Event) :
    heldAfter held (first ++ second) = (heldAfter held first).bind (heldAfter · second) :=
  List.foldlM_append

/-- Calls that use a process and change nothing. -/
def Uses (process : Handle) (events : List Event) : Prop :=
  ∀ held, heldAfter held events = if process ∈ held then some held else none

theorem Uses.cons {process : Handle} {event : Event} {events : List Event}
    (asks : event.Asks process) (uses : Uses process events) :
    Uses process (event :: events) := by
  intro held
  have first : event.held held = if process ∈ held then some held else none := by
    cases asks with
    | exitCode written => rfl
    | times => rfl
    | memory => rfl
  rw [heldAfter_cons, first]
  by_cases member : process ∈ held
  · simp [member, uses held]
  · simp [member]

theorem uses_exitCode (process : Handle) (written : Option Dword) :
    Uses process [.exitCode process written] := by
  intro held
  by_cases member : process ∈ held
  · simp [heldAfter, Event.held, member]
  · simp [heldAfter, Event.held, member]

theorem Killed.uses {process : Handle} {last : List Event} (killed : Killed process last) :
    Uses process last := by
  cases killed with
  | ended told => exact uses_exitCode process _
  | terminated told =>
      intro held
      by_cases member : process ∈ held
      · simp [heldAfter, Event.held, member]
      · simp [heldAfter, Event.held, member]

theorem Left.uses {process : Handle} {verdict : RequestType} {last : List Event}
    (left : Left process verdict last) : Uses process last := by
  cases left with
  | correct told => exact uses_exitCode process _
  | crash told => exact uses_exitCode process _
  | tle killed => exact killed.uses
  | mle killed => exact killed.uses

theorem CheckerLeft.uses {process : Handle} {returnCode : SizeT} {last : List Event}
    (left : CheckerLeft process returnCode last) : Uses process last := by
  cases left with
  | code told known => exact uses_exitCode process _
  | unknown told => exact uses_exitCode process _
  | late killed => exact killed.uses

theorem Watched.uses {process : Handle} {left : List Event → Prop} {events : List Event}
    (watched : Watched process left events)
    (last : ∀ events, left events → Uses process events) : Uses process events := by
  induction watched with
  | last holds => exact last _ holds
  | asks asks rest inductionHypothesis => exact Uses.cons asks inductionHypothesis

/-- The handles of a process that was created, used and then closed. -/
theorem heldAfter_closed {piProcInfo : ProcessInformation} {watched : List Event}
    (uses : Uses piProcInfo.hProcess watched) :
    heldAfter [] (.created (some piProcInfo) :: watched ++
      [.closed piProcInfo.hProcess, .closed piProcInfo.hThread]) = some [] := by
  rw [List.cons_append, heldAfter_cons, Event.held, Option.bind_some, heldAfter_append, uses]
  simp [heldAfter, Event.held]

/-- `executor::execute` gives back every handle that it was given. -/
theorem Handled.heldAfter_eq {reported : RequestType} {events : List Event}
    (handled : Handled reported events) : heldAfter [] events = some [] := by
  cases handled with
  | noInput => rfl
  | refused => rfl
  | @ran piProcInfo verdict _ watched watch report =>
      have split : (.created (some piProcInfo) :: watched ++
          [.closed piProcInfo.hProcess, .closed piProcInfo.hThread, .closed 0] : List Event) =
          (.created (some piProcInfo) :: watched ++
            [.closed piProcInfo.hProcess, .closed piProcInfo.hThread]) ++ [.closed 0] := by simp
      rw [split, heldAfter_append, heldAfter_closed (watch.uses fun _ => Left.uses)]
      simp [heldAfter, Event.held]

/-- The static `execute` does so when a process was created, and else uses handles that it was
not given. -/
theorem CheckerHandled.heldAfter_iff {returned : Int32} {events : List Event}
    (handled : CheckerHandled returned events) :
    ∃ created rest, events = .created created :: rest ∧
      (heldAfter [] events = some [] ↔ created ≠ none) := by
  obtain @⟨created, piProcInfo, returnCode, watched, taken, watch⟩ := handled
  refine ⟨created, _, rfl, ?_⟩
  have uses := watch.uses fun _ => CheckerLeft.uses
  cases created with
  | none =>
      have nothing : heldAfter [] (.created none :: watched ++
          [.closed piProcInfo.hProcess, .closed piProcInfo.hThread]) = none := by
        rw [List.cons_append, heldAfter_cons, Event.held, Option.bind_some, heldAfter_append, uses]
        rfl
      rw [nothing]
      simp
  | some created =>
      cases taken
      exact iff_of_true (heldAfter_closed uses) (by simp)

/-! ## Every run -/

/-- In every run of `executor::execute` that returns, whatever the kernel answers, each handle
it is given is closed once and not used later, and the process is left as `Handled` says. -/
theorem execute_handles (windows : Windows World) (kernel : Kernel World) (turns : Nat)
    (self left : Executor) (quest : Str) (before after : World)
    (returned : Program.Returns (Executor.executeCalls windows kernel turns self quest)
      before left after) :
    ∃ events,
      Program.Returns (Executor.executeCalls (unlogged windows) kernel.logged turns self quest)
        (before, []) left (after, events) ∧
      Handled left.requestReport.correct events ∧ heldAfter [] events = some [] := by
  obtain ⟨events, logged, handled⟩ :=
    (executeCalls_enters windows kernel turns self quest).returns returned
  exact ⟨events, logged, handled, handled.heldAfter_eq⟩

/-- An environment in which every file opens for writing and none for reading. -/
def blankWindows : Windows Nat where
  ifstream _ ticks := (none, ticks)
  ofstream _ _ ticks := (true, ticks)
  remove _ ticks := ticks
  getFullPathName path ticks := (some path, ticks)
  popen _ ticks := (none, ticks)
  createProcess _ _ ticks := (none, ticks)
  createChecker _ ticks := (⟨0, []⟩, ticks)

/-- A kernel whose processes run without end, each question to the clock 3 s after the last. -/
def idleKernel : Kernel Nat where
  createProcess _ _ _ ticks := (some ⟨4, 8⟩, ticks)
  getExitCodeProcess _ ticks := (some stillActive, ticks)
  getProcessTimes _ ticks := ((⟨0, 0⟩, ⟨0, 0⟩), ticks)
  getProcessMemoryInfo _ ticks := (some 0, ticks)
  getTickCount ticks := (.ofNat ticks, ticks + 3000)
  terminateProcess _ ticks := ticks
  closeHandle _ ticks := ticks
  sleep _ ticks := ticks
  uninitialised _ := 0

/-- A program that does not end: it is terminated, and its handles are closed. -/
theorem execute_handles_idle :
    ∃ events,
      Program.Returns (Executor.executeCalls (unlogged blankWindows) idleKernel.logged 1 .fresh [])
        (0, []) { Executor.fresh with requestReport := ⟨[], 0, 0, .tle⟩ } (6000, events) ∧
      Handled .tle events ∧ heldAfter [] events = some [] :=
  execute_handles blankWindows idleKernel 1 .fresh
    { Executor.fresh with requestReport := ⟨[], 0, 0, .tle⟩ } [] 0 6000 rfl

/-- The static `execute` closes what it was given when it was given a process; when it was not,
it asks about and closes the null handle. -/
theorem executeProgram_handles (windows : Windows World) (kernel : Kernel World) (turns : Nat)
    (programPath : Str) (argv : List Str) (returnCode : Int32) (before after : World)
    (returned : Program.Returns (executeProgramCalls windows kernel turns programPath argv)
      before returnCode after) :
    ∃ created rest,
      Program.Returns
        (executeProgramCalls (unlogged windows) kernel.logged turns programPath argv)
        (before, []) returnCode (after, .created created :: rest) ∧
      CheckerHandled returnCode (.created created :: rest) ∧
      (heldAfter [] (.created created :: rest) = some [] ↔ created ≠ none) := by
  obtain ⟨events, logged, handled⟩ :=
    (executeProgramCalls_enters windows kernel turns programPath argv).returns returned
  obtain ⟨created, rest, rfl, balanced⟩ := handled.heldAfter_iff
  exact ⟨created, rest, logged, handled, balanced⟩

theorem executeProgram_handles_idle :
    ∃ created rest,
      Program.Returns
        (executeProgramCalls (unlogged blankWindows) idleKernel.logged 1
          "c:\\checker.exe".toList [])
        (0, []) (-1) (6000, .created created :: rest) ∧
      CheckerHandled (-1) (.created created :: rest) ∧
      (heldAfter [] (.created created :: rest) = some [] ↔ created ≠ none) :=
  executeProgram_handles blankWindows idleKernel 1 "c:\\checker.exe".toList [] (-1) 0 6000 rfl

/-! ## Whole runs of the judge -/

/-- What one process leaves in the ledger. -/
def Block (events : List Event) : Prop :=
  (∃ reported, Handled reported events) ∨ ∃ returned, CheckerHandled returned events

/-- A ledger of processes, one after the other. -/
def Blocks (ledger : List Event) : Prop :=
  ∃ blocks : List (List Event), ledger = blocks.flatten ∧ ∀ block ∈ blocks, Block block

theorem Blocks.append {ledger block : List Event} (before : Blocks ledger) (added : Block block) :
    Blocks (ledger ++ block) := by
  obtain ⟨blocks, rfl, each⟩ := before
  refine ⟨blocks ++ [block], by simp, fun other member => ?_⟩
  rcases List.mem_append.mp member with member | member
  · exact each other member
  · rw [List.mem_singleton.mp member]
    exact added

/-- Once every process was created, no handle is left. -/
theorem Blocks.heldAfter_eq {ledger : List Event} (blocks : Blocks ledger)
    (created : .created none ∉ ledger) : heldAfter [] ledger = some [] := by
  obtain ⟨blocks, rfl, each⟩ := blocks
  induction blocks with
  | nil => rfl
  | cons block rest inductionHypothesis =>
      rw [List.flatten_cons] at created ⊢
      have given : Event.created none ∉ block := fun member =>
        created (List.mem_append_left _ member)
      have closed : heldAfter [] block = some [] := by
        rcases each block List.mem_cons_self with ⟨_, handled⟩ | ⟨_, handled⟩
        · exact handled.heldAfter_eq
        · obtain ⟨process, later, rfl, balanced⟩ := handled.heldAfter_iff
          refine balanced.mpr ?_
          rintro rfl
          exact given List.mem_cons_self
      rw [heldAfter_append, closed]
      exact inductionHypothesis (fun other member => each other (List.mem_cons_of_mem _ member))
        fun member => created (List.mem_append_right _ member)

/-- Both loops end within so many turns, on every process. -/
structure Kernel.Ends (kernel : Kernel World) (turns : Nat) (timeLimit memoryLimit : SizeT) :
    Prop where
  contestant : ∀ piProcInfo timeStart world, ∃ ended after, Program.Returns
    (Executor.watch kernel piProcInfo timeLimit memoryLimit timeStart turns ⟨0, 0⟩) world ended
      after
  checker : ∀ piProcInfo timeStart world, ∃ returnCode after, Program.Returns
    (watchProgram kernel piProcInfo timeStart turns 0) world returnCode after

section Runs

variable {kernel : Kernel World} {turns : Nat} {timeLimit memoryLimit : SizeT}

/-- A contestant's process that was created leaves one block. -/
theorem blocks_launch (ends : kernel.Ends turns timeLimit memoryLimit)
    (piProcInfo : ProcessInformation) (world : World) {ledger : List Event}
    (before : Blocks ledger) :
    Blocks (kernel.logged.launch turns timeLimit memoryLimit piProcInfo
      (world, ledger ++ [.created (some piProcInfo)])).2.2 := by
  obtain ⟨ended, after, ran⟩ := ends.contestant piProcInfo (kernel.getTickCount world).1
    (kernel.getTickCount world).2
  have entered := watch_enters kernel piProcInfo timeLimit memoryLimit (kernel.getTickCount world).1
    turns ⟨0, 0⟩ (kernel.getTickCount world).2 (ledger ++ [.created (some piProcInfo)])
  unfold Program.Returns at ran
  rw [ran] at entered
  obtain ⟨events, logged, watch⟩ := entered
  rw [watch_eq_loop, Monitor.run_loop] at logged
  have ticks : kernel.logged.getTickCount (world, ledger ++ [.created (some piProcInfo)]) =
      ((kernel.getTickCount world).1, (kernel.getTickCount world).2,
        ledger ++ [.created (some piProcInfo)]) := rfl
  simp only [Kernel.launch, ticks]
  split at logged
  · next driven =>
      cases logged
      rw [driven]
      have block : Block (.created (some piProcInfo) :: events ++
          [.closed piProcInfo.hProcess, .closed piProcInfo.hThread, .closed 0]) :=
        .inl ⟨_, .ran watch (.inl rfl)⟩
      simpa [Kernel.logged] using before.append block
  · cases logged

/-- So does a checker's, created or not. -/
theorem blocks_checkerLaunch (ends : kernel.Ends turns timeLimit memoryLimit)
    (created : Option ProcessInformation) (world : World) {ledger : List Event}
    (before : Blocks ledger) :
    Blocks (kernel.logged.checkerLaunch turns (created.getD .zero)
      (world, ledger ++ [.created created])).2.2 := by
  obtain ⟨returnCode, after, ran⟩ := ends.checker (created.getD .zero)
    (kernel.getTickCount world).1 (kernel.getTickCount world).2
  have entered := watchProgram_enters kernel (created.getD .zero) (kernel.getTickCount world).1
    turns 0 (kernel.getTickCount world).2 (ledger ++ [.created created])
  unfold Program.Returns at ran
  rw [ran] at entered
  obtain ⟨events, logged, watch⟩ := entered
  rw [watchProgram_eq_loop, EStateM.run_bind, Monitor.run_loop] at logged
  have ticks : kernel.logged.getTickCount (world, ledger ++ [.created created]) =
      ((kernel.getTickCount world).1, (kernel.getTickCount world).2,
        ledger ++ [.created created]) := rfl
  simp only [Kernel.checkerLaunch, ticks]
  cases driven : Monitor.drive (checkerMonitor (kernel.getTickCount world).1)
      (kernel.logged.checkerPoll (created.getD .zero).hProcess (kernel.getTickCount world).1) turns
      0 ((kernel.getTickCount world).2, ledger ++ [.created created]) with
  | mk result left =>
      rw [driven] at logged
      cases result with
      | none => cases logged
      | some ended =>
          cases logged
          have block : Block (.created created :: events ++
              [.closed (created.getD .zero).hProcess, .closed (created.getD .zero).hThread]) :=
            .inr ⟨_, .ran rfl watch⟩
          simpa [Kernel.logged] using before.append block

/-- Every call of the environment leaves whole blocks. -/
theorem permits_blocks (base : Windows World) (ends : kernel.Ends turns timeLimit memoryLimit) :
    Permits (kernel.logged.windows (unlogged base) turns timeLimit memoryLimit)
      (fun store => Blocks store.2) fun _ => True where
  ifstream _ := Program.Ensures.call fun _ before => before
  ofstream _ _ := Program.Ensures.call fun _ before => before
  remove _ := Program.Ensures.call fun _ before => before
  getFullPathName path := by
    have asked : Program.Keeps (fun store : World × List Event => Blocks store.2)
        (Program.call (silent (base.getFullPathName path)) : Judge _ (Option Str)) :=
      Program.Ensures.call fun _ before => before
    refine asked.bind fun found => ?_
    exact Program.Ensures.ofOption (fun _ _ _ before => ⟨fun allowed => allowed, before⟩)
      fun _ _ before => before
  popen _ := Program.Ensures.call fun _ before => before
  createProcess application directory := Program.Ensures.call fun (world, ledger) before => by
    have created : kernel.logged.createProcess (some application) none (some directory)
        (world, ledger) = ((kernel.createProcess (some application) none (some directory) world).1,
        (kernel.createProcess (some application) none (some directory) world).2,
        ledger ++ [.created (kernel.createProcess (some application) none (some directory)
          world).1]) := rfl
    simp only [Kernel.windows, created]
    generalize kernel.createProcess (some application) none (some directory) world = started
    obtain ⟨started, world⟩ := started
    cases started with
    | none => exact before.append (.inl ⟨_, .refused⟩)
    | some piProcInfo => exact blocks_launch ends piProcInfo world before
  createChecker line := Program.Ensures.call fun (world, ledger) before =>
    blocks_checkerLaunch ends (kernel.createProcess none (some line) none world).1
      (kernel.createProcess none (some line) none world).2 before

end Runs

/-- The ledger of a run of `main`, however it ends. -/
def mainLedger (base : Windows World) (kernel : Kernel World) (turns : Nat)
    (timeLimit memoryLimit : SizeT) (parse : Str → Option Json) (argv : List Str)
    (before : World) : List Event :=
  (Program.finalStore (main (kernel.logged.windows (unlogged base) turns timeLimit memoryLimit)
    parse argv) (before, [])).2

/-- However a run of the judge ends, by its verdict, an assertion or undefined behaviour: when
the loops end, every process that it started has its block in the ledger, with the handles closed
once and not used again; only a checker that could not be started is asked about. -/
theorem main_handles (base : Windows World) {kernel : Kernel World} {turns : Nat}
    {timeLimit memoryLimit : SizeT} (ends : kernel.Ends turns timeLimit memoryLimit)
    (parse : Str → Option Json) (argv : List Str) (before : World) :
    Blocks (mainLedger base kernel turns timeLimit memoryLimit parse argv before) ∧
    (.created none ∉ mainLedger base kernel turns timeLimit memoryLimit parse argv before →
      heldAfter [] (mainLedger base kernel turns timeLimit memoryLimit parse argv before) =
        some []) := by
  have empty : Blocks (before, ([] : List Event)).2 := ⟨[], rfl, by simp⟩
  have blocks : Blocks (mainLedger base kernel turns timeLimit memoryLimit parse argv before) :=
    Program.Keeps.finalStore (keeps_main (permits_blocks base ends) parse argv) empty
  exact ⟨blocks, blocks.heldAfter_eq⟩

/-- A kernel whose processes have ended with 0 before the first question. -/
def promptKernel : Kernel World where
  createProcess _ _ _ world := (some ⟨4, 8⟩, world)
  getExitCodeProcess _ world := (some 0, world)
  getProcessTimes _ world := ((⟨0, 0⟩, ⟨0, 0⟩), world)
  getProcessMemoryInfo _ world := (some 0, world)
  getTickCount world := (0, world)
  terminateProcess _ world := world
  closeHandle _ world := world
  sleep _ world := world
  uninitialised _ := 0

theorem promptKernel_ends (timeLimit memoryLimit : SizeT) :
    (promptKernel : Kernel World).Ends 1 timeLimit memoryLimit where
  contestant _ _ world := ⟨_, world, rfl⟩
  checker _ _ world := ⟨_, world, rfl⟩

/-- The judge of the pair, with such a kernel. -/
theorem main_handles_pair :
    Blocks (mainLedger pairMachine.windows promptKernel 1 1000 65536 pairParse
      ["checker".toList, "C:\\cfg".toList, "C:\\p".toList, "a".toList, "C:\\r".toList]
      ⟨pairFiles, ()⟩) ∧
    (.created none ∉ mainLedger pairMachine.windows promptKernel 1 1000 65536 pairParse
        ["checker".toList, "C:\\cfg".toList, "C:\\p".toList, "a".toList, "C:\\r".toList]
        ⟨pairFiles, ()⟩ →
      heldAfter [] (mainLedger pairMachine.windows promptKernel 1 1000 65536 pairParse
        ["checker".toList, "C:\\cfg".toList, "C:\\p".toList, "a".toList, "C:\\r".toList]
        ⟨pairFiles, ()⟩) = some []) :=
  main_handles pairMachine.windows (promptKernel_ends 1000 65536) pairParse _ _

end CheckerOlimp.CheckerRc
