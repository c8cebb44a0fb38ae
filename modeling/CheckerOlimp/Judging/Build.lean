import CheckerOlimp.CheckerRc.Builder
import CheckerOlimp.Judging.Acceptance

/-!
# What a successful build stands for

A build is judged by the text of its compiler alone. `Accepted` says for each
compiler which texts count as success, and `reportedExecutable` which file is
then judged; the exit status of the command and the files it wrote play no part.
A build that counts as successful has succeeded exactly when they agree.
-/

namespace CheckerOlimp.CheckerRc

open CheckerOlimp.Std

/-- The command that `parse_compiler_config` makes, or none when a placeholder is
missing. -/
def compileCommand (profilePath sourceName compilerName compilerConfig : Str) : Option Str :=
  if compilerName = msvCpp ∨ compilerName = mingwCpp then do
    let first ← Text.find "$1".toList compilerConfig
    let command := Text.replace compilerConfig first 2 (restorePath profilePath sourceName)
    let second ← Text.find "$2".toList command
    some (Text.replace command second 2 (restorePath profilePath (sourceName ++ exeStr)))
  else if compilerName = fpPas ∨ compilerName = abcPas then do
    let first ← Text.find "$1".toList compilerConfig
    some (Text.replace compilerConfig first 2 (restorePath profilePath sourceName))
  else some []

/-- The command that a build starts: `mingw_cpp` joins the error stream to the output. -/
def buildCommand (profilePath sourceName compilerName compilerConfig : Str) : Option Str :=
  (compileCommand profilePath sourceName compilerName compilerConfig).map fun command =>
    if compilerName = mingwCpp then command ++ " 2>&1".toList else command

/-- The four compilers. -/
def compilers : List Str := [msvCpp, fpPas, abcPas, mingwCpp]

/-- The source names that the Pascal builds take. -/
def PascalName (sourceName : Str) : Prop := 5 ≤ sourceName.length ∨ sourceName = ".pas".toList

/-- The runs of a compiler whose text counts as success. -/
def Accepted (compilerName sourceName : Str) (pipe : Pipe) : Prop :=
  pipe.endOfFile = true ∧
    if compilerName = msvCpp then
      ¬ "fatal error".toList <:+: readPipe pipe.output ∧ "/out:".toList <:+: readPipe pipe.output
    else if compilerName = fpPas then
      readPipe pipe.output ≠ [] ∧ ¬ "Fatal:".toList <:+: readPipe pipe.output ∧
        PascalName sourceName
    else if compilerName = abcPas then
      readPipe pipe.output ≠ [] ∧ "OK".toList <:+: readPipe pipe.output ∧ PascalName sourceName
    else ¬ "error:".toList <:+: readPipe pipe.output

/-- The path after the linker's `/out:`, or the path as it came when the text ends there. -/
def linkedExecutable (executableFilePath text : Str) : Str :=
  match Text.find "/out:".toList text with
  | none => executableFilePath
  | some position =>
    if position + 5 < text.length then scrapePath (text.drop (position + 5))
    else executableFilePath

/-- The executable of a successful build. -/
def reportedExecutable (profilePath sourceName compilerName executableFilePath : Str)
    (pipe : Pipe) : Str :=
  if compilerName = msvCpp then linkedExecutable executableFilePath (readPipe pipe.output)
  else if compilerName = mingwCpp then restorePath profilePath (sourceName ++ exeStr)
  else restorePath profilePath (sourceName.take (sourceName.length - 4) ++ exeStr)

/-! ## The steps of a build -/

section Steps

variable {World : Type}

theorem parseCompilerConfig_eq (profilePath sourceName compilerName compilerConfig : Str) :
    (parseCompilerConfig profilePath sourceName compilerName compilerConfig : Judge World Str) =
      Program.ofOption .assertion
        (compileCommand profilePath sourceName compilerName compilerConfig) := by
  unfold parseCompilerConfig compileCommand replacePlaceholder
  split
  · cases Text.find "$1".toList compilerConfig with
    | none => rfl
    | some first =>
        simp only [Program.ofOption, pure_bind, Option.bind_eq_bind, Option.bind_some]
        cases Text.find "$2".toList
          (Text.replace compilerConfig first 2 (restorePath profilePath sourceName)) <;> rfl
  · split
    · cases Text.find "$1".toList compilerConfig <;> rfl
    · rfl

/-- The end of a name has the letter, and the index is in range. -/
theorem returns_differsFromEnd_false_iff {name : Str} {back : Nat} {letter : Char}
    {before after : World} :
    Program.Returns (differsFromEnd name back letter) before false after ↔
      (back ≤ name.length ∧ name[name.length - back]? = some letter) ∧ after = before := by
  unfold differsFromEnd
  by_cases inRange : back ≤ name.length
  · simp only [inRange, ↓reduceIte, Program.returns_ofOption_iff, true_and]
    cases name[name.length - back]? with
    | none => simp
    | some found => simp
  · simp [inRange]

/-- A guard that lets the rest go on has returned `false`. -/
theorem returns_guard_false_iff {guarded rest : Judge World Bool} {before after : World} :
    Program.Returns (guarded >>= fun found => if found = true then pure true else rest) before
        false after ↔
      ∃ middle, Program.Returns guarded before false middle ∧
        Program.Returns rest middle false after := by
  rw [Program.returns_bind_iff]
  constructor
  · rintro ⟨found, middle, first, second⟩
    cases found with
    | false => exact ⟨middle, first, second⟩
    | true =>
        simp only [↓reduceIte, Program.returns_pure_iff] at second
        exact absurd second.1 (by decide)
  · rintro ⟨middle, first, second⟩
    exact ⟨false, middle, first, second⟩

theorem returns_rejectsPascalName_false_iff {name : Str} {before after : World} :
    Program.Returns (rejectsPascalName name) before false after ↔
      PascalName name ∧ after = before := by
  unfold rejectsPascalName PascalName
  by_cases short : name.length < 5
  · have notLong : ¬ 5 ≤ name.length := Nat.not_le_of_lt short
    simp only [short, ↓reduceIte, returns_guard_false_iff, returns_differsFromEnd_false_iff,
      notLong, false_or]
    constructor
    · rintro ⟨_, ⟨⟨_, last⟩, rfl⟩, _, ⟨⟨_, second⟩, rfl⟩, _, ⟨⟨_, third⟩, rfl⟩,
      ⟨inRange, fourth⟩, rfl⟩
      have four : name.length = 4 := by omega
      rw [four] at last second third fourth
      refine ⟨List.ext_getElem? fun index => ?_, rfl⟩
      match index with
      | 0 => exact fourth
      | 1 => exact third
      | 2 => exact second
      | 3 => exact last
      | index + 4 =>
          rw [List.getElem?_eq_none (by omega), List.getElem?_eq_none (by simp)]
    · rintro ⟨rfl, rfl⟩
      exact ⟨_, ⟨⟨by decide, rfl⟩, rfl⟩, _, ⟨⟨by decide, rfl⟩, rfl⟩, _, ⟨⟨by decide, rfl⟩, rfl⟩,
        ⟨by decide, rfl⟩, rfl⟩
  · have long : 5 ≤ name.length := Nat.le_of_not_lt short
    simp [short, long]

end Steps

/-! ## The four builds -/

section Builds

variable {World : Type} {windows : Windows World} {pipe : Pipe}
  {profilePath sourceName compilerName compilerConfig executableFilePath executable command : Str}
  {before opened after : World}

/-- Reading the output of a started compiler. -/
theorem returns_runCompiler_iff (started : windows.popen command before = (some pipe, opened))
    {result : Option (Str × Bool)} :
    Program.Returns (runCompiler windows command) before result after ↔
      result = some (readPipe pipe.output, pipe.endOfFile) ∧ after = opened := by
  simp only [runCompiler, Program.returns_bind_iff, Program.returns_call_iff, started]
  constructor
  · rintro ⟨_, _, same, returned⟩
    cases same
    exact Program.returns_pure_iff.mp returned
  · rintro ⟨rfl, rfl⟩
    exact ⟨_, _, rfl, rfl⟩

/-- What a build does with the command and the text of its compiler. -/
theorem returns_compiled_iff {rest : Option (Str × Bool) → Judge World (Bool × Str)}
    (extend : Str → Str)
    (made : compileCommand profilePath sourceName compilerName compilerConfig = some command)
    (started : windows.popen (extend command) before = (some pipe, opened)) {result : Bool × Str} :
    Program.Returns (parseCompilerConfig profilePath sourceName compilerName compilerConfig >>=
        fun compilerCommand => runCompiler windows (extend compilerCommand) >>= rest)
        before result after ↔
      Program.Returns (rest (some (readPipe pipe.output, pipe.endOfFile))) opened result
        after := by
  rw [parseCompilerConfig_eq, made]
  simp only [Program.ofOption, pure_bind, Program.returns_bind_iff,
    returns_runCompiler_iff started]
  constructor
  · rintro ⟨_, _, ⟨rfl, rfl⟩, returned⟩
    exact returned
  · intro returned
    exact ⟨_, _, ⟨rfl, rfl⟩, returned⟩

theorem returns_buildMsvCpp_true_iff
    (made : compileCommand profilePath sourceName compilerName compilerConfig = some command)
    (started : windows.popen command before = (some pipe, opened)) :
    Program.Returns (buildMsvCpp windows profilePath sourceName compilerName compilerConfig
        executableFilePath) before (true, executable) after ↔
      (pipe.endOfFile = true ∧ ¬ "fatal error".toList <:+: readPipe pipe.output ∧
        "/out:".toList <:+: readPipe pipe.output) ∧
      executable = linkedExecutable executableFilePath (readPipe pipe.output) ∧
      after = opened := by
  have five : "/out:".toList.length = 5 := rfl
  unfold buildMsvCpp linkedExecutable
  refine (returns_compiled_iff (fun command => command) made started).trans ?_
  generalize readPipe pipe.output = text, "/out:".toList = out,
    "fatal error".toList = fatal at five ⊢
  cases pipe.endOfFile with
  | false => simp
  | true =>
  by_cases broken : fatal <:+: text
  · simp [Text.find_eq_none_iff, broken]
  · cases marked : Text.find out text with
    | none =>
        have unmarked := Text.find_eq_none_iff.mp marked
        simp [Text.find_eq_none_iff, broken, unmarked, marked]
    | some position =>
        have linked : out <:+: text := Text.find_isSome_iff.mp (by rw [marked]; rfl)
        by_cases more : position + 5 < text.length
        · simp [Text.find_eq_none_iff, broken, linked, marked, five, more]
        · simp [Text.find_eq_none_iff, broken, linked, marked, five, more]

theorem returns_buildMingwCpp_true_iff
    (made : compileCommand profilePath sourceName compilerName compilerConfig = some command)
    (started : windows.popen (command ++ " 2>&1".toList) before = (some pipe, opened)) :
    Program.Returns (buildMingwCpp windows profilePath sourceName compilerName
        compilerConfig executableFilePath) before (true, executable) after ↔
      (pipe.endOfFile = true ∧ ¬ "error:".toList <:+: readPipe pipe.output) ∧
      executable = restorePath profilePath (sourceName ++ exeStr) ∧ after = opened := by
  unfold buildMingwCpp
  refine (returns_compiled_iff (· ++ " 2>&1".toList) made started).trans ?_
  generalize readPipe pipe.output = text, "error:".toList = error
  cases pipe.endOfFile with
  | false => simp
  | true =>
  by_cases broken : error <:+: text
  · simp [Text.find_eq_none_iff, broken]
  · simp [Text.find_eq_none_iff, broken]

/-- Both Pascal builds, with the rule for the text of the compiler. -/
theorem returns_buildPascal_true_iff (succeeds : Str → Bool)
    (made : compileCommand profilePath sourceName compilerName compilerConfig = some command)
    (started : windows.popen command before = (some pipe, opened)) :
    Program.Returns (buildPascal windows succeeds profilePath sourceName compilerName
        compilerConfig executableFilePath) before (true, executable) after ↔
      (pipe.endOfFile = true ∧ readPipe pipe.output ≠ [] ∧
        succeeds (readPipe pipe.output) = true ∧ PascalName sourceName) ∧
      executable = restorePath profilePath (sourceName.take (sourceName.length - 4) ++ exeStr) ∧
      after = opened := by
  unfold buildPascal
  refine (returns_compiled_iff (fun command => command) made started).trans ?_
  generalize readPipe pipe.output = text
  cases text with
  | nil => simp
  | cons head tail =>
  simp only [List.isEmpty_cons, Bool.not_false, checkerAssert_true, pure_bind]
  cases pipe.endOfFile with
  | false => simp
  | true =>
  cases rule : succeeds (head :: tail) with
  | false => simp
  | true =>
  simp only [Bool.not_true, Bool.false_eq_true, ↓reduceIte, Program.returns_bind_iff]
  constructor
  · rintro ⟨rejected, middle, guarded, returned⟩
    cases rejected with
    | true => simp at returned
    | false =>
        obtain ⟨accepted, rfl⟩ := returns_rejectsPascalName_false_iff.mp guarded
        obtain ⟨same, rfl⟩ := Program.returns_pure_iff.mp returned
        cases same
        exact ⟨⟨trivial, by simp, trivial, accepted⟩, rfl, rfl⟩
  · rintro ⟨⟨_, _, _, accepted⟩, rfl, rfl⟩
    exact ⟨false, after, returns_rejectsPascalName_false_iff.mpr ⟨accepted, rfl⟩, rfl⟩

/-- A build that counts as successful has been accepted by the text of its compiler,
and reports the executable that goes with it. -/
theorem returns_buildFromSource_true_iff (known : compilerName ∈ compilers)
    (made : buildCommand profilePath sourceName compilerName compilerConfig = some command)
    (started : windows.popen command before = (some pipe, opened)) :
    Program.Returns (buildFromSource windows profilePath sourceName compilerName
        compilerConfig executableFilePath) before (true, executable) after ↔
      Accepted compilerName sourceName pipe ∧
      executable = reportedExecutable profilePath sourceName compilerName executableFilePath
        pipe ∧
      after = opened := by
  obtain ⟨compiled, made', rfl⟩ := Option.map_eq_some_iff.mp made
  have fpMsv : fpPas ≠ msvCpp := by decide
  have abcMsv : abcPas ≠ msvCpp := by decide
  have abcFp : abcPas ≠ fpPas := by decide
  have mingwMsv : mingwCpp ≠ msvCpp := by decide
  have mingwFp : mingwCpp ≠ fpPas := by decide
  have mingwAbc : mingwCpp ≠ abcPas := by decide
  unfold buildFromSource Accepted reportedExecutable
  simp only [compilers, List.mem_cons, List.not_mem_nil, or_false] at known
  rcases known with rfl | rfl | rfl | rfl
  · simp only [mingwMsv.symm, ↓reduceIte] at started ⊢
    exact returns_buildMsvCpp_true_iff made' started
  · simp only [mingwFp.symm, fpMsv, ↓reduceIte] at started ⊢
    refine (returns_buildPascal_true_iff _ made' started).trans ?_
    simp only [decide_eq_true_eq, Text.find_eq_none_iff]
  · simp only [mingwAbc.symm, abcMsv, abcFp, ↓reduceIte] at started ⊢
    refine (returns_buildPascal_true_iff _ made' started).trans ?_
    simp only [decide_eq_true_eq, ne_eq, Text.find_eq_none_iff, not_not]
  · simp only [mingwMsv, mingwFp, mingwAbc, ↓reduceIte] at started ⊢
    exact returns_buildMingwCpp_true_iff made' started

end Builds

/-! ## Builds on a machine -/

section Machine

variable {File Rest : Type} [DecidableEq File] {machine : Machine File Rest}
  {profilePath sourceName compilerName compilerConfig executableFilePath command : Str}
  {before : World File Rest} {run : CompileRun before}

/-- The pipe of a compiler run. -/
theorem popen_of_compile (started : machine.compile command before = some run) :
    machine.windows.popen command before = (some run.pipe, run.after) := by
  simp only [Machine.windows, started]

/-- A build that counts as successful has succeeded: its command ended with status 0
and wrote the executable. -/
def BuildSound (machine : Machine File Rest) (profilePath sourceName compilerName compilerConfig
    executableFilePath : Str) {before : World File Rest} (run : CompileRun before) : Prop :=
  ∀ executable after, Program.Returns (buildFromSource machine.windows profilePath sourceName
      compilerName compilerConfig executableFilePath) before (true, executable) after →
    run.pipe.status = 0 ∧ run.written (machine.fileOf executable) = true

/-- A build is sound exactly when its text is not accepted, or the command did
succeed in writing the executable that is reported. -/
theorem buildSound_iff (known : compilerName ∈ compilers)
    (made : buildCommand profilePath sourceName compilerName compilerConfig = some command)
    (started : machine.compile command before = some run) :
    BuildSound machine profilePath sourceName compilerName compilerConfig executableFilePath run ↔
      ¬ Accepted compilerName sourceName run.pipe ∨
      (run.pipe.status = 0 ∧ run.written (machine.fileOf
        (reportedExecutable profilePath sourceName compilerName executableFilePath run.pipe)) =
          true) := by
  have opened := popen_of_compile started
  constructor
  · intro sound
    by_cases accepted : Accepted compilerName sourceName run.pipe
    · exact .inr (sound _ _ ((returns_buildFromSource_true_iff known made opened).mpr
        ⟨accepted, rfl, rfl⟩))
    · exact .inl accepted
  · rintro condition executable after returned
    obtain ⟨accepted, rfl, _⟩ :=
      (returns_buildFromSource_true_iff known made opened).mp returned
    exact condition.resolve_left (not_not.mpr accepted)

end Machine

/-! ## A compiler that cannot be found -/

/-- The shell's answer to an unknown command: no file is written. -/
def unknownCommand (before : World Str Unit) : CompileRun before where
  pipe := ⟨"'g' is not recognized as an internal or external command,\noperable program".toList,
    true, 1⟩
  after := before
  written _ := false
  unwritten _ _ := rfl

/-- The machine of the pair without its compiler. -/
def bareMachine : Machine Str Unit :=
  { pairMachine with compile := fun _ before => some (unknownCommand before) }

/-- A world in which an earlier solution has left its executable. -/
def staleWorld : World Str Unit :=
  CheckerOlimp.World.put ⟨pairFiles, ()⟩ "C:\\p\\a.exe".toList (some "MZ".toList)

/-- The command of `mingw_cpp` on the source `a`. -/
theorem buildCommand_bare :
    buildCommand "C:\\p".toList "a".toList mingwCpp "g $1 $2".toList =
      some "g C:\\p\\a C:\\p\\a.exe 2>&1".toList := by
  decide

/-- Without a compiler the build counts as successful, and the stale executable is
the one that will be judged. -/
theorem unknownCommand_not_buildSound :
    ¬ ∀ (machine : Machine Str Unit) (profilePath sourceName compilerName compilerConfig
        executableFilePath command : Str) (before : World Str Unit) (run : CompileRun before),
      compilerName ∈ compilers →
      buildCommand profilePath sourceName compilerName compilerConfig = some command →
      machine.compile command before = some run →
      BuildSound machine profilePath sourceName compilerName compilerConfig executableFilePath
        run := by
  intro always
  have sound := always bareMachine "C:\\p".toList "a".toList mingwCpp "g $1 $2".toList [] _
    staleWorld (unknownCommand staleWorld) (by decide) buildCommand_bare rfl
  have built : Program.outcome (buildFromSource bareMachine.windows "C:\\p".toList "a".toList
      mingwCpp "g $1 $2".toList []) staleWorld = .ok (true, "C:\\p\\a.exe".toList) := by
    decide +kernel
  obtain ⟨after, returned⟩ := Program.outcome_eq_ok_iff.mp built
  exact absurd (sound _ _ returned).1 (by decide)

/-- The condition without a compiler. -/
theorem buildSound_iff_bare :
    BuildSound bareMachine "C:\\p".toList "a".toList mingwCpp "g $1 $2".toList []
        (unknownCommand staleWorld) ↔
      ¬ Accepted mingwCpp "a".toList (unknownCommand staleWorld).pipe ∨
      ((unknownCommand staleWorld).pipe.status = 0 ∧
        (unknownCommand staleWorld).written (bareMachine.fileOf
          (reportedExecutable "C:\\p".toList "a".toList mingwCpp []
            (unknownCommand staleWorld).pipe)) = true) :=
  buildSound_iff (by decide) buildCommand_bare rfl

end CheckerOlimp.CheckerRc
