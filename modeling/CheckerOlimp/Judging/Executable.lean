import CheckerOlimp.Judging.Build
import CheckerOlimp.Judging.Sampling
import CheckerOlimp.Judging.Serialization

/-!
# The executable that a build names

The C++ builds are asked for the file that goes with `$2`. `mingw_cpp` judges that
file; `msv_cpp` judges whatever stands after the first `/out:` in the compiler's text,
where the source has a say as well. The Pascal builds cut `.pas` off the name of the
source, after a guard that looks at short names only.
-/

namespace CheckerOlimp.CheckerRc

open CheckerOlimp.Std

/-! ## The text of the compiler -/

/-- A line and what follows it are the text. -/
theorem takeLine_append (count : Nat) (text : Str) :
    (takeLine count text).1 ++ (takeLine count text).2 = text := by
  induction count generalizing text with
  | zero => rfl
  | succ count inductionHypothesis =>
      cases text with
      | nil => rfl
      | cons head rest =>
          rw [takeLine]
          by_cases newline : head = '\n'
          · rw [if_pos newline]
            rfl
          · rw [if_neg newline]
            exact congrArg (head :: ·) (inductionHypothesis rest)

/-- A buffer with room for a letter takes at least one. -/
theorem takeLine_length_lt (count : Nat) (head : Char) (rest : Str) :
    (takeLine (count + 1) (head :: rest)).2.length < (head :: rest).length := by
  rw [takeLine]
  by_cases newline : head = '\n'
  · rw [if_pos newline]
    exact Nat.lt_succ_self _
  · rw [if_neg newline]
    have whole := congrArg List.length (takeLine_append count rest)
    rw [List.length_append] at whole
    simp only [List.length_cons]
    omega

/-- The buffers, put together, are the text. -/
theorem readLines_eq {turns : Nat} {text : Str} (absent : '\x00' ∉ text)
    (enough : text.length ≤ turns) : readLines turns text = text := by
  induction turns generalizing text with
  | zero =>
      have empty : text = [] := List.length_eq_zero_iff.mp (Nat.le_zero.mp enough)
      rw [empty]
      rfl
  | succ turns inductionHypothesis =>
      cases text with
      | nil => rfl
      | cons head rest =>
          have whole := takeLine_append bufferLength (head :: rest)
          have shorter := takeLine_length_lt 510 head rest
          change (takeLine bufferLength (head :: rest)).2.length < _ at shorter
          rw [readLines.eq_3 _ _ (by simp)]
          generalize takeLine bufferLength (head :: rest) = parts at whole shorter ⊢
          rw [← whole, List.mem_append, not_or] at absent
          rw [cString_of_plain absent.1, inductionHypothesis absent.2 (by omega), whole]

/-- Reading a pipe gives all that the compiler printed, whatever the buffers. -/
theorem readPipe_eq {output : Str} (absent : '\x00' ∉ output) : readPipe output = output :=
  readLines_eq absent le_rfl

/-! ## Inversion of a build -/

section Builds

variable {World : Type} {windows : Windows World} {pipe : Pipe}
  {profilePath sourceName compilerName compilerConfig executableFilePath executable command : Str}
  {before opened after : World}

/-- A compilation that goes on only with a pipe has made a command and started it. -/
theorem started_of_returns {rest : Option (Str × Bool) → Judge World (Bool × Str)}
    (extend : Str → Str)
    (closed : ∀ middle, ¬ Program.Returns (rest none) middle (true, executable) after)
    (returned : Program.Returns
      (parseCompilerConfig profilePath sourceName compilerName compilerConfig >>=
        fun compilerCommand => runCompiler windows (extend compilerCommand) >>= rest)
      before (true, executable) after) :
    ∃ compiled pipe opened,
      compileCommand profilePath sourceName compilerName compilerConfig = some compiled ∧
      windows.popen (extend compiled) before = (some pipe, opened) := by
  rw [parseCompilerConfig_eq, Program.returns_bind_iff] at returned
  obtain ⟨compiled, start, found, compiling⟩ := returned
  obtain ⟨made, same⟩ := Program.returns_ofOption_iff.mp found
  rw [same] at compiling
  obtain ⟨text, middle, running, returned⟩ := Program.returns_bind_iff.mp compiling
  cases started : windows.popen (extend compiled) before with
  | mk pipe opened =>
  cases pipe with
  | some pipe => exact ⟨compiled, pipe, opened, made, started⟩
  | none =>
      simp only [runCompiler, Program.returns_bind_iff, Program.returns_call_iff,
        started] at running
      obtain ⟨_, _, same, nothing⟩ := running
      cases same
      obtain ⟨rfl, rfl⟩ := Program.returns_pure_iff.mp nothing
      exact absurd returned (closed _)

/-- A C++ build that counts as successful has started its command. -/
theorem buildCommand_of_returns (cpp : compilerName = msvCpp ∨ compilerName = mingwCpp)
    (returned : Program.Returns (buildFromSource windows profilePath sourceName compilerName
      compilerConfig executableFilePath) before (true, executable) after) :
    ∃ command pipe opened,
      buildCommand profilePath sourceName compilerName compilerConfig = some command ∧
      windows.popen command before = (some pipe, opened) := by
  have mingwMsv : mingwCpp ≠ msvCpp := by decide
  have mingwFp : mingwCpp ≠ fpPas := by decide
  have mingwAbc : mingwCpp ≠ abcPas := by decide
  unfold buildFromSource at returned
  unfold buildCommand
  rcases cpp with rfl | rfl
  · rw [if_pos rfl] at returned
    obtain ⟨compiled, pipe, opened, made, started⟩ :=
      started_of_returns (fun command => command) (by simp) returned
    refine ⟨compiled, pipe, opened, ?_, started⟩
    rw [made, Option.map_some, if_neg mingwMsv.symm]
  · rw [if_neg mingwMsv, if_neg mingwFp, if_neg mingwAbc, if_pos rfl] at returned
    obtain ⟨compiled, pipe, opened, made, started⟩ :=
      started_of_returns (· ++ " 2>&1".toList) (by simp) returned
    refine ⟨compiled ++ " 2>&1".toList, pipe, opened, ?_, started⟩
    rw [made, Option.map_some, if_pos rfl]

/-! ## The file after the marker -/

/-- The first `/out:` of the text is followed by the path and the end of its line; when
the text ends with it, the path that came in is the one. -/
def LinksTo (executableFilePath text path : Str) : Prop :=
  ∀ front line, text = front ++ ("/out:".toList ++ line) → ¬ "/out:".toList <:+: front →
    if line = [] then executableFilePath = path
    else '\n' ∉ path ∧ (line = path ∨ path ++ ['\n'] <+: line)

/-- A line is read up to its end. -/
theorem scrapePath_eq_iff {line path : Str} :
    scrapePath line = path ↔ '\n' ∉ path ∧ (line = path ∨ path ++ ['\n'] <+: line) := by
  have letters : ∀ {text : Str}, '\n' ∉ text →
      ∀ letter ∈ text, decide (letter ≠ '\n') = true := by
    intro text absent letter member
    rw [decide_eq_true_eq]
    rintro rfl
    exact absent member
  unfold scrapePath
  constructor
  · rintro rfl
    refine ⟨fun member => by simpa using List.mem_takeWhile_imp member, ?_⟩
    induction line with
    | nil => exact .inl rfl
    | cons head rest inductionHypothesis =>
        by_cases newline : head = '\n'
        · subst newline
          exact .inr ⟨rest, by simp⟩
        · rw [List.takeWhile_cons_of_pos (by simpa using newline)]
          rcases inductionHypothesis with whole | starts
          · exact .inl (congrArg (head :: ·) whole)
          · exact .inr (List.cons_prefix_cons.mpr ⟨rfl, starts⟩)
  · rintro ⟨absent, rfl | ⟨rest, rfl⟩⟩
    · exact List.takeWhile_eq_self_iff.mpr (letters absent)
    · rw [List.append_assoc, List.takeWhile_append_of_pos (letters absent)]
      simp

/-- What `msv_cpp` judges is the path exactly when the first marker is followed by it. -/
theorem linkedExecutable_eq_iff {text path : Str} (linked : "/out:".toList <:+: text) :
    linkedExecutable executableFilePath text = path ↔ LinksTo executableFilePath text path := by
  obtain ⟨position, found⟩ := Option.isSome_iff_exists.mp (Text.find_isSome_iff.mpr linked)
  obtain ⟨front, line, whole, rfl, absent⟩ : ∃ front line,
      text = front ++ ("/out:".toList ++ line) ∧ front.length = position ∧
        ¬ "/out:".toList <:+: front := (Text.find_eq_some_iff (by decide)).mp found
  have unique : LinksTo executableFilePath text path ↔
      if line = [] then executableFilePath = path
      else '\n' ∉ path ∧ (line = path ∨ path ++ ['\n'] <+: line) := by
    constructor
    · exact fun links => links front line whole absent
    · intro links front' line' whole' absent'
      have alone : '/' ∉ ['o', 'u', 't', ':'] := by decide
      obtain ⟨_, rfl⟩ :=
        Text.first_occurrence_unique alone (whole.symm.trans whole') absent absent'
      exact links
  rw [unique]
  unfold linkedExecutable
  rw [found]
  have rest : text.drop (front.length + 5) = line := by
    rw [whole, ← List.drop_drop]
    simp
  have more : front.length + 5 < text.length ↔ line ≠ [] := by
    rw [whole, ← List.length_pos_iff]
    simp
  simp only [rest, more]
  by_cases ended : line = []
  · simp [ended]
  · simp only [ended, ne_eq, not_false_eq_true, ↓reduceIte]
    exact scrapePath_eq_iff

/-- A C++ build that counts as successful judges the file it has asked for. -/
def JudgesItsTarget (windows : Windows World) (before : World) (profilePath sourceName compilerName
    compilerConfig executableFilePath : Str) : Prop :=
  ∀ executable after, Program.Returns (buildFromSource windows profilePath sourceName compilerName
      compilerConfig executableFilePath) before (true, executable) after →
    executable = restorePath profilePath (sourceName ++ exeStr)

/-- The C++ builds judge the file that they have asked for exactly when every text that
`msv_cpp` accepts names this file right after its first `/out:`. -/
theorem judgesItsTarget_iff (cpp : compilerName = msvCpp ∨ compilerName = mingwCpp) :
    JudgesItsTarget windows before profilePath sourceName compilerName compilerConfig
        executableFilePath ↔
      ∀ command pipe opened,
        buildCommand profilePath sourceName compilerName compilerConfig = some command →
        windows.popen command before = (some pipe, opened) →
        Accepted compilerName sourceName pipe → compilerName = msvCpp →
        LinksTo executableFilePath (readPipe pipe.output)
          (restorePath profilePath (sourceName ++ exeStr)) := by
  have known : compilerName ∈ compilers := by
    rcases cpp with rfl | rfl <;> decide
  constructor
  · rintro judges command pipe opened made started accepted rfl
    have reported := judges _ _ ((returns_buildFromSource_true_iff known made started).mpr
      ⟨accepted, rfl, rfl⟩)
    rw [reportedExecutable, if_pos rfl] at reported
    rw [Accepted, if_pos rfl] at accepted
    exact (linkedExecutable_eq_iff accepted.2.2).mp reported
  · intro links executable after returned
    obtain ⟨command, pipe, opened, made, started⟩ := buildCommand_of_returns cpp returned
    obtain ⟨accepted, rfl, _⟩ :=
      (returns_buildFromSource_true_iff known made started).mp returned
    unfold reportedExecutable
    by_cases msv : compilerName = msvCpp
    · have linked := accepted.2
      rw [if_pos msv] at linked ⊢
      exact (linkedExecutable_eq_iff linked.2).mpr (links _ _ _ made started accepted msv)
    · rw [if_neg msv, if_pos (cpp.resolve_left msv)]

end Builds

/-! ## A source that names an executable -/

/-- An environment in which every compiler prints one text. -/
def compilerWindows (output : Str) : Windows Unit :=
  { quietWindows ⟨0, []⟩ with popen := fun _ world => (some ⟨output, true, 0⟩, world) }

/-- The compiler's text for a source with a message of its own. -/
def forgedOutput : Str := "a.cpp\n/out:C:\\b.exe\n/out:C:\\p\\a.cpp.exe\n".toList

/-- A message of the source decides which file is judged. -/
theorem forged_not_judgesItsTarget :
    ¬ ∀ (windows : Windows Unit) (before : Unit) (profilePath sourceName compilerName
        compilerConfig executableFilePath : Str),
      compilerName = msvCpp ∨ compilerName = mingwCpp →
      JudgesItsTarget windows before profilePath sourceName compilerName compilerConfig
        executableFilePath := by
  intro always
  have built : Program.outcome (buildFromSource (compilerWindows forgedOutput) "C:\\p".toList
      "a.cpp".toList msvCpp "cl $1 /Fe$2".toList []) () = .ok (true, "C:\\b.exe".toList) := by
    decide +kernel
  obtain ⟨after, returned⟩ := Program.outcome_eq_ok_iff.mp built
  have same := always _ _ _ _ _ _ _ (.inl rfl) _ _ returned
  exact absurd same (by decide)

/-- The condition at the text of a source without messages. -/
theorem judgesItsTarget_iff_linked :
    JudgesItsTarget (compilerWindows "/out:C:\\p\\a.cpp.exe\n".toList) () "C:\\p".toList
        "a.cpp".toList msvCpp "cl $1 /Fe$2".toList [] ↔
      ∀ command pipe opened,
        buildCommand "C:\\p".toList "a.cpp".toList msvCpp "cl $1 /Fe$2".toList = some command →
        (compilerWindows "/out:C:\\p\\a.cpp.exe\n".toList).popen command () =
          (some pipe, opened) →
        Accepted msvCpp "a.cpp".toList pipe → msvCpp = msvCpp →
        LinksTo [] (readPipe pipe.output)
          (restorePath "C:\\p".toList ("a.cpp".toList ++ exeStr)) :=
  judgesItsTarget_iff (.inl rfl)

/-! ## The names of Pascal sources -/

/-- A name read from its end against expected letters: whether one of them differs, or
undefined when the name ends before. -/
def differsBackwards {World : Type} : Str → Str → Judge World Bool
  | _, [] => pure false
  | [], _ :: _ => Program.stop .undefined
  | found :: letters, expected :: rest =>
    if found = expected then differsBackwards letters rest else pure true

/-- It is defined unless the name is too short and right as far as it goes. -/
theorem differsBackwards_eq {World : Type} (letters expected : Str) :
    (differsBackwards letters expected : Judge World Bool) =
      if expected <+: letters then pure false
      else if letters <+: expected then Program.stop .undefined
      else pure true := by
  induction expected generalizing letters with
  | nil => simp [differsBackwards]
  | cons first rest inductionHypothesis =>
      cases letters with
      | nil => simp [differsBackwards]
      | cons found letters =>
          rw [differsBackwards]
          by_cases same : found = first
          · subst same
            simp only [↓reduceIte, inductionHypothesis, List.cons_prefix_cons, true_and]
          · simp only [same, Ne.symm same, ↓reduceIte, List.cons_prefix_cons, false_and]

/-- One comparison of the guard, counted from the end of the name. -/
theorem differsBackwards_drop {World : Type} (name : Str) (back : Nat) (letter : Char)
    (rest : Str) :
    (differsBackwards (name.reverse.drop back) (letter :: rest) : Judge World Bool) = (do
      if ← differsFromEnd name (back + 1) letter then return true
      differsBackwards (name.reverse.drop (back + 1)) rest) := by
  unfold differsFromEnd
  by_cases inRange : back + 1 ≤ name.length
  · have within : back < name.reverse.length := by rwa [List.length_reverse]
    have found : name[name.length - (back + 1)]? = some name.reverse[back] := by
      have position : name.length - (back + 1) = name.length - 1 - back := by omega
      rw [← List.getElem?_eq_getElem within, List.getElem?_reverse inRange, position]
    rw [if_pos inRange, found, List.drop_eq_getElem_cons within, differsBackwards]
    by_cases same : name.reverse[back] = letter
    · simp [same, Program.ofOption]
    · rw [if_neg same]
      simp only [Option.map_some, Program.ofOption, ne_eq, same, not_false_eq_true, decide_true,
        pure_bind, ↓reduceIte]
  · have beyond : name.reverse.drop back = [] := by
      rw [List.drop_eq_nil_iff, List.length_reverse]
      omega
    rw [if_neg inRange, beyond]
    rfl

/-- The guard on a short name reads it backwards against `.pas`. -/
theorem rejectsPascalName_short {World : Type} {name : Str} (short : name.length < 5) :
    (rejectsPascalName name : Judge World Bool) =
      differsBackwards name.reverse ['s', 'a', 'p', '.'] := by
  unfold rejectsPascalName
  rw [if_pos short]
  have whole : (differsBackwards name.reverse ['s', 'a', 'p', '.'] : Judge World Bool) =
      differsBackwards (name.reverse.drop 0) ['s', 'a', 'p', '.'] := by rw [List.drop_zero]
  have ends : (fun found => if found = true then pure true else differsBackwards
      (name.reverse.drop 4) []) = (pure : Bool → Judge World Bool) := by
    funext found
    cases found <;> simp [differsBackwards]
  rw [whole, differsBackwards_drop, differsBackwards_drop, differsBackwards_drop,
    differsBackwards_drop, ends, bind_pure]

section Pascal

variable {World : Type} {windows : Windows World} {pipe : Pipe}
  {profilePath sourceName compilerName compilerConfig executableFilePath executable command : Str}
  {before opened : World}

/-- The text of a Pascal compiler signals success. -/
structure SignalsSuccess (compilerName : Str) (pipe : Pipe) : Prop where
  endOfFile : pipe.endOfFile = true
  nonempty : readPipe pipe.output ≠ []
  fp : compilerName = fpPas → ¬ "Fatal:".toList <:+: readPipe pipe.output
  abc : compilerName = abcPas → "OK".toList <:+: readPipe pipe.output

/-- The end of both Pascal builds: only the name of the source is left to look at. -/
def nameExecutable (profilePath sourceName executableFilePath : Str) :
    Judge World (Bool × Str) := do
  if ← rejectsPascalName sourceName then pure (false, executableFilePath)
  else pure (true, restorePath profilePath (sourceName.take (sourceName.length - 4) ++ exeStr))

theorem returns_buildPascal_iff (succeeds : Str → Bool)
    (made : compileCommand profilePath sourceName compilerName compilerConfig = some command)
    (started : windows.popen command before = (some pipe, opened))
    (endOfFile : pipe.endOfFile = true) (nonempty : readPipe pipe.output ≠ [])
    (succeeded : succeeds (readPipe pipe.output) = true) {result : Bool × Str} {after : World} :
    Program.Returns (buildPascal windows succeeds profilePath sourceName compilerName
        compilerConfig executableFilePath) before result after ↔
      Program.Returns (nameExecutable profilePath sourceName executableFilePath) opened result
        after := by
  unfold buildPascal
  refine (returns_compiled_iff (fun command => command) made started).trans ?_
  have notEmpty : (!(readPipe pipe.output).isEmpty) = true := by simpa using nonempty
  simp only [endOfFile, notEmpty, succeeded, checkerAssert_true, pure_bind, Bool.not_true,
    Bool.false_eq_true, ↓reduceIte]
  rfl

/-- Both Pascal builds, once the text of the compiler signals success. -/
theorem returns_buildFromSource_pascal_iff
    (pascal : compilerName = fpPas ∨ compilerName = abcPas)
    (made : buildCommand profilePath sourceName compilerName compilerConfig = some command)
    (started : windows.popen command before = (some pipe, opened))
    (signals : SignalsSuccess compilerName pipe) {result : Bool × Str} {after : World} :
    Program.Returns (buildFromSource windows profilePath sourceName compilerName
        compilerConfig executableFilePath) before result after ↔
      Program.Returns (nameExecutable profilePath sourceName executableFilePath) opened result
        after := by
  have fpMsv : fpPas ≠ msvCpp := by decide
  have abcMsv : abcPas ≠ msvCpp := by decide
  have abcFp : abcPas ≠ fpPas := by decide
  have fpMingw : fpPas ≠ mingwCpp := by decide
  have abcMingw : abcPas ≠ mingwCpp := by decide
  obtain ⟨compiled, made', rfl⟩ := Option.map_eq_some_iff.mp made
  unfold buildFromSource
  rcases pascal with rfl | rfl
  · rw [if_neg fpMsv, if_pos rfl]
    rw [if_neg fpMingw] at started
    refine returns_buildPascal_iff _ made' started signals.endOfFile signals.nonempty ?_
    simpa [Text.find_eq_none_iff] using signals.fp rfl
  · rw [if_neg abcMsv, if_neg abcFp, if_pos rfl]
    rw [if_neg abcMingw] at started
    refine returns_buildPascal_iff _ made' started signals.endOfFile signals.nonempty ?_
    simpa [Text.find_eq_none_iff] using signals.abc rfl

/-- A Pascal build succeeds exactly for the names with a stem before `.pas`, and names the
executable of the stem; for every other name it returns `false`. -/
structure HandlesPascalName (windows : Windows World) (before opened : World) (profilePath
    sourceName compilerName compilerConfig executableFilePath : Str) : Prop where
  accepted : ∀ stem, stem ≠ [] → sourceName = stem ++ ".pas".toList →
    Program.Returns (buildFromSource windows profilePath sourceName compilerName compilerConfig
      executableFilePath) before (true, restorePath profilePath (stem ++ exeStr)) opened
  rejected : (∀ stem, stem ≠ [] → sourceName ≠ stem ++ ".pas".toList) →
    ∃ executable, Program.Returns (buildFromSource windows profilePath sourceName compilerName
      compilerConfig executableFilePath) before (false, executable) opened

/-- The names that the guard handles as it is meant to. -/
def GuardSees (sourceName : Str) : Prop :=
  if sourceName.length < 5 then ¬ sourceName <:+ ".pas".toList
  else ".pas".toList <:+ sourceName

theorem stem_of_long (long : 5 ≤ sourceName.length) (suffix : ".pas".toList <:+ sourceName) :
    ∃ stem, stem ≠ [] ∧ sourceName = stem ++ ".pas".toList := by
  obtain ⟨stem, rfl⟩ := suffix
  refine ⟨stem, ?_, rfl⟩
  rintro rfl
  simp at long

theorem long_of_stem {stem : Str} (proper : stem ≠ [])
    (named : sourceName = stem ++ ".pas".toList) : 5 ≤ sourceName.length := by
  have positive := List.length_pos_iff.mpr proper
  rw [named, List.length_append]
  have four : ".pas".toList.length = 4 := rfl
  omega

/-- A long name is accepted, whatever its end. -/
theorem handlesPascalName_long_iff (pascal : compilerName = fpPas ∨ compilerName = abcPas)
    (made : buildCommand profilePath sourceName compilerName compilerConfig = some command)
    (started : windows.popen command before = (some pipe, opened))
    (signals : SignalsSuccess compilerName pipe) (long : 5 ≤ sourceName.length) :
    HandlesPascalName windows before opened profilePath sourceName compilerName compilerConfig
        executableFilePath ↔ ".pas".toList <:+ sourceName := by
  have passed : (rejectsPascalName sourceName : Judge World Bool) = pure false := by
    unfold rejectsPascalName
    rw [if_neg (Nat.not_lt.mpr long)]
  constructor
  · intro handles
    by_contra other
    obtain ⟨executable, returned⟩ := handles.rejected fun stem _ named =>
      other (named ▸ List.suffix_append stem _)
    rw [returns_buildFromSource_pascal_iff pascal made started signals, nameExecutable,
      passed] at returned
    simp at returned
  · intro suffix
    refine ⟨fun stem _ named => ?_, fun absent => ?_⟩
    · rw [returns_buildFromSource_pascal_iff pascal made started signals, nameExecutable, passed]
      simp [named]
    · obtain ⟨stem, proper, named⟩ := stem_of_long long suffix
      exact absurd named (absent stem proper)

/-- A short name is handled unless it is a part of `.pas`. -/
theorem handlesPascalName_short_iff (pascal : compilerName = fpPas ∨ compilerName = abcPas)
    (made : buildCommand profilePath sourceName compilerName compilerConfig = some command)
    (started : windows.popen command before = (some pipe, opened))
    (signals : SignalsSuccess compilerName pipe) (short : sourceName.length < 5) :
    HandlesPascalName windows before opened profilePath sourceName compilerName compilerConfig
        executableFilePath ↔ ¬ sourceName <:+ ".pas".toList := by
  have guarded : (rejectsPascalName sourceName : Judge World Bool) =
      if ['s', 'a', 'p', '.'] <+: sourceName.reverse then pure false
      else if sourceName.reverse <+: ['s', 'a', 'p', '.'] then Program.stop .undefined
      else pure true := (rejectsPascalName_short short).trans (differsBackwards_eq _ _)
  have noStem : ∀ stem, stem ≠ [] → sourceName ≠ stem ++ ".pas".toList :=
    fun stem proper named => absurd (long_of_stem proper named) (Nat.not_le.mpr short)
  have backwards : sourceName <:+ ".pas".toList ↔ sourceName.reverse <+: ['s', 'a', 'p', '.'] := by
    rw [← List.reverse_prefix]
    rfl
  have handled : HandlesPascalName windows before opened profilePath sourceName compilerName
      compilerConfig executableFilePath ↔ ∃ executable, Program.Returns (buildFromSource windows
        profilePath sourceName compilerName compilerConfig executableFilePath) before
        (false, executable) opened :=
    ⟨fun handles => handles.rejected noStem, fun returned =>
      ⟨fun stem proper named => absurd named (noStem stem proper), fun _ => returned⟩⟩
  rw [handled, backwards]
  simp only [returns_buildFromSource_pascal_iff pascal made started signals, nameExecutable,
    guarded]
  by_cases whole : ['s', 'a', 'p', '.'] <+: sourceName.reverse
  · have same := whole.eq_of_length_le (by
      rw [List.length_reverse]
      exact Nat.le_of_lt_succ short)
    simp [← same]
  · by_cases part : sourceName.reverse <+: ['s', 'a', 'p', '.']
    · simp [whole, part]
    · simp [whole, part]

/-- The Pascal builds handle a name as they are meant to exactly when it has five letters or
more and ends in `.pas`, or has fewer and is no end of `.pas`. -/
theorem handlesPascalName_iff (pascal : compilerName = fpPas ∨ compilerName = abcPas)
    (made : buildCommand profilePath sourceName compilerName compilerConfig = some command)
    (started : windows.popen command before = (some pipe, opened))
    (signals : SignalsSuccess compilerName pipe) :
    HandlesPascalName windows before opened profilePath sourceName compilerName compilerConfig
        executableFilePath ↔ GuardSees sourceName := by
  unfold GuardSees
  by_cases short : sourceName.length < 5
  · rw [if_pos short]
    exact handlesPascalName_short_iff pascal made started signals short
  · rw [if_neg short]
    exact handlesPascalName_long_iff pascal made started signals (Nat.le_of_not_lt short)

end Pascal

/-- The text of a compiler that has succeeded. -/
theorem signalsSuccess_ok : SignalsSuccess fpPas ⟨"OK".toList, true, 0⟩ where
  endOfFile := rfl
  nonempty := by decide
  fp := fun _ => by decide
  abc := fun same => absurd same (by decide)

/-- A long name that does not end in `.pas` is accepted. -/
theorem long_name_not_handlesPascalName :
    ¬ ∀ (windows : Windows Unit) (pipe : Pipe) (before opened : Unit) (profilePath sourceName
        compilerName compilerConfig executableFilePath command : Str),
      compilerName = fpPas ∨ compilerName = abcPas →
      buildCommand profilePath sourceName compilerName compilerConfig = some command →
      windows.popen command before = (some pipe, opened) →
      SignalsSuccess compilerName pipe →
      HandlesPascalName windows before opened profilePath sourceName compilerName compilerConfig
        executableFilePath := by
  intro always
  have handles := always (compilerWindows "OK".toList) _ () () "C:\\p".toList "a.cpp".toList fpPas
    "fpc $1".toList [] _ (.inl rfl) rfl rfl signalsSuccess_ok
  obtain ⟨executable, returned⟩ := handles.rejected fun stem _ named => by
    have suffix : ".pas".toList <:+ "a.cpp".toList := named ▸ List.suffix_append stem _
    exact absurd suffix (by decide)
  have built : Program.outcome (buildFromSource (compilerWindows "OK".toList) "C:\\p".toList
      "a.cpp".toList fpPas "fpc $1".toList []) () = .ok (true, "C:\\p\\a.exe".toList) := by
    decide +kernel
  have built' := Program.outcome_eq_ok_iff.mpr ⟨_, returned⟩
  rw [built] at built'
  cases built'

/-- The name of a Pascal source. -/
theorem handlesPascalName_iff_pas :
    HandlesPascalName (compilerWindows "OK".toList) () () "C:\\p".toList "a.pas".toList fpPas
        "fpc $1".toList [] ↔ GuardSees "a.pas".toList :=
  handlesPascalName_iff (.inl rfl) rfl rfl signalsSuccess_ok

end CheckerOlimp.CheckerRc
