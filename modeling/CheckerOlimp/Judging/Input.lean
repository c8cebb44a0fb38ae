import CheckerOlimp.Judging.Report

/-!
# The input of the contestant's program

The quest is copied letter by letter from the test's file into the input file of the
contestant's program, while the checker is given the test's file itself. Both streams
are in text mode, so the copy has the bytes of the quest exactly when every line ends
with CR LF and there is no byte `0x1A`.
-/

namespace CheckerOlimp.CheckerRc

open CheckerOlimp.Std

/-! ## A copy through text-mode streams -/

/-- Every LF stands directly after a CR. -/
def LinesEndInCrLf (bytes : Str) : Prop :=
  ∀ before after, bytes = before ++ '\n' :: after → before.getLast? = some '\r'

/-- A letter that is no LF and not the CR of one plays no part. -/
theorem linesEndInCrLf_cons_iff {head : Char} {rest : Str} (inner : head ≠ '\n')
    (apart : ∀ tail, head = '\r' → rest ≠ '\n' :: tail) :
    LinesEndInCrLf (head :: rest) ↔ LinesEndInCrLf rest := by
  constructor
  · rintro ends before after rfl
    have last := ends (head :: before) after rfl
    cases before with
    | nil =>
        simp only [List.getLast?_singleton, Option.some.injEq] at last
        exact absurd rfl (apart after last)
    | cons first others => rwa [List.getLast?_cons_cons] at last
  · intro ends before after same
    cases before with
    | nil =>
        cases same
        exact absurd rfl inner
    | cons first others =>
        cases same
        have last := ends others after rfl
        cases others with
        | nil => cases last
        | cons second others => rwa [List.getLast?_cons_cons]

/-- A CR LF in front plays no part. -/
theorem linesEndInCrLf_crLf_iff {rest : Str} :
    LinesEndInCrLf ('\r' :: '\n' :: rest) ↔ LinesEndInCrLf rest := by
  constructor
  · rintro ends before after rfl
    have last := ends ('\r' :: '\n' :: before) after rfl
    cases before with
    | nil => simp at last
    | cons first others => rwa [List.getLast?_cons_cons, List.getLast?_cons_cons] at last
  · intro ends before after same
    match before with
    | [] => cases same
    | [first] =>
        cases same
        rfl
    | first :: second :: others =>
        cases same
        have last := ends others after rfl
        cases others with
        | nil => cases last
        | cons third others => rwa [List.getLast?_cons_cons, List.getLast?_cons_cons]

/-- A text-mode copy has the bytes of the original exactly when these have no
`0x1A` and every line ends with CR LF. The cases are those of `textRead`. -/
theorem textWrite_textRead_iff {bytes : Str} :
    textWrite (textRead bytes) = bytes ↔ '\x1a' ∉ bytes ∧ LinesEndInCrLf bytes := by
  induction bytes using textRead.induct with
  | case1 => simp [textRead, textWrite, LinesEndInCrLf]
  | case2 rest inductionHypothesis =>
      rw [textRead, linesEndInCrLf_crLf_iff]
      simp only [textWrite, ↓reduceIte, List.cons.injEq, true_and, inductionHypothesis]
      simp
  | case3 rest apart =>
      -- the byte `0x1A` ends the file
      have ended : textRead ('\x1a' :: rest) = [] := by
        rw [textRead.eq_3 _ _ apart, if_pos rfl]
      rw [ended]
      simp [textWrite]
  | case4 head rest apart other inductionHypothesis =>
      rw [textRead_cons apart other, textWrite]
      by_cases bare : head = '\n'
      · -- a bare LF gets a CR
        subst bare
        have notEnded : ¬ LinesEndInCrLf ('\n' :: rest) := fun ends =>
          absurd (ends [] rest rfl) (by simp)
        simp [notEnded]
      · rw [if_neg bare, linesEndInCrLf_cons_iff bare apart]
        simp only [List.cons.injEq, true_and, inductionHypothesis, List.mem_cons, not_or,
          Ne.symm other, not_false_eq_true]

/-! ## The quest and the input file -/

section Machine

variable {File Rest : Type} [DecidableEq File] {machine : Machine File Rest}
  {reader result : TestReader} {executor : Executor} {questFile quest bytes : Str}
  {answerFileList : List Str} {before read between after : World File Rest}

/-- The loop over the answers keeps the quest. -/
theorem readAnswers_quest {paths : List Str}
    (returned : Program.Returns (reader.readAnswers machine.windows paths) before result after) :
    result.test.quest = reader.test.quest := by
  induction paths generalizing reader before with
  | nil => rw [(Program.returns_pure_iff.mp returned).1]
  | cons path rest inductionHypothesis =>
      obtain ⟨_, _, _, _, _, _, later⟩ := by
        simpa only [TestReader.readAnswers, Program.returns_bind_iff] using returned
      have kept := inductionHypothesis later
      exact kept

/-- The quest is what a text-mode stream gives of its file. -/
theorem read_quest (content : before.files (machine.fileOf questFile) = some bytes)
    (returned : Program.Returns (reader.read machine.windows questFile answerFileList) before
      result read) : result.test.quest = textRead bytes := by
  simp only [TestReader.read, Program.returns_bind_iff, Program.returns_call_iff,
    Program.returns_ofOption_iff, Machine.windows_ifstream, content] at returned
  obtain ⟨_, _, opened, found, _, ⟨same, _⟩, answers⟩ := returned
  cases opened
  cases same
  exact readAnswers_quest answers

/-- The input file is what a text-mode stream makes of the quest. -/
theorem makeInputFile_files
    (made : Program.Returns (executor.makeInputFile machine.windows quest) between true after) :
    after.files (machine.fileOf executor.inputFilePath) = some (textWrite quest) := by
  unfold Executor.makeInputFile at made
  rw [Program.returns_call_iff, Machine.windows_ofstream] at made
  by_cases creatable : machine.creatable (machine.fileOf executor.inputFilePath) = true
  · rw [if_pos creatable] at made
    cases made
    exact World.put_files_self ..
  · rw [if_neg creatable] at made
    cases made

/-- The contestant's program gets the bytes that the checker is given. -/
def InputIsQuest (machine : Machine File Rest) (executor : Executor) (questFile : Str)
    (before after : World File Rest) : Prop :=
  after.files (machine.fileOf executor.inputFilePath) = before.files (machine.fileOf questFile)

instance : Decidable (InputIsQuest machine executor questFile before after) :=
  inferInstanceAs (Decidable (_ = _))

/-- The contestant's program gets the bytes of the quest file exactly when these have no
`0x1A` and every line of them ends with CR LF. -/
theorem inputIsQuest_iff (content : before.files (machine.fileOf questFile) = some bytes)
    (returned : Program.Returns (reader.read machine.windows questFile answerFileList) before
      result read)
    (made : Program.Returns (executor.makeInputFile machine.windows result.test.quest) between
      true after) :
    InputIsQuest machine executor questFile before after ↔
      '\x1a' ∉ bytes ∧ LinesEndInCrLf bytes := by
  unfold InputIsQuest
  rw [makeInputFile_files made, content, read_quest content returned, Option.some.injEq]
  exact textWrite_textRead_iff

end Machine

/-! ## A quest with a bare line feed -/

/-- The files of the pair with another quest. -/
def questWorld (bytes : Str) : World Str Unit :=
  CheckerOlimp.World.put ⟨pairFiles, ()⟩ "C:\\t\\q1".toList (some bytes)

/-- The executor of the pair. -/
def pairExecutor : Executor :=
  Executor.fresh.setConfig "C:\\p".toList "C:\\p\\a.exe".toList "C:\\p\\in".toList
    "C:\\p\\out".toList 1000 1000

/-- The world after the copy of the quest. -/
def copiedWorld (bytes : Str) : World Str Unit :=
  (questWorld bytes).put "C:\\p\\in".toList (some (textWrite (textRead bytes)))

/-- Reading the quest of the pair. -/
theorem returns_read_questWorld (bytes : Str) :
    Program.Returns (TestReader.fresh.read pairMachine.windows "C:\\t\\q1".toList [])
      (questWorld bytes) ⟨⟨textRead bytes, []⟩⟩ (questWorld bytes) := rfl

/-- Writing it. -/
theorem returns_make_copiedWorld (bytes : Str) :
    Program.Returns (pairExecutor.makeInputFile pairMachine.windows (textRead bytes))
      (questWorld bytes) true (copiedWorld bytes) := rfl

/-- A bare LF of the quest reaches the contestant's program as CR LF. -/
theorem bare_newline_not_inputIsQuest :
    ¬ ∀ (machine : Machine Str Unit) (reader result : TestReader) (executor : Executor)
        (questFile bytes : Str) (answerFileList : List Str)
        (before read between after : World Str Unit),
      before.files (machine.fileOf questFile) = some bytes →
      Program.Returns (reader.read machine.windows questFile answerFileList) before result read →
      Program.Returns (executor.makeInputFile machine.windows result.test.quest) between true
        after →
      InputIsQuest machine executor questFile before after := by
  intro always
  have same := always pairMachine .fresh _ pairExecutor "C:\\t\\q1".toList "1\n".toList []
    (questWorld "1\n".toList) _ _ _ rfl (returns_read_questWorld _)
    (returns_make_copiedWorld "1\n".toList)
  exact absurd same (by decide)

/-- A quest whose line ends with CR LF. -/
theorem inputIsQuest_iff_line :
    InputIsQuest pairMachine pairExecutor "C:\\t\\q1".toList (questWorld "1\r\n".toList)
        (copiedWorld "1\r\n".toList) ↔
      '\x1a' ∉ "1\r\n".toList ∧ LinesEndInCrLf "1\r\n".toList :=
  inputIsQuest_iff rfl (returns_read_questWorld _) (returns_make_copiedWorld "1\r\n".toList)

end CheckerOlimp.CheckerRc
