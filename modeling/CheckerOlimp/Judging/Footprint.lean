import CheckerOlimp.Judging.Independence
import CheckerOlimp.Judging.Invariants

/-!
# What a run of the judge changes

The judge writes four files: the input and the output of the contestant's program, the
report of the checker and, at its very end, the result. Any other file is as it was,
however the run ends, if the programs that the judge starts leave it alone; and the
result is either as it was or the text of the verdict, never a part of it.
-/

namespace CheckerOlimp.CheckerRc

open CheckerOlimp.Std Program

/-! ## Files -/

variable {File Rest : Type} [DecidableEq File] {machine : Machine File Rest} {file : File}
  {content : Option Str}

/-- The file has the content, or is missing. -/
def Has (file : File) (content : Option Str) (world : World File Rest) : Prop :=
  world.files file = content

/-- The programs that the judge starts leave the file alone. -/
structure LeavesAlone (machine : Machine File Rest) (file : File) : Prop where
  compile : ∀ {command before run}, machine.compile command before = some run →
    run.after.files file = before.files file
  contestant : ∀ application directory before,
    (machine.contestant application directory before).2.files file = before.files file
  checker : ∀ line before, (machine.checker line before).2.files file = before.files file

/-- The judge may do everything but write to the file. -/
theorem permits_alone (alone : LeavesAlone machine file) :
    Permits machine.windows (Has file content) fun path => file ≠ machine.fileOf path where
  ifstream _ := Ensures.call fun _ before => before
  ofstream {path} text other := Ensures.call fun world before => by
    rw [Machine.windows_ofstream]
    split
    · exact (World.put_files_of_ne world _ other).trans before
    · exact before
  remove other := Ensures.call fun world before =>
    (World.put_files_of_ne world none other).trans before
  getFullPathName path := by
    rw [getFullPathName_machine]
    refine Ensures.ofOption (fun full _ found before => ⟨fun other => ?_, before⟩)
      fun _ _ before => before
    rw [machine.fileOf_fullPathName found]
    exact other
  popen command := Ensures.call fun world before => by
    simp only [Machine.windows]
    split
    · exact before
    · next run started => exact (alone.compile started).trans before
  createProcess application directory := Ensures.call fun world before =>
    (alone.contestant application directory world).trans before
  createChecker line := Ensures.call fun world before => (alone.checker line world).trans before

variable {profilePath sourceName : Str} {problems : ProblemStore}

/-- The file is not one of the three that judging a problem writes. -/
structure Spared (machine : Machine File Rest) (profilePath sourceName : Str)
    (problems : ProblemStore) (file : File) : Prop where
  input : file ≠ inputFile machine profilePath problems
  output : file ≠ outputFile machine profilePath problems
  report : file ≠ reportFile machine profilePath sourceName

/-! ## The whole run -/

/-- Whatever configuration a run of `main` from these files reads, the file is not one of the
three that judging writes. -/
def Outside (machine : Machine File Rest) (parse : Str → Option Json)
    (config profile sourceName : Str) (before : World File Rest) (file : File) : Prop :=
  ∀ {fullConfig fullProfile settings read},
    machine.fullPathName config = some fullConfig →
    machine.fullPathName profile = some fullProfile →
    Returns (readMainConfig machine.windows parse fullConfig) before settings read →
      Spared machine fullProfile sourceName settings.problem file

variable {parse : Str → Option Json} {config profile : Str} {before : World File Rest}

theorem ensures_check (alone : LeavesAlone machine file) {fullConfig fullProfile : Str}
    (spared : ∀ {settings read},
      Returns (readMainConfig machine.windows parse fullConfig) before settings read →
        Spared machine fullProfile sourceName settings.problem file) :
    Ensures (fun world => world = before)
      (check machine.windows parse fullConfig fullProfile sourceName)
      (fun _ => Has file (before.files file)) (fun _ => Has file (before.files file)) := by
  have reading : Ensures (fun world => world = before)
      (readMainConfig machine.windows parse fullConfig)
      (fun _ => Has file (before.files file)) (fun _ => Has file (before.files file)) :=
    (keeps_readMainConfig (permits_alone alone) parse fullConfig).pre fun world same => same ▸ rfl
  refine reading.traced.bind fun settings => ?_
  rintro world ⟨has, _, rfl, returned⟩
  obtain ⟨input, output, report⟩ := spared returned
  exact keeps_checkConfig (permits_alone alone) ⟨input, output, report⟩ world has

/-- What a run of `main` does to a file: the file stays as it was, or it is the result, the run
is through, and the file has the whole text of its verdict. -/
def KeptOrWritten (machine : Machine File Rest) (parse : Str → Option Json)
    (bin config profile sourceName resultName : Str) (before : World File Rest) (file : File) :
    Prop :=
  Has file (before.files file) (finalStore
      (main machine.windows parse [bin, config, profile, sourceName, resultName]) before) ∨
    file = machine.fileOf resultName ∧ ∃ fullConfig fullProfile verdict middle after,
      machine.fullPathName config = some fullConfig ∧
      machine.fullPathName profile = some fullProfile ∧
      Returns (check machine.windows parse fullConfig fullProfile sourceName) before verdict
        middle ∧
      Returns (main machine.windows parse [bin, config, profile, sourceName, resultName]) before
        0 after ∧
      Has file (some (textWrite (serizlize verdict ++ ['\n']))) after

theorem keptOrWritten_main (alone : LeavesAlone machine file)
    (outside : Outside machine parse config profile sourceName before file)
    (bin resultName : Str) :
    KeptOrWritten machine parse bin config profile sourceName resultName before file := by
  unfold KeptOrWritten
  cases foundConfig : machine.fullPathName config with
  | none =>
      refine .inl ?_
      simp only [main, getFullPathName_machine, foundConfig]
      rfl
  | some fullConfig =>
      cases foundProfile : machine.fullPathName profile with
      | none =>
          refine .inl ?_
          simp only [main, getFullPathName_machine, foundConfig, foundProfile]
          rfl
      | some fullProfile =>
          have shape : main machine.windows parse [bin, config, profile, sourceName, resultName] =
              check machine.windows parse fullConfig fullProfile sourceName >>= fun verdict =>
                call (machine.windows.ofstream resultName (serizlize verdict ++ ['\n'])) >>=
                  fun _ => pure 0 := by
            simp only [main, getFullPathName_machine, foundConfig, foundProfile]
            rfl
          have checked : Ensures _ (check machine.windows parse fullConfig fullProfile sourceName)
              _ _ := ensures_check alone (outside foundConfig foundProfile)
          rw [shape]
          cases ran : (check machine.windows parse fullConfig fullProfile sourceName).run
            before with
          | error reason left =>
              have stopped : Stops _ before reason left := ran
              rw [stopped.finalStore_bind]
              exact .inl (checked.stops rfl stopped)
          | ok verdict left =>
              have returned : Returns _ before verdict left := ran
              have kept := checked.returns rfl returned
              have written : Returns (call (machine.windows.ofstream resultName
                  (serizlize verdict ++ ['\n'])) >>= fun _ => pure 0 :
                    Judge (World File Rest) Dword) left 0
                  (machine.windows.ofstream resultName (serizlize verdict ++ ['\n']) left).2 :=
                rfl
              rw [returned.finalStore_bind, written.finalStore_eq, Machine.windows_ofstream]
              rw [Machine.windows_ofstream] at written
              split
              · next opened =>
                  rw [if_pos opened] at written
                  by_cases result : file = machine.fileOf resultName
                  · refine .inr ⟨result, fullConfig, fullProfile, verdict, left, _, rfl, rfl,
                      returned, returned.bind written, ?_⟩
                    rw [result]
                    exact World.put_files_self left _ _
                  · exact .inl ((World.put_files_of_ne left _ result).trans kept)
              · exact .inl kept

/-- Whatever the compiler, the contestant and the checker do elsewhere, judging touches no file
besides its input, its output, its report and its result, however the run ends; and the result is
only ever written as a whole, at the end of a run that is through. -/
theorem main_footprint (alone : LeavesAlone machine file)
    (outside : Outside machine parse config profile sourceName before file)
    (bin resultName : Str) :
    KeptOrWritten machine parse bin config profile sourceName resultName before file :=
  keptOrWritten_main alone outside bin resultName

/-- The result of the pair. -/
theorem leavesAlone_pair : LeavesAlone pairMachine "C:\\r".toList where
  compile started := by
    cases started
    exact World.put_files_of_ne _ _ (by decide)
  contestant application directory before := by
    simp only [pairMachine]
    split
    · exact World.put_files_of_ne _ _ (by decide)
    · rfl
  checker line before := World.put_files_of_ne _ _ (by decide)

set_option maxRecDepth 2000 in
/-- Its problem is that of `pairDocument`. -/
theorem outcome_readMainConfig_pair :
    Program.outcome (readMainConfig pairMachine.windows pairParse "C:\\cfg".toList)
      ⟨pairFiles, ()⟩ = .ok ⟨"g $1 $2".toList, "mingw_cpp".toList, pairProblems⟩ := by
  decide

/-- The result of the pair is as it was, or has the whole verdict. -/
theorem main_footprint_pair :
    KeptOrWritten pairMachine pairParse "checker".toList "C:\\cfg".toList "C:\\p".toList
      "a".toList "C:\\r".toList ⟨pairFiles, ()⟩ "C:\\r".toList := by
  have outside : Outside pairMachine pairParse "C:\\cfg".toList "C:\\p".toList "a".toList
      ⟨pairFiles, ()⟩ "C:\\r".toList := by
    intro fullConfig fullProfile settings read config profile returned
    cases config
    cases profile
    have same := Program.outcome_eq_ok_iff.mpr ⟨read, returned⟩
    rw [outcome_readMainConfig_pair] at same
    cases same
    exact ⟨by decide, by decide, by decide⟩
  exact main_footprint leavesAlone_pair outside _ _

end CheckerOlimp.CheckerRc
