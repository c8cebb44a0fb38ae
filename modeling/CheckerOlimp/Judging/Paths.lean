import CheckerOlimp.Judging.Report

/-!
# Splitting a full path

`get_directory_and_file` looks for the last backslash from the end, with an `int`
that is compared as a `size_t`. A full path that is split is the directory and the
file joined again; every other one ends at the assertion.
-/

namespace CheckerOlimp.CheckerRc

open CheckerOlimp.Std

/-- The full paths without a directory or without a file: no backslash, none but at
the front, or one at the end. -/
def Unsplittable (path : Str) : Prop :=
  '\\' ∉ path ∨ (∃ file, path = '\\' :: file ∧ '\\' ∉ file) ∨ path.getLast? = some '\\'

/-- The scan of `get_directory_and_file` with every index checked: none when one of
them is out of range. -/
def scanChecked (path : Str) : Nat → Option Int
  | 0 => some (-1)
  | count + 1 => do
    let letter ← path[count]?
    if letter = '\\' then some count else scanChecked path count

/-- No index of the scan is out of range. -/
theorem scanChecked_eq {path : Str} {count : Nat} (inRange : count ≤ path.length) :
    scanChecked path count = some (scanBackslash path count) := by
  induction count with
  | zero => rfl
  | succ count inductionHypothesis =>
      have found : path[count]? = some path[count] := List.getElem?_eq_getElem inRange
      simp only [scanChecked, scanBackslash, found, Option.bind_eq_bind, Option.bind_some,
        Option.some.injEq]
      by_cases backslash : path[count] = '\\'
      · simp [backslash]
      · simp only [backslash, ↓reduceIte]
        exact inductionHypothesis (Nat.le_of_succ_le inRange)

/-- Without a backslash the scan runs to the front. -/
theorem scanBackslash_of_not_mem {path : Str} (absent : '\\' ∉ path) (count : Nat) :
    scanBackslash path count = -1 := by
  induction count with
  | zero => rfl
  | succ count inductionHypothesis =>
      have other : path[count]? ≠ some '\\' := fun found => absent (List.mem_of_getElem? found)
      simp only [scanBackslash, other, ↓reduceIte, inductionHypothesis]

/-- The scan stops at the last backslash. -/
theorem scanBackslash_last {directory file : Str} (absent : '\\' ∉ file) (count : Nat) :
    scanBackslash (directory ++ '\\' :: file) (directory.length + 1 + count) =
      directory.length := by
  induction count with
  | zero => simp [scanBackslash]
  | succ count inductionHypothesis =>
      have inFile : (directory ++ '\\' :: file)[directory.length + 1 + count]? = file[count]? := by
        rw [List.getElem?_append_right (by omega)]
        have offset : directory.length + 1 + count - directory.length = count + 1 := by omega
        rw [offset, List.getElem?_cons_succ]
      have other : (directory ++ '\\' :: file)[directory.length + 1 + count]? ≠ some '\\' :=
        fun found => absent (List.mem_of_getElem? (inFile ▸ found))
      rw [← Nat.add_assoc, scanBackslash, if_neg other, inductionHypothesis]

/-- A text with the letter has a last one. -/
theorem exists_last_of_mem {path : Str} {letter : Char} (member : letter ∈ path) :
    ∃ before after, path = before ++ letter :: after ∧ letter ∉ after := by
  obtain ⟨back, front, reversed, absent⟩ :=
    List.eq_append_cons_of_mem (List.mem_reverse.mpr member)
  refine ⟨front.reverse, back.reverse, ?_, fun member => absent (List.mem_reverse.mp member)⟩
  rw [← List.reverse_reverse path, reversed]
  simp

/-! ## The comparison in `size_t` -/

/-- The position -1 is not before the last letter, not even of an empty path. -/
theorem splitFullPath_of_not_mem {path : Str} (absent : '\\' ∉ path) :
    splitFullPath path = none := by
  unfold splitFullPath
  simp only [scanBackslash_of_not_mem absent]
  have notBefore : ¬ UInt32.ofInt (-1) < UInt32.ofNat path.length - 1 := by
    have wrapped : (UInt32.ofInt (-1)).toNat = 4294967295 := by decide
    have bounded := (UInt32.ofNat path.length - 1).toNat_lt
    rw [UInt32.lt_iff_toNat_lt, wrapped]
    omega
  rw [if_neg (fun both => notBefore both.2)]

/-- What is split off at the last backslash are the two sides of it. -/
theorem splitFullPath_sides {directory file : Str} (absent : '\\' ∉ file) :
    splitFullPath (directory ++ '\\' :: file) =
      if directory ≠ [] ∧ UInt32.ofInt directory.length <
          UInt32.ofNat (directory ++ '\\' :: file).length - 1 then some (directory, file)
      else none := by
  have lengths : (directory ++ '\\' :: file).length = directory.length + 1 + file.length := by
    simp only [List.length_append, List.length_cons]
    omega
  have scanned : scanBackslash (directory ++ '\\' :: file)
      (directory ++ '\\' :: file).length = directory.length := by
    rw [lengths]
    exact scanBackslash_last absent file.length
  have front : (directory.length : Int) ≠ 0 ↔ directory ≠ [] := by
    rw [← List.length_pos_iff]
    omega
  have next : ((directory.length : Int) + 1).toNat = directory.length + 1 := by omega
  have left : (directory ++ '\\' :: file).take directory.length = directory := by simp
  have right : (directory ++ '\\' :: file).drop (directory.length + 1) = file := by simp
  unfold splitFullPath
  simp only [scanned, front]
  rw [next, Int.toNat_natCast, left, right]

/-- A path of a length that fits is split when there is something on both sides. -/
theorem splitFullPath_last {directory file : Str} (absent : '\\' ∉ file)
    (short : (directory ++ '\\' :: file).length < 1024) :
    splitFullPath (directory ++ '\\' :: file) =
      if directory ≠ [] ∧ file ≠ [] then some (directory, file) else none := by
  have lengths : (directory ++ '\\' :: file).length = directory.length + 1 + file.length := by
    simp only [List.length_append, List.length_cons]
    omega
  have before : UInt32.ofInt directory.length <
      UInt32.ofNat (directory ++ '\\' :: file).length - 1 ↔ file ≠ [] := by
    have position : UInt32.ofInt directory.length = UInt32.ofNat directory.length := by
      unfold UInt32.ofInt
      congr 1
      omega
    have one : (1 : UInt32) = UInt32.ofNat 1 := rfl
    rw [position, one, ← UInt32.ofNat_sub (by omega), UInt32.ofNat_lt_iff_lt (by
      change _ < 4294967296
      omega) (by
      change _ < 4294967296
      omega), lengths, ← List.length_pos_iff]
    omega
  rw [splitFullPath_sides absent]
  simp only [before]

/-- Whatever a path is split into joins to it again. -/
theorem restorePath_of_splitFullPath {path directory file : Str}
    (split : splitFullPath path = some (directory, file)) : restorePath directory file = path := by
  by_cases member : '\\' ∈ path
  · obtain ⟨front, back, rfl, absent⟩ := exists_last_of_mem member
    rw [splitFullPath_sides absent] at split
    obtain ⟨_, same⟩ := Option.ite_none_right_eq_some.mp split
    cases same
    simp [restorePath]
  · rw [splitFullPath_of_not_mem member] at split
    cases split

/-- Where a path has its last backslash decides whether it can be split. -/
theorem unsplittable_last_iff {directory file : Str} (absent : '\\' ∉ file) :
    Unsplittable (directory ++ '\\' :: file) ↔ directory = [] ∨ file = [] := by
  have member : '\\' ∈ directory ++ '\\' :: file := by simp
  unfold Unsplittable
  constructor
  · rintro (missing | ⟨rest, atFront, alone⟩ | atEnd)
    · exact absurd member missing
    · cases directory with
      | nil => exact .inl rfl
      | cons head tail =>
          cases atFront
          simp at alone
    · cases file with
      | nil => exact .inr rfl
      | cons head tail =>
          rw [List.getLast?_append_of_ne_nil _ (List.cons_ne_nil _ _),
            List.getLast?_cons_cons] at atEnd
          exact absurd (List.mem_of_getLast? atEnd) absent
  · rintro (rfl | rfl)
    · exact .inr (.inl ⟨file, rfl, absent⟩)
    · exact .inr (.inr (by simp))

/-! ## The directory and the file -/

/-- What `get_directory_and_file` does with a path whose full path is known. -/
structure SplitsFullPath {World : Type} (windows : Windows World) (path full : Str)
    (before opened : World) : Prop where
  /-- The scan stays in the string. -/
  inRange : scanChecked full full.length = some (scanBackslash full full.length)
  refused : Program.Stops (getDirectoryAndFile windows path) before .assertion opened ↔
    Unsplittable full
  split : ¬ Unsplittable full → ∃ directory file,
    Program.Returns (getDirectoryAndFile windows path) before (directory, file) opened ∧
      restorePath directory file = full ∧ file ≠ [] ∧ '\\' ∉ file ∧ directory ≠ []

/-- The run is decided by the split of the full path. -/
theorem run_getDirectoryAndFile {World : Type} {windows : Windows World} {path full : Str}
    {before opened : World}
    (resolved : windows.getFullPathName path before = (some full, opened)) :
    (getDirectoryAndFile windows path).run before =
      (Program.ofOption .assertion (splitFullPath full) : Judge World (Str × Str)).run opened := by
  unfold getDirectoryAndFile getFullPathName
  rw [EStateM.run_bind, EStateM.run_bind, Program.run_call, resolved]
  rfl

/-- A full path is refused exactly when it has no directory or no file; otherwise it
is the directory and the file, joined again. -/
theorem splits_full_path {World : Type} {windows : Windows World} {path full : Str}
    {before opened : World}
    (resolved : windows.getFullPathName path before = (some full, opened))
    (short : full.length < 1024) : SplitsFullPath windows path full before opened := by
  have run := run_getDirectoryAndFile resolved
  by_cases member : '\\' ∈ full
  · obtain ⟨directory, file, rfl, absent⟩ := exists_last_of_mem member
    rw [splitFullPath_last absent short] at run
    by_cases proper : directory ≠ [] ∧ file ≠ []
    · rw [if_pos proper] at run
      have kept : ¬ Unsplittable (directory ++ '\\' :: file) := by
        rw [unsplittable_last_iff absent]
        exact not_or.mpr proper
      refine ⟨scanChecked_eq le_rfl, iff_of_false (fun stopped => ?_) kept, fun _ => ?_⟩
      · unfold Program.Stops at stopped
        rw [run] at stopped
        cases stopped
      · refine ⟨directory, file, run, ?_, proper.2, absent, proper.1⟩
        simp [restorePath]
    · rw [if_neg proper] at run
      have refused : Unsplittable (directory ++ '\\' :: file) := by
        rw [unsplittable_last_iff absent]
        exact not_and_or.mp proper |>.imp not_not.mp not_not.mp
      exact ⟨scanChecked_eq le_rfl, iff_of_true run refused, fun kept => absurd refused kept⟩
  · rw [splitFullPath_of_not_mem member] at run
    have refused : Unsplittable full := .inl member
    exact ⟨scanChecked_eq le_rfl, iff_of_true run refused, fun kept => absurd refused kept⟩

/-- The checker of a problem. -/
theorem splits_full_path_pair :
    SplitsFullPath pairMachine.windows "C:\\tests\\check.exe".toList "C:\\tests\\check.exe".toList
      ⟨pairFiles, ()⟩ ⟨pairFiles, ()⟩ :=
  splits_full_path rfl (by decide)

end CheckerOlimp.CheckerRc
