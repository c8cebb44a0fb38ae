import CheckerOlimp.Judging.Build

/-!
# Filling the command template

`parse_compiler_config` puts the paths in place of `$1` and `$2` one after the other,
so that the search for `$2` also goes through the path that has just been inserted.
The result is that of filling both at once exactly when it finds no other `$2` there.
-/

namespace CheckerOlimp.CheckerRc

open CheckerOlimp.Std

/-- The template with two of its placeholders filled at once. -/
def fillBoth (template : Str) (first second : Nat) (source executable : Str) : Str :=
  if first < second then
    template.take first ++ source ++ (template.take second).drop (first + 2) ++ executable ++
      template.drop (second + 2)
  else
    template.take second ++ executable ++ (template.take first).drop (second + 2) ++ source ++
      template.drop (first + 2)

/-- The `$1` at the position `first` filled, and the `$2` searched after that. -/
def fillInTurn (template : Str) (first : Nat) (source executable : Str) : Option Str :=
  let filled := Text.replace template first 2 source
  (Text.find "$2".toList filled).map fun second => Text.replace filled second 2 executable

/-- The command a template stands for: its first `$1` is the source, and for the C++
compilers its first `$2` the executable. -/
def filledTemplate (profilePath sourceName compilerName template : Str) : Option Str :=
  let source := restorePath profilePath sourceName
  if compilerName = msvCpp ∨ compilerName = mingwCpp then do
    let first ← Text.find "$1".toList template
    let second ← Text.find "$2".toList template
    some (fillBoth template first second source (restorePath profilePath (sourceName ++ exeStr)))
  else do
    let first ← Text.find "$1".toList template
    some (Text.replace template first 2 source)

/-- The placeholders that a compiler requires. -/
def HasPlaceholders (compilerName template : Str) : Prop :=
  "$1".toList <:+: template ∧
    (compilerName = msvCpp ∨ compilerName = mingwCpp → "$2".toList <:+: template)

/-- `parse_compiler_config` fills the template. -/
def FillsTemplate {World : Type} (before : World) (profilePath sourceName compilerName
    template : Str) : Prop :=
  ∃ command, filledTemplate profilePath sourceName compilerName template = some command ∧
    Program.Returns (parseCompilerConfig profilePath sourceName compilerName template) before
      command before

/-- With the path at the position `first` there is no `$2` in it or at its borders. -/
structure KeepsMarker (template path : Str) (first : Nat) : Prop where
  inside : ¬ "$2".toList <:+: path
  front : ¬ ((template.take first).getLast? = some '$' ∧ path.head? = some '2')
  back : ¬ (path.getLast? = some '$' ∧ template[first + 2]? = some '2')

/-! ## Two placeholders -/

section Placeholders

variable {front between back left right left' right' path executable : Str}

/-- The two placeholders stand apart, in one order or the other. -/
theorem placeholders_apart
    (same : left ++ ("$1".toList ++ right) = left' ++ ("$2".toList ++ right')) :
    (∃ between, left' = left ++ ("$1".toList ++ between) ∧
        right = between ++ ("$2".toList ++ right')) ∨
      (∃ between, left = left' ++ ("$2".toList ++ between) ∧
        right' = between ++ ("$1".toList ++ right)) := by
  rcases List.append_eq_append_iff.mp same with ⟨middle, rfl, rest⟩ | ⟨middle, rfl, rest⟩
  · match middle with
    | [] => exact absurd rest (by simp)
    | [letter] => exact absurd rest (by simp)
    | first :: second :: between =>
        cases rest
        exact .inl ⟨between, rfl, rfl⟩
  · match middle with
    | [] => exact absurd rest (by simp)
    | [letter] => exact absurd rest (by simp)
    | first :: second :: between =>
        cases rest
        exact .inr ⟨between, rfl, rfl⟩

/-- Two texts that end in different letters are different. -/
theorem append_pair_ne (ends : executable.getLast? = some 'e') (middle rest : Str) :
    executable ++ middle ++ "$2".toList ++ rest ≠ "$2".toList ++ middle ++ executable ++ rest := by
  intro same
  have whole := congrArg List.getLast? (List.append_cancel_right same)
  have left : (executable ++ middle ++ "$2".toList).getLast? = some '2' := by simp
  have right : ("$2".toList ++ middle ++ executable).getLast? = some 'e' := by
    rw [List.getLast?_append, ends]
    rfl
  rw [left, right] at whole
  exact absurd whole (by decide)

/-- The executable is put in place of the `$2` after `front` exactly when there is none
in `front`. -/
theorem replaces_marker_iff (ends : executable.getLast? = some 'e') :
    ((Text.find "$2".toList (front ++ ("$2".toList ++ back))).map fun second =>
        Text.replace (front ++ ("$2".toList ++ back)) second 2 executable) =
      some (front ++ executable ++ back) ↔ ¬ "$2".toList <:+: front := by
  have alone : '$' ∉ ['2'] := by decide
  constructor
  · intro replaced inside
    obtain ⟨second, found, same⟩ := Option.map_eq_some_iff.mp replaced
    obtain ⟨left, right, whole, rfl, absent⟩ := (Text.find_eq_some_iff alone).mp found
    rw [whole] at same
    have filled : left ++ executable ++ right = front ++ executable ++ back :=
      (Text.replace_append left "$2".toList right executable).symm.trans same
    rcases List.append_eq_append_iff.mp whole with ⟨middle, rfl, rest⟩ | ⟨middle, rfl, rest⟩
    · exact absent (inside.trans (List.infix_append [] front middle))
    · match middle with
      | [] => exact absent (by simpa using inside)
      | [letter] => exact absurd rest (by simp)
      | first :: second :: middle =>
          cases rest
          refine append_pair_ne ends middle back ?_
          simpa using filled
  · intro absent
    have found : Text.find "$2".toList (front ++ ("$2".toList ++ back)) = some front.length :=
      (Text.find_append_iff alone).mpr absent
    rw [Option.map_eq_some_iff]
    exact ⟨front.length, found, Text.replace_append front "$2".toList back executable⟩

/-- What stands before, between and behind two parts of a text. -/
theorem parts_of_text (front first between second back : Str) :
    let text := front ++ (first ++ (between ++ (second ++ back)))
    let position := (front ++ (first ++ between)).length
    text.take front.length = front ∧
      (text.take position).drop (front.length + first.length) = between ∧
      text.drop (position + second.length) = back := by
  refine ⟨by simp, ?_, ?_⟩
  · have regroup : front ++ (first ++ (between ++ (second ++ back))) =
        front ++ (first ++ between) ++ (second ++ back) := by simp
    rw [regroup, List.take_left, ← List.drop_drop]
    simp
  · have regroup : front ++ (first ++ (between ++ (second ++ back))) =
        front ++ (first ++ between) ++ (second ++ back) := by simp
    rw [regroup, ← List.drop_drop, List.drop_left]
    simp

theorem fillBoth_of_lt (front between back path executable : Str) :
    fillBoth (front ++ ("$1".toList ++ (between ++ ("$2".toList ++ back)))) front.length
        (front ++ ("$1".toList ++ between)).length path executable =
      front ++ path ++ between ++ executable ++ back := by
  obtain ⟨before, middle, after⟩ :=
    parts_of_text front "$1".toList between "$2".toList back
  have order : front.length < (front ++ ("$1".toList ++ between)).length := by simp
  unfold fillBoth
  rw [if_pos order]
  change _ ++ _ ++ (List.drop (front.length + "$1".toList.length) _) ++ _ ++
    List.drop (_ + "$2".toList.length) _ = _
  rw [before, middle, after]

theorem fillBoth_of_gt (front between back path executable : Str) :
    fillBoth (front ++ ("$2".toList ++ (between ++ ("$1".toList ++ back))))
        (front ++ ("$2".toList ++ between)).length front.length path executable =
      front ++ executable ++ between ++ path ++ back := by
  obtain ⟨before, middle, after⟩ :=
    parts_of_text front "$2".toList between "$1".toList back
  have order : ¬ (front ++ ("$2".toList ++ between)).length < front.length := by simp
  unfold fillBoth
  rw [if_neg order]
  change _ ++ _ ++ (List.drop (front.length + "$2".toList.length) _) ++ _ ++
    List.drop (_ + "$1".toList.length) _ = _
  rw [before, middle, after]

/-- No `$2` before the template's own is no `$2` in the path or at its borders. -/
theorem keepsMarker_iff (absent : ¬ "$2".toList <:+: front ++ ("$1".toList ++ between))
    (proper : path ≠ []) :
    KeepsMarker (front ++ ("$1".toList ++ (between ++ ("$2".toList ++ back)))) path front.length ↔
      ¬ "$2".toList <:+: front ++ (path ++ between) := by
  have marker : "$2".toList = ['$', '2'] := rfl
  have inFront : ¬ ['$', '2'] <:+: front := fun inside =>
    absent (inside.trans (List.infix_append [] front _))
  have inBetween : ¬ ['$', '2'] <:+: between := fun inside =>
    absent (inside.trans ⟨front ++ "$1".toList, [], by simp⟩)
  have head : (path ++ between).head? = path.head? := by
    cases path with
    | nil => exact absurd rfl proper
    | cons first others => rfl
  rw [marker]
  have before : (front ++ ("$1".toList ++ (between ++ (['$', '2'] ++ back)))).take front.length =
      front := by simp
  have behind : (front ++ ("$1".toList ++ (between ++ (['$', '2'] ++ back))))[front.length + 2]? =
      some '2' ↔ between.head? = some '2' := by
    rw [List.getElem?_append_right (by omega)]
    cases between with
    | nil => simp
    | cons first others => simp
  rw [Text.pair_infix_append_iff, Text.pair_infix_append_iff, head]
  constructor
  · rintro ⟨inside, atFront, atBack⟩
    rw [marker] at inside
    rw [before] at atFront
    rw [behind] at atBack
    rintro (found | (found | found | found) | found)
    · exact inFront found
    · exact inside found
    · exact inBetween found
    · exact atBack found
    · exact atFront found
  · intro clean
    refine ⟨fun found => clean (.inr (.inl (.inl found))), ?_, ?_⟩
    · rw [before]
      exact fun found => clean (.inr (.inr found))
    · rw [behind]
      exact fun found => clean (.inr (.inl (.inr (.inr found))))

/-- With `$1` in front, the search for `$2` goes through the inserted path. -/
theorem fillInTurn_source_first_iff (ends : executable.getLast? = some 'e')
    (absent : ¬ "$2".toList <:+: front ++ ("$1".toList ++ between)) (proper : path ≠ []) :
    let template := front ++ ("$1".toList ++ (between ++ ("$2".toList ++ back)))
    fillInTurn template front.length path executable =
        some (fillBoth template front.length (front ++ ("$1".toList ++ between)).length path
          executable) ↔
      KeepsMarker template path front.length := by
  have replaced : Text.replace (front ++ ("$1".toList ++ (between ++ ("$2".toList ++ back))))
      front.length 2 path = front ++ (path ++ between) ++ ("$2".toList ++ back) := by
    refine (Text.replace_append front "$1".toList _ path).trans ?_
    simp
  have regroup : front ++ path ++ between ++ executable ++ back =
      front ++ (path ++ between) ++ executable ++ back := by simp
  simp only [fillInTurn]
  rw [replaced, fillBoth_of_lt, keepsMarker_iff absent proper, regroup, replaces_marker_iff ends]

/-- With `$2` in front, the search finds it before the inserted path. -/
theorem fillInTurn_executable_first (ends : executable.getLast? = some 'e')
    (absent : ¬ "$2".toList <:+: front) :
    let template := front ++ ("$2".toList ++ (between ++ ("$1".toList ++ back)))
    let first := (front ++ ("$2".toList ++ between)).length
    fillInTurn template first path executable =
      some (fillBoth template first front.length path executable) := by
  have whole : front ++ ("$2".toList ++ (between ++ ("$1".toList ++ back))) =
      front ++ ("$2".toList ++ between) ++ ("$1".toList ++ back) := by simp
  have replaced : Text.replace (front ++ ("$2".toList ++ (between ++ ("$1".toList ++ back))))
      (front ++ ("$2".toList ++ between)).length 2 path =
        front ++ ("$2".toList ++ (between ++ (path ++ back))) := by
    rw [whole]
    refine (Text.replace_append _ "$1".toList _ path).trans ?_
    simp
  have regroup : front ++ executable ++ between ++ path ++ back =
      front ++ executable ++ (between ++ (path ++ back)) := by simp
  simp only [fillInTurn]
  rw [replaced, fillBoth_of_gt, regroup]
  exact (replaces_marker_iff ends).mpr absent

end Placeholders

/-! ## The filled template -/

section Fills

variable {World : Type} {before : World}
  {profilePath sourceName compilerName template : Str}

theorem restorePath_ne_nil (profilePath fileName : Str) :
    restorePath profilePath fileName ≠ [] := by
  simp [restorePath]

theorem getLast?_restorePath_exe (profilePath sourceName : Str) :
    (restorePath profilePath (sourceName ++ exeStr)).getLast? = some 'e' := by
  have ends : exeStr.getLast? = some 'e' := rfl
  have shape : restorePath profilePath (sourceName ++ exeStr) =
      profilePath ++ ['\\'] ++ sourceName ++ exeStr := by simp [restorePath]
  rw [shape, List.getLast?_append, ends]
  rfl

/-- The program returns the command that its search has made. -/
theorem fillsTemplate_iff_compileCommand {command : Str}
    (filled : filledTemplate profilePath sourceName compilerName template = some command) :
    FillsTemplate before profilePath sourceName compilerName template ↔
      compileCommand profilePath sourceName compilerName template = some command := by
  unfold FillsTemplate
  rw [filled, parseCompilerConfig_eq]
  simp [Program.returns_ofOption_iff]

/-- For C++ the placeholders are filled one after the other. -/
theorem compileCommand_cpp {first : Nat} (cpp : compilerName = msvCpp ∨ compilerName = mingwCpp)
    (found : Text.find "$1".toList template = some first) :
    compileCommand profilePath sourceName compilerName template =
      fillInTurn template first (restorePath profilePath sourceName)
        (restorePath profilePath (sourceName ++ exeStr)) := by
  simp only [compileCommand, fillInTurn, if_pos cpp, found, Option.bind_eq_bind, Option.bind_some]
  cases Text.find "$2".toList (Text.replace template first 2 _) <;> rfl

/-- The command that a C++ template stands for. -/
theorem filledTemplate_cpp {first second : Nat}
    (cpp : compilerName = msvCpp ∨ compilerName = mingwCpp)
    (foundFirst : Text.find "$1".toList template = some first)
    (foundSecond : Text.find "$2".toList template = some second) :
    filledTemplate profilePath sourceName compilerName template =
      some (fillBoth template first second (restorePath profilePath sourceName)
        (restorePath profilePath (sourceName ++ exeStr))) := by
  simp only [filledTemplate, if_pos cpp, foundFirst, foundSecond, Option.bind_eq_bind,
    Option.bind_some]

/-- The first placeholders filled in turn are both filled, unless the path brings a `$2`. -/
theorem fillInTurn_iff {first second : Nat} {path executable : Str}
    (ends : executable.getLast? = some 'e') (proper : path ≠ [])
    (foundFirst : Text.find "$1".toList template = some first)
    (foundSecond : Text.find "$2".toList template = some second) :
    fillInTurn template first path executable =
        some (fillBoth template first second path executable) ↔
      second < first ∨ KeepsMarker template path first := by
  obtain ⟨left, right, whole, rfl, _⟩ := (Text.find_eq_some_iff (by decide)).mp foundFirst
  obtain ⟨left', right', whole', rfl, absent⟩ :=
    (Text.find_eq_some_iff (by decide)).mp foundSecond
  rcases placeholders_apart (whole.symm.trans whole') with ⟨between, rfl, rfl⟩ | ⟨between, rfl, rfl⟩
  · -- `$1` comes first
    have order : ¬ (left ++ ("$1".toList ++ between)).length < left.length := by simp
    rw [or_iff_right order, whole]
    exact fillInTurn_source_first_iff ends absent proper
  · -- `$2` comes first
    have order : left'.length < (left' ++ ("$2".toList ++ between)).length := by simp
    refine iff_of_true ?_ (.inl order)
    rw [whole']
    exact fillInTurn_executable_first ends absent

/-- A C++ template is filled exactly when the search for its `$2` meets no other. -/
theorem fillsTemplate_cpp_iff (cpp : compilerName = msvCpp ∨ compilerName = mingwCpp)
    (required : "$1".toList <:+: template ∧ "$2".toList <:+: template) :
    FillsTemplate before profilePath sourceName compilerName template ↔
      ∀ first second, Text.find "$1".toList template = some first →
        Text.find "$2".toList template = some second →
        second < first ∨ KeepsMarker template (restorePath profilePath sourceName) first := by
  obtain ⟨first, foundFirst⟩ := Option.isSome_iff_exists.mp (Text.find_isSome_iff.mpr required.1)
  obtain ⟨second, foundSecond⟩ :=
    Option.isSome_iff_exists.mp (Text.find_isSome_iff.mpr required.2)
  have ends := getLast?_restorePath_exe profilePath sourceName
  have proper := restorePath_ne_nil profilePath sourceName
  rw [fillsTemplate_iff_compileCommand (filledTemplate_cpp cpp foundFirst foundSecond),
    compileCommand_cpp cpp foundFirst, fillInTurn_iff ends proper foundFirst foundSecond]
  constructor
  · rintro clean first' second' foundFirst' foundSecond'
    rw [foundFirst] at foundFirst'
    rw [foundSecond] at foundSecond'
    cases foundFirst'
    cases foundSecond'
    exact clean
  · intro every
    exact every first second foundFirst foundSecond

/-- `parse_compiler_config` fills every template for Pascal. For C++ it does so exactly
when the `$2` of the template stands before its `$1`, or the path of the source brings
no `$2` before it. -/
theorem fillsTemplate_iff (known : compilerName ∈ compilers)
    (required : HasPlaceholders compilerName template) :
    FillsTemplate before profilePath sourceName compilerName template ↔
      (compilerName = msvCpp ∨ compilerName = mingwCpp →
        ∀ first second, Text.find "$1".toList template = some first →
          Text.find "$2".toList template = some second →
          second < first ∨ KeepsMarker template (restorePath profilePath sourceName) first) := by
  by_cases cpp : compilerName = msvCpp ∨ compilerName = mingwCpp
  · rw [fillsTemplate_cpp_iff cpp ⟨required.1, required.2 cpp⟩]
    exact ⟨fun clean _ => clean, fun clean => clean cpp⟩
  · have pascal : compilerName = fpPas ∨ compilerName = abcPas := by
      simp only [compilers, List.mem_cons, List.not_mem_nil, or_false] at known
      tauto
    obtain ⟨first, found⟩ := Option.isSome_iff_exists.mp (Text.find_isSome_iff.mpr required.1)
    have filled : filledTemplate profilePath sourceName compilerName template =
        some (Text.replace template first 2 (restorePath profilePath sourceName)) := by
      simp only [filledTemplate, if_neg cpp, found, Option.bind_eq_bind, Option.bind_some]
    have made : compileCommand profilePath sourceName compilerName template =
        some (Text.replace template first 2 (restorePath profilePath sourceName)) := by
      simp only [compileCommand, if_neg cpp, if_pos pascal, found, Option.bind_eq_bind,
        Option.bind_some]
    exact iff_of_true ((fillsTemplate_iff_compileCommand filled).mpr made)
      (fun cpp' => absurd cpp' cpp)

end Fills

/-! ## A profile with a marker in its path -/

/-- The path of the source brings a `$2` of its own, which gets the executable. -/
theorem marked_path_not_fillsTemplate :
    ¬ ∀ (before : Unit) (profilePath sourceName compilerName template : Str),
      compilerName ∈ compilers → HasPlaceholders compilerName template →
      FillsTemplate before profilePath sourceName compilerName template := by
  intro always
  have required : HasPlaceholders mingwCpp "g $1 $2".toList := by
    exact ⟨by decide, fun _ => by decide⟩
  obtain ⟨command, filled, returned⟩ :=
    always () "C:\\$2".toList "a".toList mingwCpp "g $1 $2".toList (by decide) required
  rw [parseCompilerConfig_eq, Program.returns_ofOption_iff] at returned
  have same := filled.trans returned.1.symm
  exact absurd same (by decide)

/-- The usual order of the placeholders. -/
theorem fillsTemplate_iff_plain :
    FillsTemplate () "C:\\p".toList "a".toList mingwCpp "g $1 $2".toList ↔
      (mingwCpp = msvCpp ∨ mingwCpp = mingwCpp →
        ∀ first second, Text.find "$1".toList "g $1 $2".toList = some first →
          Text.find "$2".toList "g $1 $2".toList = some second →
          second < first ∨
            KeepsMarker "g $1 $2".toList (restorePath "C:\\p".toList "a".toList) first) :=
  fillsTemplate_iff (by decide) ⟨by decide, fun _ => by decide⟩

end CheckerOlimp.CheckerRc
