import CheckerOlimp.Contester.Pacing
import CheckerOlimp.Judging.Schema

/-!
# The start of the contester

`read_config` fills in the statics from the file `contester.cfg`. It makes every access
without a check: `Configures` is what a document needs to be read at all, and `Takes` is
what the statics then hold, independent of the order in which the map is filled.
-/

namespace CheckerOlimp.Contester

open CheckerOlimp.Std CheckerOlimp.CheckerRc

section Reader

variable {World : Type}

/-! ## The reader -/

/-- `DELAY` and the static members of `checker`. -/
structure Statics where
  delay : ClockT
  settings : Settings
deriving DecidableEq, Repr

/-- Before `read_config`. -/
def Statics.initial : Statics := ⟨10000, ⟨[], [], []⟩⟩

/-- `checker::clngs[identifier] = lng`. -/
def assign (clngs : List (Str × Clng)) (identifier : Str) (lng : Clng) : List (Str × Clng) :=
  (identifier, lng) :: clngs.filter fun entry => entry.1 ≠ identifier

/-- `value[name].GetString()`. -/
def memberString (value : Json) (name : Str) : Judge World Str := do
  getString (← getMember value name)

/-- `value[name].GetInt()`. -/
def memberInt (value : Json) (name : Str) : Judge World Int32 := do
  getInt (← getMember value name)

/-- The loop of `read_config` over the languages. -/
def readLangs (clngs : List (Str × Clng)) : List Json → Judge World (List (Str × Clng))
  | [] => pure clngs
  | li :: rest => do
    let cmd ← memberString li "compiler".toList
    let ext ← memberString li "ext".toList
    let identifier ← memberString li "id".toList
    readLangs (assign clngs identifier ⟨ext, cmd⟩) rest

/-- What `read_config` takes from the parsed document. -/
def readStatics (statics : Statics) (doc : Json) : Judge World Statics := do
  let delay ← memberInt doc "delay".toList
  let chBin ← memberString doc "checker".toList
  let testsDir ← memberString doc "tests_dir".toList
  let langs ← getMember doc "langs".toList
  if isArray langs then
    let lv ← getElements langs
    let clngs ← readLangs [] lv
    pure ⟨delay, ⟨chBin, testsDir, clngs⟩⟩
  else
    pure ⟨delay, ⟨chBin, testsDir, statics.settings.clngs⟩⟩

/-- The path that `read_config` opens. -/
def contesterConfigPath : Str := "contester.cfg".toList

/-- `read_config`. A file that does not open is read as an empty one. -/
def readConfig (windows : Windows World) (parse : Str → Option Json) (statics : Statics) :
    Judge World Statics := do
  let file ← Program.call (windows.ifstream contesterConfigPath)
  let doc ← Program.ofOption .undefined (parse (cString (file.getD [])))
  readStatics statics doc

/-! ## What a document needs -/

/-- An element of `langs`. -/
structure LangFits (li : Json) : Prop where
  compiler : HasField li "compiler".toList isString
  ext : HasField li "ext".toList isString
  id : HasField li "id".toList isString

/-- The elements of `langs`; none when it is not an array. -/
def langsOf (doc : Json) : List Json :=
  match member doc "langs".toList with
  | some (.array lv) => lv
  | _ => []

/-- A document that is read without an access outside its precondition. -/
structure Configures (doc : Json) : Prop where
  delay : HasField doc "delay".toList isInt
  checker : HasField doc "checker".toList isString
  testsDir : HasField doc "tests_dir".toList isString
  langs : HasField doc "langs".toList fun _ => true
  each : ∀ li ∈ langsOf doc, LangFits li

/-! ## What is taken from it -/

/-- The text of a member. -/
def textOf (value : Json) (name : Str) : Str :=
  match member value name with
  | some (.string text) => cString text
  | _ => []

/-- The last of the languages with an identifier. -/
def lastLang (lv : List Json) (identifier : Str) : Option Clng :=
  (lv.reverse.find? fun li => textOf li "id".toList = identifier).map fun li =>
    ⟨textOf li "ext".toList, textOf li "compiler".toList⟩

/-- The statics that a document leaves, from those before it: the languages are replaced as
a whole when `langs` is an array, and otherwise kept. -/
structure Takes (before : Statics) (doc : Json) (after : Statics) : Prop where
  delay : member doc "delay".toList = some (.number after.delay.toInt)
  chBin : after.settings.chBin = textOf doc "checker".toList
  testsDir : after.settings.testsDir = textOf doc "tests_dir".toList
  replaced : (∃ lv, member doc "langs".toList = some (.array lv)) →
    ∀ identifier, after.settings.clng identifier =
      (lastLang (langsOf doc) identifier).getD ⟨[], []⟩
  kept : (∀ lv, member doc "langs".toList ≠ some (.array lv)) →
    after.settings.clngs = before.settings.clngs

/-! ## The accessors -/

theorem getMember_eq (value : Json) (name : Str) :
    (getMember value name : Judge World Json) =
      Program.ofOption .undefined (member value name) := by
  unfold getMember member
  cases value <;> rfl

/-- A member that is a string is read. -/
theorem memberString_eq {value : Json} {name : Str} (field : HasField value name isString) :
    (memberString value name : Judge World Str) = pure (textOf value name) := by
  obtain ⟨field, found, string⟩ := field
  unfold memberString textOf
  rw [getMember_eq, found]
  cases field with
  | string text => rfl
  | _ => cases string

/-- Nothing else is. -/
theorem memberString_undefined {value : Json} {name : Str}
    (other : ¬ HasField value name isString) :
    (memberString value name : Judge World Str) = Program.stop .undefined := by
  unfold memberString
  rw [getMember_eq]
  cases found : member value name with
  | none => rfl
  | some field =>
      cases field with
      | string text => exact absurd ⟨.string text, found, rfl⟩ other
      | _ => rfl

variable (World) in
/-- A member that is a number of 32 signed bits is read. -/
theorem memberInt_eq {value : Json} {name : Str} (field : HasField value name isInt) :
    ∃ number : Int32, member value name = some (.number number.toInt) ∧
      (memberInt value name : Judge World Int32) = pure number := by
  obtain ⟨field, found, fits⟩ := field
  unfold memberInt
  rw [getMember_eq, found]
  cases field with
  | number number =>
      have bounds : -2 ^ 31 ≤ number ∧ number < 2 ^ 31 := by simpa [isInt] using fits
      refine ⟨Int32.ofInt number, ?_, ?_⟩
      · rw [Int32.toInt_ofInt_of_le bounds.1 bounds.2]
      · simp only [Program.ofOption, pure_bind, getInt, fits, ↓reduceIte]
  | _ => cases fits

theorem memberInt_undefined {value : Json} {name : Str}
    (other : ¬ HasField value name isInt) :
    (memberInt value name : Judge World Int32) = Program.stop .undefined := by
  unfold memberInt
  rw [getMember_eq]
  cases found : member value name with
  | none => rfl
  | some field =>
      cases field with
      | number number =>
          have large : ¬ isInt (.number number) = true := fun fits => other ⟨_, found, fits⟩
          simp only [Program.ofOption, pure_bind, getInt, large, Bool.false_eq_true, ↓reduceIte]
      | _ => rfl

/-! ## The languages -/

/-- What is filtered out of a map is not found in it, and the rest is. -/
theorem lookup_filter_of_ne {clngs : List (Str × Clng)} {identifier wanted : Str}
    (other : wanted ≠ identifier) :
    (clngs.filter fun entry => entry.1 ≠ identifier).lookup wanted = clngs.lookup wanted := by
  induction clngs with
  | nil => rfl
  | cons entry rest inductionHypothesis =>
      obtain ⟨name, held⟩ := entry
      by_cases kept : name = identifier
      · have passed : (wanted == name) = false := by simpa [kept] using other
        rw [List.filter_cons_of_neg (by simpa using kept), List.lookup_cons, passed,
          inductionHypothesis]
      · rw [List.filter_cons_of_pos (by simpa using kept), List.lookup_cons, List.lookup_cons,
          inductionHypothesis]

theorem lookup_assign (clngs : List (Str × Clng)) (identifier wanted : Str) (lng : Clng) :
    (assign clngs identifier lng).lookup wanted =
      if wanted = identifier then some lng else clngs.lookup wanted := by
  by_cases same : wanted = identifier
  · simp [assign, same]
  · have other : (wanted == identifier) = false := by simpa using same
    rw [assign, List.lookup_cons, other, if_neg same, lookup_filter_of_ne same]

/-- A language as it is read. -/
def langOf (li : Json) : Clng := ⟨textOf li "ext".toList, textOf li "compiler".toList⟩

/-- The map that the loop leaves. -/
def assignAll (clngs : List (Str × Clng)) (lv : List Json) : List (Str × Clng) :=
  lv.foldl (fun clngs li => assign clngs (textOf li "id".toList) (langOf li)) clngs

theorem lastLang_cons (li : Json) (lv : List Json) (identifier : Str) :
    lastLang (li :: lv) identifier = (lastLang lv identifier).or
      (if identifier = textOf li "id".toList then some (langOf li) else none) := by
  unfold lastLang
  rw [List.reverse_cons, List.find?_append, Option.map_or, List.find?_singleton]
  congr 1
  by_cases same : identifier = textOf li "id".toList
  · rw [if_pos same, if_pos (by simpa using same.symm)]
    rfl
  · rw [if_neg same, if_neg (by simpa using Ne.symm same)]
    rfl

/-- Later languages replace earlier ones. -/
theorem lookup_assignAll (clngs : List (Str × Clng)) (lv : List Json) (identifier : Str) :
    (assignAll clngs lv).lookup identifier =
      (lastLang lv identifier).or (clngs.lookup identifier) := by
  induction lv generalizing clngs with
  | nil => rfl
  | cons li lv inductionHypothesis =>
      have step : assignAll clngs (li :: lv) =
          assignAll (assign clngs (textOf li "id".toList) (langOf li)) lv := rfl
      rw [step, inductionHypothesis, lookup_assign, lastLang_cons, Option.or_assoc]
      split <;> rfl

theorem readLangs_eq (clngs : List (Str × Clng)) {lv : List Json}
    (fits : ∀ li ∈ lv, LangFits li) :
    (readLangs clngs lv : Judge World (List (Str × Clng))) = pure (assignAll clngs lv) := by
  induction lv generalizing clngs with
  | nil => rfl
  | cons li lv inductionHypothesis =>
      have first := fits li List.mem_cons_self
      rw [readLangs, memberString_eq first.compiler, pure_bind, memberString_eq first.ext,
        pure_bind, memberString_eq first.id, pure_bind,
        inductionHypothesis _ fun other member => fits other (List.mem_cons_of_mem _ member)]
      rfl

/-- One element that does not fit is enough. -/
theorem readLangs_undefined (clngs : List (Str × Clng)) {lv : List Json}
    (misfit : ¬ ∀ li ∈ lv, LangFits li) :
    (readLangs clngs lv : Judge World (List (Str × Clng))) = Program.stop .undefined := by
  induction lv generalizing clngs with
  | nil => exact absurd (by simp) misfit
  | cons li lv inductionHypothesis =>
      rw [readLangs]
      by_cases compiler : HasField li "compiler".toList isString
      · rw [memberString_eq compiler, pure_bind]
        by_cases ext : HasField li "ext".toList isString
        · rw [memberString_eq ext, pure_bind]
          by_cases id : HasField li "id".toList isString
          · rw [memberString_eq id, pure_bind]
            refine inductionHypothesis _ fun fits => misfit ?_
            exact List.forall_mem_cons.mpr ⟨⟨compiler, ext, id⟩, fits⟩
          · rw [memberString_undefined id, stop_bind]
        · rw [memberString_undefined ext, stop_bind]
      · rw [memberString_undefined compiler, stop_bind]

/-! ## The whole document -/

/-- The languages of a document that lists them. -/
theorem langsOf_eq {doc langs : Json} {lv : List Json}
    (listed : member doc "langs".toList = some langs) (array : langs = .array lv) :
    langsOf doc = lv := by
  simp only [langsOf, listed, array]

variable (World) in
/-- A document that configures is read, and what it leaves is taken from it. -/
theorem readStatics_takes (before : Statics) {doc : Json} (configures : Configures doc) :
    ∃ after, (readStatics before doc : Judge World Statics) = pure after ∧
      Takes before doc after := by
  obtain ⟨delay, found, reads⟩ := memberInt_eq World configures.delay
  obtain ⟨langs, listed, _⟩ := configures.langs
  unfold readStatics
  rw [reads, getMember_eq, listed, memberString_eq configures.checker,
    memberString_eq configures.testsDir]
  simp only [Program.ofOption, pure_bind]
  by_cases array : isArray langs = true
  · obtain ⟨lv, rfl⟩ : ∃ lv, langs = .array lv := by
      cases langs with
      | array lv => exact ⟨lv, rfl⟩
      | _ => cases array
    have each := langsOf_eq listed rfl
    refine ⟨⟨delay, ⟨textOf doc "checker".toList, textOf doc "tests_dir".toList, assignAll [] lv⟩⟩,
      ?_, {
      delay := found
      chBin := rfl
      testsDir := rfl
      replaced := fun _ identifier => ?_
      kept := fun other => absurd listed (other lv) }⟩
    · simp only [isArray, ↓reduceIte, getElements, pure_bind,
        readLangs_eq [] (each ▸ configures.each)]
    · rw [Settings.clng, lookup_assignAll, each, List.lookup_nil, Option.or_none]
  · refine ⟨_, if_neg array, {
      delay := found
      chBin := rfl
      testsDir := rfl
      replaced := ?_
      kept := fun _ => rfl }⟩
    rintro ⟨lv, same⟩
    rw [listed, Option.some.injEq] at same
    exact absurd (same ▸ rfl) array

/-- Any other document leads to an access outside its precondition. -/
theorem readStatics_undefined (before : Statics) {doc : Json} (other : ¬ Configures doc) :
    (readStatics before doc : Judge World Statics) = Program.stop .undefined := by
  unfold readStatics
  by_cases delay : HasField doc "delay".toList isInt
  · obtain ⟨number, _, reads⟩ := memberInt_eq World delay
    rw [reads, pure_bind]
    by_cases checker : HasField doc "checker".toList isString
    · rw [memberString_eq checker, pure_bind]
      by_cases testsDir : HasField doc "tests_dir".toList isString
      · rw [memberString_eq testsDir, pure_bind, getMember_eq]
        cases listed : member doc "langs".toList with
        | none => rfl
        | some langs =>
            have misfit : ¬ ∀ li ∈ langsOf doc, LangFits li := fun each =>
              other ⟨delay, checker, testsDir, ⟨langs, listed, rfl⟩, each⟩
            cases langs with
            | array lv =>
                rw [langsOf_eq listed rfl] at misfit
                simp only [Program.ofOption, pure_bind, isArray, ↓reduceIte, getElements,
                  readLangs_undefined [] misfit, stop_bind]
            | _ =>
                have nothing : langsOf doc = [] := by simp only [langsOf, listed]
                exact absurd (by simp [nothing]) misfit
      · rw [memberString_undefined testsDir, stop_bind]
    · rw [memberString_undefined checker, stop_bind]
  · rw [memberInt_undefined delay, stop_bind]

/-- The text that is parsed. -/
def configText (windows : Windows World) (before : World) : Str :=
  cString ((windows.ifstream contesterConfigPath before).1.getD [])

/-- A text that is parsed to a document that configures. -/
def Configurable (parse : Str → Option Json) (text : Str) : Prop :=
  ∃ doc, parse text = some doc ∧ Configures doc

/-- `read_config` either takes everything from a document that configures, or makes an access
outside its precondition: a missing file, a text that does not parse and a member that is
missing or of another type all end there. -/
theorem readConfig_decides (windows : Windows World) (parse : Str → Option Json)
    (statics : Statics) (before : World) :
    (∃ doc taken, parse (configText windows before) = some doc ∧ Configures doc ∧
      Takes statics doc taken ∧
      Program.Returns (readConfig windows parse statics) before taken
        (windows.ifstream contesterConfigPath before).2) ∨
    ¬ Configurable parse (configText windows before) ∧
      Program.Stops (readConfig windows parse statics) before .undefined
        (windows.ifstream contesterConfigPath before).2 := by
  have ran : (readConfig windows parse statics).run before =
      (Program.ofOption .undefined (parse (configText windows before)) >>=
        readStatics statics).run (windows.ifstream contesterConfigPath before).2 := rfl
  unfold Program.Returns Program.Stops
  rw [ran]
  cases parsed : parse (configText windows before) with
  | none =>
      refine .inr ⟨?_, rfl⟩
      rintro ⟨doc, found, _⟩
      rw [parsed] at found
      cases found
  | some doc =>
      by_cases configures : Configures doc
      · obtain ⟨taken, reads, takes⟩ := readStatics_takes World statics configures
        refine .inl ⟨doc, taken, rfl, configures, takes, ?_⟩
        rw [Program.ofOption, pure_bind, reads]
        rfl
      · refine .inr ⟨?_, ?_⟩
        · rintro ⟨other, found, fits⟩
          rw [parsed, Option.some.injEq] at found
          exact configures (found ▸ fits)
        · rw [Program.ofOption, pure_bind, readStatics_undefined statics configures]
          rfl

end Reader

/-! ## `main` -/

section Main

variable {File Rest Database : Type} [DecidableEq File]

/-- `EXIT_FAILURE`. -/
def exitFailure : Int32 := 1

/-- `read_config` at the beginning of `main`. It reads a file and changes nothing. -/
def start (machine : Machine File Rest) (parse : Str → Option Json) :
    Program Ended (Paced (Site File Rest Database)) Statics :=
  Program.within (fun paced => paced.site.world)
    (fun paced world => { paced with site := { paced.site with world } })
    (fun _ => Ended.thrown .undefined) (readConfig machine.windows parse .initial)

/-- `main` for so many turns of its loop, with the code that it returns if it does. The flag
says whether `mysql_real_connect` gives a connection. -/
def Statics.main (deployment : Deployment File Rest Database) (parse : Str → Option Json)
    (connected : Bool) (reading : Nat → ClockT) (turns : Nat) :
    Program Ended (Paced (Site File Rest Database)) (Option Int32) := do
  let statics ← start deployment.machine parse
  if connected then
    mainTurns (cycle deployment statics.settings) reading statics.delay turns
    pure none
  else
    pure (some exitFailure)

/-- What a run of `main` that reaches its last turn, or returns, has done. -/
structure Served (deployment : Deployment File Rest Database) (parse : Str → Option Json)
    (connected : Bool) (turns : Nat) (before after : Paced (Site File Rest Database))
    (code : Option Int32) : Prop where
  served : ∃ doc statics,
    parse (configText deployment.machine.windows before.site.world) = some doc ∧
    Configures doc ∧ Takes .initial doc statics ∧
    (connected = true →
      Program.Returns (cycles deployment statics.settings turns) before.site () after.site)
  running : connected = true → code = none
  failed : connected = false → code = some exitFailure ∧ after = before

theorem start_decides (machine : Machine File Rest) (parse : Str → Option Json)
    (before : Paced (Site File Rest Database)) :
    (∃ doc statics, parse (configText machine.windows before.site.world) = some doc ∧
      Configures doc ∧ Takes .initial doc statics ∧
      Program.Returns (start machine parse) before statics before) ∨
    ¬ Configurable parse (configText machine.windows before.site.world) ∧
      Program.Stops (start machine parse : Program _ _ Statics) before (.thrown .undefined)
        before := by
  rcases readConfig_decides machine.windows parse .initial before.site.world with
    ⟨doc, statics, parsed, configures, takes, returned⟩ | ⟨other, stopped⟩
  · exact .inl ⟨doc, statics, parsed, configures, takes, Program.run_within_ok returned⟩
  · exact .inr ⟨other, Program.run_within_error stopped⟩

/-- `main` judges by the languages of its configuration for as long as it runs; without a
connection it returns at once, and without a configuration it does not get to a solution. -/
theorem main_serves (deployment : Deployment File Rest Database) (parse : Str → Option Json)
    (connected : Bool) (reading : Nat → ClockT) (turns : Nat)
    (before : Paced (Site File Rest Database)) :
    (∀ code after,
      Program.Returns (Statics.main deployment parse connected reading turns) before code after →
      Served deployment parse connected turns before after code) ∧
    (¬ Configurable parse (configText deployment.machine.windows before.site.world) →
      Program.Stops (Statics.main deployment parse connected reading turns) before
        (.thrown .undefined) before) := by
  rcases start_decides deployment.machine parse before with
    ⟨doc, statics, parsed, configures, takes, started⟩ | ⟨other, stopped⟩
  · refine ⟨fun code after returned => ?_, fun other => absurd ⟨doc, parsed, configures⟩ other⟩
    obtain ⟨taken, middle, first, rest⟩ := Program.returns_bind_iff.mp returned
    obtain ⟨rfl, rfl⟩ := started.unique first
    cases connected with
    | true =>
        obtain ⟨_, left, turned, ended⟩ := Program.returns_bind_iff.mp rest
        obtain ⟨rfl, rfl⟩ := Program.returns_pure_iff.mp ended
        exact {
          served := ⟨doc, statics, parsed, configures, takes,
            fun _ => returns_cycles_of_mainTurns turned⟩
          running := fun _ => rfl
          failed := fun refused => by cases refused }
    | false =>
        obtain ⟨rfl, rfl⟩ := Program.returns_pure_iff.mp rest
        exact {
          served := ⟨doc, statics, parsed, configures, takes, fun joined => by cases joined⟩
          running := fun joined => by cases joined
          failed := fun _ => ⟨rfl, rfl⟩ }
  · have stops : Program.Stops (Statics.main deployment parse connected reading turns) before
        (.thrown .undefined) before := by
      unfold Program.Stops at stopped ⊢
      rw [Statics.main, EStateM.run_bind, stopped]
    exact ⟨fun code after returned => absurd returned stops.not_returns, fun _ => stops⟩

/-! ## From the configuration to the judge -/

/-- The languages that `main` starts with are those of the document, the last of each. -/
theorem Takes.clng_eq {doc : Json} {statics : Statics} (takes : Takes .initial doc statics)
    (identifier : Str) :
    statics.settings.clng identifier = (lastLang (langsOf doc) identifier).getD ⟨[], []⟩ := by
  by_cases array : ∃ lv, member doc "langs".toList = some (.array lv)
  · exact takes.replaced array identifier
  · have none : ∀ lv, member doc "langs".toList ≠ some (.array lv) := fun lv same =>
      array ⟨lv, same⟩
    have nothing : langsOf doc = [] := by
      unfold langsOf
      split
      · next lv same => exact absurd same (none lv)
      · rfl
    rw [Settings.clng, takes.kept none, nothing]
    rfl

/-- What the judge is told of a solution, in terms of the configuration of the contester. -/
structure Equips (doc : Json) (solution : Solution) (config : MainConfig) : Prop where
  compilerName : config.compilerName = cString solution.pl.identifier
  template : config.compilerCommandTemplate =
    ((lastLang (langsOf doc) solution.pl.identifier).getD ⟨[], []⟩).cmd
  checkerFilePath : config.problem.checkerFilePath = restorePath
    (cString (textOf doc "tests_dir".toList ++ toString solution.pt.cid ++ "\\".toList ++
      toString solution.tid)) (cString solution.pt.checker)

/-- A language is written as it was read. -/
theorem cString_cmd (doc : Json) (identifier : Str) :
    cString ((lastLang (langsOf doc) identifier).getD ⟨[], []⟩).cmd =
      ((lastLang (langsOf doc) identifier).getD ⟨[], []⟩).cmd := by
  unfold lastLang
  cases (langsOf doc).reverse.find? fun li => textOf li "id".toList = identifier with
  | none => rfl
  | some li =>
      change cString (textOf li "compiler".toList) = textOf li "compiler".toList
      unfold textOf
      split
      · exact cString_cString _
      · rfl

/-- Between the configuration of the contester and the judge stand two readers and a writer:
the compiler template of a language goes through all of them unchanged. -/
theorem template_reaches_judge (host : Host File Rest Database) {doc : Json}
    {before : Paced (Site File Rest Database)} {solution : Solution} {name : Str}
    (parsed : Json.parse (configText host.machine.windows before.site.world) = some doc)
    (configures : Configures doc)
    (creatable : host.machine.creatable (host.machine.fileOf name) = true)
    (time : solution.pt.timeLimit.toNat < 2 ^ 32)
    (memory : solution.pt.memoryLimit.toNat < 2 ^ 32) :
    ∃ statics written config,
      Program.Returns (start host.machine Json.parse) before statics before ∧
      Program.Returns (solution.createCfgJson host statics.settings name) before.site name
        written ∧
      Program.Returns (readMainConfig host.machine.windows Json.parse name) written.world config
        written.world ∧
      Equips doc solution config ∧
      solution.getSrcExt statics.settings =
        ((lastLang (langsOf doc) solution.pl.identifier).getD ⟨[], []⟩).ext := by
  rcases start_decides host.machine Json.parse before with
    ⟨found, statics, same, _, takes, started⟩ | ⟨other, _⟩
  · rw [parsed, Option.some.injEq] at same
    subst same
    have clng := takes.clng_eq solution.pl.identifier
    have file := Machine.writeBinary_files_self creatable (solution.cfgJson statics.settings)
      before.site.world
    have parses : Json.parse (solution.json statics.settings).text =
        some (solution.json statics.settings) := by
      have whole := Json.parse_text (solution.json statics.settings) (List.forall_mem_nil _)
      rwa [List.append_nil] at whole
    refine ⟨statics, _, solution.decoded statics.settings, started, rfl, ?_, ?_, ?_⟩
    · refine (returns_readMainConfig_iff file parses).mpr ?_
      rw [readDocument_json, if_pos ⟨time, memory⟩]
      rfl
    · exact {
        compilerName := rfl
        template := by rw [Solution.decoded, clng, cString_cmd]
        checkerFilePath := by
          rw [Solution.decoded, Solution.getTestsDir, takes.testsDir]
          rfl }
    · rw [Solution.getSrcExt, clng]
  · exact absurd ⟨doc, parsed, configures⟩ other

/-! ## A configuration with one language -/

/-- The language `mingw_cpp`. -/
def mingw (ext compiler : String) : Json :=
  .object [("id".toList, .string "mingw_cpp".toList), ("ext".toList, .string ext.toList),
    ("compiler".toList, .string compiler.toList)]

theorem langFits_mingw (ext compiler : String) : LangFits (mingw ext compiler) where
  compiler := ⟨_, rfl, rfl⟩
  ext := ⟨_, rfl, rfl⟩
  id := ⟨_, rfl, rfl⟩

/-- A configuration that lists it twice. -/
def twiceListed : Json :=
  .object [
    ("delay".toList, .number 5000),
    ("checker".toList, .string "checker_rc".toList),
    ("tests_dir".toList, .string "C:\\tests\\".toList),
    ("langs".toList, .array [mingw ".c" "gcc $1", mingw ".cpp" "g++ $1"])]

theorem twiceListed_configures : Configures twiceListed where
  delay := ⟨_, rfl, by decide⟩
  checker := ⟨_, rfl, rfl⟩
  testsDir := ⟨_, rfl, rfl⟩
  langs := ⟨_, rfl, rfl⟩
  each := by
    have listed : langsOf twiceListed = [mingw ".c" "gcc $1", mingw ".cpp" "g++ $1"] := rfl
    rw [listed]
    exact List.forall_mem_cons.mpr ⟨langFits_mingw _ _,
      List.forall_mem_cons.mpr ⟨langFits_mingw _ _, List.forall_mem_nil _⟩⟩

/-- The contester starts beside that configuration. -/
def besideTwiceListed : Paced (Site Str Unit Unit) :=
  Paced.start ⟨⟨fun file => if file = contesterConfigPath then some twiceListed.text else none, ()⟩,
    ()⟩

theorem configText_twiceListed :
    Json.parse (configText idleHost.machine.windows besideTwiceListed.site.world) =
      some twiceListed := by
  have text : configText idleHost.machine.windows besideTwiceListed.site.world =
      cString (textRead twiceListed.text) := rfl
  rw [text, textRead_of_plain (streamable_of_mem_text _), cString_of_plain (nul_not_mem_text _)]
  have whole := Json.parse_text twiceListed (List.forall_mem_nil _)
  rwa [List.append_nil] at whole

theorem template_reaches_judge_twice :
    ∃ statics written config,
      Program.Returns (start idleHost.machine Json.parse) besideTwiceListed statics
        besideTwiceListed ∧
      Program.Returns ((sumSolution 2000).createCfgJson idleHost statics.settings
        "solution.json".toList) besideTwiceListed.site "solution.json".toList written ∧
      Program.Returns (readMainConfig idleHost.machine.windows Json.parse "solution.json".toList)
        written.world config written.world ∧
      Equips twiceListed (sumSolution 2000) config ∧
      (sumSolution 2000).getSrcExt statics.settings = ".cpp".toList :=
  template_reaches_judge idleHost configText_twiceListed twiceListed_configures rfl
    (by decide) (by decide)

end Main

end CheckerOlimp.Contester
