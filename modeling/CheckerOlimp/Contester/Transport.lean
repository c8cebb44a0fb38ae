import CheckerOlimp.Contester.Storage
import CheckerOlimp.Judging.Identifiers
import CheckerOlimp.Std.Sql

/-!
# The result text on its way into the database

The text of the result file is placed between single quotes in an UPDATE, as it is.
The server here reads the statement by MySQL's default rules. The text arrives, and
nothing else changes, exactly when it is a `Sql.Literal`; a verdict of `check` is
one, and parses back from the cell to itself.
-/

namespace CheckerOlimp.Contester

open CheckerOlimp.Std CheckerOlimp.CheckerRc

/-! ## The server and the effect of an update -/

/-- `mysql_query` on an SQL database. -/
def sqlServer : Server Sql.Database where
  query sql database :=
    match Sql.parse sql with
    | some (.update update) =>
      match update.execute database with
      | some after => .ok after
      | none => .error "Unknown column".toList
    | some (.select _) => .ok database
    | none => .error "You have an error in your SQL syntax".toList

/-- The columns of a solution that marking it names. -/
def markedColumns : List Str := ["result".toList, "status".toList, "id".toList]

/-- The row of the solution has the text and status 1; another row is as it was. -/
def marked (id : Int32) (text : Str) (row : Sql.Row) : Sql.Row :=
  if row "id".toList = some (toString id) then
    Function.update (Function.update row "result".toList (some text)) "status".toList
      (some "1".toList)
  else row

/-- The database with the solution marked. -/
def marking (id : Int32) (text : Str) (database : Sql.Database) : Sql.Database :=
  Function.update database "solutions".toList
    ((database "solutions".toList).map fun table =>
      { table with rows := table.rows.map (marked id text) })

/-- The statement is one update, and its effect is exactly that of marking. -/
structure Stores (statement : Str) (id : Int32) (text : Str) : Prop where
  update : ∃ update, Sql.parse statement = some (.update update)
  effect : ∀ database table, database "solutions".toList = some table →
    markedColumns ⊆ table.columns →
      sqlServer.query statement database = .ok (marking id text database)

/-! ## A text that is a literal -/

/-- The update of the statement for such a text. -/
def markUpdate (text : Str) (id : Int32) : Sql.Update :=
  ⟨"solutions".toList,
    [⟨"result".toList, .text text⟩, ⟨"status".toList, .integer 1⟩],
    some ⟨"id".toList, .integer id.toInt⟩⟩

/-- The tokens before the literal. -/
def openingTokens : List Sql.Token :=
  [Sql.keyword "update", .word "solutions".toList, Sql.keyword "set", .word "result".toList,
    .symbol '=']

theorem scan_opening (rest : Str) :
    Sql.scan ⟨[], .blank⟩ ("UPDATE solutions SET result = '".toList ++ rest) =
      Sql.scan ⟨openingTokens, .quoted .single []⟩ rest := by
  have read : Sql.scan ⟨[], .blank⟩ "UPDATE solutions SET result = '".toList =
      ⟨openingTokens, .quoted .single []⟩ := by
    decide
  rw [Sql.scan_append, read]

/-- The tokens from the literal to the id. -/
theorem scan_closing (tokens : List Sql.Token) (content : Str) :
    Sql.scan ⟨tokens, .quoted .single content⟩ "', status = 1 WHERE id = ".toList =
      ⟨tokens ++ [.text content] ++ [.symbol ','] ++ [.word "status".toList] ++ [.symbol '='] ++
        [.integer 1] ++ [Sql.keyword "where"] ++ [.word "id".toList] ++ [.symbol '='],
        .blank⟩ := rfl

theorem tokens_updateStatement {text : Str} (literal : Sql.Literal text) (id : Int32) :
    Sql.tokens (updateStatement text id) = some (markUpdate text id).tokens := by
  unfold Sql.tokens updateStatement toString
  rw [List.append_assoc, List.append_assoc, scan_opening, Sql.scan_append,
    (Sql.scan_literal _ literal).1, List.nil_append, Sql.scan_append, scan_closing,
    Sql.finish_decimal]
  simp only [openingTokens, List.cons_append, List.nil_append]
  rfl

theorem parse_updateStatement {text : Str} (literal : Sql.Literal text) (id : Int32) :
    Sql.parse (updateStatement text id) = some (.update (markUpdate text id)) := by
  have columns : ∀ assigned ∈ (markUpdate text id).assignments,
      assigned.column ≠ "where".toList := by
    intro assigned member
    rcases List.mem_pair.mp member with rfl | rfl
    · change "result".toList ≠ "where".toList
      decide
    · change "status".toList ≠ "where".toList
      decide
  exact Sql.parse_update (tokens_updateStatement literal id) (List.cons_ne_nil _ _) columns

/-- What the update does to a row is to mark it. -/
theorem apply_markUpdate (text : Str) (id : Int32) :
    (markUpdate text id).apply = marked id text := by
  have one : (Sql.Value.integer 1).cell = "1".toList := by decide
  have key : (Sql.Value.integer id.toInt).cell = toString id := rfl
  have content : (Sql.Value.text text).cell = text := rfl
  funext row
  unfold Sql.Update.apply marked markUpdate
  simp only [Option.all_some, Sql.Equation.holds, decide_eq_true_eq, List.foldl_cons,
    List.foldl_nil, Sql.Equation.assign, one, key, content]

/-- So the statement of a literal stores it. -/
theorem stores_of_literal {text : Str} (literal : Sql.Literal text) (id : Int32) :
    Stores (updateStatement text id) id text where
  update := ⟨_, parse_updateStatement literal id⟩
  effect database table found columns := by
    have named : (markUpdate text id).columns ⊆ table.columns := columns
    have looked : database (markUpdate text id).table = some table := found
    have executed := Sql.Update.execute_eq_some_iff.mpr ⟨table, looked, named, rfl⟩
    simp only [sqlServer, parse_updateStatement literal, executed, apply_markUpdate]
    rw [marking, found]
    rfl

/-! ## A text that is none -/

/-- The letters of the statement after the literal. -/
theorem inert_of_mem_rest {id : Int32} {letter : Char}
    (member : letter ∈ ", status = 1 WHERE id = ".toList ++ toString id) : Sql.Inert letter := by
  rcases List.mem_append.mp member with fixed | digits
  · have plain : (", status = 1 WHERE id = ".toList.all fun letter =>
        letter ≠ '\'' ∧ letter ≠ '"' ∧ letter ≠ '\\') = true := by
      decide
    exact List.all_iff_forall_prop.mp plain letter fixed
  · exact Sql.inert_of_mem_decimal digits

/-- The literals of the statement are together shorter than such a text. -/
theorem textLength_updateStatement {text : Str} {id : Int32} {read : List Sql.Token}
    (changed : ¬ Sql.Literal text) (scanned : Sql.tokens (updateStatement text id) = some read) :
    Sql.textLength read < text.length := by
  have finished : Sql.finish (Sql.scan ⟨openingTokens, .quoted .single []⟩
      (text ++ '\'' :: (", status = 1 WHERE id = ".toList ++ toString id))) = some read := by
    rw [← scan_opening, ← scanned]
    unfold Sql.tokens updateStatement
    rw [List.append_assoc, List.append_assoc]
    rfl
  have fewer := Sql.textLength_lt_of_not_literal changed
    (fun letter member => inert_of_mem_rest member) finished
  have none : Sql.textLength openingTokens = 0 := by decide
  omega

/-- The row of a solution without a result. -/
def freshRow (id : Int32) : Sql.Row :=
  Function.update (fun _ => none) "id".toList (some (toString id))

/-- A database with this solution only. -/
def freshDatabase (id : Int32) : Sql.Database :=
  Function.update (fun _ => none) "solutions".toList (some ⟨markedColumns, [freshRow id]⟩)

/-- An update that marks the solution there does to its row what marking does. -/
theorem apply_freshRow {update : Sql.Update} {id : Int32} {text : Str}
    (executed : update.execute (freshDatabase id) = some (marking id text (freshDatabase id))) :
    update.apply (freshRow id) = marked id text (freshRow id) := by
  obtain ⟨table, found, _, same⟩ := Sql.Update.execute_eq_some_iff.mp executed
  have named : update.table = "solutions".toList := by
    by_contra different
    rw [freshDatabase, Function.update_of_ne different] at found
    cases found
  rw [named] at found same
  rw [freshDatabase, Function.update_self] at found
  cases found
  have rows := congrFun same "solutions".toList
  rw [marking, Function.update_self, Function.update_self, freshDatabase, Function.update_self]
    at rows
  simpa using (congrArg (Option.map Sql.Table.rows) rows).symm

/-- The statement stores only a literal: elsewhere the cell of the result gets fewer
letters than the text has. -/
theorem literal_of_stores {text : Str} {id : Int32}
    (stores : Stores (updateStatement text id) id text) : Sql.Literal text := by
  by_contra changed
  obtain ⟨update, parsed⟩ := stores.update
  obtain ⟨read, scanned, assigned⟩ := Sql.exists_tokens_of_parse parsed
  have fewer := textLength_updateStatement changed scanned
  have effect := stores.effect (freshDatabase id) _ (Function.update_self ..) (List.Subset.refl _)
  simp only [sqlServer, parsed] at effect
  have executed : update.execute (freshDatabase id) =
      some (marking id text (freshDatabase id)) := by
    cases executed : update.execute (freshDatabase id) with
    | none => simp [executed] at effect
    | some after =>
        rw [executed] at effect
        cases effect
        rfl
  have cell : update.apply (freshRow id) "result".toList = some text := by
    have own : freshRow id "id".toList = some (toString id) := Function.update_self ..
    rw [apply_freshRow executed, marked, if_pos own,
      Function.update_of_ne (by decide), Function.update_self]
  have empty : freshRow id "result".toList = none := Function.update_of_ne (by decide) ..
  unfold Sql.Update.apply at cell
  split at cell
  · rcases Sql.assign_cell update.assignments (freshRow id) "result".toList with
      kept | ⟨equation, member, _, stored⟩
    · rw [kept, empty] at cell
      cases cell
    · rw [cell, Option.some.injEq] at stored
      obtain ⟨name, value⟩ := equation
      cases value with
      | text content =>
          have short := Sql.parseUpdate_length_le assigned member
          change text = content at stored
          rw [← stored] at short
          omega
      | integer number =>
          -- An integer has no quote and no backslash.
          apply changed
          apply Sql.literal_of_plain
          intro letter inside
          rw [stored] at inside
          have inert := Sql.inert_of_mem_decimal inside
          exact ⟨inert.1, inert.2.2⟩
  · rw [empty] at cell
    cases cell

/-- The statement stores the text exactly when it is a literal. -/
theorem stores_updateStatement_iff {text : Str} {id : Int32} :
    Stores (updateStatement text id) id text ↔ Sql.Literal text :=
  ⟨literal_of_stores, fun literal => stores_of_literal literal id⟩

/-! ## The text of a result file -/

section Result

variable {File Rest : Type} [DecidableEq File]

/-- The text that `checker::run` reads from the result file. -/
def Checker.resultText (machine : Machine File Rest)
    (system : Str → World File Rest → World File Rest) (settings : Settings) (self : Checker)
    (world : World File Rest) : Str :=
  self.leftover machine (system (self.command settings) (self.staged machine settings world))

/-- The statement of the run is one update, and on every database that has the columns
it stores the text of the result file and changes nothing else. -/
structure StoresResult (machine : Machine File Rest)
    (system : Str → World File Rest → World File Rest) (settings : Settings) (checker : Checker)
    (world : World File Rest) : Prop where
  update : ∃ update, Sql.parse (cString
    (updateStatement (checker.resultText machine system settings world) checker.sol.id)) =
      some (.update update)
  effect : ∀ database table, database "solutions".toList = some table →
    markedColumns ⊆ table.columns →
      ∃ after, Program.Returns (checker.run ⟨machine, system, sqlServer⟩ settings) ⟨world, database⟩
          () after ∧
        after.database =
          marking checker.sol.id (checker.resultText machine system settings world) database

/-- The run stores its text when the statement does. -/
theorem storesResult_iff_stores {machine : Machine File Rest}
    {system : Str → World File Rest → World File Rest} {settings : Settings} {self : Checker}
    {world : World File Rest}
    (printable : '\x00' ∉ self.resultText machine system settings world) :
    StoresResult machine system settings self world ↔
      Stores (updateStatement (self.resultText machine system settings world) self.sol.id)
        self.sol.id (self.resultText machine system settings world) := by
  have whole := cString_updateStatement_of_nul printable self.sol.id
  constructor
  · intro stores
    refine ⟨whole ▸ stores.update, fun database table found columns => ?_⟩
    obtain ⟨after, returned, same⟩ := stores.effect database table found columns
    obtain ⟨database', executed, rfl⟩ := returns_run_iff.mp returned
    rw [← same, ← whole]
    exact executed
  · intro stores
    refine ⟨whole.symm ▸ stores.update, fun database table found columns => ?_⟩
    have executed := stores.effect database table found columns
    rw [← whole] at executed
    exact ⟨_, returns_run_iff.mpr ⟨_, executed, rfl⟩, rfl⟩

/-- Whatever stands in the result file is stored as it is, and nothing else is changed,
exactly when it is a literal. -/
theorem storesResult_iff {machine : Machine File Rest}
    {system : Str → World File Rest → World File Rest} {settings : Settings} {self : Checker}
    {world : World File Rest}
    (printable : '\x00' ∉ self.resultText machine system settings world) :
    StoresResult machine system settings self world ↔
      Sql.Literal (self.resultText machine system settings world) :=
  (storesResult_iff_stores printable).trans stores_updateStatement_iff

end Result

/-! ## A forged result -/

/-- A process that leaves a text in the result file. -/
def leaves (text : Str) (_ : Str) (world : World Str Unit) : World Str Unit :=
  world.put "result.json".toList (some text)

/-- That text is what the run reads. -/
theorem resultText_leaves {checker : Checker} (separate : Separate strictMachine checker)
    (named : checker.res = "result.json".toList) (text : Str) (settings : Settings)
    (world : World Str Unit) :
    checker.resultText strictMachine (leaves text) settings world = textRead text := by
  have file : strictMachine.fileOf checker.res = "result.json".toList := named
  unfold Checker.resultText
  rw [leftover_of_separate separate]
  unfold leaves
  rw [file, World.put_files_self]
  rfl

/-- It is on the sum. -/
theorem resultText_sum (text : Str) :
    (sumChecker 2000).resultText strictMachine (leaves text) oneLanguage ⟨pairFiles, ()⟩ =
      textRead text :=
  resultText_leaves ⟨by decide, by decide⟩ rfl text oneLanguage _

/-- A result that marks another solution and hides the rest in a comment. -/
def forgedResult : Str := "ok', status = 1 WHERE id = 8 #".toList

/-- The run after a program that leaves such a file does not store it. -/
theorem forged_not_storesResult :
    ¬ ∀ (machine : Machine Str Unit) (system : Str → World Str Unit → World Str Unit)
        (settings : Settings) (self : Checker) (world : World Str Unit),
      '\x00' ∉ self.resultText machine system settings world →
      StoresResult machine system settings self world := by
  intro always
  have read : (sumChecker 2000).resultText strictMachine (leaves forgedResult) oneLanguage
      ⟨pairFiles, ()⟩ = forgedResult := by
    rw [resultText_sum]
    decide
  have printable : '\x00' ∉ (sumChecker 2000).resultText strictMachine (leaves forgedResult)
      oneLanguage ⟨pairFiles, ()⟩ := by
    rw [read]
    decide
  have stored := (storesResult_iff_stores printable).mp
    (always strictMachine (leaves forgedResult) oneLanguage (sumChecker 2000) _ printable)
  rw [read, stores_updateStatement_iff] at stored
  exact absurd stored (by decide)

/-- A text with a kept backslash is stored. -/
theorem storesResult_iff_percent :
    StoresResult strictMachine (leaves "100\\%".toList) oneLanguage (sumChecker 2000)
        ⟨pairFiles, ()⟩ ↔
      Sql.Literal ((sumChecker 2000).resultText strictMachine (leaves "100\\%".toList) oneLanguage
        ⟨pairFiles, ()⟩) := by
  have printable : '\x00' ∉ (sumChecker 2000).resultText strictMachine (leaves "100\\%".toList)
      oneLanguage ⟨pairFiles, ()⟩ := by
    rw [resultText_sum]
    decide
  exact storesResult_iff printable

/-! ## A verdict -/

/-- The string member of a name. -/
def stringAt (value : Json) (name : Str) : Option Str :=
  match member value name with
  | some (.string content) => some content
  | _ => none

/-- The number member of a name. -/
def numberAt (value : Json) (name : Str) : Option Int :=
  match member value name with
  | some (.number number) => some number
  | _ => none

/-- A number that is a `size_t`. -/
def sizeOf (number : Int) : Option SizeT :=
  if 0 ≤ number ∧ number < 2 ^ 32 then some (.ofNat number.toNat) else none

/-- A number that is an `int`. -/
def intOf (number : Int) : Option Int32 :=
  if -2 ^ 31 ≤ number ∧ number < 2 ^ 31 then some (.ofInt number) else none

/-- The entry that an element of a report describes. -/
def decodeElem (value : Json) : Option ReportElem := do
  let id ← (numberAt value "id".toList).bind sizeOf
  let result ← stringAt value "result".toList
  let time ← (numberAt value "time".toList).bind sizeOf
  let memory ← (numberAt value "memory".toList).bind sizeOf
  let score ← (numberAt value "score".toList).bind intOf
  pure ⟨result, id, time, memory, score⟩

/-- The verdict that a result describes. -/
def decode (value : Json) : Option Verdict := do
  let status ← stringAt value "status".toList
  let errorMsg ← stringAt value "error_msg".toList
  match member value "report".toList with
  | some (.array entries) => do
    let report ← entries.mapM decodeElem
    pure ⟨status, errorMsg, report⟩
  | _ => none

theorem sizeOf_toNat (size : SizeT) : sizeOf size.toNat = some size := by
  have small := size.toNat_lt
  unfold sizeOf
  rw [if_pos ⟨by omega, by exact_mod_cast small⟩]
  simp

theorem intOf_toInt (number : Int32) : intOf number.toInt = some number := by
  have low := number.le_toInt
  have high := number.toInt_lt
  unfold intOf
  rw [if_pos ⟨low, high⟩, Int32.ofInt_toInt]

/-- The words of a verdict end at no NUL. -/
theorem cString_of_word {word : Str} (known : word ∈ verdictWords) : cString word = word := by
  have plain : ∀ word ∈ verdictWords, cString word = word := by decide
  exact plain word known

theorem decodeElem_json {elem : ReportElem} (known : elem.result ∈ verdictWords) :
    decodeElem elem.json = some elem := by
  have id : numberAt elem.json "id".toList = some (elem.id.toNat : Int) := rfl
  have result : stringAt elem.json "result".toList = some (cString elem.result) := rfl
  have time : numberAt elem.json "time".toList = some (elem.time.toNat : Int) := rfl
  have memory : numberAt elem.json "memory".toList = some (elem.memory.toNat : Int) := rfl
  have score : numberAt elem.json "score".toList = some elem.score.toInt := rfl
  rw [decodeElem, id, result, time, memory, score]
  rw [Option.bind_some, Option.bind_some, Option.bind_some, Option.bind_some, sizeOf_toNat,
    sizeOf_toNat, sizeOf_toNat, intOf_toInt, cString_of_word known]
  rfl

/-- A verdict of known words is described by its value. -/
theorem decode_json {v : Verdict} (known : v.Known) : decode v.json = some v := by
  have status : stringAt v.json "status".toList = some (cString v.status) := rfl
  have errorMsg : stringAt v.json "error_msg".toList = some (cString v.errorMsg) := rfl
  have entries : member v.json "report".toList = some (.array (v.report.map ReportElem.json)) := rfl
  have report : ∀ elems : List ReportElem, (∀ elem ∈ elems, elem.result ∈ verdictWords) →
      (elems.map ReportElem.json).mapM decodeElem = some elems := by
    intro elems words
    induction elems with
    | nil => rfl
    | cons first rest inductionHypothesis =>
        have later := inductionHypothesis fun elem member =>
          words elem (List.mem_cons_of_mem _ member)
        simp [decodeElem_json (words first List.mem_cons_self), later]
  simp only [decode, status, errorMsg, entries, report v.report known.results,
    cString_of_word known.status, cString_of_word known.errorMsg, Option.bind_eq_bind,
    Option.bind_some, Option.pure_def]

/-- The verdict reaches the database unchanged. -/
structure Reaches (v : Verdict) : Prop where
  /-- The file of `main` reads as it was written. -/
  read : textRead (textWrite (serizlize v ++ ['\n'])) = serizlize v ++ ['\n']
  /-- A run that finds this file stores its text in the row of its solution. -/
  run : ∀ {File Rest : Type} [DecidableEq File] (machine : Machine File Rest)
    (system : Str → World File Rest → World File Rest) (settings : Settings) (checker : Checker)
    (world : World File Rest), Separate machine checker →
      (system (checker.command settings) (checker.staged machine settings world)).files
          (machine.fileOf checker.res) = some (textWrite (serizlize v ++ ['\n'])) →
        checker.resultText machine system settings world = serizlize v ++ ['\n'] ∧
          StoresResult machine system settings checker world
  /-- So does the statement, for every id. -/
  stored : ∀ id, Stores (cString (updateStatement (serizlize v ++ ['\n']) id)) id
    (serizlize v ++ ['\n'])
  /-- The stored text parses to the verdict. -/
  decoded : (Json.parse (serizlize v ++ ['\n'])).bind decode = some v

/-- The text of a verdict needs no escapes. -/
theorem literal_verdictText {v : Verdict} (known : v.Known) : Sql.Literal (verdictText v) := by
  apply Sql.literal_of_plain
  intro letter member
  have plain := sqlPlain_verdictText known letter member
  exact ⟨plain.1, plain.2.1⟩

theorem nul_not_mem_verdictText {v : Verdict} (known : v.Known) : '\x00' ∉ verdictText v :=
  fun member => absurd rfl (sqlPlain_verdictText known _ member).2.2

/-- The text of a verdict parses to its value. -/
theorem parse_verdictText (v : Verdict) : Json.parse (verdictText v) = some v.json := by
  have blank : ∀ letter ∈ ['\n'], Json.isBlank letter := fun letter member =>
    List.mem_singleton.mp member ▸ rfl
  unfold verdictText
  rw [serizlize_eq]
  exact Json.parse_text v.json blank

/-- Every verdict that `check` returns reaches the database unchanged. -/
theorem verdict_reaches_database {World : Type} {windows : Windows World}
    {parse : Str → Option Json} {mainConfigFilePath profilePath sourceName : Str}
    {v : Verdict} {before after : World}
    (returned : Program.Returns (check windows parse mainConfigFilePath profilePath sourceName)
      before v after) : Reaches v where
  read := textRead_verdictText v
  run machine system settings checker world separate file := by
    have known := check_known returned
    have text : checker.resultText machine system settings world = verdictText v := by
      unfold Checker.resultText
      rw [leftover_of_separate separate, file]
      exact textRead_verdictText v
    refine ⟨text, (storesResult_iff_stores ?_).mpr ?_⟩
    · rw [text]
      exact nul_not_mem_verdictText known
    · rw [text]
      exact stores_of_literal (literal_verdictText known) checker.sol.id
  stored id := by
    have known := check_known returned
    change Stores (cString (updateStatement (verdictText v) id)) id (verdictText v)
    rw [cString_updateStatement_of_nul (nul_not_mem_verdictText known)]
    exact stores_of_literal (literal_verdictText known) id
  decoded := by
    change (Json.parse (verdictText v)).bind decode = some v
    rw [parse_verdictText, Option.bind_some, decode_json (check_known returned)]

/-- The verdict on the pair does, with its -1 for a time that was not measured. -/
theorem verdict_reaches_database_pair : Reaches pairVerdict := by
  obtain ⟨_, returned⟩ := Program.outcome_eq_ok_iff.mp outcome_check_pair
  exact verdict_reaches_database returned

end CheckerOlimp.Contester
