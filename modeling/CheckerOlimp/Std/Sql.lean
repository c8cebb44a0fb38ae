import CheckerOlimp.Std.Json
import CheckerOlimp.Std.SqlScanner
import Mathlib.Logic.Function.Basic

/-!
# SQL statements and what they do

An UPDATE assigns literals to columns of the rows that a condition selects, and a
SELECT lists columns of such rows, at most so many of them. A condition compares a
column with a literal. Cells are texts, as a client gets them; a cell without a text
is NULL. Which rows a limit keeps is up to the server: it works on the rows in an
`Order` of its own.

Expressions that are not literals, column types and the other clauses are left out.
-/

namespace CheckerOlimp.Std.Sql

/-- A literal. -/
inductive Value where
  | integer (number : Int)
  | text (content : List Char)
deriving DecidableEq, Repr

/-- The text of a cell that holds the literal. -/
def Value.cell : Value → List Char
  | .integer number => Json.decimal number
  | .text content => content

/-- `column = literal`, as an assignment and as a condition. -/
structure Equation where
  column : List Char
  value : Value
deriving DecidableEq, Repr

structure Update where
  table : List Char
  assignments : List Equation
  condition : Option Equation
deriving DecidableEq, Repr

structure Select where
  columns : List (List Char)
  table : List Char
  condition : Option Equation
  limit : Option Nat
deriving DecidableEq, Repr

inductive Statement where
  | update (update : Update)
  | select (select : Select)
deriving DecidableEq, Repr

/-! ## Parsing -/

/-- The token of a keyword. -/
def keyword (name : String) : Token := .word name.toList

/-- Literals of a text that follow each other are one literal. -/
def texts : List Token → Option (List Char)
  | [] => some []
  | .text content :: rest => (texts rest).map (content ++ ·)
  | _ => none

def value : List Token → Option Value
  | [.integer number] => some (.integer number)
  | [.symbol '-', .integer number] => some (.integer (-number))
  | .text content :: rest => (texts rest).map fun others => .text (content ++ others)
  | _ => none

def equation : List Token → Option Equation
  | .word column :: .symbol '=' :: rest => (value rest).map fun value => ⟨column, value⟩
  | _ => none

/-- A condition, or the end of the statement. -/
def condition : List Token → Option (Option Equation)
  | [] => some none
  | head :: rest => if head = keyword "where" then (equation rest).map some else none

def column : List Token → Option (List Char)
  | [.word name] => some name
  | _ => none

def limit : List Token → Option (Option Nat)
  | [] => some none
  | [_, .integer number] => some (some number)
  | _ => none

def parseUpdate : List Token → Option Update
  | head :: .word table :: set :: rest =>
    if head = keyword "update" ∧ set = keyword "set" then do
      let assignments ←
        ((rest.takeWhile (· ≠ keyword "where")).splitOn (.symbol ',')).mapM equation
      let condition ← condition (rest.dropWhile (· ≠ keyword "where"))
      pure ⟨table, assignments, condition⟩
    else none
  | _ => none

def parseSelect : List Token → Option Select
  | head :: rest =>
    if head = keyword "select" then do
      let columns ←
        ((rest.takeWhile (· ≠ keyword "from")).splitOn (.symbol ',')).mapM column
      match rest.dropWhile (· ≠ keyword "from") with
      | _ :: .word table :: rest => do
        let condition ← condition (rest.takeWhile (· ≠ keyword "limit"))
        let limit ← limit (rest.dropWhile (· ≠ keyword "limit"))
        pure ⟨columns, table, condition, limit⟩
      | _ => none
    else none
  | [] => none

/-- The one statement that a text consists of. -/
def parse (statement : List Char) : Option Statement := do
  let tokens ← tokens statement
  (parseUpdate tokens).map .update <|> (parseSelect tokens).map .select

/-! ## Tables -/

/-- The cells of a row by their columns. -/
abbrev Row := List Char → Option (List Char)

structure Table where
  columns : List (List Char)
  rows : List Row

abbrev Database := List Char → Option Table

/-- NULL is equal to no literal. -/
def Equation.holds (self : Equation) (row : Row) : Bool := row self.column = some self.value.cell

def Equation.assign (row : Row) (self : Equation) : Row :=
  Function.update row self.column (some self.value.cell)

/-- The columns that an update names. -/
def Update.columns (self : Update) : List (List Char) :=
  (self.assignments ++ self.condition.toList).map Equation.column

/-- What an update does to a row. Assignments are made from left to right. -/
def Update.apply (self : Update) (row : Row) : Row :=
  if self.condition.all (·.holds row) then self.assignments.foldl Equation.assign row else row

/-- The database after an update, if the server knows its table and columns. -/
def Update.execute (self : Update) (database : Database) : Option Database := do
  let table ← database self.table
  if self.columns ⊆ table.columns then
    pure (Function.update database self.table
      (some { table with rows := table.rows.map self.apply }))
  else none

theorem Update.execute_eq_some_iff {self : Update} {database after : Database} :
    self.execute database = some after ↔ ∃ table, database self.table = some table ∧
      self.columns ⊆ table.columns ∧
      after = Function.update database self.table
        (some { table with rows := table.rows.map self.apply }) := by
  simp only [Update.execute, Option.bind_eq_bind, Option.bind_eq_some_iff, Option.pure_def]
  constructor
  · rintro ⟨table, found, executed⟩
    split at executed
    · next named =>
        cases executed
        exact ⟨table, found, named, rfl⟩
    · cases executed
  · rintro ⟨table, found, named, rfl⟩
    exact ⟨table, found, if_pos named⟩

/-- An order in which the server may work on rows. -/
structure Order where
  arrange : List Row → List Row
  perm : ∀ rows, (arrange rows).Perm rows

/-- The rows as they are stored. -/
def Order.stored : Order := ⟨fun rows => rows, fun rows => .refl rows⟩

/-- The rows with a property before the others. -/
def Order.first (wanted : Row → Bool) : Order :=
  ⟨fun rows => rows.filter wanted ++ rows.filter (!wanted ·), List.filter_append_perm wanted⟩

/-- The columns that a selection names. -/
def Select.names (self : Select) : List (List Char) :=
  self.columns ++ self.condition.toList.map Equation.column

/-- The rows that a selection finds. -/
def Select.found (self : Select) (order : Order) (rows : List Row) : List Row :=
  let ordered := order.arrange (rows.filter fun row => self.condition.all (·.holds row))
  match self.limit with
  | none => ordered
  | some count => ordered.take count

/-- The cells that a selection lists, if the server knows its table and columns. -/
def Select.execute (self : Select) (order : Order) (database : Database) :
    Option (List (List (Option (List Char)))) := do
  let table ← database self.table
  if self.names ⊆ table.columns then
    pure ((self.found order table.rows).map fun row => self.columns.map row)
  else none

/-! ## Statements as tokens -/

/-- The tokens of an integer. -/
def integerTokens (number : Int) : List Token :=
  if number < 0 then [.symbol '-', .integer number.natAbs] else [.integer number.natAbs]

def Value.tokens : Value → List Token
  | .integer number => integerTokens number
  | .text content => [.text content]

def Equation.tokens (self : Equation) : List Token :=
  .word self.column :: .symbol '=' :: self.value.tokens

def conditionTokens (condition : Option Equation) : List Token :=
  condition.elim [] fun equation => keyword "where" :: equation.tokens

def limitTokens (limit : Option Nat) : List Token :=
  limit.elim [] fun count => [keyword "limit", .integer count]

def Update.tokens (self : Update) : List Token :=
  keyword "update" :: .word self.table :: keyword "set" ::
    ([.symbol ','].intercalate (self.assignments.map Equation.tokens) ++
      conditionTokens self.condition)

def Select.tokens (self : Select) : List Token :=
  keyword "select" :: ([.symbol ','].intercalate (self.columns.map fun name => [.word name]) ++
    keyword "from" :: .word self.table ::
      (conditionTokens self.condition ++ limitTokens self.limit))

theorem value_integerTokens (number : Int) :
    value (integerTokens number) = some (.integer number) := by
  unfold integerTokens
  split
  · have same : -(number.natAbs : Int) = number := by omega
    simp only [value, same]
  · have same : (number.natAbs : Int) = number := by omega
    simp only [value, same]

theorem value_tokens (self : Value) : value self.tokens = some self := by
  cases self with
  | integer number => exact value_integerTokens number
  | text content => simp [Value.tokens, value, texts]

theorem equation_tokens (self : Equation) : equation self.tokens = some self := by
  simp [Equation.tokens, equation, value_tokens]

theorem condition_tokens (self : Option Equation) :
    condition (conditionTokens self) = some self := by
  cases self with
  | none => rfl
  | some found => simp [conditionTokens, condition, equation_tokens]

theorem limit_tokens (self : Option Nat) : limit (limitTokens self) = some self := by
  cases self with
  | none => rfl
  | some count => rfl

theorem mem_integerTokens {number : Int} {token : Token} (member : token ∈ integerTokens number) :
    token = .symbol '-' ∨ ∃ value, token = .integer value := by
  unfold integerTokens at member
  split at member
  · rcases List.mem_cons.mp member with sign | digits
    · exact .inl sign
    · exact .inr ⟨_, List.mem_singleton.mp digits⟩
  · exact .inr ⟨_, List.mem_singleton.mp member⟩

/-- Of the words of an equation, only its column can be a keyword. -/
theorem word_mem_tokens {self : Equation} {letters : List Char}
    (member : Token.word letters ∈ self.tokens) : letters = self.column := by
  rcases List.mem_cons.mp member with same | later
  · exact Token.word.inj same
  rcases List.mem_cons.mp later with symbol | later
  · cases symbol
  cases value : self.value with
  | integer number =>
      rw [value] at later
      rcases mem_integerTokens later with sign | ⟨_, digits⟩
      · cases sign
      · cases digits
  | text content =>
      rw [value] at later
      cases List.mem_singleton.mp later

theorem comma_not_mem_tokens (self : Equation) : Token.symbol ',' ∉ self.tokens := by
  intro member
  rcases List.mem_cons.mp member with word | later
  · cases word
  rcases List.mem_cons.mp later with symbol | later
  · exact absurd symbol (by decide)
  cases value : self.value with
  | integer number =>
      rw [value] at later
      rcases mem_integerTokens later with sign | ⟨_, digits⟩
      · exact absurd sign (by decide)
      · cases digits
  | text content =>
      rw [value] at later
      cases List.mem_singleton.mp later

/-- Whatever is read for each part of a list is read for the list. -/
theorem mapM_map {α : Type} {read : List Token → Option α} {write : α → List Token}
    (back : ∀ item, read (write item) = some item) (items : List α) :
    (items.map write).mapM read = some items := by
  induction items with
  | nil => rfl
  | cons item rest inductionHypothesis => simp [back, inductionHypothesis]

/-- What stands before a keyword, and what stands from it on. -/
theorem split_at_keyword {before after : List Token} {token : Token} (absent : token ∉ before)
    (starts : after = [] ∨ after.head? = some token) :
    (before ++ after).takeWhile (· ≠ token) = before ∧
      (before ++ after).dropWhile (· ≠ token) = after := by
  have foreign : ∀ other ∈ before, decide (other ≠ token) = true := by
    intro other member
    have different : other ≠ token := by
      rintro rfl
      exact absent member
    simpa using different
  rw [List.takeWhile_append_of_pos foreign, List.dropWhile_append_of_pos foreign]
  cases after with
  | nil => simp
  | cons head rest =>
      have same : head = token := by simpa using starts
      simp [same]

theorem mem_intercalate {separator token : Token} {parts : List (List Token)}
    (member : token ∈ [separator].intercalate parts) :
    token = separator ∨ ∃ part ∈ parts, token ∈ part := by
  induction parts with
  | nil => simp at member
  | cons first rest inductionHypothesis =>
      cases rest with
      | nil => exact .inr ⟨first, List.mem_singleton_self _, by simpa using member⟩
      | cons second others =>
          rw [List.intercalate_cons_cons, List.mem_append, List.mem_append] at member
          rcases member with (inside | inside) | later
          · exact .inr ⟨first, List.mem_cons_self, inside⟩
          · exact .inl (List.mem_singleton.mp inside)
          · rcases inductionHypothesis later with same | ⟨part, inside, found⟩
            · exact .inl same
            · exact .inr ⟨part, List.mem_cons_of_mem _ inside, found⟩

/-- An update is read from its tokens. -/
theorem parseUpdate_tokens (self : Update) (nonempty : self.assignments ≠ [])
    (columns : ∀ assigned ∈ self.assignments, assigned.column ≠ "where".toList) :
    parseUpdate self.tokens = some self := by
  have absent : keyword "where" ∉
      [.symbol ','].intercalate (self.assignments.map Equation.tokens) := by
    intro member
    rcases mem_intercalate member with comma | ⟨part, inside, found⟩
    · cases comma
    · obtain ⟨assigned, listed, rfl⟩ := List.mem_map.mp inside
      exact columns assigned listed (word_mem_tokens found).symm
  have starts : conditionTokens self.condition = [] ∨
      (conditionTokens self.condition).head? = some (keyword "where") := by
    cases self.condition with
    | none => exact .inl rfl
    | some found => exact .inr rfl
  have parts : ([Token.symbol ','].intercalate (self.assignments.map Equation.tokens)).splitOn
      (.symbol ',') = self.assignments.map Equation.tokens := by
    apply List.splitOn_intercalate
    · simp only [List.mem_map, forall_exists_index, and_imp, forall_apply_eq_imp_iff₂]
      exact fun assigned _ => comma_not_mem_tokens assigned
    · simpa using nonempty
  obtain ⟨before, after⟩ := split_at_keyword absent starts
  simp only [parseUpdate, Update.tokens, and_self, ↓reduceIte, before, after, parts,
    mapM_map equation_tokens, condition_tokens, Option.bind_eq_bind, Option.bind_some,
    Option.pure_def]

/-- A selection is read from its tokens. -/
theorem parseSelect_tokens (self : Select) (nonempty : self.columns ≠ [])
    (columns : "from".toList ∉ self.columns)
    (conditions : ∀ found ∈ self.condition, found.column ≠ "limit".toList) :
    parseSelect self.tokens = some self := by
  have absent : keyword "from" ∉
      [.symbol ','].intercalate (self.columns.map fun name => [.word name]) := by
    intro member
    rcases mem_intercalate member with comma | ⟨part, inside, found⟩
    · cases comma
    · obtain ⟨name, listed, rfl⟩ := List.mem_map.mp inside
      cases List.mem_singleton.mp found
      exact columns listed
  have unlimited : keyword "limit" ∉ conditionTokens self.condition := by
    intro member
    cases selected : self.condition with
    | none => simp [selected, conditionTokens] at member
    | some found =>
        rw [selected] at member
        rcases List.mem_cons.mp member with different | inside
        · exact absurd different (by decide)
        · exact conditions found selected (word_mem_tokens inside).symm
  have starts : limitTokens self.limit = [] ∨
      (limitTokens self.limit).head? = some (keyword "limit") := by
    cases self.limit with
    | none => exact .inl rfl
    | some count => exact .inr rfl
  have parts : ([Token.symbol ','].intercalate (self.columns.map fun name => [.word name])).splitOn
      (.symbol ',') = self.columns.map fun name => [Token.word name] := by
    apply List.splitOn_intercalate
    · simp
    · simpa using nonempty
  have named : ∀ name, column [.word name] = some name := fun _ => rfl
  obtain ⟨before, after⟩ := split_at_keyword absent
    (.inr rfl : _ ∨ (keyword "from" :: .word self.table ::
      (conditionTokens self.condition ++ limitTokens self.limit)).head? = some (keyword "from"))
  obtain ⟨inner, outer⟩ := split_at_keyword unlimited starts
  simp only [parseSelect, Select.tokens, ↓reduceIte, before, after, inner, outer, parts,
    mapM_map named, condition_tokens, limit_tokens, Option.bind_eq_bind, Option.bind_some,
    Option.pure_def]

/-- A text is the update whose tokens it has. -/
theorem parse_update {statement : List Char} {update : Update}
    (read : tokens statement = some update.tokens) (nonempty : update.assignments ≠ [])
    (columns : ∀ assigned ∈ update.assignments, assigned.column ≠ "where".toList) :
    parse statement = some (.update update) := by
  simp [parse, read, parseUpdate_tokens update nonempty columns]

/-- A text is the selection whose tokens it has. -/
theorem parse_select {statement : List Char} {select : Select}
    (read : tokens statement = some select.tokens) (nonempty : select.columns ≠ [])
    (columns : "from".toList ∉ select.columns)
    (conditions : ∀ found ∈ select.condition, found.column ≠ "limit".toList) :
    parse statement = some (.select select) := by
  have other : parseUpdate select.tokens = none := by
    unfold parseUpdate
    split
    · next head table set rest same =>
        have different : head ≠ keyword "update" := by
          have first : head = keyword "select" := (List.cons.inj same).1.symm
          rw [first]
          decide
        simp [different]
    · rfl
  simp [parse, read, other, parseSelect_tokens select nonempty columns conditions]

/-- An update that is read is read from tokens. -/
theorem exists_tokens_of_parse {statement : List Char} {update : Update}
    (parsed : parse statement = some (.update update)) :
    ∃ read, tokens statement = some read ∧ parseUpdate read = some update := by
  simp only [parse, Option.bind_eq_bind, Option.bind_eq_some_iff] at parsed
  obtain ⟨read, scanned, chosen⟩ := parsed
  cases found : parseUpdate read with
  | some other =>
      simp only [found, Option.map_some] at chosen
      cases chosen
      exact ⟨read, scanned, found⟩
  | none => simp [found] at chosen

/-! ## Integers in a statement -/

/-- Digits are read up to the end. -/
theorem scan_digits {input : List Char} (digits : ∀ letter ∈ input, letter.isDigit = true)
    (tokens : List Token) (read : List Char) :
    scan ⟨tokens, .number read⟩ input = ⟨tokens, .number (read ++ input)⟩ := by
  induction input generalizing read with
  | nil => simp
  | cons letter rest inductionHypothesis =>
      have digit := digits letter List.mem_cons_self
      have later := inductionHypothesis fun other member =>
        digits other (List.mem_cons_of_mem _ member)
      simp [step, digit, later]

/-- A digit is no white space. -/
theorem isSpace_of_isDigit {letter : Char} (digit : letter.isDigit = true) :
    isSpace letter = false := by
  by_contra space
  simp only [isSpace, Bool.not_eq_false, Bool.or_eq_true, Bool.and_eq_true, decide_eq_true_eq]
    at space
  simp only [Char.isDigit, Bool.and_eq_true, decide_eq_true_eq, Char.le_def, UInt32.le_iff_toNat_le]
    at digit space
  rcases space with rfl | space
  · exact absurd digit.1 (by decide)
  · have low : '0'.val.toNat = 48 := rfl
    have high : '\r'.val.toNat = 13 := rfl
    omega

/-- A digit starts a number. -/
theorem start_digit {letter : Char} (digit : letter.isDigit = true) (tokens : List Token) :
    start tokens letter = ⟨tokens, .number [letter]⟩ := by
  have space := isSpace_of_isDigit digit
  have others : letter ≠ '\'' ∧ letter ≠ '"' ∧ letter ≠ '#' ∧ letter ≠ '-' := by
    refine ⟨?_, ?_, ?_, ?_⟩ <;> rintro rfl <;> exact absurd digit (by decide)
  simp [start, space, others, digit]

/-- The digits of a number at the end of a statement. -/
theorem finish_toDigits (tokens : List Token) (number : Nat) :
    finish (scan ⟨tokens, .blank⟩ (Nat.toDigits 10 number)) =
      some (tokens ++ [.integer number]) := by
  have digits : ∀ letter ∈ Nat.toDigits 10 number, letter.isDigit = true := fun letter member =>
    Nat.isDigit_of_mem_toDigits (by decide) (by decide) member
  have back := Nat.ofDigitChars_ten_toDigits (n := number)
  obtain ⟨head, tail, spelled⟩ := List.exists_cons_of_ne_nil
    (Nat.toDigits_ne_nil (b := 10) (n := number))
  rw [spelled] at digits back ⊢
  have later := scan_digits (fun letter member => digits letter (List.mem_cons_of_mem _ member))
    tokens [head]
  simp only [scan_cons, step, start_digit (digits head List.mem_cons_self), later, finish,
    numberToken, List.singleton_append, back]

/-- A statement that ends in an integer. -/
theorem finish_decimal (tokens : List Token) (number : Int) :
    finish (scan ⟨tokens, .blank⟩ (Json.decimal number)) =
      some (tokens ++ integerTokens number) := by
  unfold Json.decimal integerTokens
  split
  · obtain ⟨head, tail, spelled⟩ := List.exists_cons_of_ne_nil
      (Nat.toDigits_ne_nil (b := 10) (n := number.natAbs))
    have digit : head.isDigit = true := Nat.isDigit_of_mem_toDigits (by decide) (by decide)
      (spelled ▸ List.mem_cons_self)
    have unsigned := finish_toDigits (tokens ++ [.symbol '-']) number.natAbs
    have sign : head ≠ '-' := by
      rintro rfl
      exact absurd digit (by decide)
    rw [spelled] at unsigned ⊢
    have dash : step ⟨tokens, .blank⟩ '-' = ⟨tokens, .dash⟩ := rfl
    simp only [scan_cons, dash]
    simp only [scan_cons, step, sign, ↓reduceIte] at unsigned ⊢
    rw [unsigned, List.append_assoc, List.singleton_append]
  · exact finish_toDigits tokens number.natAbs

/-- The tokens of a selection up to the integer that its column is compared with. -/
def lookupTokens (columns : List (List Char)) (table column : List Char) : List Token :=
  keyword "select" :: ([.symbol ','].intercalate (columns.map fun name => [.word name]) ++
    [keyword "from", .word table, keyword "where", .word column, .symbol '='])

/-- A selection by an integer that is written at the end. -/
theorem parse_lookup {head : List Char} {columns : List (List Char)} {table column : List Char}
    (read : scan ⟨[], .blank⟩ head = ⟨lookupTokens columns table column, .blank⟩)
    (nonempty : columns ≠ []) (listed : "from".toList ∉ columns)
    (named : column ≠ "limit".toList) (number : Int) :
    parse (head ++ Json.decimal number) =
      some (.select ⟨columns, table, some ⟨column, .integer number⟩, none⟩) := by
  have whole : tokens (head ++ Json.decimal number) =
      some (Select.tokens ⟨columns, table, some ⟨column, .integer number⟩, none⟩) := by
    unfold tokens
    rw [scan_append, read, finish_decimal]
    simp [lookupTokens, Select.tokens, conditionTokens, limitTokens, Equation.tokens, Value.tokens]
  refine parse_select whole nonempty listed fun found same => ?_
  cases same
  exact named

/-- The letters of an integer neither open nor close a literal. -/
theorem inert_of_mem_decimal {number : Int} {letter : Char}
    (member : letter ∈ Json.decimal number) : Inert letter := by
  have digits : letter ∈ Nat.toDigits 10 number.natAbs → Inert letter := by
    intro inside
    have digit := Nat.isDigit_of_mem_toDigits (by decide) (by decide) inside
    refine ⟨?_, ?_, ?_⟩ <;> rintro rfl <;> exact absurd digit (by decide)
  unfold Json.decimal at member
  split at member
  · rcases List.mem_cons.mp member with rfl | inside
    · exact ⟨by decide, by decide, by decide⟩
    · exact digits inside
  · exact digits member

/-! ## The letters of the literals of an update -/

theorem texts_length_le {tokens : List Token} {content : List Char}
    (parsed : texts tokens = some content) : content.length ≤ textLength tokens := by
  induction tokens generalizing content with
  | nil =>
      cases parsed
      exact Nat.zero_le _
  | cons head rest inductionHypothesis =>
      cases head with
      | text first =>
          obtain ⟨others, remaining, rfl⟩ := Option.map_eq_some_iff.mp parsed
          have later := inductionHypothesis remaining
          rw [textLength_cons_text, List.length_append]
          omega
      | word _ => cases parsed
      | integer _ => cases parsed
      | symbol _ => cases parsed

theorem value_length_le {tokens : List Token} {content : List Char}
    (parsed : value tokens = some (.text content)) : content.length ≤ textLength tokens := by
  unfold value at parsed
  split at parsed
  · cases parsed
  · cases parsed
  · obtain ⟨others, remaining, same⟩ := Option.map_eq_some_iff.mp parsed
    cases same
    have later := texts_length_le remaining
    rw [textLength_cons_text, List.length_append]
    omega
  · cases parsed

theorem equation_length_le {tokens : List Token} {name content : List Char}
    (parsed : equation tokens = some ⟨name, .text content⟩) :
    content.length ≤ textLength tokens := by
  unfold equation at parsed
  split at parsed
  · obtain ⟨found, parsed, same⟩ := Option.map_eq_some_iff.mp parsed
    cases same
    simpa using value_length_le parsed
  · cases parsed

/-- What a list of tokens is split into are parts of it. -/
theorem sublist_of_mem_splitOn {separator : Token} {tokens part : List Token}
    (member : part ∈ tokens.splitOn separator) : part.Sublist tokens := by
  induction tokens generalizing part with
  | nil =>
      rw [List.splitOn_nil, List.mem_singleton] at member
      exact member ▸ List.Sublist.refl _
  | cons head rest inductionHypothesis =>
      rw [List.splitOn_cons_eq_if_modifyHead] at member
      split at member
      · rcases List.mem_cons.mp member with rfl | later
        · exact List.nil_sublist _
        · exact (inductionHypothesis later).cons _
      · obtain ⟨first, others, pieces⟩ :=
          List.exists_cons_of_ne_nil (List.splitOn_ne_nil separator rest)
        rw [pieces, List.modifyHead_cons] at member
        rw [pieces] at inductionHypothesis
        rcases List.mem_cons.mp member with rfl | later
        · exact (inductionHypothesis List.mem_cons_self).cons_cons _
        · exact (inductionHypothesis (List.mem_cons_of_mem _ later)).cons _

/-- Every equation of a list comes from some tokens. -/
theorem exists_of_mem_mapM {parts : List (List Token)} {equations : List Equation}
    (parsed : parts.mapM equation = some equations) :
    ∀ found ∈ equations, ∃ part ∈ parts, equation part = some found := by
  induction parts generalizing equations with
  | nil =>
      cases parsed
      simp
  | cons first rest inductionHypothesis =>
      rw [List.mapM_cons] at parsed
      simp only [Option.bind_eq_bind, Option.bind_eq_some_iff, Option.pure_def,
        Option.some.injEq] at parsed
      obtain ⟨head, headParsed, tail, tailParsed, rfl⟩ := parsed
      intro found member
      rcases List.mem_cons.mp member with rfl | later
      · exact ⟨first, List.mem_cons_self, headParsed⟩
      · obtain ⟨part, inside, same⟩ := inductionHypothesis tailParsed found later
        exact ⟨part, List.mem_cons_of_mem _ inside, same⟩

/-- An update assigns no text that is longer than the literals of its statement. -/
theorem parseUpdate_length_le {tokens : List Token} {update : Update}
    (parsed : parseUpdate tokens = some update) {name content : List Char}
    (assigned : ⟨name, .text content⟩ ∈ update.assignments) :
    content.length ≤ textLength tokens := by
  unfold parseUpdate at parsed
  split at parsed
  · next head table set rest =>
      split at parsed
      · simp only [Option.bind_eq_bind, Option.bind_eq_some_iff, Option.pure_def,
          Option.some.injEq] at parsed
        obtain ⟨assignments, listed, _, _, rfl⟩ := parsed
        obtain ⟨part, inside, found⟩ := exists_of_mem_mapM listed _ assigned
        have listed := (sublist_of_mem_splitOn inside).trans (List.takeWhile_sublist _)
        have within : part.Sublist (head :: .word table :: set :: rest) :=
          ((listed.cons _).cons _).cons _
        exact Nat.le_trans (equation_length_le found) (textLength_le_of_sublist within)
      · cases parsed
  · cases parsed

/-- A cell after an update is as it was, or holds an assigned literal. -/
theorem assign_cell (assignments : List Equation) (row : Row) (column : List Char) :
    assignments.foldl Equation.assign row column = row column ∨
      ∃ assigned ∈ assignments, assigned.column = column ∧
        assignments.foldl Equation.assign row column = some assigned.value.cell := by
  induction assignments generalizing row with
  | nil => exact .inl rfl
  | cons first rest inductionHypothesis =>
      rcases inductionHypothesis (first.assign row) with kept | ⟨assigned, member, named, same⟩
      · by_cases named : first.column = column
        · refine .inr ⟨first, List.mem_cons_self, named, ?_⟩
          rw [List.foldl_cons]
          exact kept.trans (by simp [Equation.assign, ← named])
        · refine .inl ?_
          rw [List.foldl_cons]
          exact kept.trans (by simp [Equation.assign, Function.update_of_ne (Ne.symm named)])
      · exact .inr ⟨assigned, List.mem_cons_of_mem _ member, named, same⟩

end CheckerOlimp.Std.Sql
