import Mathlib.Data.List.Basic

/-!
# The tokens of an SQL statement

A statement is read letter by letter under MySQL's default rules for literals: both
quotes open a literal, a doubled quote stands for one, and a backslash escapes the
next letter. `Literal` says which letters a literal between single quotes gives back
as they are. Every letter adds at most one letter to the literals of a statement, so
a text that is not given back is never made up for elsewhere.

Block comments, quoted identifiers and the other spellings of numbers and strings are
left out: a statement with one of them gives tokens that no statement is made of.
-/

namespace CheckerOlimp.Std.Sql

/-- A token. Keywords and identifiers are compared without regard to case. -/
inductive Token where
  | word (letters : List Char)
  | integer (value : Nat)
  | text (content : List Char)
  | symbol (letter : Char)
deriving DecidableEq, Repr

/-- White space between tokens. -/
def isSpace (letter : Char) : Bool :=
  letter = ' ' || ('\t' ≤ letter && letter ≤ '\r')

/-- A letter of an identifier that does not count as a digit. -/
def isNameLetter (letter : Char) : Bool :=
  letter.isAlpha || letter = '_' || letter = '$' || '\x80' ≤ letter

/-- The letters that an escape stands for. `\%` and `\_` are kept with their backslash. -/
def unescape : Char → List Char
  | '0' => ['\x00']
  | 'b' => ['\x08']
  | 'n' => ['\n']
  | 'r' => ['\r']
  | 't' => ['\t']
  | 'Z' => ['\x1a']
  | '%' => ['\\', '%']
  | '_' => ['\\', '_']
  | letter => [letter]

/-- The quotes that open a literal. -/
inductive Quote where
  | single
  | double
deriving DecidableEq, Repr

/-- The letter of a quote. -/
def Quote.letter : Quote → Char
  | .single => '\''
  | .double => '"'

/-- What the scanner is in the middle of. -/
inductive Mode where
  | blank
  | word (letters : List Char)
  | number (digits : List Char)
  | quoted (quote : Quote) (content : List Char)
  /-- After a backslash in a literal. -/
  | escape (quote : Quote) (content : List Char)
  /-- After a quote that ends the literal, unless it is doubled. -/
  | closing (quote : Quote) (content : List Char)
  | dash
  | dashes
  /-- A comment to the end of the line. -/
  | comment
deriving DecidableEq, Repr

/-- The scanner: the tokens that are complete, and what is being read. -/
structure Scanner where
  tokens : List Token
  mode : Mode
deriving DecidableEq, Repr

/-- The scanner after the first letter of a token. -/
def start (tokens : List Token) (letter : Char) : Scanner :=
  if isSpace letter then ⟨tokens, .blank⟩
  else if letter = '\'' then ⟨tokens, .quoted .single []⟩
  else if letter = '"' then ⟨tokens, .quoted .double []⟩
  else if letter = '#' then ⟨tokens, .comment⟩
  else if letter = '-' then ⟨tokens, .dash⟩
  else if letter.isDigit then ⟨tokens, .number [letter]⟩
  else if isNameLetter letter then ⟨tokens, .word [letter]⟩
  else ⟨tokens ++ [.symbol letter], .blank⟩

/-- A word, in lower case. -/
def wordToken (letters : List Char) : Token := .word (letters.map Char.toLower)

/-- A number in decimal digits. -/
def numberToken (digits : List Char) : Token := .integer (Nat.ofDigitChars 10 digits 0)

/-- The scanner reads one letter. -/
def step (self : Scanner) (letter : Char) : Scanner :=
  match self.mode with
  | .blank => start self.tokens letter
  | .word letters =>
    if isNameLetter letter || letter.isDigit then ⟨self.tokens, .word (letters ++ [letter])⟩
    else start (self.tokens ++ [wordToken letters]) letter
  | .number digits =>
    if letter.isDigit then ⟨self.tokens, .number (digits ++ [letter])⟩
    else if isNameLetter letter then ⟨self.tokens, .word (digits ++ [letter])⟩
    else start (self.tokens ++ [numberToken digits]) letter
  | .quoted quote content =>
    if letter = quote.letter then ⟨self.tokens, .closing quote content⟩
    else if letter = '\\' then ⟨self.tokens, .escape quote content⟩
    else ⟨self.tokens, .quoted quote (content ++ [letter])⟩
  | .escape quote content => ⟨self.tokens, .quoted quote (content ++ unescape letter)⟩
  | .closing quote content =>
    if letter = quote.letter then ⟨self.tokens, .quoted quote (content ++ [letter])⟩
    else start (self.tokens ++ [.text content]) letter
  | .dash =>
    if letter = '-' then ⟨self.tokens, .dashes⟩
    else start (self.tokens ++ [.symbol '-']) letter
  | .dashes =>
    -- Two dashes open a comment only before a space or a control letter.
    if letter = '\n' then ⟨self.tokens, .blank⟩
    else if letter ≤ ' ' then ⟨self.tokens, .comment⟩
    else if letter = '-' then ⟨self.tokens ++ [.symbol '-'], .dashes⟩
    else start (self.tokens ++ [.symbol '-', .symbol '-']) letter
  | .comment => if letter = '\n' then ⟨self.tokens, .blank⟩ else self

/-- The scanner reads a text. -/
def scan (self : Scanner) (input : List Char) : Scanner := input.foldl step self

/-- The tokens at the end of the statement; a literal has to be closed. -/
def finish (self : Scanner) : Option (List Token) :=
  match self.mode with
  | .blank | .comment | .dashes => some self.tokens
  | .word letters => some (self.tokens ++ [wordToken letters])
  | .number digits => some (self.tokens ++ [numberToken digits])
  | .closing _ content => some (self.tokens ++ [.text content])
  | .dash => some (self.tokens ++ [.symbol '-'])
  | .quoted _ _ | .escape _ _ => none

/-- The tokens of a statement. -/
def tokens (statement : List Char) : Option (List Token) :=
  finish (scan ⟨[], .blank⟩ statement)

@[simp] theorem scan_nil (self : Scanner) : scan self [] = self := rfl

@[simp] theorem scan_cons (self : Scanner) (letter : Char) (rest : List Char) :
    scan self (letter :: rest) = scan (step self letter) rest := rfl

theorem scan_append (self : Scanner) (left right : List Char) :
    scan self (left ++ right) = scan (scan self left) right := by
  simp [scan, List.foldl_append]

/-! ## Literals -/

/-- A literal between single quotes gives these letters back as they are: none of them
is a quote, and a backslash stands before `%` or `_`. -/
def Literal : List Char → Prop
  | [] => True
  | '\\' :: rest => (rest.head? = some '%' ∨ rest.head? = some '_') ∧ Literal rest
  | letter :: rest => letter ≠ '\'' ∧ Literal rest

theorem literal_backslash_iff {rest : List Char} :
    Literal ('\\' :: rest) ↔ (rest.head? = some '%' ∨ rest.head? = some '_') ∧ Literal rest :=
  Iff.rfl

theorem literal_cons_iff {letter : Char} {rest : List Char} (different : letter ≠ '\\') :
    Literal (letter :: rest) ↔ letter ≠ '\'' ∧ Literal rest := by
  rw [Literal]
  intro same
  exact different same

/-- `Literal` is decided letter by letter. -/
def decideLiteral : (text : List Char) → Decidable (Literal text)
  | [] => isTrue trivial
  | letter :: rest =>
    have := decideLiteral rest
    if backslash : letter = '\\' then
      decidable_of_iff ((rest.head? = some '%' ∨ rest.head? = some '_') ∧ Literal rest)
        (by rw [backslash, literal_backslash_iff])
    else decidable_of_iff (letter ≠ '\'' ∧ Literal rest) (literal_cons_iff backslash).symm

instance : DecidablePred Literal := decideLiteral

/-- Letters without quotes and backslashes are given back. -/
theorem literal_of_plain {text : List Char}
    (plain : ∀ letter ∈ text, letter ≠ '\'' ∧ letter ≠ '\\') : Literal text := by
  induction text with
  | nil => trivial
  | cons letter rest inductionHypothesis =>
      have first := plain letter List.mem_cons_self
      rw [literal_cons_iff first.2]
      exact ⟨first.1, inductionHypothesis fun other member =>
        plain other (List.mem_cons_of_mem _ member)⟩

/-- The scanner takes such a text over as it is, also from after a backslash. -/
theorem scan_literal (tokens : List Token) {text : List Char} (literal : Literal text) :
    (∀ content, scan ⟨tokens, .quoted .single content⟩ text =
      ⟨tokens, .quoted .single (content ++ text)⟩) ∧
    (text.head? = some '%' ∨ text.head? = some '_' → ∀ content,
      scan ⟨tokens, .escape .single content⟩ text =
        ⟨tokens, .quoted .single (content ++ '\\' :: text)⟩) := by
  induction text with
  | nil => simp
  | cons letter rest inductionHypothesis =>
      by_cases backslash : letter = '\\'
      · subst backslash
        obtain ⟨wildcard, literal⟩ := literal_backslash_iff.mp literal
        refine ⟨fun content => ?_, by simp⟩
        exact (inductionHypothesis literal).2 wildcard content
      · obtain ⟨unquoted, literal⟩ := (literal_cons_iff backslash).mp literal
        have later := (inductionHypothesis literal).1
        refine ⟨fun content => ?_, fun wildcard content => ?_⟩
        · simp [step, Quote.letter, unquoted, backslash, later]
        · have kept : unescape letter = ['\\', letter] := by
            rcases wildcard with same | same <;> cases same <;> rfl
          simp [step, kept, later]

/-! ## The letters of all literals -/

/-- The letters of the literals among the tokens. -/
def textLength : List Token → Nat
  | [] => 0
  | .text content :: tokens => content.length + textLength tokens
  | .word _ :: tokens => textLength tokens
  | .integer _ :: tokens => textLength tokens
  | .symbol _ :: tokens => textLength tokens

@[simp] theorem textLength_nil : textLength [] = 0 := rfl

@[simp] theorem textLength_cons_text (content : List Char) (tokens : List Token) :
    textLength (.text content :: tokens) = content.length + textLength tokens := rfl

@[simp] theorem textLength_cons_word (letters : List Char) (tokens : List Token) :
    textLength (.word letters :: tokens) = textLength tokens := rfl

@[simp] theorem textLength_cons_integer (value : Nat) (tokens : List Token) :
    textLength (.integer value :: tokens) = textLength tokens := rfl

@[simp] theorem textLength_cons_symbol (letter : Char) (tokens : List Token) :
    textLength (.symbol letter :: tokens) = textLength tokens := rfl

theorem textLength_cons (token : Token) (tokens : List Token) :
    textLength (token :: tokens) = textLength [token] + textLength tokens := by
  cases token with
  | text content => rfl
  | word letters => exact (Nat.zero_add _).symm
  | integer value => exact (Nat.zero_add _).symm
  | symbol letter => exact (Nat.zero_add _).symm

@[simp] theorem textLength_append (left right : List Token) :
    textLength (left ++ right) = textLength left + textLength right := by
  induction left with
  | nil => exact (Nat.zero_add _).symm
  | cons token rest inductionHypothesis =>
      rw [List.cons_append, textLength_cons, inductionHypothesis, textLength_cons token rest,
        Nat.add_assoc]

/-- The letters of a part of the tokens. -/
theorem textLength_le_of_sublist {left right : List Token} (part : left.Sublist right) :
    textLength left ≤ textLength right := by
  induction part with
  | slnil => exact Nat.le_refl _
  | cons token part inductionHypothesis =>
      rw [textLength_cons token]
      omega
  | @cons_cons left right token part inductionHypothesis =>
      rw [textLength_cons token left, textLength_cons token right]
      omega

/-- The letters of the literal being read; a backslash counts as one. -/
def Mode.load : Mode → Nat
  | .quoted _ content => content.length
  | .escape _ content => content.length + 1
  | .closing _ content => content.length
  | _ => 0

/-- The letters of all literals so far. -/
def Scanner.load (self : Scanner) : Nat := textLength self.tokens + self.mode.load

theorem load_mk (tokens : List Token) (mode : Mode) :
    Scanner.load ⟨tokens, mode⟩ = textLength tokens + mode.load := rfl

/-- The first letter of a token adds none. -/
@[simp] theorem load_start (tokens : List Token) (letter : Char) :
    (start tokens letter).load = textLength tokens := by
  unfold start
  split_ifs <;> simp [load_mk, Mode.load]

theorem length_unescape_le (letter : Char) : (unescape letter).length ≤ 2 := by
  unfold unescape
  split <;> simp

/-- A letter adds at most one. -/
theorem load_step_le (self : Scanner) (letter : Char) :
    (step self letter).load ≤ self.load + 1 := by
  obtain ⟨tokens, mode⟩ := self
  cases mode with
  | blank => simp [step, load_mk, Mode.load]
  | word letters =>
      simp only [step]
      split_ifs <;> simp [load_mk, Mode.load, wordToken]
  | number digits =>
      simp only [step]
      split_ifs <;> simp [load_mk, Mode.load, numberToken]
  | quoted quote content =>
      simp only [step]
      split_ifs <;> simp [load_mk, Mode.load, Nat.add_assoc]
  | escape quote content =>
      have short := length_unescape_le letter
      simp only [step, load_mk, Mode.load, List.length_append]
      omega
  | closing quote content =>
      simp only [step]
      split_ifs <;> simp [load_mk, Mode.load, Nat.add_assoc]
  | dash =>
      simp only [step]
      split_ifs <;> simp [load_mk, Mode.load]
  | dashes =>
      simp only [step]
      split_ifs <;> simp [load_mk, Mode.load]
  | comment =>
      simp only [step]
      split_ifs <;> simp [load_mk, Mode.load]

/-- A text adds at most its length. -/
theorem load_scan_le (self : Scanner) (input : List Char) :
    (scan self input).load ≤ self.load + input.length := by
  induction input generalizing self with
  | nil => simp
  | cons letter rest inductionHypothesis =>
      have first := load_step_le self letter
      have later := inductionHypothesis (step self letter)
      rw [scan_cons, List.length_cons]
      omega

/-- The tokens of a statement have the letters that were read. -/
theorem textLength_of_finish {self : Scanner} {result : List Token}
    (finished : finish self = some result) : textLength result = self.load := by
  obtain ⟨tokens, mode⟩ := self
  cases mode <;> simp only [finish, Option.some.injEq, reduceCtorEq] at finished <;>
    subst finished <;> simp [load_mk, Mode.load, wordToken, numberToken]

/-! ## A text that is not given back -/

/-- The scanner stands after a backslash. -/
def Escaped (self : Scanner) : Prop := ∃ quote content, self.mode = .escape quote content

/-- A text that is not given back ends in an escape, or adds fewer letters than it has. -/
theorem load_scan_of_not_literal (tokens : List Token) (text : List Char) :
    (∀ content, ¬ Literal text →
      Escaped (scan ⟨tokens, .quoted .single content⟩ text) ∨
      (scan ⟨tokens, .quoted .single content⟩ text).load <
        textLength tokens + content.length + text.length) ∧
    (∀ content, ¬ ((text.head? = some '%' ∨ text.head? = some '_') ∧ Literal text) →
      Escaped (scan ⟨tokens, .escape .single content⟩ text) ∨
      (scan ⟨tokens, .escape .single content⟩ text).load <
        textLength tokens + (content.length + 1) + text.length) := by
  induction text with
  | nil => exact ⟨fun content changed => absurd trivial changed, fun content _ => .inl ⟨_, _, rfl⟩⟩
  | cons letter rest inductionHypothesis =>
      refine ⟨fun content changed => ?_, fun content changed => ?_⟩
      · by_cases backslash : letter = '\\'
        · subst backslash
          have later := inductionHypothesis.2 content changed
          rw [List.length_cons, Nat.add_comm rest.length, ← Nat.add_assoc]
          exact later
        by_cases quote : letter = '\''
        · -- The literal is closed, and the rest makes up for nothing.
          subst quote
          have later := load_scan_le ⟨tokens, .closing .single content⟩ rest
          change _ ≤ textLength tokens + content.length + rest.length at later
          refine .inr ?_
          rw [List.length_cons]
          change (scan ⟨tokens, .closing .single content⟩ rest).load < _
          omega
        · have changed : ¬ Literal rest := fun literal =>
            changed ((literal_cons_iff backslash).mpr ⟨quote, literal⟩)
          have later := inductionHypothesis.1 (content ++ [letter]) changed
          rw [List.length_append, List.length_singleton] at later
          simp only [scan_cons, step, Quote.letter, quote, backslash, ↓reduceIte, List.length_cons]
          rw [Nat.add_comm rest.length, ← Nat.add_assoc]
          exact later
      · by_cases wildcard : letter = '%' ∨ letter = '_'
        · have unquoted : letter ≠ '\'' ∧ letter ≠ '\\' := by
            rcases wildcard with rfl | rfl <;> decide
          have kept : unescape letter = ['\\', letter] := by
            rcases wildcard with rfl | rfl <;> rfl
          have changed : ¬ Literal rest := fun literal =>
            changed ⟨by simpa using wildcard,
              (literal_cons_iff unquoted.2).mpr ⟨unquoted.1, literal⟩⟩
          have later := inductionHypothesis.1 (content ++ ['\\', letter]) changed
          simp only [scan_cons, step, kept]
          rw [List.length_append] at later
          simp only [List.length_cons, List.length_nil] at later ⊢
          have same : textLength tokens + (content.length + (0 + 1 + 1)) + rest.length =
              textLength tokens + (content.length + 1) + (rest.length + 1) := by omega
          rw [same] at later
          exact later
        · have single : (unescape letter).length = 1 := by
            unfold unescape
            split <;> simp_all
          have later := load_scan_le ⟨tokens, .quoted .single (content ++ unescape letter)⟩ rest
          change _ ≤ textLength tokens + (content ++ unescape letter).length + rest.length at later
          rw [List.length_append, single] at later
          refine .inr ?_
          rw [List.length_cons]
          change (scan ⟨tokens, .quoted .single (content ++ unescape letter)⟩ rest).load < _
          omega

/-- A letter that neither opens nor closes a literal. -/
def Inert (letter : Char) : Prop := letter ≠ '\'' ∧ letter ≠ '"' ∧ letter ≠ '\\'

/-- No literal is open. -/
def Mode.outside : Mode → Bool
  | .quoted _ _ | .escape _ _ => false
  | _ => true

theorem Inert.ne_quote {letter : Char} (inert : Inert letter) (quote : Quote) :
    letter ≠ quote.letter := by
  cases quote with
  | single => exact inert.1
  | double => exact inert.2.1

/-- An open literal stays open. -/
theorem scan_inert_quoted {input : List Char} (inert : ∀ letter ∈ input, Inert letter)
    (tokens : List Token) (quote : Quote) (content : List Char) :
    scan ⟨tokens, .quoted quote content⟩ input = ⟨tokens, .quoted quote (content ++ input)⟩ := by
  induction input generalizing content with
  | nil => simp
  | cons letter rest inductionHypothesis =>
      have first := inert letter List.mem_cons_self
      have later := inductionHypothesis fun other member =>
        inert other (List.mem_cons_of_mem _ member)
      simp [step, first.ne_quote quote, first.2.2, later]

theorem outside_start {letter : Char} (inert : Inert letter) (tokens : List Token) :
    (start tokens letter).mode.outside = true := by
  unfold start
  split_ifs with _ single double <;> first | rfl | skip
  · exact absurd single inert.1
  · exact absurd double inert.2.1

/-- Outside of a literal, such letters add none. -/
theorem step_inert_outside {self : Scanner} {letter : Char} (inert : Inert letter)
    (outside : self.mode.outside = true) :
    (step self letter).mode.outside = true ∧ (step self letter).load = self.load := by
  have started := outside_start inert
  obtain ⟨tokens, mode⟩ := self
  cases mode with
  | quoted _ _ => cases outside
  | escape _ _ => cases outside
  | blank => exact ⟨started _, load_start _ _⟩
  | word letters =>
      simp only [step]
      split_ifs
      · exact ⟨rfl, rfl⟩
      · exact ⟨started _, by simp [load_mk, Mode.load, wordToken]⟩
  | number digits =>
      simp only [step]
      split_ifs
      · exact ⟨rfl, rfl⟩
      · exact ⟨rfl, rfl⟩
      · exact ⟨started _, by simp [load_mk, Mode.load, numberToken]⟩
  | closing quote content =>
      simp only [step, inert.ne_quote quote, ↓reduceIte]
      exact ⟨started _, by simp [load_mk, Mode.load]⟩
  | dash =>
      simp only [step]
      split_ifs
      · exact ⟨rfl, rfl⟩
      · exact ⟨started _, by simp [load_mk, Mode.load]⟩
  | dashes =>
      simp only [step]
      split_ifs
      · exact ⟨rfl, rfl⟩
      · exact ⟨rfl, rfl⟩
      · exact ⟨rfl, by simp [load_mk, Mode.load]⟩
      · exact ⟨started _, by simp [load_mk, Mode.load]⟩
  | comment =>
      simp only [step]
      split_ifs
      · exact ⟨rfl, rfl⟩
      · exact ⟨rfl, rfl⟩

theorem scan_inert_outside {self : Scanner} {input : List Char}
    (inert : ∀ letter ∈ input, Inert letter) (outside : self.mode.outside = true) :
    (scan self input).load = self.load := by
  induction input generalizing self with
  | nil => rfl
  | cons letter rest inductionHypothesis =>
      have first := step_inert_outside (inert letter List.mem_cons_self) outside
      have later := inductionHypothesis
        (fun other member => inert other (List.mem_cons_of_mem _ member)) first.1
      rw [scan_cons, later, first.2]

/-- A quote opens a literal, or closes the one that is open, or is part of one. -/
theorem step_quote (self : Scanner) :
    (∃ tokens quote content, step self '\'' = ⟨tokens, .quoted quote content⟩) ∨
    (¬ Escaped self ∧ (step self '\'').mode.outside = true ∧
      (step self '\'').load = self.load) := by
  obtain ⟨tokens, mode⟩ := self
  cases mode with
  | blank => exact .inl ⟨_, _, _, rfl⟩
  | word letters => exact .inl ⟨_, _, _, rfl⟩
  | number digits => exact .inl ⟨_, _, _, rfl⟩
  | quoted quote content =>
      cases quote with
      | single => exact .inr ⟨fun escaped => by simp [Escaped] at escaped, rfl, rfl⟩
      | double => exact .inl ⟨_, _, _, rfl⟩
  | escape quote content => exact .inl ⟨_, _, _, rfl⟩
  | closing quote content =>
      cases quote with
      | single => exact .inl ⟨_, _, _, rfl⟩
      | double => exact .inl ⟨_, _, _, rfl⟩
  | dash => exact .inl ⟨_, _, _, rfl⟩
  | dashes => exact .inl ⟨_, _, _, rfl⟩
  | comment => exact .inr ⟨fun escaped => by simp [Escaped] at escaped, rfl, rfl⟩

/-- If the only quote that follows a text is one, the literals of the whole have all
the letters of the text only when the text is given back. -/
theorem textLength_lt_of_not_literal {tokens result : List Token} {text rest : List Char}
    (changed : ¬ Literal text) (inert : ∀ letter ∈ rest, Inert letter)
    (finished : finish (scan ⟨tokens, .quoted .single []⟩ (text ++ '\'' :: rest)) = some result) :
    textLength result < textLength tokens + text.length := by
  rw [scan_append, scan_cons] at finished
  have lost := (load_scan_of_not_literal tokens text).1 [] changed
  generalize scan ⟨tokens, .quoted .single []⟩ text = middle at finished lost
  rcases step_quote middle with ⟨tokens', quote, content, opened⟩ | ⟨unescaped, outside, same⟩
  · rw [opened, scan_inert_quoted inert] at finished
    cases finished
  · have fewer := lost.resolve_left unescaped
    rw [textLength_of_finish finished, scan_inert_outside inert outside, same]
    simpa using fewer

end CheckerOlimp.Std.Sql
