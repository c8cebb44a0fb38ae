import CheckerOlimp.Std.Json
import Mathlib.Data.List.TakeWhile

/-!
# Reading JSON

A recursive-descent parser of the JSON grammar. A value takes a prefix of the input
and leaves the rest; the fuel bounds the nesting and the length of a value, and the
length of the input is always enough. `parse_text` is the round trip: the text of a
value, with whitespace after it, parses to that value.
-/

namespace CheckerOlimp.Std.Json

/-! ## The parser -/

/-- The whitespace between tokens. -/
def isBlank (letter : Char) : Bool :=
  letter = ' ' || letter = '\t' || letter = '\n' || letter = '\r'

/-- The input without its leading whitespace. -/
def skip (input : List Char) : List Char := input.dropWhile isBlank

/-- The value of a hexadecimal digit. -/
def hexValue (letter : Char) : Option Nat :=
  if letter.isDigit then some (letter.toNat - '0'.toNat)
  else if 'a' ≤ letter ∧ letter ≤ 'f' then some (letter.toNat - 'a'.toNat + 10)
  else if 'A' ≤ letter ∧ letter ≤ 'F' then some (letter.toNat - 'A'.toNat + 10)
  else none

/-- The letter of four hexadecimal digits. Halves of surrogate pairs are none. -/
def hexLetter (a b c d : Char) : Option Char := do
  let code := (((← hexValue a) * 16 + (← hexValue b)) * 16 + (← hexValue c)) * 16 + (← hexValue d)
  if code.isValidChar then some (Char.ofNat code) else none

/-- The letter behind an escape of one letter. -/
def unescape (letter : Char) : Option Char :=
  if letter = '"' ∨ letter = '\\' ∨ letter = '/' then some letter
  else if letter = 'b' then some '\x08'
  else if letter = 'f' then some '\x0c'
  else if letter = 'n' then some '\n'
  else if letter = 'r' then some '\r'
  else if letter = 't' then some '\t'
  else none

/-- A string, from after its opening quote. -/
def parseString : List Char → Option (List Char × List Char)
  | [] => none
  | '"' :: rest => some ([], rest)
  | '\\' :: 'u' :: a :: b :: c :: d :: rest => do
    let letter ← hexLetter a b c d
    let (letters, rest) ← parseString rest
    some (letter :: letters, rest)
  | '\\' :: escaped :: rest => do
    let letter ← unescape escaped
    let (letters, rest) ← parseString rest
    some (letter :: letters, rest)
  | letter :: rest =>
    if letter.toNat < 32 then none
    else do
      let (letters, rest) ← parseString rest
      some (letter :: letters, rest)

/-- What is left after one or more digits. -/
def afterDigits (input : List Char) : Option (List Char) :=
  if (input.takeWhile Char.isDigit).isEmpty then none else some (input.dropWhile Char.isDigit)

/-- What is left after an exponent, if there is one. -/
def afterExponent : List Char → Option (List Char)
  | [] => some []
  | letter :: rest =>
    if letter = 'e' ∨ letter = 'E' then
      match rest with
      | [] => none
      | sign :: digits =>
        if sign = '+' ∨ sign = '-' then afterDigits digits else afterDigits (sign :: digits)
    else some (letter :: rest)

/-- What is left after a fraction and an exponent. -/
def afterFraction : List Char → Option (List Char)
  | [] => some []
  | letter :: rest =>
    if letter = '.' then (afterDigits rest).bind afterExponent else afterExponent (letter :: rest)

/-- A number, with its sign taken off. No digit follows a leading zero. -/
def parseMagnitude (negative : Bool) (input : List Char) : Option (Json × List Char) :=
  let digits := input.takeWhile Char.isDigit
  let rest := input.dropWhile Char.isDigit
  if digits.isEmpty ∨ (digits.head? = some '0' ∧ digits ≠ ['0']) then none
  else do
    let left ← afterFraction rest
    let magnitude : Int := Nat.ofDigitChars 10 digits 0
    if left = rest then some (.number (if negative then -magnitude else magnitude), rest)
    else some (.double, left)

/-- A number. -/
def parseNumber : List Char → Option (Json × List Char)
  | [] => none
  | letter :: rest =>
    if letter = '-' then parseMagnitude true rest else parseMagnitude false (letter :: rest)

/-- The name of a member, up to its colon. -/
def parseName : List Char → Option (List Char × List Char)
  | [] => none
  | head :: rest =>
    if head = '"' then do
      let (name, rest) ← parseString rest
      match skip rest with
      | [] => none
      | colon :: rest => if colon = ':' then some (name, rest) else none
    else none

/-- One of the three words. -/
def parseWord (input word : List Char) (value : Json) : Option (Json × List Char) :=
  if word.isPrefixOf input then some (value, input.drop word.length) else none

mutual

/-- A value at the start of the input, and the rest. -/
def parseValue : Nat → List Char → Option (Json × List Char)
  | 0, _ => none
  | fuel + 1, input =>
    match skip input with
    | [] => none
    | head :: rest =>
      if head = '"' then (parseString rest).map fun read => (.string read.1, read.2)
      else if head = '[' then
        if (skip rest).head? = some ']' then some (.array [], (skip rest).tail)
        else (parseValues fuel rest).map fun read => (.array read.1, read.2)
      else if head = '{' then
        if (skip rest).head? = some '}' then some (.object [], (skip rest).tail)
        else (parseMembers fuel rest).map fun read => (.object read.1, read.2)
      else if head = 'n' then parseWord rest ['u', 'l', 'l'] .null
      else if head = 't' then parseWord rest ['r', 'u', 'e'] (.bool true)
      else if head = 'f' then parseWord rest ['a', 'l', 's', 'e'] (.bool false)
      else parseNumber (head :: rest)

/-- One or more values, up to the end of their array. -/
def parseValues : Nat → List Char → Option (List Json × List Char)
  | 0, _ => none
  | fuel + 1, input => do
    let (value, rest) ← parseValue fuel input
    match skip rest with
    | [] => none
    | head :: rest =>
      if head = ',' then do
        let (values, rest) ← parseValues fuel rest
        some (value :: values, rest)
      else if head = ']' then some ([value], rest)
      else none

/-- One or more members, up to the end of their object. -/
def parseMembers : Nat → List Char → Option (List (List Char × Json) × List Char)
  | 0, _ => none
  | fuel + 1, input => do
    let (name, rest) ← parseName (skip input)
    let (value, rest) ← parseValue fuel rest
    match skip rest with
    | [] => none
    | head :: rest =>
      if head = ',' then do
        let (members, rest) ← parseMembers fuel rest
        some ((name, value) :: members, rest)
      else if head = '}' then some ([(name, value)], rest)
      else none

end

/-- A document: one value with whitespace around it. -/
def parse (input : List Char) : Option Json := do
  let (value, rest) ← parseValue (input.length + 1) input
  if (skip rest).isEmpty then some value else none

/-! ## Strings -/

theorem hexLetter_control : ∀ code < 32, hexLetter '0' '0' (hexDigit (code / 16))
    (hexDigit (code % 16)) = some (Char.ofNat code) := by
  decide

/-- An escape of one letter. -/
theorem parseString_unescape {escaped letter : Char} (short : unescape escaped = some letter)
    (input : List Char) :
    parseString ('\\' :: escaped :: input) =
      (parseString input).map fun read => (letter :: read.1, read.2) := by
  have different : escaped ≠ 'u' := by
    rintro rfl
    have unknown : unescape 'u' = none := by decide
    rw [unknown] at short
    cases short
  have notUnicode : ∀ a b c d rest, escaped = 'u' → input = a :: b :: c :: d :: rest → False :=
    fun _ _ _ _ _ same _ => different same
  rw [parseString.eq_4 escaped input notUnicode, short, Option.map_eq_bind]
  rfl

/-- A letter that needs no escape. -/
theorem parseString_plain {letter : Char} (quote : letter ≠ '"') (backslash : letter ≠ '\\')
    (printable : ¬ letter.toNat < 32) (input : List Char) :
    parseString (letter :: input) =
      (parseString input).map fun read => (letter :: read.1, read.2) := by
  rw [parseString.eq_5 letter input (fun same => quote same)
    (fun a b c d rest same => absurd same backslash) (fun a rest same => absurd same backslash)]
  simp only [printable, ↓reduceIte, Option.map_eq_bind]
  rfl

/-- The escape of a letter is read as that letter. -/
theorem parseString_escape (letter : Char) (input : List Char) :
    parseString (escape letter ++ input) =
      (parseString input).map fun read => (letter :: read.1, read.2) := by
  unfold escape
  split
  · next same =>
      subst same
      exact parseString_unescape rfl input
  split
  · next same =>
      subst same
      exact parseString_unescape rfl input
  split
  · next same =>
      subst same
      exact parseString_unescape rfl input
  split
  · next same =>
      subst same
      exact parseString_unescape rfl input
  split
  · next same =>
      subst same
      exact parseString_unescape rfl input
  split
  · next same =>
      subst same
      exact parseString_unescape rfl input
  split
  · next same =>
      subst same
      exact parseString_unescape rfl input
  split
  · next control =>
      have read := hexLetter_control letter.toNat control
      rw [Char.ofNat_toNat] at read
      change parseString ('\\' :: 'u' :: '0' :: '0' :: hexDigit (letter.toNat / 16) ::
        hexDigit (letter.toNat % 16) :: input) = _
      rw [parseString.eq_3, read, Option.map_eq_bind]
      rfl
  · next quote backslash _ _ _ _ _ printable =>
      exact parseString_plain quote backslash printable input

/-- A quoted string is read as that string. -/
theorem parseString_quoted (value rest : List Char) :
    parseString (value.flatMap escape ++ '"' :: rest) = some (value, rest) := by
  induction value with
  | nil => rfl
  | cons letter value inductionHypothesis =>
      rw [List.flatMap_cons, List.append_assoc, parseString_escape, inductionHypothesis]
      rfl

/-! ## Numbers -/

/-- What may stand after a number. -/
def EndsNumber (rest : List Char) : Prop :=
  ∀ letter ∈ rest.head?, letter.isDigit = false ∧ letter ∉ ['.', 'e', 'E']

theorem afterExponent_of_endsNumber {rest : List Char} (ends : EndsNumber rest) :
    afterExponent rest = some rest := by
  cases rest with
  | nil => rfl
  | cons letter rest =>
      have foreign := (ends letter rfl).2
      simp only [List.mem_cons, List.not_mem_nil, or_false, not_or] at foreign
      simp only [afterExponent, foreign, or_self, ↓reduceIte]

theorem afterFraction_of_endsNumber {rest : List Char} (ends : EndsNumber rest) :
    afterFraction rest = some rest := by
  cases rest with
  | nil => rfl
  | cons letter rest =>
      have point : letter ≠ '.' := by
        rintro rfl
        exact (ends '.' rfl).2 (by decide)
      rw [afterFraction, if_neg point]
      exact afterExponent_of_endsNumber ends

theorem span_of_endsNumber {digits rest : List Char}
    (all : ∀ letter ∈ digits, letter.isDigit = true) (ends : EndsNumber rest) :
    (digits ++ rest).takeWhile Char.isDigit = digits ∧
      (digits ++ rest).dropWhile Char.isDigit = rest := by
  rw [List.takeWhile_append_of_pos all, List.dropWhile_append_of_pos all]
  cases rest with
  | nil => simp
  | cons letter rest =>
      have foreign := (ends letter rfl).1
      simp [foreign]

/-- A decimal starts with a zero only when it is one. -/
theorem head_toDigits_eq_zero {value : Nat} (zero : (Nat.toDigits 10 value).head? = some '0') :
    Nat.toDigits 10 value = ['0'] := by
  induction value using Nat.strongRecOn with
  | ind value inductionHypothesis =>
      by_cases small : value < 10
      · rw [Nat.toDigits_of_lt_base small] at zero ⊢
        simpa using zero
      · have large : 10 ≤ value := Nat.le_of_not_lt small
        rw [Nat.toDigits_of_base_le (by decide) large] at zero
        rw [List.head?_append_of_ne_nil _ Nat.toDigits_ne_nil] at zero
        have shorter := inductionHypothesis (value / 10) (by omega) zero
        have quotient : value / 10 = 0 := by
          have back := Nat.ofDigitChars_ten_toDigits (n := value / 10)
          rw [shorter] at back
          exact back.symm
        omega

/-- Decimal digits are read as their number. -/
theorem parseMagnitude_toDigits (negative : Bool) (magnitude : Nat) {rest : List Char}
    (ends : EndsNumber rest) :
    parseMagnitude negative (Nat.toDigits 10 magnitude ++ rest) =
      some (.number (if negative then -magnitude else magnitude), rest) := by
  have all : ∀ letter ∈ Nat.toDigits 10 magnitude, letter.isDigit = true := fun letter member =>
    Nat.isDigit_of_mem_toDigits (by decide) (by decide) member
  obtain ⟨digits, left⟩ := span_of_endsNumber all ends
  have wellFormed : ¬ ((Nat.toDigits 10 magnitude).isEmpty = true ∨
      ((Nat.toDigits 10 magnitude).head? = some '0' ∧ Nat.toDigits 10 magnitude ≠ ['0'])) := by
    rintro (empty | ⟨zero, different⟩)
    · exact Nat.toDigits_ne_nil (List.isEmpty_iff.mp empty)
    · exact different (head_toDigits_eq_zero zero)
  unfold parseMagnitude
  simp only [digits, left, wellFormed, ↓reduceIte, afterFraction_of_endsNumber ends,
    Nat.ofDigitChars_ten_toDigits, Option.bind_eq_bind, Option.bind_some]

/-- The decimal of an integer is read as that integer. -/
theorem parseNumber_decimal (value : Int) {rest : List Char} (ends : EndsNumber rest) :
    parseNumber (decimal value ++ rest) = some (.number value, rest) := by
  unfold decimal
  split
  · next negative =>
      have magnitude := parseMagnitude_toDigits true value.natAbs ends
      have same : -(value.natAbs : Int) = value := by omega
      rw [if_pos rfl, same] at magnitude
      simpa [parseNumber] using magnitude
  · next nonneg =>
      have magnitude := parseMagnitude_toDigits false value.natAbs ends
      have same : (value.natAbs : Int) = value := by omega
      rw [if_neg (by decide), same] at magnitude
      obtain ⟨head, tail, digits⟩ := List.exists_cons_of_ne_nil
        (Nat.toDigits_ne_nil (b := 10) (n := value.natAbs))
      have digit : head.isDigit = true := Nat.isDigit_of_mem_toDigits (by decide) (by decide)
        (digits ▸ List.mem_cons_self)
      have sign : head ≠ '-' := by
        rintro rfl
        exact absurd digit (by decide)
      rw [digits] at magnitude ⊢
      simpa [parseNumber, sign] using magnitude

/-! ## Values -/

/-- The letters with which the text of a value starts. -/
def Leads (letter : Char) : Prop :=
  letter.isDigit = true ∨ letter ∈ ['"', '[', '{', 'n', 't', 'f', '-']

theorem decimal_leads (value : Int) :
    ∃ head tail, decimal value = head :: tail ∧ (head.isDigit = true ∨ head = '-') := by
  unfold decimal
  split
  · exact ⟨_, _, rfl, .inr rfl⟩
  · obtain ⟨head, tail, digits⟩ := List.exists_cons_of_ne_nil
      (Nat.toDigits_ne_nil (b := 10) (n := value.natAbs))
    have digit : head.isDigit = true := Nat.isDigit_of_mem_toDigits (by decide) (by decide)
      (digits ▸ List.mem_cons_self)
    exact ⟨head, tail, digits, .inl digit⟩

theorem text_leads (value : Json) : ∃ head tail, value.text = head :: tail ∧ Leads head := by
  match value with
  | .null | .bool true | .bool false | .string _ => exact ⟨_, _, rfl, .inr (by decide)⟩
  | .array [] | .array (_ :: _) | .object [] | .object ((_, _) :: _) =>
      exact ⟨_, _, by rw [text], .inr (by decide)⟩
  | .double => exact ⟨_, _, rfl, .inl (by decide)⟩
  | .number value =>
      obtain ⟨head, tail, same, leads⟩ := decimal_leads value
      refine ⟨head, tail, same, leads.imp_right ?_⟩
      rintro rfl
      decide

/-- No whitespace is skipped before a value, and a value closes nothing. -/
theorem Leads.plain {letter : Char} (leads : Leads letter) :
    isBlank letter = false ∧ letter ≠ ']' ∧ letter ≠ '}' := by
  rcases leads with digit | listed
  · refine ⟨?_, ?_, ?_⟩
    · unfold isBlank
      by_contra blank
      simp only [Bool.not_eq_false, Bool.or_eq_true, decide_eq_true_eq] at blank
      rcases blank with ((rfl | rfl) | rfl) | rfl <;> exact absurd digit (by decide)
    · rintro rfl
      exact absurd digit (by decide)
    · rintro rfl
      exact absurd digit (by decide)
  · revert listed
    simp only [List.mem_cons, List.not_mem_nil, or_false]
    rintro (rfl | rfl | rfl | rfl | rfl | rfl | rfl) <;> decide

theorem skip_cons_of_plain {letter : Char} (plain : isBlank letter = false) (rest : List Char) :
    skip (letter :: rest) = letter :: rest := by
  simp [skip, plain]

theorem skip_text (value : Json) (rest : List Char) :
    skip (value.text ++ rest) = value.text ++ rest := by
  obtain ⟨head, tail, same, leads⟩ := text_leads value
  rw [same]
  exact skip_cons_of_plain leads.plain.1 _

theorem laterValues_ends (values : List Json) (rest : List Char) :
    EndsNumber (laterValues values ++ rest) := by
  intro letter member
  cases values with
  | nil =>
      cases member
      decide
  | cons value values =>
      rw [laterValues] at member
      cases member
      decide

theorem laterMembers_ends (members : List (List Char × Json)) (rest : List Char) :
    EndsNumber (laterMembers members ++ rest) := by
  intro letter member
  match members with
  | [] =>
      cases member
      decide
  | (_, _) :: _ =>
      rw [laterMembers] at member
      cases member
      decide

/-- A quoted name with its colon is read as that name. -/
theorem parseName_quoted (name rest : List Char) :
    parseName (quote name ++ ':' :: rest) = some (name, rest) := by
  unfold quote
  rw [List.cons_append, List.append_assoc]
  simp only [parseName, List.cons_append, List.nil_append, ↓reduceIte, parseString_quoted,
    Option.bind_eq_bind, Option.bind_some]
  rw [skip_cons_of_plain (by decide)]
  simp

theorem length_text_pos (value : Json) : 0 < value.text.length := by
  obtain ⟨head, tail, same, _⟩ := text_leads value
  rw [same]
  exact Nat.succ_pos _

theorem length_laterValues_pos (values : List Json) : 0 < (laterValues values).length := by
  cases values with
  | nil => exact Nat.one_pos
  | cons value values => exact Nat.succ_pos _

theorem length_laterMembers_pos (members : List (List Char × Json)) :
    0 < (laterMembers members).length := by
  cases members with
  | nil => exact Nat.one_pos
  | cons member members =>
      rw [laterMembers]
      exact Nat.succ_pos _

/-- A number is read by what its first letter leaves over. -/
theorem parseValue_number {fuel : Nat} {head : Char} {tail : List Char}
    (leads : head.isDigit = true ∨ head = '-') :
    parseValue (fuel + 1) (head :: tail) = parseNumber (head :: tail) := by
  have plain : Leads head := leads.imp_right (by rintro rfl; decide)
  have foreign : head ∉ ['"', '[', '{', 'n', 't', 'f'] := by
    intro member
    simp only [List.mem_cons, List.not_mem_nil, or_false] at member
    rcases member with rfl | rfl | rfl | rfl | rfl | rfl <;> exact absurd leads (by decide)
  simp only [List.mem_cons, List.not_mem_nil, or_false, not_or] at foreign
  rw [parseValue, skip_cons_of_plain plain.plain.1]
  simp only [foreign, ↓reduceIte]

/-- The text of a double is read as one. -/
theorem parseNumber_double {rest : List Char} (ends : EndsNumber rest) :
    parseNumber (['0', '.', '0'] ++ rest) = some (.double, rest) := by
  have zero : ('0').isDigit = true := by decide
  have point : ('.').isDigit = false := by decide
  have digit : ∀ letter ∈ ['0'], letter.isDigit = true := fun letter member =>
    List.mem_singleton.mp member ▸ zero
  obtain ⟨digits, left⟩ := span_of_endsNumber digit ends
  have fraction : afterFraction ('.' :: '0' :: rest) = some rest := by
    rw [List.cons_append, List.nil_append] at digits left
    rw [afterFraction, if_pos rfl, afterDigits, digits, left]
    exact afterExponent_of_endsNumber ends
  have longer : rest ≠ '.' :: '0' :: rest := by
    intro same
    have lengths := congrArg List.length same
    simp only [List.length_cons] at lengths
    omega
  simp [parseNumber, parseMagnitude, zero, point, fraction, longer]

/-! ## The round trip -/

/-- With this fuel, values, arrays and objects of at most that length are read back. -/
structure ReadsBack (fuel : Nat) : Prop where
  value : ∀ (value : Json) (rest : List Char), value.text.length ≤ fuel → EndsNumber rest →
    parseValue fuel (value.text ++ rest) = some (value, rest)
  values : ∀ (value : Json) (values : List Json) (rest : List Char),
    value.text.length + (laterValues values).length ≤ fuel →
    parseValues fuel (value.text ++ (laterValues values ++ rest)) = some (value :: values, rest)
  members : ∀ (name : List Char) (value : Json) (members : List (List Char × Json))
      (rest : List Char),
    value.text.length + (laterMembers members).length ≤ fuel →
    parseMembers fuel (quote name ++ ':' :: (value.text ++ (laterMembers members ++ rest))) =
      some ((name, value) :: members, rest)

theorem readsBack_zero : ReadsBack 0 where
  value value _ enough := absurd (length_text_pos value) (by omega)
  values value _ _ enough := absurd (length_text_pos value) (by omega)
  members _ value _ _ enough := absurd (length_text_pos value) (by omega)

section Step

variable {fuel : Nat}

/-- A value is read back, its arrays and objects with less fuel. -/
theorem parseValue_text (shorter : ReadsBack fuel) (value : Json) (rest : List Char)
    (enough : value.text.length ≤ fuel + 1) (ends : EndsNumber rest) :
    parseValue (fuel + 1) (value.text ++ rest) = some (value, rest) := by
  match value with
  | .null | .bool true | .bool false => rfl
  | .number value =>
      obtain ⟨head, tail, same, leads⟩ := decimal_leads value
      have read := parseNumber_decimal value ends
      rw [same, List.cons_append] at read
      rw [text, same, List.cons_append, parseValue_number leads, read]
  | .double =>
      have read := parseNumber_double ends
      rw [text, List.cons_append, parseValue_number (.inl (by decide))]
      exact read
  | .string value =>
      rw [text, quote, List.cons_append, parseValue, skip_cons_of_plain (by decide)]
      simp only [↓reduceIte, List.append_assoc, List.cons_append, List.nil_append]
      rw [parseString_quoted]
      rfl
  | .array [] => rfl
  | .object [] => rfl
  | .array (first :: values) =>
      rw [text, List.length_cons, List.length_append] at enough
      have read := shorter.values first values rest (by omega)
      have opened : (skip (first.text ++ (laterValues values ++ rest))).head? ≠ some ']' := by
        obtain ⟨head, tail, same, leads⟩ := text_leads first
        rw [skip_text, same]
        intro closing
        exact leads.plain.2.1 (Option.some.inj closing)
      rw [text, List.cons_append, List.append_assoc, parseValue, skip_cons_of_plain (by decide)]
      simp only [Char.reduceEq, ↓reduceIte, opened]
      rw [read]
      rfl
  | .object ((name, first) :: members) =>
      rw [text, List.length_cons, List.length_append, List.length_cons,
        List.length_append] at enough
      have read := shorter.members name first members rest (by omega)
      have opened : (skip (quote name ++ ':' :: (first.text ++ (laterMembers members ++
          rest)))).head? ≠ some '}' := by
        unfold quote
        rw [List.cons_append, skip_cons_of_plain (by decide)]
        simp
      rw [text, List.cons_append, List.append_assoc, List.cons_append, List.append_assoc]
      rw [parseValue, skip_cons_of_plain (by decide)]
      simp only [Char.reduceEq, ↓reduceIte, opened]
      rw [read]
      rfl

/-- The values of an array are read back in order. -/
theorem parseValues_text (shorter : ReadsBack fuel) (value : Json) (values : List Json)
    (rest : List Char)
    (enough : value.text.length + (laterValues values).length ≤ fuel + 1) :
    parseValues (fuel + 1) (value.text ++ (laterValues values ++ rest)) =
      some (value :: values, rest) := by
  have later := length_laterValues_pos values
  have first := shorter.value value (laterValues values ++ rest) (by omega)
    (laterValues_ends values rest)
  rw [parseValues, first]
  simp only [Option.bind_eq_bind, Option.bind_some]
  match values with
  | [] =>
      rw [laterValues, List.cons_append, skip_cons_of_plain (by decide)]
      rfl
  | next :: values =>
      rw [laterValues, List.length_cons, List.length_append] at enough
      have others := shorter.values next values rest (by omega)
      rw [laterValues, List.cons_append, skip_cons_of_plain (by decide)]
      simp only [↓reduceIte, List.append_assoc]
      rw [others]
      rfl

/-- The members of an object are read back in order. -/
theorem parseMembers_text (shorter : ReadsBack fuel) (name : List Char) (value : Json)
    (members : List (List Char × Json)) (rest : List Char)
    (enough : value.text.length + (laterMembers members).length ≤ fuel + 1) :
    parseMembers (fuel + 1)
        (quote name ++ ':' :: (value.text ++ (laterMembers members ++ rest))) =
      some ((name, value) :: members, rest) := by
  have later := length_laterMembers_pos members
  have first := shorter.value value (laterMembers members ++ rest) (by omega)
    (laterMembers_ends members rest)
  have named := parseName_quoted name (value.text ++ (laterMembers members ++ rest))
  have starts : skip (quote name ++ ':' :: (value.text ++ (laterMembers members ++ rest))) =
      quote name ++ ':' :: (value.text ++ (laterMembers members ++ rest)) :=
    skip_cons_of_plain (by decide) _
  rw [parseMembers, starts, named]
  simp only [Option.bind_eq_bind, Option.bind_some]
  rw [first]
  simp only [Option.bind_some]
  match members with
  | [] =>
      rw [laterMembers, List.cons_append, skip_cons_of_plain (by decide)]
      rfl
  | (name', next) :: members =>
      rw [laterMembers, List.length_cons, List.length_append, List.length_cons,
        List.length_append] at enough
      have others := shorter.members name' next members rest (by omega)
      rw [laterMembers, List.cons_append, skip_cons_of_plain (by decide)]
      simp only [↓reduceIte, List.append_assoc, List.cons_append]
      rw [others]
      rfl

end Step

theorem readsBack (fuel : Nat) : ReadsBack fuel := by
  induction fuel with
  | zero => exact readsBack_zero
  | succ fuel inductionHypothesis =>
      exact ⟨parseValue_text inductionHypothesis, parseValues_text inductionHypothesis,
        parseMembers_text inductionHypothesis⟩

/-- The text of a value, with whitespace after it, parses to that value. -/
theorem parse_text (value : Json) {after : List Char} (blank : ∀ letter ∈ after, isBlank letter) :
    parse (value.text ++ after) = some value := by
  have ends : EndsNumber after := by
    intro letter member
    have white := blank letter (List.mem_of_head? member)
    simp only [isBlank, Bool.or_eq_true, decide_eq_true_eq] at white
    rcases white with ((rfl | rfl) | rfl) | rfl <;> decide
  have read := (readsBack ((value.text ++ after).length + 1)).value value after
    (by rw [List.length_append]; omega) ends
  have nothing : skip after = [] := List.dropWhile_eq_nil_iff.mpr blank
  rw [parse, read]
  simp only [Option.bind_eq_bind, Option.bind_some, nothing, List.isEmpty_nil, ↓reduceIte]

end CheckerOlimp.Std.Json
