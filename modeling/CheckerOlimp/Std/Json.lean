import Mathlib.Data.List.Basic
import Mathlib.Data.Bool.AllAny

/-!
# JSON values and their writer

`Json` is the tree a document stands for. `Json.Writer` is an event-driven
writer: it is told where objects and arrays begin and end and which strings and
numbers stand in them, and puts the separators itself. `Writer.run_events` says
that driving it along a value writes exactly `Json.text` of that value.
-/

namespace CheckerOlimp.Std

/-- A JSON value. `double` is a number that is no integer; its value is not kept. -/
inductive Json where
  | null
  | bool (value : Bool)
  | number (value : Int)
  | double
  | string (value : List Char)
  | array (values : List Json)
  | object (members : List (List Char × Json))

namespace Json

/-- The hexadecimal digits in upper case. -/
def hexDigit (value : Nat) : Char :=
  if value < 10 then Char.ofNat ('0'.toNat + value) else Char.ofNat ('A'.toNat + value - 10)

/-- The escape of one letter: control characters, the double quote and the
backslash are escaped, and everything else stands for itself. -/
def escape (letter : Char) : List Char :=
  if letter = '"' then ['\\', '"']
  else if letter = '\\' then ['\\', '\\']
  else if letter = '\x08' then ['\\', 'b']
  else if letter = '\t' then ['\\', 't']
  else if letter = '\n' then ['\\', 'n']
  else if letter = '\x0c' then ['\\', 'f']
  else if letter = '\r' then ['\\', 'r']
  else if letter.toNat < 32 then
    ['\\', 'u', '0', '0', hexDigit (letter.toNat / 16), hexDigit (letter.toNat % 16)]
  else [letter]

/-- A string in its double quotes. -/
def quote (value : List Char) : List Char :=
  '"' :: (value.flatMap escape ++ ['"'])

/-- The decimal digits of an integer. -/
def decimal (value : Int) : List Char :=
  if value < 0 then '-' :: Nat.toDigits 10 value.natAbs else Nat.toDigits 10 value.natAbs

mutual

/-- The compact text of a value. -/
def text : Json → List Char
  | null => ['n', 'u', 'l', 'l']
  | bool true => ['t', 'r', 'u', 'e']
  | bool false => ['f', 'a', 'l', 's', 'e']
  | number value => decimal value
  | double => ['0', '.', '0']
  | string value => quote value
  | array [] => ['[', ']']
  | array (value :: values) => '[' :: (text value ++ laterValues values)
  | object [] => ['{', '}']
  | object ((name, value) :: members) =>
    '{' :: (quote name ++ ':' :: (text value ++ laterMembers members))

/-- The values after the first one, up to the end of their array. -/
def laterValues : List Json → List Char
  | [] => [']']
  | value :: values => ',' :: (text value ++ laterValues values)

/-- The members after the first one, up to the end of their object. -/
def laterMembers : List (List Char × Json) → List Char
  | [] => ['}']
  | (name, value) :: members =>
    ',' :: (quote name ++ ':' :: (text value ++ laterMembers members))

end

example : (object [(['a'], array [number 1, number (-2), string ['"']])]).text =
    "\x7b\"a\":[1,-2,\"\\\"\"]\x7d".toList := by decide

/-! ## The event-driven writer -/

/-- What a writer is told. -/
inductive Event where
  | null
  | bool (value : Bool)
  | number (value : Int)
  | double
  | string (value : List Char)
  | startArray
  | endArray
  | startObject
  | endObject

/-- An open array or object, with the number of strings and values written in it. -/
structure Level where
  inArray : Bool
  valueCount : Nat

/-- A writer: the text written and the open levels, the innermost first. -/
structure Writer where
  output : List Char
  levels : List Level

namespace Writer

/-- A writer at the start of a document. -/
def start : Writer := ⟨[], []⟩

/-- The separator due before the next value, and the count after it. In an object
names and values alternate. -/
def separate (writer : Writer) : Writer :=
  match writer.levels with
  | [] => writer
  | level :: outer =>
    let separator : List Char :=
      if level.valueCount = 0 then []
      else if level.inArray then [',']
      else if level.valueCount % 2 = 0 then [','] else [':']
    ⟨writer.output ++ separator, { level with valueCount := level.valueCount + 1 } :: outer⟩

/-- Append a piece of text. -/
def write (writer : Writer) (piece : List Char) : Writer :=
  { writer with output := writer.output ++ piece }

/-- One call of the writer. -/
def put (writer : Writer) : Event → Writer
  | .null => writer.separate.write ['n', 'u', 'l', 'l']
  | .bool true => writer.separate.write ['t', 'r', 'u', 'e']
  | .bool false => writer.separate.write ['f', 'a', 'l', 's', 'e']
  | .number value => writer.separate.write (decimal value)
  | .double => writer.separate.write ['0', '.', '0']
  | .string value => writer.separate.write (quote value)
  | .startArray =>
    let opened := writer.separate.write ['[']
    { opened with levels := ⟨true, 0⟩ :: opened.levels }
  | .endArray => { writer with levels := writer.levels.tail }.write [']']
  | .startObject =>
    let opened := writer.separate.write ['{']
    { opened with levels := ⟨false, 0⟩ :: opened.levels }
  | .endObject => { writer with levels := writer.levels.tail }.write ['}']

/-- The text written by a sequence of calls. -/
def run (events : List Event) : List Char :=
  (events.foldl put start).output

end Writer

mutual

/-- The calls that write a value. -/
def events : Json → List Event
  | null => [.null]
  | bool value => [.bool value]
  | number value => [.number value]
  | double => [.double]
  | string value => [.string value]
  | array values => .startArray :: (valueEvents values ++ [.endArray])
  | object members => .startObject :: (memberEvents members ++ [.endObject])

/-- The calls that write the values of an array. -/
def valueEvents : List Json → List Event
  | [] => []
  | value :: values => events value ++ valueEvents values

/-- The calls that write the members of an object. -/
def memberEvents : List (List Char × Json) → List Event
  | [] => []
  | (name, value) :: members => .string name :: (events value ++ memberEvents members)

end

/-- The calls of values made one by one. -/
theorem valueEvents_map {α : Type} (make : α → Json) (items : List α) :
    valueEvents (items.map make) = items.flatMap fun item => (make item).events := by
  induction items with
  | nil => rfl
  | cons item rest inductionHypothesis =>
      rw [List.map_cons, valueEvents, inductionHypothesis, List.flatMap_cons]

namespace Writer

@[simp] theorem write_output (writer : Writer) (piece : List Char) :
    (writer.write piece).output = writer.output ++ piece := rfl

@[simp] theorem write_levels (writer : Writer) (piece : List Char) :
    (writer.write piece).levels = writer.levels := rfl

/-- Inside an array every value but the first gets a comma. -/
theorem separate_later_value (output : List Char) (count : Nat) (outer : List Level) :
    separate ⟨output, ⟨true, count + 1⟩ :: outer⟩ =
      ⟨output ++ [','], ⟨true, count + 2⟩ :: outer⟩ := by
  simp [separate]

/-- Inside an object every name but the first gets a comma. -/
theorem separate_later_name (output : List Char) (count : Nat) (outer : List Level) :
    separate ⟨output, ⟨false, 2 * (count + 1)⟩ :: outer⟩ =
      ⟨output ++ [','], ⟨false, 2 * (count + 1) + 1⟩ :: outer⟩ := by
  simp [separate]

/-- Inside an object every value gets a colon. -/
theorem separate_member_value (output : List Char) (count : Nat) (outer : List Level) :
    separate ⟨output, ⟨false, 2 * count + 1⟩ :: outer⟩ =
      ⟨output ++ [':'], ⟨false, 2 * (count + 1)⟩ :: outer⟩ := by
  have odd : (2 * count + 1) % 2 = 1 := by omega
  simp [separate, odd, Nat.mul_add]

/-- The first value of an array and the first name of an object get no separator. -/
theorem separate_first (output : List Char) (inArray : Bool) (outer : List Level) :
    separate ⟨output, ⟨inArray, 0⟩ :: outer⟩ = ⟨output, ⟨inArray, 1⟩ :: outer⟩ := by
  simp [separate]

theorem put_startArray (writer : Writer) :
    writer.put .startArray =
      ⟨writer.separate.output ++ ['['], ⟨true, 0⟩ :: writer.separate.levels⟩ :=
  rfl

theorem put_startObject (writer : Writer) :
    writer.put .startObject =
      ⟨writer.separate.output ++ ['{'], ⟨false, 0⟩ :: writer.separate.levels⟩ :=
  rfl

theorem put_string (writer : Writer) (value : List Char) :
    writer.put (.string value) = writer.separate.write (quote value) := rfl

mutual

/-- Driving a writer along a value writes its text after the separator that was due. -/
theorem foldl_events (value : Json) (writer : Writer) :
    value.events.foldl put writer = writer.separate.write value.text := by
  match value with
  | .null => rfl
  | .bool true => rfl
  | .bool false => rfl
  | .number _ => rfl
  | .double => rfl
  | .string _ => rfl
  | .array [] => simp [events, valueEvents, put, write, text]
  | .array (first :: values) =>
      have later := foldl_valueEvents values
        (writer.separate.output ++ ['['] ++ first.text) 0 writer.separate.levels
      simp only [events, valueEvents, List.foldl_cons, List.append_assoc]
      rw [List.foldl_append, foldl_events first]
      simp only [put_startArray, separate_first, write, text]
      simpa using later
  | .object [] => simp [events, memberEvents, put, write, text]
  | .object ((name, first) :: members) =>
      have later := foldl_memberEvents members
        (writer.separate.output ++ ['{'] ++ quote name ++ [':'] ++ first.text) 0
        writer.separate.levels
      have colon := separate_member_value (writer.separate.output ++ ['{'] ++ quote name) 0
        writer.separate.levels
      simp only [Nat.mul_zero, Nat.zero_add] at colon
      simp only [events, memberEvents, List.cons_append, List.foldl_cons, List.append_assoc]
      rw [List.foldl_append, foldl_events first]
      simp only [put_startObject, put_string, separate_first, write]
      rw [colon]
      simpa [text] using later

/-- The rest of an array, from a writer that has written its first value. -/
theorem foldl_valueEvents (values : List Json) (output : List Char) (count : Nat)
    (outer : List Level) :
    (valueEvents values ++ [Event.endArray]).foldl put ⟨output, ⟨true, count + 1⟩ :: outer⟩ =
      ⟨output ++ laterValues values, outer⟩ := by
  match values with
  | [] => simp [valueEvents, put, write, laterValues]
  | value :: values =>
      have later := foldl_valueEvents values (output ++ [','] ++ value.text) (count + 1) outer
      simp only [valueEvents, List.append_assoc]
      rw [List.foldl_append, foldl_events value, separate_later_value]
      simp only [write, laterValues]
      simpa using later

/-- The rest of an object, from a writer that has written its first member. -/
theorem foldl_memberEvents (members : List (List Char × Json)) (output : List Char)
    (count : Nat) (outer : List Level) :
    (memberEvents members ++ [Event.endObject]).foldl put
        ⟨output, ⟨false, 2 * (count + 1)⟩ :: outer⟩ =
      ⟨output ++ laterMembers members, outer⟩ := by
  match members with
  | [] => simp [memberEvents, put, write, laterMembers]
  | (name, value) :: members =>
      have later := foldl_memberEvents members
        (output ++ [','] ++ quote name ++ [':'] ++ value.text) (count + 1) outer
      have colon := separate_member_value (output ++ [','] ++ quote name) (count + 1) outer
      simp only [memberEvents, List.cons_append, List.foldl_cons, List.append_assoc]
      rw [List.foldl_append, foldl_events value, put_string, separate_later_name]
      simp only [write]
      rw [colon]
      simpa [laterMembers] using later

end

/-- Driving a fresh writer along a value writes exactly its text. -/
theorem run_events (value : Json) : run value.events = value.text := by
  unfold run
  rw [foldl_events]
  simp [start, separate]

end Writer

/-! ## The letters of a text -/

/-- Digits, signs, brackets, separators and the letters of the three literals:
what a text contains besides its strings. -/
def Structural (letter : Char) : Prop :=
  letter.isDigit = true ∨ letter ∈ ['-', '.', '[', ']', '{', '}', ',', ':', '"',
    'n', 'u', 'l', 't', 'r', 'e', 'f', 'a', 's']

/-- Every letter of a decimal is structural. -/
theorem structural_of_mem_decimal {value : Int} {letter : Char}
    (member : letter ∈ decimal value) : Structural letter := by
  have digits : letter ∈ Nat.toDigits 10 value.natAbs → Structural letter := fun inside =>
    .inl (Nat.isDigit_of_mem_toDigits (by decide) (by decide) inside)
  unfold decimal at member
  split at member
  · rcases List.mem_cons.mp member with rfl | inside
    · exact .inr (by simp)
    · exact digits inside
  · exact digits member

mutual

/-- Every string of the value, names included, satisfies `property`. -/
def StringsSatisfy (property : List Char → Prop) : Json → Prop
  | string value => property value
  | array values => ValuesSatisfy property values
  | object members => MembersSatisfy property members
  | _ => True

/-- Every string in a list of values satisfies `property`. -/
def ValuesSatisfy (property : List Char → Prop) : List Json → Prop
  | [] => True
  | value :: values => StringsSatisfy property value ∧ ValuesSatisfy property values

/-- Every string in a list of members satisfies `property`. -/
def MembersSatisfy (property : List Char → Prop) : List (List Char × Json) → Prop
  | [] => True
  | (name, value) :: members =>
    property name ∧ StringsSatisfy property value ∧ MembersSatisfy property members

end

/-- Values made one by one satisfy a property when each of them does. -/
theorem valuesSatisfy_map {property : List Char → Prop} {α : Type} {make : α → Json}
    {items : List α} (each : ∀ item ∈ items, StringsSatisfy property (make item)) :
    ValuesSatisfy property (items.map make) := by
  induction items with
  | nil => trivial
  | cons item rest inductionHypothesis =>
      exact ⟨each item List.mem_cons_self,
        inductionHypothesis fun other member => each other (List.mem_cons_of_mem item member)⟩

mutual

/-- What holds of every string holds of the strings of a value. -/
theorem stringsSatisfy_of_forall {property : List Char → Prop} (all : ∀ string, property string)
    (value : Json) : StringsSatisfy property value := by
  match value with
  | .null | .bool _ | .number _ | .double => trivial
  | .string value => exact all value
  | .array values => exact valuesSatisfy_of_forall all values
  | .object members => exact membersSatisfy_of_forall all members

theorem valuesSatisfy_of_forall {property : List Char → Prop} (all : ∀ string, property string)
    (values : List Json) : ValuesSatisfy property values := by
  match values with
  | [] => trivial
  | value :: values =>
      exact ⟨stringsSatisfy_of_forall all value, valuesSatisfy_of_forall all values⟩

theorem membersSatisfy_of_forall {property : List Char → Prop} (all : ∀ string, property string)
    (members : List (List Char × Json)) : MembersSatisfy property members := by
  match members with
  | [] => trivial
  | (name, value) :: members =>
      exact ⟨all name, stringsSatisfy_of_forall all value, membersSatisfy_of_forall all members⟩

end

section Letters

variable {allowed : Char → Prop}

/-- A quoted string has allowed letters when its escaped letters are allowed. -/
theorem quote_forall (structural : ∀ letter, Structural letter → allowed letter)
    {value : List Char}
    (escaped : ∀ letter ∈ value.flatMap escape, allowed letter) :
    ∀ letter ∈ quote value, allowed letter := by
  intro letter member
  simp only [quote, List.mem_cons, List.mem_append, List.not_mem_nil, or_false] at member
  rcases member with rfl | inside | rfl
  · exact structural _ (.inr (by simp))
  · exact escaped letter inside
  · exact structural _ (.inr (by simp))

/-- Structural letters given in full are allowed. -/
theorem literal_forall (structural : ∀ letter, Structural letter → allowed letter)
    {letters : List Char} (all : ∀ letter ∈ letters, Structural letter) :
    ∀ letter ∈ letters, allowed letter := fun letter member =>
  structural letter (all letter member)

mutual

/-- When every escaped string of a value has allowed letters, so has its text. -/
theorem text_forall (structural : ∀ letter, Structural letter → allowed letter)
    (value : Json)
    (strings : StringsSatisfy (fun string => ∀ letter ∈ string.flatMap escape, allowed letter)
      value) :
    ∀ letter ∈ value.text, allowed letter := by
  match value, strings with
  | .null, _ => exact literal_forall structural (by simp [text, Structural])
  | .bool true, _ => exact literal_forall structural (by simp [text, Structural])
  | .bool false, _ => exact literal_forall structural (by simp [text, Structural])
  | .double, _ => exact literal_forall structural (by simp [text, Structural])
  | .number _, _ => exact fun letter member => structural letter (structural_of_mem_decimal member)
  | .string _, strings => exact quote_forall structural strings
  | .array [], _ => exact literal_forall structural (by simp [text, Structural])
  | .array (first :: values), strings =>
      obtain ⟨firstStrings, laterStrings⟩ := strings
      intro letter member
      simp only [text, List.mem_cons, List.mem_append] at member
      rcases member with rfl | member | member
      · exact structural _ (.inr (by simp))
      · exact text_forall structural first firstStrings letter member
      · exact laterValues_forall structural values laterStrings letter member
  | .object [], _ => exact literal_forall structural (by simp [text, Structural])
  | .object ((name, first) :: members), strings =>
      obtain ⟨nameString, firstStrings, laterStrings⟩ := strings
      intro letter member
      simp only [text, List.mem_cons, List.mem_append] at member
      rcases member with rfl | member | rfl | member | member
      · exact structural _ (.inr (by simp))
      · exact quote_forall structural nameString letter member
      · exact structural _ (.inr (by simp))
      · exact text_forall structural first firstStrings letter member
      · exact laterMembers_forall structural members laterStrings letter member

theorem laterValues_forall (structural : ∀ letter, Structural letter → allowed letter)
    (values : List Json)
    (strings : ValuesSatisfy (fun string => ∀ letter ∈ string.flatMap escape, allowed letter)
      values) :
    ∀ letter ∈ laterValues values, allowed letter := by
  match values, strings with
  | [], _ => exact literal_forall structural (by simp [laterValues, Structural])
  | value :: values, strings =>
      obtain ⟨valueStrings, laterStrings⟩ := strings
      intro letter member
      simp only [laterValues, List.mem_cons, List.mem_append] at member
      rcases member with rfl | member | member
      · exact structural _ (.inr (by simp))
      · exact text_forall structural value valueStrings letter member
      · exact laterValues_forall structural values laterStrings letter member

theorem laterMembers_forall (structural : ∀ letter, Structural letter → allowed letter)
    (members : List (List Char × Json))
    (strings : MembersSatisfy (fun string => ∀ letter ∈ string.flatMap escape, allowed letter)
      members) :
    ∀ letter ∈ laterMembers members, allowed letter := by
  match members, strings with
  | [], _ => exact literal_forall structural (by simp [laterMembers, Structural])
  | (name, value) :: members, strings =>
      obtain ⟨nameString, valueStrings, laterStrings⟩ := strings
      intro letter member
      simp only [laterMembers, List.mem_cons, List.mem_append] at member
      rcases member with rfl | member | rfl | member | member
      · exact structural _ (.inr (by simp))
      · exact quote_forall structural nameString letter member
      · exact structural _ (.inr (by simp))
      · exact text_forall structural value valueStrings letter member
      · exact laterMembers_forall structural members laterStrings letter member

end

end Letters

/-! ## No control letters -/

/-- A letter that is no control letter. -/
def Printable (letter : Char) : Prop := 32 ≤ letter.toNat

instance : DecidablePred Printable := fun letter => inferInstanceAs (Decidable (32 ≤ letter.toNat))

theorem printable_of_structural {letter : Char} (structural : Structural letter) :
    Printable letter := by
  rcases structural with digit | listed
  · have low : 48 ≤ letter.toNat := by
      simp only [Char.isDigit, Bool.and_eq_true, decide_eq_true_eq] at digit
      exact digit.1
    unfold Printable
    omega
  · exact List.all_iff_forall_prop.mp (by decide) letter listed

theorem printable_hexDigit {value : Nat} (small : value < 16) : Printable (hexDigit value) := by
  revert value
  decide

/-- An escape never contains a control letter. -/
theorem printable_of_mem_escape {letter written : Char} (member : written ∈ escape letter) :
    Printable written := by
  unfold escape at member
  -- The escapes of two letters.
  iterate 7
    split at member
    · exact List.all_iff_forall_prop.mp (by decide) written member
  split at member
  · next control =>
      simp only [List.mem_cons, List.not_mem_nil, or_false] at member
      rcases member with rfl | rfl | rfl | rfl | rfl | rfl
      · decide
      · decide
      · decide
      · decide
      · exact printable_hexDigit (by omega)
      · exact printable_hexDigit (by omega)
  · next printable =>
      rw [List.mem_singleton] at member
      subst member
      exact Nat.le_of_not_lt printable

/-- No text contains a control letter. -/
theorem printable_of_mem_text (value : Json) : ∀ letter ∈ value.text, Printable letter := by
  refine text_forall (fun letter structural => printable_of_structural structural) value ?_
  refine stringsSatisfy_of_forall (fun string letter member => ?_) value
  obtain ⟨source, _, written⟩ := List.mem_flatMap.mp member
  exact printable_of_mem_escape written

end Json
end CheckerOlimp.Std
