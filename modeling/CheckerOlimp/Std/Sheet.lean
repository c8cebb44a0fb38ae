import CheckerOlimp.Std.Sql
import Mathlib.Data.Fin.Tuple.Basic
import Mathlib.Data.List.Perm.Basic

/-!
# Tables of typed rows

A sheet says how values of a type are kept in the rows of a table. In a database that
holds values by a sheet, a selection by a column of integers finds the values with the
wanted integer, in an order of the server's own.
-/

namespace CheckerOlimp.Std

theorem Json.decimal_injective : Function.Injective Json.decimal := by
  intro left right same
  have back : ∀ number : Nat, Nat.ofDigitChars 10 (Nat.toDigits 10 number) 0 = number := fun _ =>
    Nat.ofDigitChars_ten_toDigits
  have sign : ∀ number : Nat, (Nat.toDigits 10 number).head? ≠ some '-' := by
    intro number starts
    have digit := Nat.isDigit_of_mem_toDigits (b := 10) (n := number) (by decide) (by decide)
      (List.mem_of_head? starts)
    exact absurd digit (by decide)
  unfold Json.decimal at same
  split at same <;> split at same
  · have digits := congrArg (fun text => Nat.ofDigitChars 10 text 0) (List.cons.inj same).2
    simp only [back] at digits
    omega
  · exact absurd (congrArg List.head? same).symm (sign _)
  · exact absurd (congrArg List.head? same) (sign _)
  · have digits := congrArg (fun text => Nat.ofDigitChars 10 text 0) same
    simp only [back] at digits
    omega

namespace Sql

/-! ## Rows that are found by a key -/

/-- Where a key belongs to one value at most, there is one value to find. -/
theorem filter_eq_find? {α β : Type} [DecidableEq β] {key : α → β} {values : List α}
    (unique : (values.map key).Nodup) (wanted : β) :
    values.filter (key · = wanted) = (values.find? (key · = wanted)).toList := by
  induction values with
  | nil => rfl
  | cons value rest inductionHypothesis =>
      obtain ⟨absent, unique⟩ := List.nodup_cons.mp unique
      rw [List.filter_cons, List.find?_cons]
      by_cases same : key value = wanted
      · have others : rest.filter (key · = wanted) = [] := by
          rw [List.filter_eq_nil_iff]
          intro other member equal
          refine absent (List.mem_map.mpr ⟨other, member, ?_⟩)
          rw [same, of_decide_eq_true equal]
        simp [same, others]
      · simp [same, inductionHypothesis unique]

/-- A value is found by its own key. -/
theorem find?_of_mem {α β : Type} [DecidableEq β] {key : α → β} {values : List α}
    (unique : (values.map key).Nodup) {value : α} (member : value ∈ values) :
    values.find? (key · = key value) = some value := by
  have found : value ∈ values.filter (key · = key value) :=
    List.mem_filter.mpr ⟨member, decide_eq_true rfl⟩
  rw [filter_eq_find? unique, Option.mem_toList] at found
  exact found

/-- Cells of two kinds are set in their own columns. -/
theorem update_append {α : Type} {left right : Nat} (first : Fin left → α) (second : Fin right → α)
    (index : Fin left) (index' : Fin right) (value value' : α) :
    Function.update (Function.update (Fin.append first second) (Fin.natAdd left index') value')
        (Fin.castAdd right index) value =
      Fin.append (Function.update first index value) (Function.update second index' value') := by
  have apart : ∀ (i : Fin left) (j : Fin right), Fin.castAdd right i ≠ Fin.natAdd left j := by
    intro i j equal
    have places := congrArg Fin.val equal
    simp only [Fin.val_castAdd, Fin.val_natAdd] at places
    omega
  funext column
  refine Fin.addCases (fun i => ?_) (fun j => ?_) column
  · rw [Fin.append_left]
    by_cases same : i = index
    · rw [same, Function.update_self, Function.update_self]
    · rw [Function.update_of_ne same, Function.update_of_ne, Function.update_of_ne (apart _ _),
        Fin.append_left]
      exact fun equal => same (Fin.castAdd_injective _ _ equal)
  · rw [Fin.append_right, Function.update_of_ne (apart _ _).symm]
    by_cases same : j = index'
    · rw [same, Function.update_self, Function.update_self]
    · rw [Function.update_of_ne same, Function.update_of_ne, Fin.append_right]
      exact fun equal => same (Fin.natAdd_injective _ _ equal)

/-- Rows that are written from values come in an order of the values. -/
theorem Order.exists_arrange_map {α : Type} (order : Order) (write : α → Row) (values : List α) :
    ∃ found : List α, order.arrange (values.map write) = found.map write ∧ found.Perm values := by
  have perm := order.perm (values.map write)
  exact (congrFun₂ (List.eq_map_comp_perm write) (order.arrange (values.map write)) values).mpr perm

/-! ## Sheets -/

/-- How values are kept in the rows of a table. -/
structure Sheet (α : Type) (width : Nat) where
  name : List Char
  columns : Fin width → List Char
  distinct : Function.Injective columns
  cells : α → Fin width → Option (List Char)

namespace Sheet

variable {α : Type} {width : Nat}

/-- The row with these cells. Columns that the sheet does not have are NULL. -/
def spread (self : Sheet α width) (cells : Fin width → Option (List Char)) : Row := fun column =>
  (Fin.find? fun index => self.columns index = column).bind cells

/-- The row of a value. -/
def row (self : Sheet α width) (value : α) : Row := self.spread (self.cells value)

/-- The table of values. -/
def table (self : Sheet α width) (values : List α) : Table :=
  ⟨List.ofFn self.columns, values.map self.row⟩

/-- The values are what the database keeps in the table. -/
def Holds (self : Sheet α width) (database : Database) (values : List α) : Prop :=
  database self.name = some (self.table values)

@[simp] theorem spread_columns (self : Sheet α width) (cells : Fin width → Option (List Char))
    (index : Fin width) : self.spread cells (self.columns index) = cells index := by
  have found : (Fin.find? fun other => decide (self.columns other = self.columns index)) =
      some index := by
    rw [Fin.find?_eq_some_iff]
    refine ⟨decide_eq_true rfl, fun other before => decide_eq_false fun same => ?_⟩
    exact absurd (self.distinct same) (Fin.ne_of_lt before)
  rw [spread, found, Option.bind_some]

@[simp] theorem row_columns (self : Sheet α width) (value : α) (index : Fin width) :
    self.row value (self.columns index) = self.cells value index :=
  self.spread_columns (self.cells value) index

/-- A cell is set in the column that it belongs to. -/
theorem update_spread (self : Sheet α width) (cells : Fin width → Option (List Char))
    (index : Fin width) (cell : Option (List Char)) :
    Function.update (self.spread cells) (self.columns index) cell =
      self.spread (Function.update cells index cell) := by
  funext column
  by_cases own : column = self.columns index
  · rw [own, Function.update_self, spread_columns, Function.update_self]
  · rw [Function.update_of_ne own]
    unfold spread
    cases found : Fin.find? fun other => decide (self.columns other = column) with
    | none => rfl
    | some other =>
        have named : self.columns other = column :=
          of_decide_eq_true (Fin.find?_eq_some_iff.mp found).1
        have different : other ≠ index := fun same => own (same ▸ named.symm)
        rw [Option.bind_some, Option.bind_some, Function.update_of_ne different]

/-- The rows that equal an integer in a column of integers. -/
theorem holds_row {self : Sheet α width} {index : Fin width} {number : α → Int}
    (numeric : ∀ value, self.cells value index = some (Json.decimal (number value)))
    (wanted : Int) (value : α) :
    Equation.holds ⟨self.columns index, .integer wanted⟩ (self.row value) =
      decide (number value = wanted) := by
  simp [Equation.holds, Value.cell, numeric, Json.decimal_injective.eq_iff]

/-- A selection without a limit by a column of integers. -/
theorem Holds.execute {self : Sheet α width} {database : Database} {values : List α}
    (holds : self.Holds database values) (order : Order) (columns : List (Fin width))
    {index : Fin width} {number : α → Int}
    (numeric : ∀ value, self.cells value index = some (Json.decimal (number value)))
    (wanted : Int) :
    ∃ found : List α, found.Perm (values.filter (number · = wanted)) ∧
      Select.execute ⟨columns.map self.columns, self.name,
          some ⟨self.columns index, .integer wanted⟩, none⟩ order database =
        some (found.map fun value => columns.map (self.cells value)) := by
  have rows : (values.map self.row).filter
        (Equation.holds ⟨self.columns index, .integer wanted⟩) =
      (values.filter (number · = wanted)).map self.row := by
    rw [List.filter_map]
    congr 1
    exact List.filter_congr fun value _ => holds_row numeric wanted value
  have known : ∀ column : Fin width, self.columns column ∈ (self.table values).columns :=
    fun column => List.mem_ofFn.mpr ⟨column, rfl⟩
  obtain ⟨found, arranged, perm⟩ :=
    order.exists_arrange_map self.row (values.filter (number · = wanted))
  refine ⟨found, perm, ?_⟩
  have names : Select.names ⟨columns.map self.columns, self.name,
      some ⟨self.columns index, .integer wanted⟩, none⟩ ⊆ (self.table values).columns := by
    intro name member
    rcases List.mem_append.mp member with listed | compared
    · obtain ⟨column, _, rfl⟩ := List.mem_map.mp listed
      exact known column
    · rw [List.mem_singleton.mp compared]
      exact known index
  have kept : database self.name = some (self.table values) := holds
  have listed : Select.found ⟨columns.map self.columns, self.name,
      some ⟨self.columns index, .integer wanted⟩, none⟩ order (self.table values).rows =
      found.map self.row := by
    simp only [Select.found, Option.all_some, table, rows, arranged]
  simp only [Select.execute, kept, Option.bind_eq_bind, Option.bind_some, if_pos names, listed,
    List.map_map, Option.pure_def]
  congr 1
  apply List.map_congr_left
  intro value _
  simp

end Sheet
end Sql
end CheckerOlimp.Std
