import CheckerOlimp.Platform.Machine

/-!
# The contester's environment

The contester works on the files of a machine and on a database. It starts the
judge by a command line and reaches the database through SQL statements; what a
started process does to the files and what the server makes of a statement are
parameters.
-/

namespace CheckerOlimp

open CheckerOlimp.Std

/-- The database server. -/
structure Server (Database : Type) where
  /-- `mysql_query` of a statement without a result set: the database after it, or
  the text of `mysql_error`. -/
  query : Str → Database → Except Str Database

/-- The contester's environment. -/
structure Host (File Rest Database : Type) where
  machine : Machine File Rest
  /-- `system(command)`: the files when it returns. -/
  system : Str → World File Rest → World File Rest
  server : Server Database

/-- What the contester works on. -/
structure Site (File Rest Database : Type) where
  world : World File Rest
  database : Database

/-- A SELECT of the contester. -/
inductive Query where
  /-- One numeric column, of which every row is read. -/
  | ids (sql : Str)
  /-- Numeric columns and then text columns, of which the first row is read. -/
  | record (sql : Str) (numbers texts : Nat)
deriving DecidableEq, Repr

/-- The statement. -/
def Query.sql : Query → Str
  | .ids sql => sql
  | .record sql _ _ => sql

/-- The number of columns. -/
abbrev Query.width : Query → Nat
  | .ids _ => 1
  | .record _ numbers texts => numbers + texts

/-- What comes back for a SELECT with so many columns. -/
inductive Answer (width : Nat) where
  /-- `mysql_query` fails with this text of `mysql_error`. -/
  | failed (message : Str)
  /-- `mysql_store_result` gives no result. -/
  | unstored
  /-- The rows of the result; a field may be NULL. -/
  | rows (rows : List (Fin width → Option Str))

/-- The contester's environment with what comes back for its SELECTs. Other clients may
change the database at the same time. -/
structure Deployment (File Rest Database : Type) extends Host File Rest Database where
  select : (query : Query) → Database → Answer query.width × Database

/-- What the contester throws. -/
inductive Thrown where
  /-- `throw exception(message)`. -/
  | exception (message : Str)
  /-- `std::invalid_argument`. -/
  | invalidArgument
  /-- `std::out_of_range`. -/
  | outOfRange
  /-- Undefined behaviour. -/
  | undefined
deriving DecidableEq, Repr

/-- A function of the contester. -/
abbrev Contest (File Rest Database α : Type) := Program Thrown (Site File Rest Database) α

namespace Contest

variable {File Rest Database α : Type}

/-- An operation on the files. -/
def onFiles (operation : World File Rest → α × World File Rest) : Contest File Rest Database α :=
  Program.call fun site =>
    ((operation site.world).1, { site with world := (operation site.world).2 })

@[simp] theorem returns_onFiles_iff {operation : World File Rest → α × World File Rest}
    {before after : Site File Rest Database} {result : α} :
    Program.Returns (onFiles operation) before result after ↔
      result = (operation before.world).1 ∧
        after = { before with world := (operation before.world).2 } := by
  unfold onFiles
  rw [Program.returns_call_iff, Prod.mk.injEq]
  exact and_congr eq_comm eq_comm

end Contest

namespace Machine

variable {File Rest : Type} [DecidableEq File]

/-- A file written through `std::ofstream(path, std::ios::binary)`; nothing happens
when it does not open. -/
def writeBinary (machine : Machine File Rest) (path content : Str) (world : World File Rest) :
    World File Rest :=
  if machine.creatable (machine.fileOf path) then
    world.put (machine.fileOf path) (some content)
  else world

/-- A file that can be created holds what was written last. -/
theorem writeBinary_files_self {machine : Machine File Rest} {path : Str}
    (creatable : machine.creatable (machine.fileOf path) = true) (content : Str)
    (world : World File Rest) :
    (machine.writeBinary path content world).files (machine.fileOf path) = some content := by
  simp [writeBinary, creatable]

/-- Another file stays as it was. -/
theorem writeBinary_files_of_ne {machine : Machine File Rest} {path : Str} {file : File}
    (other : file ≠ machine.fileOf path) (content : Str) (world : World File Rest) :
    (machine.writeBinary path content world).files file = world.files file := by
  unfold writeBinary
  split
  · exact World.put_files_of_ne world _ other
  · rfl

end Machine
end CheckerOlimp
