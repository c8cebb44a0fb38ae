import CheckerOlimp.Platform.Win32
import Mathlib.Logic.Function.Basic

/-!
# A machine with files

`Machine` is a Windows environment whose world is a file store beside anything
else the programs may depend on. Paths name files; two paths may name one file.
A compiler run reports which files it wrote, and its type ensures that all
other files are as they were.
-/

namespace CheckerOlimp

/-- The files, byte for byte, and whatever else the behaviour of programs may
depend on. -/
structure World (File Rest : Type) where
  files : File → Option Str
  rest : Rest

namespace World

variable {File Rest : Type} [DecidableEq File]

/-- The world with one file replaced, or removed at `none`. -/
def put (world : World File Rest) (file : File) (content : Option Str) : World File Rest :=
  { world with files := Function.update world.files file content }

@[simp] theorem put_files_self (world : World File Rest) (file : File) (content : Option Str) :
    (world.put file content).files file = content := by
  simp [put]

theorem put_files_of_ne (world : World File Rest) {file other : File} (content : Option Str)
    (different : other ≠ file) : (world.put file content).files other = world.files other := by
  simp [put, different]

@[simp] theorem put_rest (world : World File Rest) (file : File) (content : Option Str) :
    (world.put file content).rest = world.rest := rfl

end World

/-- A compiler run started in the world `before`. -/
structure CompileRun {File Rest : Type} (before : World File Rest) where
  pipe : Pipe
  after : World File Rest
  written : File → Bool
  unwritten : ∀ file, written file = false → after.files file = before.files file

/-- A machine: how paths name files, and how the programs it starts behave. -/
structure Machine (File Rest : Type) where
  fileOf : Str → File
  fullPathName : Str → Option Str
  /-- A full path names the file that its path names. -/
  fileOf_fullPathName : ∀ {path full}, fullPathName path = some full → fileOf full = fileOf path
  /-- Whether a file can be created or truncated. -/
  creatable : File → Bool
  compile : Str → (before : World File Rest) → Option (CompileRun before)
  contestant : Str → Str → World File Rest → Option Launch × World File Rest
  checker : Str → World File Rest → CheckerLaunch × World File Rest

namespace Machine

variable {File Rest : Type} [DecidableEq File]

/-- The environment a machine gives to the judge. Files are opened in text mode;
removing an existing file succeeds. -/
def windows (machine : Machine File Rest) : Windows (World File Rest) where
  ifstream path world := ((world.files (machine.fileOf path)).map textRead, world)
  ofstream path content world :=
    if machine.creatable (machine.fileOf path) then
      (true, world.put (machine.fileOf path) (some (textWrite content)))
    else (false, world)
  remove path world := world.put (machine.fileOf path) none
  getFullPathName path world := (machine.fullPathName path, world)
  popen command world :=
    match machine.compile command world with
    | none => (none, world)
    | some run => (some run.pipe, run.after)
  createProcess := machine.contestant
  createChecker := machine.checker

@[simp] theorem windows_ifstream (machine : Machine File Rest) (path : Str)
    (world : World File Rest) :
    machine.windows.ifstream path world =
      ((world.files (machine.fileOf path)).map textRead, world) := rfl

/-- Reading a file changes nothing. -/
theorem world_of_ifstream {machine : Machine File Rest} {path : Str}
    {before after : World File Rest} {content : Option Str}
    (read : machine.windows.ifstream path before = (content, after)) : after = before :=
  (congrArg Prod.snd read).symm

@[simp] theorem windows_remove (machine : Machine File Rest) (path : Str)
    (world : World File Rest) :
    machine.windows.remove path world = world.put (machine.fileOf path) none := rfl

@[simp] theorem windows_getFullPathName (machine : Machine File Rest) (path : Str)
    (world : World File Rest) :
    machine.windows.getFullPathName path world = (machine.fullPathName path, world) := rfl

@[simp] theorem windows_createProcess (machine : Machine File Rest) :
    machine.windows.createProcess = machine.contestant := rfl

@[simp] theorem windows_createChecker (machine : Machine File Rest) :
    machine.windows.createChecker = machine.checker := rfl

theorem windows_ofstream (machine : Machine File Rest) (path content : Str)
    (world : World File Rest) :
    machine.windows.ofstream path content world =
      if machine.creatable (machine.fileOf path) then
        (true, world.put (machine.fileOf path) (some (textWrite content)))
      else (false, world) := rfl

end Machine
end CheckerOlimp
