import CheckerOlimp.Std.Program
import Mathlib.Algebra.Ring.Int.Defs
import Mathlib.Algebra.Ring.Nat

/-!
# The Win32 environment

The two programs are configured for Win32 alone, so `size_t` and `DWORD` are 32
bits wide. `Windows` is everything the judge asks of its environment, over an
arbitrary world: a theorem about every `Windows` and every world is a theorem
about every sequence of answers the environment can give.
-/

namespace CheckerOlimp

open CheckerOlimp.Std

/-- `std::string`: a sequence of characters without further structure. -/
abbrev Str := List Char

/-- `size_t` on Win32. -/
abbrev SizeT := UInt32

/-- `DWORD`. -/
abbrev Dword := UInt32

/-- `ULONGLONG`. -/
abbrev Ulonglong := UInt64

/-- `FILETIME`: a 64-bit count of 100 ns intervals in two halves. -/
structure Filetime where
  dwLowDateTime : Dword
  dwHighDateTime : Dword
deriving DecidableEq, Repr

/-- `STILL_ACTIVE`: the exit code that Windows reports for a running process. -/
def stillActive : Dword := 259

/-- The clocks read on one turn of a monitor loop. -/
structure Clocks where
  kernelTime : Filetime
  userTime : Filetime
  /-- `GetTickCount()`. -/
  tickCount : Dword
deriving DecidableEq, Repr

/-- What one turn of the contestant's monitor reads of the process. -/
structure Poll extends Clocks where
  /-- The value of `get_exit_code`. -/
  exitCode : Dword
  /-- `pmc.WorkingSetSize`, or `none` when `GetProcessMemoryInfo` fails. -/
  workingSetSize : Option SizeT
deriving DecidableEq, Repr

/-- What one turn of the checker's monitor reads of the process. -/
structure CheckerPoll extends Clocks where
  /-- The value written by `GetExitCodeProcess`, or `none` when the call fails
  and leaves the variable as it was. -/
  exitCode : Option Dword
deriving DecidableEq, Repr

/-- A started contestant program: the tick count taken before the first poll,
and what the polls read for as long as the loop polls. -/
structure Launch where
  timeStart : Dword
  polls : List Poll
deriving DecidableEq, Repr

/-- A started checker. `CreateProcess` may have failed: the loop polls anyway. -/
structure CheckerLaunch where
  timeStart : Dword
  polls : List CheckerPoll
deriving DecidableEq, Repr

/-- A compiler run behind `_popen`: all it prints, whether reading ended at the
end of the output, and its exit status. -/
structure Pipe where
  output : Str
  endOfFile : Bool
  status : Dword
deriving DecidableEq, Repr

/-- The environment of the judge, over an arbitrary world. -/
structure Windows (World : Type) where
  /-- `std::ifstream file(path)`: the content up to its end, or `none` when the
  file does not open. -/
  ifstream : Str → World → Option Str × World
  /-- `std::ofstream file(path)` filled with a content; `false` when the file
  does not open. -/
  ofstream : Str → Str → World → Bool × World
  /-- `remove(path)`. -/
  remove : Str → World → World
  /-- `GetFullPathName(path)`: what it leaves in the buffer, or `none` when it
  returns 0. -/
  getFullPathName : Str → World → Option Str × World
  /-- `_popen(command)`, read until `fgets` returns `nullptr`. -/
  popen : Str → World → Option Pipe × World
  /-- `CreateProcess(application, directory)` for the contestant's program,
  with the polls of its monitor and the world in which the loop leaves it. -/
  createProcess : Str → Str → World → Option Launch × World
  /-- `CreateProcess(nullptr, commandLine)` for a checker, likewise. -/
  createChecker : Str → World → CheckerLaunch × World

/-- The ways in which a call into the judge ends without returning. -/
inductive Halt where
  /-- `checker_assert` failed: `exit(1)`. -/
  | assertion
  /-- A monitor loop is still polling when its readings end. -/
  | polling
  /-- The language or a library leaves the behaviour undefined. -/
  | undefined
deriving DecidableEq, Repr

/-- A function of the judge over a world. -/
abbrev Judge (World α : Type) := Program Halt World α

/-- `checker_assert(expression)`. -/
def checkerAssert {World : Type} (expression : Bool) : Judge World Unit :=
  if expression then pure () else Program.stop .assertion

@[simp] theorem returns_checkerAssert_iff {World : Type} {expression : Bool}
    {before after : World} {result : Unit} :
    Program.Returns (checkerAssert expression) before result after ↔
      expression = true ∧ after = before := by
  cases expression <;> simp [checkerAssert]

@[simp] theorem checkerAssert_true {World : Type} :
    (checkerAssert true : Judge World Unit) = pure () := rfl

@[simp] theorem checkerAssert_false {World : Type} :
    (checkerAssert false : Judge World Unit) = Program.stop .assertion := rfl

/-- An assertion about equal values ends two runs alike. -/
theorem checkerAssert_coupled {World Other : Type} {related : World → Other → Prop}
    {expression : Bool} :
    Program.Coupled related Eq related (checkerAssert expression) (checkerAssert expression) := by
  cases expression with
  | false => exact Program.Coupled.stop Halt.assertion
  | true => exact Program.Coupled.pure rfl

/-! ## Text-mode streams

A stream opened without `std::ios::binary` translates line ends. -/

/-- A text-mode read: CR LF becomes LF, and the byte `0x1A` ends the file. -/
def textRead : Str → Str
  | [] => []
  | '\r' :: '\n' :: rest => '\n' :: textRead rest
  | head :: rest => if head = '\x1a' then [] else head :: textRead rest

/-- A text-mode write: LF becomes CR LF. -/
def textWrite : Str → Str
  | [] => []
  | head :: rest => if head = '\n' then '\r' :: '\n' :: textWrite rest else head :: textWrite rest

/-- A letter that is neither the CR of a line end nor `0x1A` is read as it is. -/
theorem textRead_cons {head : Char} {rest : Str} (apart : ∀ tail, head = '\r' → rest ≠ '\n' :: tail)
    (other : head ≠ '\x1a') : textRead (head :: rest) = head :: textRead rest := by
  rw [textRead.eq_3 head rest apart, if_neg other]

/-- A text without CR and `0x1A` is read as it is. -/
theorem textRead_of_plain {text : Str} (plain : ∀ letter ∈ text, letter ≠ '\r' ∧ letter ≠ '\x1a') :
    textRead text = text := by
  induction text with
  | nil => rfl
  | cons head rest inductionHypothesis =>
      have headPlain := plain head List.mem_cons_self
      have restPlain : ∀ letter ∈ rest, letter ≠ '\r' ∧ letter ≠ '\x1a' :=
        fun letter member => plain letter (List.mem_cons_of_mem _ member)
      rw [textRead_cons (fun _ same => absurd same headPlain.1) headPlain.2,
        inductionHypothesis restPlain]

/-- A text without CR and `0x1A` survives a text-mode write and read. -/
theorem textRead_textWrite {text : Str}
    (plain : ∀ letter ∈ text, letter ≠ '\r' ∧ letter ≠ '\x1a') :
    textRead (textWrite text) = text := by
  induction text with
  | nil => rfl
  | cons head rest inductionHypothesis =>
      have headPlain := plain head List.mem_cons_self
      have restPlain : ∀ letter ∈ rest, letter ≠ '\r' ∧ letter ≠ '\x1a' :=
        fun letter member => plain letter (List.mem_cons_of_mem _ member)
      by_cases newline : head = '\n'
      · subst newline
        simp [textWrite, textRead, inductionHypothesis restPlain]
      · simp only [textWrite, newline, ↓reduceIte]
        rw [textRead_cons (fun _ same => absurd same headPlain.1) headPlain.2,
          inductionHypothesis restPlain]

end CheckerOlimp
