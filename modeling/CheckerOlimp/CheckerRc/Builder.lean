import CheckerOlimp.CheckerRc.Reader
import CheckerOlimp.Std.Text

/-!
# Building the contestant's program

A compiler is started through a pipe, and success is read off the text it
prints, with a rule of its own for each of the four compilers.
-/

namespace CheckerOlimp.CheckerRc

open CheckerOlimp.Std

variable {World : Type}

/-- The compiler name `msv_cpp`. -/
def msvCpp : Str := "msv_cpp".toList

/-- The compiler name `mingw_cpp`. -/
def mingwCpp : Str := "mingw_cpp".toList

/-- The compiler name `fp_pas`. -/
def fpPas : Str := "fp_pas".toList

/-- The compiler name `abc_pas`. -/
def abcPas : Str := "abc_pas".toList

/-- `exe_str`. -/
def exeStr : Str := ".exe".toList

/-- One replacement of `parse_compiler_config`: the first `$n` becomes a path. -/
def replacePlaceholder (compilerCommand placeholder path : Str) : Judge World Str := do
  let position ← Program.ofOption .assertion (Text.find placeholder compilerCommand)
  pure (Text.replace compilerCommand position 2 path)

/-- `parse_compiler_config`. -/
def parseCompilerConfig (profilePath sourceName compilerName compilerConfig : Str) :
    Judge World Str := do
  if compilerName = msvCpp ∨ compilerName = mingwCpp then
    let compilerCommand ← replacePlaceholder compilerConfig "$1".toList
      (restorePath profilePath sourceName)
    replacePlaceholder compilerCommand "$2".toList
      (restorePath profilePath (sourceName ++ exeStr))
  else if compilerName = fpPas ∨ compilerName = abcPas then
    replacePlaceholder compilerConfig "$1".toList (restorePath profilePath sourceName)
  else
    pure []

/-! ## Reading the compiler's output -/

/-- What one `fgets` takes: at most `count` letters, up to and with a line feed. -/
def takeLine : Nat → Str → Str × Str
  | 0, rest => ([], rest)
  | _ + 1, [] => ([], [])
  | count + 1, head :: rest =>
    if head = '\n' then ([head], rest)
    else (head :: (takeLine count rest).1, (takeLine count rest).2)

/-- `buffer_size` without the terminating NUL of `fgets`. -/
def bufferLength : Nat := 511

/-- The loop `while (fgets(...)) buffer_str += buffer;`, for at most `turns` turns:
every buffer is appended as a C string. -/
def readLines : Nat → Str → Str
  | 0, _ => []
  | _ + 1, [] => []
  | turns + 1, text =>
    cString (takeLine bufferLength text).1 ++ readLines turns (takeLine bufferLength text).2

/-- `buffer_str` at the end of the loop. A turn takes at least one letter, so the
length of the output bounds the number of turns. -/
def readPipe (output : Str) : Str := readLines output.length output

/-- `_popen`, and the loop that reads it; `none` when there is no pipe. -/
def runCompiler (windows : Windows World) (command : Str) : Judge World (Option (Str × Bool)) := do
  match ← Program.call (windows.popen command) with
  | none => pure none
  | some pipe => pure (some (readPipe pipe.output, pipe.endOfFile))

/-! ## The four compilers -/

/-- The path after a marker of the linker, up to the end of its line. -/
def scrapePath (text : Str) : Str := text.takeWhile (· ≠ '\n')

/-- `build_from_source` for `msv_cpp`. The path is left as it came when the text
ends with the marker. -/
def buildMsvCpp (windows : Windows World) (profilePath sourceName compilerName compilerConfig
    executableFilePath : Str) : Judge World (Bool × Str) := do
  let outStr := "/out:".toList
  let compilerCommand ← parseCompilerConfig profilePath sourceName compilerName compilerConfig
  match ← runCompiler windows compilerCommand with
  | none => pure (false, executableFilePath)
  | some (bufferStr, endOfFile) =>
    if !endOfFile then pure (false, executableFilePath)
    else if Text.find "fatal error".toList bufferStr ≠ none then pure (false, executableFilePath)
    else match Text.find outStr bufferStr with
      | none => pure (false, executableFilePath)
      | some position =>
        let start := position + outStr.length
        if start < bufferStr.length then pure (true, scrapePath (bufferStr.drop start))
        else pure (true, executableFilePath)

/-- `name[name.length() - back] != letter`; an index below 0 wraps and is out of
range. -/
def differsFromEnd (name : Str) (back : Nat) (letter : Char) : Judge World Bool :=
  if back ≤ name.length then
    Program.ofOption .undefined ((name[name.length - back]?).map fun found => found ≠ letter)
  else Program.stop .undefined

/-- The guard of the Pascal branches on a short source name, from left to right. -/
def rejectsPascalName (name : Str) : Judge World Bool := do
  if name.length < 5 then
    if ← differsFromEnd name 1 's' then return true
    if ← differsFromEnd name 2 'a' then return true
    if ← differsFromEnd name 3 'p' then return true
    differsFromEnd name 4 '.'
  else
    pure false

/-- `build_from_source` for the two Pascal compilers: `succeeds` is the rule that
the compiler's text is judged by. -/
def buildPascal (windows : Windows World) (succeeds : Str → Bool) (profilePath sourceName
    compilerName compilerConfig executableFilePath : Str) : Judge World (Bool × Str) := do
  let compilerCommand ← parseCompilerConfig profilePath sourceName compilerName compilerConfig
  match ← runCompiler windows compilerCommand with
  | none => pure (false, executableFilePath)
  | some (bufferStr, endOfFile) =>
    checkerAssert (!bufferStr.isEmpty)
    if !endOfFile then pure (false, executableFilePath)
    else if !succeeds bufferStr then pure (false, executableFilePath)
    else if ← rejectsPascalName sourceName then pure (false, executableFilePath)
    else
      let stem := sourceName.take (sourceName.length - ".pas".toList.length)
      pure (true, restorePath profilePath (stem ++ exeStr))

/-- `build_from_source` for `fp_pas`: no `Fatal:` in the text. -/
def buildFpPas (windows : Windows World) (profilePath sourceName compilerName compilerConfig
    executableFilePath : Str) : Judge World (Bool × Str) :=
  buildPascal windows (fun text => Text.find "Fatal:".toList text = none)
    profilePath sourceName compilerName compilerConfig executableFilePath

/-- `build_from_source` for `abc_pas`: some `OK` in the text. -/
def buildAbcPas (windows : Windows World) (profilePath sourceName compilerName compilerConfig
    executableFilePath : Str) : Judge World (Bool × Str) :=
  buildPascal windows (fun text => Text.find "OK".toList text ≠ none)
    profilePath sourceName compilerName compilerConfig executableFilePath

/-- `build_from_source` for `mingw_cpp`: no `error:` in the text. -/
def buildMingwCpp (windows : Windows World) (profilePath sourceName compilerName compilerConfig
    executableFilePath : Str) : Judge World (Bool × Str) := do
  let compilerCommand ← parseCompilerConfig profilePath sourceName compilerName compilerConfig
  match ← runCompiler windows (compilerCommand ++ " 2>&1".toList) with
  | none => pure (false, executableFilePath)
  | some (bufferStr, endOfFile) =>
    if !endOfFile then pure (false, executableFilePath)
    else if Text.find "error:".toList bufferStr ≠ none then pure (false, executableFilePath)
    else pure (true, restorePath profilePath (sourceName ++ exeStr))

/-- `build_from_source`: whether the build counts as successful, and
`executable_file_path`. -/
def buildFromSource (windows : Windows World) (profilePath sourceName compilerName compilerConfig
    executableFilePath : Str) : Judge World (Bool × Str) :=
  if compilerName = msvCpp then
    buildMsvCpp windows profilePath sourceName compilerName compilerConfig executableFilePath
  else if compilerName = fpPas then
    buildFpPas windows profilePath sourceName compilerName compilerConfig executableFilePath
  else if compilerName = abcPas then
    buildAbcPas windows profilePath sourceName compilerName compilerConfig executableFilePath
  else if compilerName = mingwCpp then
    buildMingwCpp windows profilePath sourceName compilerName compilerConfig executableFilePath
  else
    Program.stop .assertion

end CheckerOlimp.CheckerRc
