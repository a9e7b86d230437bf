import Kindred.Command.Run
import Std.Time.DateTime.Timestamp

/-! The program on the terminal: files, the clock and the environment of the system. -/

namespace Kindred

/-- What an error of the system says about a file. -/
def FileError.ofSystem : IO.Error → FileError
  | .noFileOrDirectory .. => .notFound
  | .inappropriateType _ 20 _ => .notADirectory
  | .inappropriateType _ 21 _ => .isDirectory
  | .permissionDenied _ code _ => .other s!"Permission denied (os error {code})"
  | error => .other (toString error)

instance : FileAccess IO where
  readFile path := do
    try
      let bytes ← IO.FS.readBinFile path
      match String.fromUTF8? bytes with
      | some text => return .ok text
      | none => return .error .notText
    catch error => return .error (.ofSystem error)
  writeFile path text := do
    try
      IO.FS.writeFile path text
      return .ok ()
    catch error => return .error (.ofSystem error)
  fileExists path := do
    try
      let _ ← IO.FS.Handle.mk path .read
      return true
    catch _ => return false

instance : Terminal IO where
  print text := do
    let output ← IO.getStdout
    output.putStr text
    output.flush
  readLine := do (← IO.getStdin).getLine
  now := do
    let time ← Std.Time.Timestamp.now
    let nanos := time.toNanosecondsSinceUnixEpoch.val
    return ⟨nanos / 1000000000, (nanos % 1000000000).toNat⟩

/-- The name and the value of a variable, as the system lists them. -/
def splitVariable (entry : String) : String × String :=
  let name := entry.toList.takeWhile (· ≠ '=')
  (String.ofList name, String.ofList (entry.toList.drop (name.length + 1)))

/-- The variables of the environment. -/
def systemEnvironment : IO Environment := do
  match ← readFile "/proc/self/environ" with
  | .ok text => return (text.splitOn "\x00").filter (· ≠ "") |>.map splitVariable
  | .error _ => return []

/-- The places of the file that adds to the environment: here, and in the directories above. -/
def environmentFiles (directory : String) : List String :=
  let depth := (directory.splitOn "/").length
  (List.range depth).map fun steps => String.join (List.replicate steps "../") ++ ".env"

end Kindred

open Kindred in
/-- Runs the program on the arguments of the command line. -/
def main (arguments : List String) : IO UInt32 := do
  let directory ← IO.currentDir
  let outcome ← runProgram arguments (← systemEnvironment) (environmentFiles directory.toString)
  IO.eprint outcome.errorText
  return UInt32.ofNat outcome.exitCode
