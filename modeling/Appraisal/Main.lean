/-
The program: it hands its arguments and what is around it to `CommandLine.run` and prints what comes back.

Nothing is decided here. A file is read only if it is the one that an `--input` names, and only then. When
the settings of the service have been accepted, the address is printed; answering calls at it is left to
the host that the site is mounted in.
-/
import Std.Time.DateTime.Timestamp
import Appraisal.CommandLine.Run

set_option autoImplicit false

section

open Appraisal Appraisal.CommandLine

/-- The variables that the settings are made of. -/
def settingNames : List String :=
  ["APP_ENV", "APP_HOST", "APP_PORT", "APP_LOG_LEVEL", "APP_CACHE_MAX_ENTRIES"]

/-- The variables of the settings that are set, with their values. -/
def readVariables : IO (List (String × String)) := do
  let mut found := []
  for name in settingNames do
    if let some value ← IO.getEnv name then
      found := found ++ [(name, value)]
  return found

/-- The content of a file, or the reason why there is none. -/
def tryReadFile (path : String) : IO (Except String String) := do
  try
    return .ok (← IO.FS.readFile path)
  catch
    | .noFileOrDirectory .. => return .error "No such file or directory (os error 2)"
    | error => return .error (toString error)

/-- The files that the arguments name, with their contents. -/
def readFiles (arguments : List String) : IO (List (String × Except String String)) := do
  match CommandLine.read arguments with
  | some (.evaluate path _ _) => return [(path, ← tryReadFile path)]
  | _ => return []

/-- The present moment. -/
def readClock : IO String := do
  let now ← Std.Time.Timestamp.now
  return Timestamp.ofSeconds now.toSecondsSinceUnixEpoch.toInt.toNat

/-- Runs the program once. -/
def main (arguments : List String) : IO UInt32 := do
  let settings ← readVariables
  let files ← readFiles arguments
  let world : World :=
    { setting? := fun name => settings.lookup name
      fileText := fun path => (files.lookup path).getD (.error "not read")
      now := ← readClock }
  let outcome := run world arguments
  IO.print outcome.output
  IO.eprint outcome.complaint
  if let .serving _ address := outcome then
    IO.println address
  return outcome.code.toUInt32

end
