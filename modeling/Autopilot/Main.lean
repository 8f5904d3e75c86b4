import Autopilot.CommandLine
import Autopilot.Json.Writer
import Std.Time.DateTime.Timestamp

/-!
The program. It takes texts, variables and the time of day from the machine that it
runs on, and waits as long as a rehearsal says that it takes.
-/

namespace Autopilot.Program

/-- Why the machine would not read a file. -/
def readFault : IO.Error → ReadFault
  | .noFileOrDirectory .. => .notFound
  | .inappropriateType _ code _ => if code = 21 then .isDirectory else .notDirectory
  | .permissionDenied .. => .other "Permission denied (os error 13)"
  | error => .other (toString error)

def readText (path : Path) : IO (Except ReadFault String) := do
  if path.text.toList.contains '\x00' then return .error .nulInName
  if path.text.utf8ByteSize > 4095 then return .error .nameTooLong
  try
    match String.fromUTF8? (← IO.FS.readBinFile path.text) with
    | some text => return .ok text
    | none => return .error .notText
  catch error => return .error (readFault error)

def surroundings : Surroundings IO := { read := readText, lookup := fun name => IO.getEnv name }

def presentTime : IO Instant := do
  let nanoseconds := (← Std.Time.Timestamp.now).toNanosecondsSinceUnixEpoch.val
  return ⟨nanoseconds / 1000000000, (nanoseconds % 1000000000).toNat⟩

/-- Says on the error stream what went wrong. -/
def fail (report : CommandLine.Report) : IO UInt32 := do
  (← IO.getStderr).putStr report.text
  return 1

def run (config : Config) (sessionId sequenceId : String) (respectTriggers : Bool) :
    IO UInt32 := do
  let seed ← IO.rand 0 (Nat.pow 2 64 - 1)
  let time ← presentTime
  match CommandLine.rehearse config time seed sessionId sequenceId respectTriggers with
  | .error report => fail report
  | .ok finished =>
    IO.sleep (min finished.elapsedMs (Nat.pow 2 32 - 1)).toUInt32
    (← IO.getStdout).putStr (finished.result.toJson.pretty 0 ++ "\n")
    return 0

/-- Lets the tasks in the background go on, second by second, until the program is
stopped. -/
partial def goOn (w : Rehearsal.World) : IO UInt32 := do
  IO.sleep 1000
  goOn (Rehearsal.World.sleep 1000 w).2

/-- Polls the triggers of a configuration. -/
def serve (config : Config) : IO UInt32 := do
  let w := { Rehearsal.World.ofConfig config (← presentTime) with flows := true }
  goOn (Service.start w).2

/-- Loads the configuration and goes on with it. -/
def withConfig (path : Path) (act : Config → IO UInt32) : IO UInt32 := do
  match ← CommandLine.prepare surroundings path with
  | .error report => fail report
  | .ok config => act config

end Autopilot.Program

open Autopilot in
def main (arguments : List String) : IO UInt32 := do
  match CommandLine.request? arguments with
  | none =>
    (← IO.getStderr).putStr CommandLine.usageText
    return 2
  | some .help =>
    (← IO.getStdout).putStr CommandLine.usageText
    return 0
  | some .version =>
    (← IO.getStdout).putStr CommandLine.versionText
    return 0
  | some (.serve path) => Program.withConfig path Program.serve
  | some (.run path sessionId sequenceId respectTriggers) =>
    Program.withConfig path fun config =>
      Program.run config sessionId sequenceId respectTriggers
