import Autopilot.Config.Loader
import Autopilot.LogFilter
import Autopilot.Service

/-!
The command line: its arguments, and what comes of them. Options of the program stand
before the subcommand, and those of the subcommand after it. An error is reported with
what was being done and the causes behind it.
-/

namespace Autopilot.CommandLine

/-- What the arguments ask for. -/
inductive Request where
  | help
  | version
  | serve (config : Path)
  | run (config : Path) (sessionId sequenceId : String) (respectTriggers : Bool)
  deriving DecidableEq, Repr

def defaultConfig : Path := ⟨"automation.yaml"⟩

/-- Arguments of the subcommand read so far. -/
structure RunArguments where
  values : List String := []
  respectTriggers : Bool := false
  literal : Bool := false

/-- An argument that starts with a dash and is more than that is an option. -/
def isOption (argument : String) : Bool :=
  match argument.toList with
  | ['-'] => false
  | '-' :: _ => true
  | _ => false

/-- Reads the arguments of the subcommand. After two dashes all are values. -/
def runRequest (config : Path) (seen : RunArguments) : List String → Option Request
  | [] => match seen.values with
    | [sessionId, sequenceId] => some (.run config sessionId sequenceId seen.respectTriggers)
    | _ => none
  | argument :: rest =>
    if seen.literal || !isOption argument then
      if 2 ≤ seen.values.length then none
      else runRequest config { seen with values := seen.values ++ [argument] } rest
    else if argument = "--" then runRequest config { seen with literal := true } rest
    else if argument = "--respect-triggers" && !seen.respectTriggers then
      runRequest config { seen with respectTriggers := true } rest
    else if argument = "--help" || argument.startsWith "-h" then some .help
    else none

/-- The value of an option in the same argument; an equals sign may come before it. -/
def attached (text : List Char) : String :=
  match text with
  | '=' :: rest => String.ofList rest
  | text => String.ofList text

/-- The configuration that an option names; it may be named once, and not be empty. -/
def setConfig (config : Option Path) (value : String) : Option Path :=
  if config.isSome || value.isEmpty then none else some ⟨value⟩

/-- Help may be asked for by name, on a subcommand too. -/
def helpRequest (topics : List String) : Option Request :=
  if [[], ["run"], ["help"]].contains topics then some .help else none

/-- Reads the arguments of the program. -/
def programRequest (config : Option Path) : List String → Option Request
  | [] | ["--"] => some (.serve (config.getD defaultConfig))
  | "run" :: rest => runRequest (config.getD defaultConfig) {} rest
  | "help" :: topics => helpRequest topics
  | "-c" :: value :: rest | "--config" :: value :: rest =>
    if isOption value then none
    else (setConfig config value).bind fun config => programRequest (some config) rest
  | argument :: rest =>
    match argument.toList with
    | '-' :: 'c' :: value =>
      if value.isEmpty then none
      else (setConfig config (attached value)).bind fun config => programRequest (some config) rest
    | '-' :: '-' :: 'c' :: 'o' :: 'n' :: 'f' :: 'i' :: 'g' :: '=' :: value =>
      (setConfig config (String.ofList value)).bind fun config => programRequest (some config) rest
    | '-' :: 'V' :: _ => some .version
    | '-' :: 'h' :: _ => some .help
    | _ =>
      if argument = "--version" then some .version
      else if argument = "--help" then some .help
      else none

/-- The request in the arguments, unless they are misused. -/
def request? (arguments : List String) : Option Request := programRequest none arguments

def versionText : String := "emu-automation 0.3.0\n"

def usageText : String :=
  "Usage: emu-automation [-c CONFIG] [run SESSION SEQUENCE [--respect-triggers]]\n"

/-- An error and the causes behind it, outermost first. -/
structure Report where
  context : String
  causes : List String
  deriving DecidableEq, Repr

/-- Lines after the first are indented as far as its text. -/
def indented (first later text : String) : String :=
  first ++ ("\n" ++ later).intercalate (text.splitOn "\n")

def numbered (index : Nat) (cause : String) : String :=
  let number := toString index
  let room := String.ofList (List.replicate (5 - number.length) ' ')
  indented (room ++ number ++ ": ") "       " cause

def Report.text (report : Report) : String :=
  let causes := match report.causes with
    | [cause] => [indented "    " "    " cause]
    | causes => causes.zipIdx.map fun (cause, index) => numbered index cause
  "\n".intercalate (["Error: " ++ report.context, "", "Caused by:"] ++ causes) ++ "\n"

def loadReport (path : Path) (error : LoadError) : Report :=
  ⟨s!"loading {path.text}", error.message :: error.cause?.toList⟩

def levelReport (fault : LogFilter.Fault) : Report :=
  ⟨"invalid log level", match fault with
    | .level => [fault.message, fault.message]
    | .directive => [fault.message]⟩

def interruptionReport (i : Service.Interruption) : Report := ⟨i.context, [i.cause.message]⟩

/-- The configuration of a request, if its log level is one. -/
def prepare {m : Type → Type} [Monad m] (surroundings : Surroundings m) (path : Path) :
    m (Except Report Config) := do
  match ← Config.load surroundings path with
  | .error error => return .error (loadReport path error)
  | .ok config => match LogFilter.check config.logLevel with
    | .error fault => return .error (levelReport fault)
    | .ok () => return .ok config

/-- The result of a run, and how long it took. -/
structure Finished where
  result : RunResult
  elapsedMs : Nat

/-- Runs a sequence in the world of a configuration, from a time of day on. -/
def rehearse (config : Config) (time : Instant) (seed : Nat) (sessionId sequenceId : String)
    (respectTriggers : Bool) : Except Report Finished :=
  let w := { Rehearsal.World.ofConfig config time with flows := true, seed }
  match Service.runSequence sessionId sequenceId respectTriggers w with
  | (.error interruption, _) => .error (interruptionReport interruption)
  | (.ok result, w) => .ok ⟨result, w.clock⟩

end Autopilot.CommandLine
