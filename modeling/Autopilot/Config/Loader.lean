import Autopilot.Config
import Autopilot.Datum.Shown
import Autopilot.FileTree
import Autopilot.Text.Blank
import Autopilot.Yaml

/-!
Loading configurations from files. A node with the tag for inclusion is replaced by
the content of another file, one with the tag for a variable by that variable's
value. A file that is still being loaded may not be included.
-/

namespace Autopilot

/-- Why a configuration could not be loaded. -/
inductive LoadError where
  | unreadable (path : Path) (fault : ReadFault)
  | malformed (path : Path)
  | mismatch (path : Path) (fault : Fault)
  | badInclude (found : Datum)
  | circular (path : Path)
  | tooDeep (path : Path)
  | unset (name : String)
  | badVariable
  | defect (d : Config.Defect)
  deriving Repr

namespace LoadError

def message : LoadError → String
  | .unreadable path fault => s!"failed to read file {path.text}: {fault.message}"
  | .malformed path => s!"failed to parse YAML in {path.text}"
  | .mismatch path fault => s!"invalid configuration in {path.text}: {fault.message .yaml}"
  | .badInclude found => s!"invalid include path '{found.shown}': path must be a string"
  | .circular path => s!"circular include detected: {path.text}"
  | .tooDeep path => s!"too many includes: {path.text}"
  | .unset name => s!"environment variable '{name}' not set"
  | .badVariable =>
    "invalid configuration value for '!env_var': environment variable name must be a string"
  | .defect d => d.message

/-- The cause behind the error, where there is one. -/
def cause? : LoadError → Option String
  | .unreadable _ fault => some fault.message
  | .mismatch _ fault => some (fault.message .yaml)
  | _ => none

end LoadError

/-- Where texts and variables come from, and what is written in a text. -/
structure Surroundings (m : Type → Type) where
  read : Path → m (Except ReadFault String)
  lookup : String → m (Option String)
  parse : String → Option Datum := Yaml.parse?

/-- Loading keeps the files that are being loaded, innermost first. -/
abbrev Loading (m : Type → Type) (α : Type) := ExceptT LoadError (StateT (List Path) m) α

namespace Loading

variable {m : Type → Type} [Monad m]

/-- The value of a variable as a datum: a truth value or a number if it is written like
one, and else text. -/
def ofVariable (parse : String → Option Datum) (value : String) : Datum :=
  match parse value with
  | some (.bool b) => .bool b
  | some (.int n) => .int n
  | some (.real x) => .real x
  | _ => .text value

/-- A variable's name, and after white space what to take if it is not set. -/
def splitVariable (text : List Char) : String × Option String :=
  let text := Text.trim text
  let name := text.takeWhile (!Text.isBlank ·)
  match text.dropWhile (!Text.isBlank ·) with
  | [] => (String.ofList name, none)
  | rest => (String.ofList name, some (String.ofList (Text.trim rest)))

/-- The names that no variable can have. -/
def isVariableName (name : String) : Bool :=
  !name.isEmpty && name.toList.all fun c => c ≠ '=' && c ≠ '\x00'

def fromVariable (surroundings : Surroundings m) : Datum → Loading m Datum
  | .text text => do
    let (name, fallback) := splitVariable text.toList
    let value ← if isVariableName name then
        ExceptT.lift (StateT.lift (surroundings.lookup name))
      else pure none
    match value.or fallback with
    | some value => return ofVariable surroundings.parse value
    | none => throw (.unset name)
  | _ => throw .badVariable

/-- The path that a datum names, as seen from the directory of a file. -/
def included (base file : Path) : Datum → Loading m Path
  | .text text => return ((file.parent?.getD base).join ⟨text⟩)
  | found => throw (.badInclude found)

mutual

/-- Replaces all nodes with the two tags, in the order in which they are written. Keys
and other tags stay. -/
def expand (surroundings : Surroundings m) (base file : Path) (load : Path → Loading m Datum) :
    Datum → Loading m Datum
  | .tagged tag content => do
    if tag = "!include" then load (← included base file content)
    else if tag = "!env_var" then fromVariable surroundings content
    else return .tagged tag (← expand surroundings base file load content)
  | .table rows => return .table (← expandRows surroundings base file load rows)
  | .list items => return .list (← expandItems surroundings base file load items)
  | d => return d

def expandItems (surroundings : Surroundings m) (base file : Path)
    (load : Path → Loading m Datum) : List Datum → Loading m (List Datum)
  | [] => return []
  | item :: rest => do
    let item ← expand surroundings base file load item
    return item :: (← expandItems surroundings base file load rest)

def expandRows (surroundings : Surroundings m) (base file : Path)
    (load : Path → Loading m Datum) : List (Datum × Datum) → Loading m (List (Datum × Datum))
  | [] => return []
  | (key, value) :: rest => do
    let value ← expand surroundings base file load value
    return (key, value) :: (← expandRows surroundings base file load rest)

end

/-- Carries out a part of the loading, and leaves a file whatever its outcome. -/
def leaving (path : Path) (part : Loading m Datum) : Loading m Datum := do
  let outcome ← ExceptT.lift (ExceptT.run part)
  modify fun files => files.filter fun file => !file.same path
  match outcome with
  | .ok d => return d
  | .error error => throw error

/-- Loads the file of a path, relative to a base, with at most `depth` files inside each
other. -/
def file (surroundings : Surroundings m) (base : Path) : (depth : Nat) → Path → Loading m Datum
  | 0, path => throw (.tooDeep path)
  | depth + 1, path => do
    let path := base.join path
    if (← get).any fun file => file.same path then throw (.circular path)
    match ← ExceptT.lift (StateT.lift (surroundings.read path)) with
    | .error fault => throw (.unreadable path fault)
    | .ok text =>
      modify (path :: ·)
      leaving path <|
        match surroundings.parse text with
        | none => throw (.malformed path)
        | some d => expand surroundings base path (file surroundings base depth) d

end Loading

/-- The most files inside each other. -/
def maxIncludes : Nat := 100000

/-- The datum in a file, with everything included. -/
def loadDatum {m : Type → Type} [Monad m] (surroundings : Surroundings m) (base path : Path) :
    m (Except LoadError Datum) := do
  return (← (Loading.file surroundings base maxIncludes path).run.run []).1

namespace Config

/-- The configuration in a datum; an absent datum is the default one, under a tag too. -/
def ofDatum (path : Path) (d : Datum) : Except LoadError Config :=
  match d.untagged with
  | .null => .ok {}
  | _ => (Config.read .yaml d).mapError (.mismatch path)

/-- Loads and checks a configuration. Its directory is the base of all paths, of its own
too. -/
def load {m : Type → Type} [Monad m] (surroundings : Surroundings m) (path : Path) :
    m (Except LoadError Config) := do
  let base := path.parent?.getD ⟨"."⟩
  match ← loadDatum surroundings base path with
  | .error error => return .error error
  | .ok d => return do
    let config ← ofDatum path d
    config.validate.mapError .defect
    return config

end Config

end Autopilot
