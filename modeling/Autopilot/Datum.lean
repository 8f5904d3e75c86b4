import Autopilot.Json
import Autopilot.Decimal
import Autopilot.Text.Quoted

/-!
A datum is a value as its text holds it, before it is read as a record: the
values of JSON, and what YAML adds to them: tables with keys of any kind and
tagged values. A fault says why a datum is not the record that was asked for.
-/

namespace Autopilot

/-- The notation a datum was written in. -/
inductive Origin where
  | json
  | yaml
  deriving DecidableEq, Repr

inductive Datum where
  | null
  | bool (value : Bool)
  | int (value : Int)
  | real (value : Float)
  | text (value : String)
  | list (items : List Datum)
  | table (rows : List (Datum × Datum))
  | tagged (tag : String) (content : Datum)
  deriving BEq, Inhabited, Repr

/-- What a fault says about the datum that it found. -/
inductive Shape where
  | null
  | bool (value : Bool)
  | int (value : Int)
  | real (value : Float)
  | text (value : String)
  | list
  | table
  | tagged
  deriving Repr

inductive Fault where
  | wrongType (found : Shape) (expected : String)
  | wrongValue (found : Shape) (expected : String)
  | wrongLength (length : Nat) (expected : String)
  | missingField (name : String)
  | duplicateField (name : String)
  | unknownVariant (name : String) (known : List String)
  | rejected (reason : String)
  deriving Repr

/-- JSON and YAML have different words for an absent value and for reals. -/
def Shape.describe (origin : Origin) : Shape → String
  | .null => match origin with
    | .json => "null"
    | .yaml => "unit value"
  | .bool b => s!"boolean `{b}`"
  | .int n => s!"integer `{n}`"
  | .real x =>
    let digits := match origin with
      | .json => Decimal.wire.text x
      | .yaml =>
        let digits := Decimal.plain.text x
        if digits.contains '.' then digits else digits ++ ".0"
    s!"floating point `{digits}`"
  | .text s => s!"string {Text.quoted s}"
  | .list => "sequence"
  | .table => "map"
  | .tagged => "enum"

def ticked (name : String) : String := "`" ++ name ++ "`"

/-- The names that were possible. -/
def alternatives (known : List String) : String :=
  match known with
  | [] => "there are no variants"
  | [a] => s!"expected {ticked a}"
  | [a, b] => s!"expected {ticked a} or {ticked b}"
  | names => "expected one of " ++ ", ".intercalate (names.map ticked)

def Fault.message (origin : Origin) : Fault → String
  | .wrongType found expected => s!"invalid type: {found.describe origin}, expected {expected}"
  | .wrongValue found expected => s!"invalid value: {found.describe origin}, expected {expected}"
  | .wrongLength length expected => s!"invalid length {length}, expected {expected}"
  | .missingField name => s!"missing field {ticked name}"
  | .duplicateField name => s!"duplicate field {ticked name}"
  | .unknownVariant name known => s!"unknown variant {ticked name}, {alternatives known}"
  | .rejected reason => reason

namespace Datum

def shape : Datum → Shape
  | .null => .null
  | .bool b => .bool b
  | .int n => .int n
  | .real x => .real x
  | .text s => .text s
  | .list _ => .list
  | .table _ => .table
  | .tagged _ _ => .tagged

def isText (name : String) : Datum → Bool
  | .text s => s = name
  | _ => false

/-- The content under any tags. -/
def untagged : Datum → Datum
  | .tagged _ content => content.untagged
  | d => d

mutual

def ofJson : Json → Datum
  | .null => .null
  | .bool b => .bool b
  | .num (.int n) => .int n
  | .num (.real x) => .real x
  | .str s => .text s
  | .arr items => .list (ofItems items)
  | .obj fields => .table (ofFields fields)

def ofItems : List Json → List Datum
  | [] => []
  | item :: rest => ofJson item :: ofItems rest

def ofFields : List (String × Json) → List (Datum × Datum)
  | [] => []
  | (name, value) :: rest => (.text name, ofJson value) :: ofFields rest

end

mutual

/-- The JSON value of a datum. Keys have to be text, a tag has no counterpart, and
a real that is no number becomes `null`. -/
def toJson : Datum → Except Fault Json
  | .null => return .null
  | .bool b => return .bool b
  | .int n => return .num (.int n)
  | .real x => return if x.isFinite then .num (.real x) else .null
  | .text s => return .str s
  | .list items => return .arr (← toItems items)
  | .table rows => return Json.object (← toFields rows)
  | .tagged _ _ => throw (.wrongType .tagged "any valid JSON value")

def toItems : List Datum → Except Fault (List Json)
  | [] => return []
  | item :: rest => return (← toJson item) :: (← toItems rest)

def toFields : List (Datum × Datum) → Except Fault (List (String × Json))
  | [] => return []
  | (key, value) :: rest => do
    match key.untagged with
    | .text name => return (name, ← toJson value) :: (← toFields rest)
    | other => throw (.wrongType other.shape "a string key")

end

end Datum

end Autopilot
