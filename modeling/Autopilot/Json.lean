/-!
JSON values. Whole numbers and reals are different numbers, so `1` and `1.0`
stay apart; an object lists its fields in ascending order of name, each name
once, which is the order in which records are visited.
-/

namespace Autopilot

inductive Number where
  | int (value : Int)
  | real (value : Float)
  deriving BEq, Inhabited, Repr

inductive Json where
  | null
  | bool (value : Bool)
  | num (value : Number)
  | str (value : String)
  | arr (items : List Json)
  | obj (fields : List (String × Json))
  deriving BEq, Inhabited, Repr

namespace Json

/-- Puts a field in its place by name; a field of that name is replaced. -/
def insertField (name : String) (value : Json) : List (String × Json) → List (String × Json)
  | [] => [(name, value)]
  | (key, old) :: rest =>
    if name = key then (name, value) :: rest
    else if name < key then (name, value) :: (key, old) :: rest
    else (key, old) :: insertField name value rest

/-- The fields in order of name; of two fields with one name the later counts. -/
def sortFields (fields : List (String × Json)) : List (String × Json) :=
  fields.foldl (fun sorted field => insertField field.1 field.2 sorted) []

def object (fields : List (String × Json)) : Json :=
  .obj (sortFields fields)

/-- An object whose absent fields are left out. -/
def objectOf (fields : List (String × Option Json)) : Json :=
  object (fields.filterMap fun (name, value) => value.map (name, ·))

def ofInt (n : Int) : Json := .num (.int n)

def ofNat (n : Nat) : Json := .num (.int n)

def ofFloat (x : Float) : Json := .num (.real x)

def get? (name : String) : Json → Option Json
  | .obj fields => fields.lookup name
  | _ => none

def str? : Json → Option String
  | .str s => some s
  | _ => none

def bool? : Json → Option Bool
  | .bool b => some b
  | _ => none

def int? : Json → Option Int
  | .num (.int n) => some n
  | _ => none

def nat? : Json → Option Nat
  | .num (.int (.ofNat n)) => some n
  | _ => none

def float? : Json → Option Float
  | .num (.int n) => some (.ofInt n)
  | .num (.real x) => some x
  | _ => none

def arr? : Json → Option (List Json)
  | .arr items => some items
  | _ => none

def fields? : Json → Option (List (String × Json))
  | .obj fields => some fields
  | _ => none

def isNull : Json → Bool
  | .null => true
  | _ => false

end Json

end Autopilot
