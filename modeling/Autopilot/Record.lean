import Autopilot.Datum
import Autopilot.Instant.Timestamp

/-!
Reading records. A record is written either with named fields, visited in the
order in which they are written, or as a list of its fields in declared order.
Every field is read for itself; of several faults the one met first counts, and
an absent field is noticed only after all present ones.
-/

namespace Autopilot

/-- The outcome of reading a part of a record. A fault carries its place in the
order in which the record is visited. -/
inductive Reading (α : Type) where
  | done (value : α)
  | fault (place : Nat) (cause : Fault)

namespace Reading

def map {α β : Type} (f : α → β) : Reading α → Reading β
  | .done a => .done (f a)
  | .fault place cause => .fault place cause

/-- Reads both parts; of two faults the earlier counts. -/
def apply {α β : Type} : Reading (α → β) → Reading α → Reading β
  | .done f, .done a => .done (f a)
  | .done _, .fault place cause => .fault place cause
  | .fault place cause, .done _ => .fault place cause
  | .fault p cause, .fault q other => if q < p then .fault q other else .fault p cause

instance : Applicative Reading where
  map := map
  pure := .done
  seq f a := apply f (a ())

def toExcept {α : Type} : Reading α → Except Fault α
  | .done a => .ok a
  | .fault _ cause => .error cause

end Reading

/-- A way to read a datum. -/
abbrev Reads (α : Type) := Origin → Datum → Except Fault α

namespace Reads

def text : Reads String := fun _ d =>
  match d.untagged with
  | .text s => .ok s
  | other => .error (.wrongType other.shape "a string")

def bool : Reads Bool := fun _ d =>
  match d.untagged with
  | .bool b => .ok b
  | other => .error (.wrongType other.shape "a boolean")

/-- A whole number between two bounds. -/
def whole (low high : Int) (name : String) : Reads Int := fun _ d =>
  match d.untagged with
  | .int n => if low ≤ n ∧ n ≤ high then .ok n else .error (.wrongValue (.int n) name)
  | other => .error (.wrongType other.shape name)

def i32 : Reads Int := whole (-2147483648) 2147483647 "i32"

def i64 : Reads Int := whole (-9223372036854775808) 9223372036854775807 "i64"

def natural (high : Int) (name : String) : Reads Nat := fun origin d =>
  (whole 0 high name origin d).map Int.toNat

def u32 : Reads Nat := natural 4294967295 "u32"

def u64 : Reads Nat := natural 18446744073709551615 "u64"

/-- A count of things, with the range of `u64`. -/
def count : Reads Nat := natural 18446744073709551615 "usize"

def real : Reads Float := fun _ d =>
  match d.untagged with
  | .int n => .ok (.ofInt n)
  | .real x => .ok x
  | other => .error (.wrongType other.shape "f64")

def instant : Reads Instant := fun _ d =>
  match d.untagged with
  | .text s => (Instant.ofTimestamp s).mapError fun fault => .rejected fault.message
  | other => .error (.wrongType other.shape "an RFC 3339 formatted date and time string")

def json : Reads Json := fun _ d => d.toJson

/-- An absent value stands for nothing. -/
def nullable {α : Type} (read : Reads α) : Reads (Option α) := fun origin d =>
  match d with
  | .null => .ok none
  | d => (read origin d).map some

/-- The items in order; in YAML an absent value is an empty list. -/
def list {α : Type} (read : Reads α) : Reads (List α) := fun origin d =>
  match d.untagged, origin with
  | .list items, _ => items.mapM (read origin)
  | .null, .yaml => .ok []
  | other, _ => .error (.wrongType other.shape "a sequence")

/-- Names of the values of an enumeration; the names of one value stand together. -/
abbrev Variants (α : Type) := List (α × List String)

def named {α : Type} (variants : Variants α) (name : String) : Except Fault α :=
  match variants.find? fun (_, names) => names.contains name with
  | some (value, _) => .ok value
  | none => .error (.unknownVariant name (variants.flatMap (·.2)))

/-- A tag without its leading mark. -/
def tagName (tag : String) : String :=
  match tag.toList with
  | '!' :: rest => String.ofList rest
  | _ => tag

def empty (d : Datum) : Except Fault Unit :=
  match d with
  | .null => .ok ()
  | other => .error (.wrongType other.shape "unit")

/-- A value without data: its name, in JSON also a table from its name to nothing,
in YAML also its name as a tag on nothing. -/
def variant {α : Type} (variants : Variants α) : Reads α := fun origin d =>
  match origin, d with
  | _, .text name => named variants name
  | .json, .table [(.text name, content)] => do
    let value ← named variants name
    empty content
    return value
  | .json, .table _ => .error (.wrongValue .table "map with a single key")
  | .json, other => .error (.wrongType other.shape "string or map")
  | .yaml, .tagged tag content => do
    let value ← named variants (tagName tag)
    empty content
    return value
  | .yaml, other => .error (.wrongType other.shape "a Value::Tagged enum")

end Reads

/-- How the fields of a record are written. -/
inductive Fields where
  | named (rows : List (Datum × Datum))
  | listed (items : List Datum)

/-- A record opened for reading: `kind` names it in faults, `size` is its number of
fields. In a tagged record a number can stand for the name of a field. -/
structure Record where
  origin : Origin
  kind : String
  size : Nat
  fields : Fields
  ofTagged : Bool := false

/-- Where a field was found: its place, its value, and the place of a second
mention. -/
inductive Found where
  | absent
  | single (place : Nat) (value : Datum)
  | twice (place : Nat) (value : Datum) (again : Nat)

namespace Record

def length (r : Record) : Nat :=
  match r.fields with
  | .named rows => rows.length
  | .listed items => items.length

/-- Only a tagged record may be a list in YAML; there an absent value is a record
without fields. -/
def read (kind : String) (size : Nat) : Origin → Datum → Except Fault Record := fun origin d =>
  match origin, d.untagged with
  | _, .table rows => .ok ⟨origin, kind, size, .named rows, false⟩
  | .json, .list items => .ok ⟨origin, kind, size, .listed items, false⟩
  | .yaml, .null => .ok ⟨origin, kind, size, .named [], false⟩
  | _, other => .error (.wrongType other.shape kind)

def isKey (r : Record) (position : Nat) (names : List String) (key : Datum) : Bool :=
  match key.untagged with
  | .text name => names.contains name
  | .int n => r.ofTagged && n = position
  | _ => false

def find (r : Record) (position : Nat) (names : List String) : Found :=
  match r.fields with
  | .listed items => match items[position]? with
    | some value => .single position value
    | none => .absent
  | .named rows =>
    match rows.zipIdx.filter fun row => r.isKey position names row.1.1 with
    | [] => .absent
    | [((_, value), place)] => .single place value
    | ((_, value), place) :: (_, again) :: _ => .twice place value again

/-- The fault of a field that is not there. -/
def lack (r : Record) (position : Nat) (names : List String) : Fault :=
  match r.fields with
  | .named _ => .missingField (names.headD "")
  | .listed _ =>
    let elements := if r.size = 1 then "element" else "elements"
    .wrongLength position s!"{r.kind} with {r.size} {elements}"

def present {α : Type} (r : Record) (names : List String) (place : Nat) (value : Datum)
    (again : Option Nat) (read : Reads α) : Reading α :=
  match read r.origin value, again with
  | .ok a, none => .done a
  | .ok _, some again => .fault again (.duplicateField (names.headD ""))
  | .error cause, _ => .fault place cause

/-- A field; `absent` says what its absence means. -/
def field {α : Type} (r : Record) (position : Nat) (names : List String)
    (absent : Except Fault α) (read : Reads α) : Reading α :=
  match r.find position names with
  | .single place value => r.present names place value none read
  | .twice place value again => r.present names place value (some again) read
  | .absent => match absent with
    | .ok a => .done a
    | .error cause => .fault (r.length + position) cause

def required {α : Type} (r : Record) (position : Nat) (names : List String) (read : Reads α) :
    Reading α :=
  r.field position names (.error (r.lack position names)) read

def withDefault {α : Type} (r : Record) (position : Nat) (names : List String) (value : α)
    (read : Reads α) : Reading α :=
  r.field position names (.ok value) read

def optional {α : Type} (r : Record) (position : Nat) (names : List String) (read : Reads α) :
    Reading (Option α) :=
  r.field position names (.ok none) (.nullable read)

/-- A field that may be absent among named fields, but not in a list. -/
def nullable {α : Type} (r : Record) (position : Nat) (names : List String) (read : Reads α) :
    Reading (Option α) :=
  match r.fields with
  | .named _ => r.optional position names read
  | .listed _ => r.required position names (.nullable read)

/-- The first key that cannot name a field. -/
def strangeKey (r : Record) : List (Datum × Datum) → Nat → Reading Unit
  | [], _ => .done ()
  | (key, _) :: rest, place =>
    match key.untagged with
    | .text _ => r.strangeKey rest (place + 1)
    | .int n =>
      if r.ofTagged && 0 ≤ n then r.strangeKey rest (place + 1)
      else .fault place (.wrongType (.int n) "field identifier")
    | other => .fault place (.wrongType other.shape "field identifier")

/-- Nothing but the fields: no more list items than fields, no key but names. -/
def only (r : Record) : Reading Unit :=
  match r.fields with
  | .named rows => r.strangeKey rows 0
  | .listed items =>
    if items.length ≤ r.size then .done ()
    else
      let elements := if r.size = 1 then "element" else "elements"
      .fault (items.length + r.size) (.wrongLength items.length
        (if r.ofTagged then s!"{r.size} {elements} in sequence" else "fewer elements in array"))

end Record

end Autopilot
