import Autopilot.Yaml.Document
import Autopilot.Yaml.Schema
import Autopilot.Yaml.Token.Lexer

/-!
Reading YAML text. A tag of the document's own makes a tagged datum; standard tags
say how a scalar is read. References are replaced by what they mean, within limits
on depth and number that every finite text of sensible size keeps.
-/

namespace Autopilot

namespace Datum

mutual

/-- Whether two data are the same key. Reals that are no numbers are equal, and the
order of rows does not count. -/
def same : Datum → Datum → Bool
  | .null, .null => true
  | .bool a, .bool b => a = b
  | .int a, .int b => a = b
  | .real a, .real b => a == b || (a.isNaN && b.isNaN)
  | .text a, .text b => a = b
  | .list as, .list bs => sameItems as bs
  | .table as, .table bs => as.length = bs.length && rowsWithin as bs
  | .tagged s a, .tagged t b => s = t && same a b
  | _, _ => false

def sameItems : List Datum → List Datum → Bool
  | [], [] => true
  | a :: as, b :: bs => same a b && sameItems as bs
  | _, _ => false

def rowsWithin : List (Datum × Datum) → List (Datum × Datum) → Bool
  | [], _ => true
  | (key, value) :: rest, rows =>
    (rows.any fun row => same key row.1 && same value row.2) && rowsWithin rest rows

end

/-- No key occurs twice. -/
def distinctKeys : List (Datum × Datum) → Bool
  | [] => true
  | (key, _) :: rest => !(rest.any fun row => key.same row.1) && distinctKeys rest

end Datum

namespace Yaml

/-- Whether a tag is the document's own, and not a standard one. -/
def isOwnTag (tag : String) : Bool := tag.toList.head? = some '!'

/-- A tag without its first mark, unless nothing else is left of it. -/
def unmarked (tag : String) : String :=
  match tag.toList with
  | '!' :: c :: rest => String.ofList (c :: rest)
  | _ => tag

/-- The name of an own tag. One mark more or less makes no other name. -/
def ownTag (tag : String) : String := "!" ++ unmarked (unmarked tag)

/-- A node that is not under an own tag. -/
def scalarDatum (tag : Option String) (text : String) (plain : Bool) : Option Datum :=
  match tag with
  | some tag => Schema.tagged? text tag
  | none => if plain then Schema.plain? text else some (.text text)

/-- References followed so far. -/
abbrev Resolving := StateT Nat Option

/-- The node that a reference means; also tells whether its tag still counts. -/
def follow (document : Document) (ignoreTag : Bool) : Node → Resolving (Node × Bool)
  | .reference number => do
    let followed ← get
    if document.nodes * 100 ≤ followed then failure
    set (followed + 1)
    match document.anchors.node? number with
    | some node => return (node, false)
    | none => failure
  | node => return (node, ignoreTag)

/-- Puts an own tag around a datum that is read without it. -/
def underTag (ignoreTag : Bool) (tag : Option String)
    (content : (tag : Option String) → (underOwn : Bool) → Resolving Datum) :
    Resolving Datum := do
  match tag with
  | some tag =>
    if isOwnTag tag then
      let datum ← content none true
      return if ignoreTag then datum else .tagged (ownTag tag) datum
    else content (if ignoreTag then none else some tag) ignoreTag
  | none => content none ignoreTag

/-- The datum of a node, with at most `depth` collections inside each other. The tags
of keys do not count in a mapping under an own tag. -/
def resolve (document : Document) : (depth : Nat) → (ignoreTag : Bool) → Node → Resolving Datum
  | depth, ignoreTag, node => do
    let (node, ignoreTag) ← follow document ignoreTag node
    match node, depth with
    | .scalar tag text plain, _ =>
      underTag ignoreTag tag fun tag _ => scalarDatum tag text plain
    | .sequence tag items, depth + 1 =>
      underTag ignoreTag tag fun _ _ => do
        return .list (← items.mapM (resolve document depth false))
    | .mapping tag rows, depth + 1 =>
      underTag ignoreTag tag fun _ underOwn => do
        let rows ← rows.mapM fun (key, value) => do
          return (← resolve document depth underOwn key, ← resolve document depth false value)
        if Datum.distinctKeys rows then return .table rows else failure
    | _, _ => failure

/-- The most collections inside each other. -/
def maxDepth : Nat := 128

/-- The datum written in a text that holds one document. -/
def parse? (text : String) : Option Datum := do
  let document ← Document.ofTokens? (← tokens? text)
  let (datum, _) ← resolve document maxDepth false document.root 0
  return datum

end Yaml

end Autopilot
