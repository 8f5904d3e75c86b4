import Autopilot.Yaml.Cursor

/-!
Block scalars: lines indented by the same amount. A literal scalar keeps its line
breaks; a folded one joins lines that neither start with a blank nor lie around
one that does. The header tells what becomes of the breaks at the end.
-/

namespace Autopilot.Yaml.Block

/-- What becomes of the line breaks at the end: one is kept, none, or all. -/
inductive Chomping where
  | clip
  | strip
  | keep
  deriving DecidableEq, Repr

structure Header where
  chomping : Chomping := .clip
  indentation : Option Nat := none
  deriving Repr

def chomping? (c : Cursor) : Option (Chomping × Cursor) :=
  match c.peek? with
  | some '+' => some (.keep, c.skip 1)
  | some '-' => some (.strip, c.skip 1)
  | _ => none

/-- The digit of an indentation, if there is one; zero is none. -/
def indentation? (c : Cursor) : Option (Option Nat × Cursor) :=
  match c.peek? with
  | some digit =>
    if !digit.isDigit then some (none, c)
    else if digit = '0' then none
    else some (some (digit.toNat - '0'.toNat), c.skip 1)
  | none => some (none, c)

/-- Reads a header, whose parts may come in any order, up to the end of its line. -/
def header (c : Cursor) : Option (Header × Cursor) := do
  match chomping? c with
  | some (chomping, c) =>
    let (indentation, c) ← indentation? c
    return ({ chomping, indentation }, ← c.endLine?)
  | none =>
    let (indentation, c) ← indentation? c
    match indentation, chomping? c with
    | some _, some (chomping, c) => return ({ chomping, indentation }, ← c.endLine?)
    | _, _ => return ({ indentation }, ← c.endLine?)

/-- Skips spaces up to a column, or all of them. -/
def skipSpaces (indentation : Option Nat) (c : Cursor) : Cursor :=
  let spaces := c.rest.takeWhile (· = ' ')
  match indentation with
  | some column => c.skip (min spaces.length (column - c.column))
  | none => c.skip spaces.length

/-- Empty lines: their line breaks, the widest indentation on the way, and the start
of the line that is not empty. -/
structure Leading where
  breaks : List Char
  widest : Nat
  cursor : Cursor

/-- Skips indentation and empty lines. No tab may stand in the indentation. -/
def leading (indentation : Option Nat) (breaks : List Char) (widest : Nat) (c : Cursor) :
    Option Leading := do
  let start := skipSpaces indentation c
  let widest := max widest start.column
  if indentation.all (start.column < ·) && start.seesChar '\t' then none
  if !start.sees isBreak then return ⟨breaks, widest, start⟩
  let (text, next) := start.lineBreak
  if next.rest.length < c.rest.length then leading indentation (breaks ++ text) widest next
  else none
termination_by c.rest.length

/-- The parts of a scalar read so far: the text, the break after its last line, and
the empty lines that follow. -/
structure Body where
  text : List Char := []
  lastBreak : List Char := []
  emptyLines : List Char := []
  startsBlank : Bool := false

/-- The text between two lines. -/
def Body.joint (body : Body) (literal nextBlank : Bool) : List Char :=
  if !literal && body.lastBreak = ['\n'] && !body.startsBlank && !nextBlank then
    if body.emptyLines.isEmpty then [' '] else body.emptyLines
  else body.lastBreak ++ body.emptyLines

/-- Reads the lines at an indentation. -/
def lines (literal : Bool) (indentation : Nat) (body : Body) (c : Cursor) :
    Option (Body × Cursor) := do
  if c.column ≠ indentation || c.atEnd then return (body, c)
  let blank := c.sees isBlank
  let (letters, afterLine) := c.takeWhile (!isBreak ·)
  let (lastBreak, next) := afterLine.lineBreak
  let gap ← leading (some indentation) [] 0 next
  let body : Body :=
    { text := body.text ++ body.joint literal blank ++ letters
      lastBreak, emptyLines := gap.breaks, startsBlank := blank }
  if gap.cursor.rest.length < c.rest.length then lines literal indentation body gap.cursor
  else none
termination_by c.rest.length

def Body.ending (body : Body) : Chomping → List Char
  | .strip => []
  | .clip => body.lastBreak
  | .keep => body.lastBreak ++ body.emptyLines

/-- Reads a block scalar from its indicator on, inside a block that is indented by
`indent`. Without an explicit indentation that of the first line counts. -/
def read (literal : Bool) (indent : Int) (c : Cursor) : Option (List Char × Cursor) := do
  let (header, c) ← header (c.skip 1)
  let explicit := header.indentation.map fun n => (max indent 0).toNat + n
  let gap ← leading explicit [] 0 c
  let indentation := explicit.getD (max gap.widest (max (indent + 1).toNat 1))
  let (body, c) ← lines literal indentation { emptyLines := gap.breaks } gap.cursor
  return (body.text ++ body.ending header.chomping, c)

end Autopilot.Yaml.Block
