import Autopilot.Yaml.Cursor

/-!
The gap between two words of a scalar that runs over several lines. Blanks within
a line are kept; a single line break becomes a space, and of more line breaks the
first is dropped.
-/

namespace Autopilot.Yaml

structure Gap where
  blanks : List Char := []
  broken : Bool := false
  first : List Char := []
  more : List Char := []
  deriving Repr, Inhabited

namespace Gap

/-- What the gap is read as. -/
def text (gap : Gap) : List Char :=
  if !gap.broken then gap.blanks
  else if gap.first = ['\n'] then (if gap.more.isEmpty then [' '] else gap.more)
  else gap.first ++ gap.more

/-- Takes in the next character of white space. -/
def step (gap : Gap) (c : Cursor) : Gap × Cursor :=
  match c.rest with
  | [] => (gap, c)
  | char :: _ =>
    if isBlank char then
      (if gap.broken then gap else { gap with blanks := gap.blanks ++ [char] }, c.skip 1)
    else
      let (text, c) := c.lineBreak
      (if gap.broken then { gap with more := gap.more ++ text }
        else { gap with broken := true, first := text, blanks := [] }, c)

/-- Whether a tab stands where a line is indented by less than `indent`. -/
def tabAbused (gap : Gap) (indent : Int) (c : Cursor) : Bool :=
  gap.broken && (c.column : Int) < indent && c.seesChar '\t'

/-- Takes in all white space that follows. -/
def read (gap : Gap) (indent : Int) (c : Cursor) : Option (Gap × Cursor) :=
  if c.sees isWhite then
    if gap.tabAbused indent c then none
    else
      let next := gap.step c
      if next.2.rest.length < c.rest.length then next.1.read indent next.2 else none
  else some (gap, c)
termination_by c.rest.length

end Gap

end Autopilot.Yaml
