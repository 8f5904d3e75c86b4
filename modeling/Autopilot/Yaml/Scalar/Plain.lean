import Autopilot.Yaml.Scalar.Gap

/-!
Plain scalars, which stand without quotes. One ends before a comment, a colon that
is followed by white space, a line that is indented too little, or, inside
brackets, before a comma or a bracket.
-/

namespace Autopilot.Yaml.Plain

def isFlowMark (char : Char) : Bool :=
  char = ',' || char = '[' || char = ']' || char = '\x7b' || char = '\x7d'

/-- The characters up to the end of a word. Inside brackets no colon may stand right
before a comma, a question mark or a bracket. -/
def word (inFlow : Bool) : List Char → Option (List Char)
  | [] => some []
  | char :: rest =>
    if isWhite char then some []
    else if inFlow && char = ':' && rest.head?.any (fun next => isFlowMark next || next = '?') then
      none
    else if (char = ':' && rest.head?.all isWhite) || (inFlow && isFlowMark char) then some []
    else (word inFlow rest).map (char :: ·)

/-- A plain scalar as it was read, and whether a line break follows it. -/
structure Outcome where
  text : List Char
  broken : Bool
  cursor : Cursor

/-- Reads on after the words in `seen` and a gap. -/
def readOn (inFlow : Bool) (indent : Int) (seen : List Char) (gap : Gap) (c : Cursor) :
    Option Outcome := do
  if c.seesDocumentMark || c.seesChar '#' then return ⟨seen, gap.broken, c⟩
  let letters ← word inFlow c.rest
  if letters.isEmpty then return ⟨seen, gap.broken, c⟩
  let seen := seen ++ gap.text ++ letters
  let c' := c.skip letters.length
  if !c'.sees isWhite then return ⟨seen, false, c'⟩
  let (gap, next) ← Gap.read {} indent c'
  if !inFlow && (next.column : Int) < indent then return ⟨seen, gap.broken, next⟩
  if next.rest.length < c.rest.length then readOn inFlow indent seen gap next else none
termination_by c.rest.length

/-- Reads a plain scalar inside a block that is indented by `indent - 1`. -/
def read (inFlow : Bool) (indent : Int) (c : Cursor) : Option Outcome :=
  readOn inFlow indent [] {} c

end Autopilot.Yaml.Plain
