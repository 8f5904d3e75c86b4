import Autopilot.Yaml.Cursor

/-!
The tokens of a YAML text, and those of them that are names: tags, anchors and
directives.
-/

namespace Autopilot.Yaml

/-- The mark of a block is its indentation; its start and end are tokens too. -/
inductive Token where
  | version (major minor : Nat)
  | shorthand (name expansion : String)
  | documentStart
  | documentEnd
  | blockSequenceStart
  | blockMappingStart
  | blockEnd
  | flowSequenceStart
  | flowSequenceEnd
  | flowMappingStart
  | flowMappingEnd
  | blockEntry
  | flowEntry
  | key
  | value
  | reference (name : String)
  | anchor (name : String)
  | tag (handle suffix : String)
  | scalar (text : String) (plain : Bool)
  deriving DecidableEq, Repr, Inhabited

namespace Token

/-- The characters of tags; inside angle brackets there are three more. -/
def isTagChar (verbatim : Bool) (c : Char) : Bool :=
  isWord c || ";/?:@&=+$.!~*'()%".toList.contains c || (verbatim && ",[]".toList.contains c)

def hexDigit? (c : Char) : Option Nat :=
  if c.isDigit then some (c.toNat - '0'.toNat)
  else if 'a' ≤ c && c ≤ 'f' then some (c.toNat - 'a'.toNat + 10)
  else if 'A' ≤ c && c ≤ 'F' then some (c.toNat - 'A'.toNat + 10)
  else none

/-- The octets that a tag is written with; a percent sign writes one in hexadecimal. -/
def octets? : List Char → Option (List UInt8)
  | [] => some []
  | '%' :: high :: low :: rest => do
    let octet := (← hexDigit? high) * 16 + (← hexDigit? low)
    return octet.toUInt8 :: (← octets? rest)
  | '%' :: _ => none
  | c :: rest => (octets? rest).map (c.toNat.toUInt8 :: ·)

/-- The end of a tag, which may be written with percent signs. -/
def suffix? (verbatim : Bool) (c : Cursor) : Option (String × Cursor) := do
  let (letters, c) := c.takeWhile (isTagChar verbatim)
  let text ← String.fromUTF8? (ByteArray.mk (← octets? letters).toArray)
  return (text, c)

/-- A name as far as the first null in it, which is where names end. -/
def untilNull (name : String) : String := String.ofList (name.toList.takeWhile (· ≠ '\x00'))

/-- An exclamation mark, and a name with a second one if there is one. -/
def handle? (c : Cursor) : Option (List Char × Cursor) := do
  if !c.seesChar '!' then none
  let (letters, c) := (c.skip 1).takeWhile isWord
  if c.seesChar '!' then return ('!' :: letters ++ ['!'], c.skip 1)
  else return ('!' :: letters, c)

/-- A tag that is written out in angle brackets. -/
def verbatimTag? (c : Cursor) : Option (Token × Cursor) := do
  let (suffix, c) ← suffix? true (c.skip 2)
  if suffix.isEmpty || !c.seesChar '>' then none
  return (.tag "" (untilNull suffix), c.skip 1)

/-- A tag with a handle; without a name between two marks the handle is a single
mark and the rest is the suffix. -/
def shortTag? (c : Cursor) : Option (Token × Cursor) := do
  let (handle, c) ← handle? c
  let (suffix, c) ← suffix? false c
  if 2 ≤ handle.length && handle.getLast? = some '!' then
    if suffix.isEmpty then none else return (.tag (String.ofList handle) (untilNull suffix), c)
  else
    let suffix := untilNull (String.ofList handle.tail ++ suffix)
    return (if suffix.isEmpty then .tag "" "!" else .tag "!" suffix, c)

/-- A tag, after which white space has to follow, or a comma inside brackets. -/
def tag? (inFlow : Bool) (c : Cursor) : Option (Token × Cursor) := do
  let (token, c) ← if (c.skip 1).seesChar '<' then verbatimTag? c else shortTag? c
  if c.endsAfter 0 || (inFlow && c.seesChar ',') then return (token, c) else none

/-- The name after the mark of an anchor or a reference. -/
def name? (c : Cursor) : Option (String × Cursor) := do
  let (letters, c) := (c.skip 1).takeWhile isWord
  if letters.isEmpty then none
  if c.endsAfter 0 || c.sees ("?:,]\x7d%@\x60".toList.contains ·) then
    return (String.ofList letters, c)
  else none

/-- A number of at most nine digits. -/
def versionNumber? (c : Cursor) : Option (Nat × Cursor) := do
  let (digits, c) := c.takeWhile Char.isDigit
  if digits.isEmpty || 9 < digits.length then none
  return (digits.foldl (fun n digit => n * 10 + (digit.toNat - '0'.toNat)) 0, c)

def versionDirective? (c : Cursor) : Option (Token × Cursor) := do
  let (major, c) ← versionNumber? (c.skipWhile isBlank)
  if !c.seesChar '.' then none
  let (minor, c) ← versionNumber? (c.skip 1)
  return (.version major minor, c)

def handleDirective? (c : Cursor) : Option (Token × Cursor) := do
  let (handle, c) ← handle? (c.skipWhile isBlank)
  if handle ≠ ['!'] && handle.getLast? ≠ some '!' then none
  if !c.sees isBlank then none
  let (expansion, c) ← suffix? true (c.skipWhile isBlank)
  if expansion.isEmpty || !c.endsAfter 0 then none
  return (.shorthand (String.ofList handle) (untilNull expansion), c)

/-- A directive and the rest of its line. -/
def directive? (c : Cursor) : Option (Token × Cursor) := do
  let (name, c) := (c.skip 1).takeWhile isWord
  if !c.endsAfter 0 then none
  let (token, c) ← match String.ofList name with
    | "YAML" => versionDirective? c
    | "TAG" => handleDirective? c
    | _ => none
  return (token, ← c.endLine?)

end Token

end Autopilot.Yaml
