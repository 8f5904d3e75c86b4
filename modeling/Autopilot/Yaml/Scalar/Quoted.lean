import Autopilot.Yaml.Scalar.Gap

/-!
Quoted scalars. In single quotes a quote is written twice and nothing else is
special; in double quotes a backslash starts an escape, and before a line break
it joins the lines.
-/

namespace Autopilot.Yaml.Quoted

/-- The character that an escape of one letter stands for. -/
def escaped? : Char → Option Char
  | '0' => some '\x00'
  | 'a' => some '\x07'
  | 'b' => some '\x08'
  | 't' | '\t' => some '\t'
  | 'n' => some '\n'
  | 'v' => some '\x0b'
  | 'f' => some '\x0c'
  | 'r' => some '\r'
  | 'e' => some '\x1b'
  | ' ' => some ' '
  | '"' => some '"'
  | '/' => some '/'
  | '\\' => some '\\'
  | 'N' => some '\u0085'
  | '_' => some '\u00a0'
  | 'L' => some '\u2028'
  | 'P' => some '\u2029'
  | _ => none

/-- The number of hexadecimal digits after the letter of an escape. -/
def codeLength? : Char → Option Nat
  | 'x' => some 2
  | 'u' => some 4
  | 'U' => some 8
  | _ => none

def hexDigit? (c : Char) : Option Nat :=
  if '0' ≤ c && c ≤ '9' then some (c.toNat - '0'.toNat)
  else if 'a' ≤ c && c ≤ 'f' then some (c.toNat - 'a'.toNat + 10)
  else if 'A' ≤ c && c ≤ 'F' then some (c.toNat - 'A'.toNat + 10)
  else none

/-- The character with a code in hexadecimal digits. -/
def ofCode? (digits : List Char) : Option Char := do
  let code ← digits.foldlM (fun code digit => return code * 16 + (← hexDigit? digit)) 0
  if code.isValidChar then return Char.ofNat code else none

/-- A character after a backslash, and how many characters say so. -/
def escape? (text : List Char) : Option (Char × Nat) := do
  match text with
  | [] => none
  | letter :: rest =>
    match codeLength? letter with
    | none => return (← escaped? letter, 1)
    | some n =>
      if rest.length < n then none
      else return (← ofCode? (rest.take n), n + 1)

/-- A run of characters other than white space. -/
structure Run where
  text : List Char
  joined : Bool
  cursor : Cursor

/-- Reads a run after the characters in `seen`, up to white space, the closing
quote, or a backslash at the end of a line. -/
def run (quote : Char) (seen : List Char) (c : Cursor) : Option Run := do
  match c.rest with
  | [] => none
  | char :: rest =>
    if isWhite char then return ⟨seen, false, c⟩
    let (text, next) ←
      if char = quote then
        if quote = '\'' && rest.head? = some quote then pure ([quote], c.skip 2)
        else return ⟨seen, false, c⟩
      else if quote = '"' && char = '\\' then
        if (c.skip 1).sees isBreak then return ⟨seen, true, (c.skip 1).skipLine⟩
        else do
          let (char, n) ← escape? rest
          pure ([char], c.skip (n + 1))
      else pure ([char], c.skip 1)
    if next.rest.length < c.rest.length then run quote (seen ++ text) next else none
termination_by c.rest.length

/-- Reads on after the text in `seen`, up to and with the closing quote. No document
may start or end inside. -/
def readOn (quote : Char) (seen : List Char) (c : Cursor) : Option (List Char × Cursor) := do
  if c.seesDocumentMark then none
  let part ← run quote seen c
  if part.cursor.seesChar quote then return (part.text, part.cursor.skip 1)
  let (gap, next) ← Gap.read { broken := part.joined } 0 part.cursor
  if next.rest.length < c.rest.length then readOn quote (part.text ++ gap.text) next else none
termination_by c.rest.length

/-- Reads a quoted scalar from its opening quote on. -/
def read (quote : Char) (c : Cursor) : Option (List Char × Cursor) :=
  readOn quote [] (c.skip 1)

end Autopilot.Yaml.Quoted
