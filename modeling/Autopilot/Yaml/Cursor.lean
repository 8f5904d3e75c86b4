/-!
Standing in a YAML text: the characters ahead, and the line and column reached so
far. Line breaks of all five kinds end a line; blanks are spaces and tabs.
-/

namespace Autopilot.Yaml

def isBreak (c : Char) : Bool :=
  c = '\n' || c = '\r' || c = '\u0085' || c = '\u2028' || c = '\u2029'

def isBlank (c : Char) : Bool := c = ' ' || c = '\t'

def isWhite (c : Char) : Bool := isBlank c || isBreak c

/-- The characters of names: letters, digits, dash and underscore. -/
def isWord (c : Char) : Bool := c.isAlphanum || c = '_' || c = '-'

/-- The characters that may occur in a text. -/
def isAllowed (c : Char) : Bool :=
  let code := c.toNat
  code = 0x09 || code = 0x0a || code = 0x0d || (0x20 ≤ code && code ≤ 0x7e) || code = 0x85 ||
    (0xa0 ≤ code && code ≤ 0xd7ff) || (0xe000 ≤ code && code ≤ 0xfffd) || 0x10000 ≤ code

/-- The mark that may stand at the start of a line. -/
def byteOrderMark : Char := '\ufeff'

structure Cursor where
  rest : List Char
  index : Nat := 0
  line : Nat := 0
  column : Nat := 0
  deriving Repr, Inhabited

namespace Cursor

def peek? (c : Cursor) : Option Char := c.rest.head?

def atEnd (c : Cursor) : Bool := c.rest.isEmpty

/-- Whether the next character satisfies a test; the end does not. -/
def sees (c : Cursor) (test : Char → Bool) : Bool := c.rest.head?.any test

def seesChar (c : Cursor) (char : Char) : Bool := c.sees (· = char)

/-- Whether white space or the end follows the first `n` characters. -/
def endsAfter (c : Cursor) (n : Nat) : Bool := (c.rest.drop n).head?.all isWhite

/-- Moves on by characters that are not line breaks. -/
def skip (c : Cursor) (n : Nat) : Cursor :=
  { c with rest := c.rest.drop n, index := c.index + n, column := c.column + n }

/-- The characters up to the first that fails a test. Line breaks must fail it. -/
def takeWhile (c : Cursor) (test : Char → Bool) : List Char × Cursor :=
  let taken := c.rest.takeWhile test
  (taken, c.skip taken.length)

def skipWhile (c : Cursor) (test : Char → Bool) : Cursor := (c.takeWhile test).2

/-- Reads a line break; most of them are read as a line feed. -/
def lineBreak (c : Cursor) : List Char × Cursor :=
  let next (n : Nat) (rest : List Char) : Cursor :=
    { rest, index := c.index + n, line := c.line + 1, column := 0 }
  match c.rest with
  | '\r' :: '\n' :: rest => (['\n'], next 2 rest)
  | char :: rest =>
    if char = '\u2028' || char = '\u2029' then ([char], next 1 rest)
    else if isBreak char then (['\n'], next 1 rest)
    else ([], c)
  | [] => ([], c)

def skipLine (c : Cursor) : Cursor := c.lineBreak.2

/-- A comment goes up to the end of its line. -/
def skipComment (c : Cursor) : Cursor :=
  if c.seesChar '#' then c.skipWhile (!isBreak ·) else c

/-- Whether a mark of three equal characters stands at the start of a line. -/
def seesMark (c : Cursor) (char : Char) : Bool :=
  c.column = 0 && c.rest.take 3 = [char, char, char] && c.endsAfter 3

/-- Whether a document starts or ends here. -/
def seesDocumentMark (c : Cursor) : Bool := c.seesMark '-' || c.seesMark '.'

/-- The end of a line on which nothing but a comment may follow. -/
def endLine? (c : Cursor) : Option Cursor :=
  let c := (c.skipWhile isBlank).skipComment
  if c.atEnd then some c
  else if c.sees isBreak then some c.skipLine
  else none

end Cursor

end Autopilot.Yaml
