import Autopilot.Yaml.Scalar.Block
import Autopilot.Yaml.Scalar.Plain
import Autopilot.Yaml.Scalar.Quoted
import Autopilot.Yaml.Token

/-!
From text to tokens. Blocks are found by their indentation. That something is the
key of a mapping shows only at the colon after it: then the tokens for the key, and
for a mapping that starts with it, are put in before it. So every token that may
begin a key is remembered as long as it may.
-/

namespace Autopilot.Yaml

/-- A place where a key may have begun: the number of tokens before it, and where it
stands. If it has to be a key, a colon must follow. -/
structure KeyStart where
  tokens : Nat
  index : Nat
  line : Nat
  column : Nat
  required : Bool
  deriving Repr

/-- Tokens are listed last first. Outside all brackets `indent` is the column of the
innermost block; `outerKeys` holds the possible keys outside each open bracket. -/
structure Lexer where
  cursor : Cursor
  tokens : List Token := []
  count : Nat := 0
  indent : Int := -1
  indents : List Int := []
  keyAllowed : Bool := true
  keyStart : Option KeyStart := none
  outerKeys : List (Option KeyStart) := []
  deriving Repr

namespace Lexer

def inFlow (l : Lexer) : Bool := !l.outerKeys.isEmpty

def push (l : Lexer) (token : Token) : Lexer :=
  { l with tokens := token :: l.tokens, count := l.count + 1 }

/-- Puts a token in after the first `n`. -/
def insert (l : Lexer) (n : Nat) (token : Token) : Lexer :=
  let later := l.count - n
  { l with tokens := l.tokens.take later ++ token :: l.tokens.drop later, count := l.count + 1 }

def skip (l : Lexer) (n : Nat) : Lexer := { l with cursor := l.cursor.skip n }

def allowKey (l : Lexer) (allowed : Bool) : Lexer := { l with keyAllowed := allowed }

/-- Starts a block, after the first `n` tokens, if something stands further to the
right than the block around it. -/
def openBlock (l : Lexer) (column : Nat) (n : Nat) (start : Token) : Lexer :=
  if l.inFlow || (column : Int) ≤ l.indent then l
  else { l.insert n start with indent := column, indents := l.indent :: l.indents }

def openBlockHere (l : Lexer) (start : Token) : Lexer :=
  l.openBlock l.cursor.column l.count start

/-- Ends the blocks that are indented by more than a column; `indents` are those around
the innermost. -/
def closeTo (column : Int) (l : Lexer) : List Int → Lexer
  | [] => { l with indents := [] }
  | outer :: rest =>
    if l.indent ≤ column then { l with indents := outer :: rest }
    else closeTo column { l.push .blockEnd with indent := outer } rest

def closeBlocks (l : Lexer) (column : Int) : Lexer :=
  if l.inFlow then l else closeTo column l l.indents

/-- Gives up the possible key of the innermost level. -/
def dropKey (l : Lexer) : Option Lexer :=
  if l.keyStart.any (·.required) then none else some { l with keyStart := none }

/-- Remembers that a key may begin here. -/
def noteKey (l : Lexer) : Option Lexer := do
  if !l.keyAllowed then return l
  let l ← l.dropKey
  let c := l.cursor
  let required := !l.inFlow && l.indent = c.column
  return { l with keyStart := some ⟨l.count, c.index, c.line, c.column, required⟩ }

/-- A key may not extend over lines, nor over more than 1024 characters. -/
def KeyStart.isStale (start : KeyStart) (c : Cursor) : Bool :=
  start.line < c.line || start.index + 1024 < c.index

/-- Gives up a key that has become too long. -/
def dropStale (c : Cursor) : Option KeyStart → Option (Option KeyStart)
  | none => some none
  | some start =>
    if !KeyStart.isStale start c then some (some start)
    else if start.required then none
    else some none

def dropStaleKeys (l : Lexer) : Option Lexer := do
  return { l with
    keyStart := ← dropStale l.cursor l.keyStart
    outerKeys := ← l.outerKeys.mapM (dropStale l.cursor) }

/-- The end of the white space and the comment on this line. Tabs do not count as white
space where a key may begin outside brackets. -/
def blankEnd (l : Lexer) : Cursor :=
  let c := if l.cursor.column = 0 && l.cursor.seesChar byteOrderMark then l.cursor.skip 1
    else l.cursor
  let tabs := l.inFlow || !l.keyAllowed
  (c.skipWhile fun char => char = ' ' || (tabs && char = '\t')).skipComment

/-- The next line; outside brackets a key may begin there. -/
def nextLine (l : Lexer) : Lexer :=
  { l with cursor := l.blankEnd.skipLine, keyAllowed := l.keyAllowed || !l.inFlow }

/-- Skips white space, comments and line breaks. -/
def skipSpace (l : Lexer) : Lexer :=
  if l.blankEnd.sees isBreak then
    if l.nextLine.cursor.rest.length < l.cursor.rest.length then l.nextLine.skipSpace
    else l.nextLine
  else { l with cursor := l.blankEnd }
termination_by l.cursor.rest.length

/-- A token that is no part of any block. -/
def atMargin (l : Lexer) (read : Cursor → Option (Token × Cursor)) : Option Lexer := do
  let l ← (l.closeBlocks (-1)).dropKey
  let (token, cursor) ← read l.cursor
  return ({ l with cursor }.push token).allowKey false

def openFlow (l : Lexer) (start : Token) : Option Lexer := do
  let l ← l.noteKey
  return { (l.skip 1).push start with
    outerKeys := l.keyStart :: l.outerKeys, keyStart := none, keyAllowed := true }

def closeFlow (l : Lexer) (finish : Token) : Option Lexer := do
  let l ← l.dropKey
  let l := match l.outerKeys with
    | outer :: rest => { l with keyStart := outer, outerKeys := rest }
    | [] => l
  return ((l.skip 1).push finish).allowKey false

def flowEntry (l : Lexer) : Option Lexer := do
  return (((← l.dropKey).skip 1).push .flowEntry).allowKey true

/-- An entry of a block or an explicit key: it may start a block where a key may
begin. -/
def openEntry (l : Lexer) (start : Token) : Option Lexer :=
  if l.inFlow then some l
  else if l.keyAllowed then some (l.openBlockHere start)
  else none

def blockEntry (l : Lexer) : Option Lexer := do
  let l ← (← l.openEntry .blockSequenceStart).dropKey
  return ((l.skip 1).push .blockEntry).allowKey true

def explicitKey (l : Lexer) : Option Lexer := do
  let l ← (← l.openEntry .blockMappingStart).dropKey
  return ((l.skip 1).push .key).allowKey !l.inFlow

/-- A colon: it makes what was remembered a key. -/
def value (l : Lexer) : Option Lexer := do
  match l.keyStart with
  | some start =>
    let l := (l.insert start.tokens .key).openBlock start.column start.tokens .blockMappingStart
    return ({ l with keyStart := none, keyAllowed := false }.skip 1).push .value
  | none =>
    let l ← l.openEntry .blockMappingStart
    return ((l.skip 1).push .value).allowKey !l.inFlow

/-- A token with which a key may begin. -/
def content (l : Lexer) (read : Cursor → Option (Token × Cursor)) : Option Lexer := do
  let l ← l.noteKey
  let (token, cursor) ← read l.cursor
  return ({ l with cursor }.push token).allowKey false

def named (make : String → Token) (c : Cursor) : Option (Token × Cursor) :=
  (Token.name? c).map fun (name, c) => (make name, c)

def quotedScalar (quote : Char) (c : Cursor) : Option (Token × Cursor) :=
  (Quoted.read quote c).map fun (text, c) => (.scalar (String.ofList text) false, c)

def blockScalar (l : Lexer) (literal : Bool) : Option Lexer := do
  let l ← l.dropKey
  let (text, cursor) ← Block.read literal l.indent l.cursor
  return ({ l with cursor }.push (.scalar (String.ofList text) false)).allowKey true

/-- A plain scalar; after one that is followed by a line break a key may begin. -/
def plainScalar (l : Lexer) : Option Lexer := do
  let l ← l.noteKey
  let scalar ← Plain.read l.inFlow (l.indent + 1) l.cursor
  return ({ l with cursor := scalar.cursor }.push
    (.scalar (String.ofList scalar.text) true)).allowKey scalar.broken

/-- Whether a plain scalar may start with a character. -/
def startsPlain (l : Lexer) (char : Char) : Bool :=
  if char = '-' then !(l.cursor.skip 1).sees isBlank
  else if char = '?' || char = ':' then !l.inFlow && !l.cursor.endsAfter 1
  else !isWhite char && !",[]\x7b\x7d#&*!|>'\"%@\x60".toList.contains char

/-- Reads the next token, which starts with a character. -/
def step (l : Lexer) (char : Char) : Option Lexer :=
  let c := l.cursor
  if c.column = 0 && char = '%' then l.atMargin Token.directive?
  else if c.seesMark '-' then l.atMargin fun c => some (.documentStart, c.skip 3)
  else if c.seesMark '.' then l.atMargin fun c => some (.documentEnd, c.skip 3)
  else match char with
    | '[' => l.openFlow .flowSequenceStart
    | '\x7b' => l.openFlow .flowMappingStart
    | ']' => l.closeFlow .flowSequenceEnd
    | '\x7d' => l.closeFlow .flowMappingEnd
    | ',' => l.flowEntry
    | '*' => l.content (named .reference)
    | '&' => l.content (named .anchor)
    | '!' => l.content (Token.tag? l.inFlow)
    | '\'' => l.content (quotedScalar '\'')
    | '"' => l.content (quotedScalar '"')
    | char =>
      if char = '-' && c.endsAfter 1 then l.blockEntry
      else if char = '?' && (l.inFlow || c.endsAfter 1) then l.explicitKey
      else if char = ':' && (l.inFlow || c.endsAfter 1) then l.value
      else if char = '|' && !l.inFlow then l.blockScalar true
      else if char = '>' && !l.inFlow then l.blockScalar false
      else if l.startsPlain char then l.plainScalar
      else none

/-- The end of the text ends all blocks. -/
def finish (l : Lexer) : Option (List Token) := do
  let l ← (l.closeBlocks (-1)).dropKey
  return l.tokens.reverse

/-- Reads all tokens. -/
def run (l : Lexer) : Option (List Token) := do
  let l' ← l.skipSpace.dropStaleKeys
  let l' := l'.closeBlocks l'.cursor.column
  match l'.cursor.peek? with
  | none => l'.finish
  | some char =>
    let next ← l'.step char
    if next.cursor.rest.length < l.cursor.rest.length then next.run else none
termination_by l.cursor.rest.length

end Lexer

/-- The characters of a text; one byte order mark before them does not count. -/
def characters (text : String) : List Char :=
  match text.toList with
  | '\ufeff' :: rest => rest
  | all => all

/-- The tokens of a text. -/
def tokens? (text : String) : Option (List Token) :=
  let rest := characters text
  if rest.all isAllowed then Lexer.run { cursor := { rest } } else none

end Autopilot.Yaml
