/-!
Paths of files as texts, and the components that they are compared by: a dot counts
only at the start, and it makes no difference how many slashes stand in a row.
-/

namespace Autopilot

structure Path where
  text : String
  deriving DecidableEq, Repr, Inhabited

namespace Path

inductive Component where
  | root
  | here
  | up
  | name (name : String)
  deriving DecidableEq, Repr

def isAbsolute (p : Path) : Bool := p.text.toList.head? = some '/'

/-- The parts of the text between slashes, empty ones too. -/
def pieces : List Char → List (List Char)
  | [] => [[]]
  | c :: rest =>
    if c = '/' then [] :: pieces rest
    else match pieces rest with
      | piece :: more => (c :: piece) :: more
      | [] => [[c]]

/-- The parts of the text between slashes. -/
def parts (p : Path) : List String :=
  ((pieces p.text.toList).filter (!·.isEmpty)).map String.ofList

def Component.ofPart (part : String) : Component := if part = ".." then .up else .name part

/-- The components in order. -/
def components (p : Path) : List Component :=
  let inner := (p.parts.filter (· ≠ ".")).map Component.ofPart
  if p.isAbsolute then .root :: inner
  else if p.parts.head? = some "." then .here :: inner
  else inner

/-- Whether two paths have the same components. -/
def same (p q : Path) : Bool := p.components = q.components

/-- The path `q` as seen from `p`; an absolute path stays as it is. -/
def join (p q : Path) : Path :=
  if q.isAbsolute then q
  else if p.text.isEmpty || p.text.toList.getLast? = some '/' then ⟨p.text ++ q.text⟩
  else ⟨p.text ++ "/" ++ q.text⟩

/-- The text without slashes and dots at its end that make no difference; `text` is
given backwards. -/
def trimEnd : List Char → List Char
  | '/' :: rest => if rest.isEmpty then ['/'] else trimEnd rest
  | '.' :: '/' :: rest => trimEnd ('/' :: rest)
  | text => text

/-- The path without its last component, if that can be left out. -/
def parent? (p : Path) : Option Path :=
  match p.components.getLast? with
  | none | some .root => none
  | some _ =>
    let kept := (trimEnd p.text.toList.reverse).dropWhile (· ≠ '/')
    some ⟨String.ofList (trimEnd kept).reverse⟩

end Path

end Autopilot
