import Autopilot.Path

/-!
Reading files of a tree. A directory is there if a file is in it; nothing is known of
what lies outside the tree, except that directories above it exist.
-/

namespace Autopilot

/-- Why the text of a file could not be read. -/
inductive ReadFault where
  | notFound
  | notDirectory
  | isDirectory
  | nameTooLong
  | nulInName
  | notText
  | other (reason : String)
  deriving DecidableEq, Repr

def ReadFault.message : ReadFault → String
  | .notFound => "No such file or directory (os error 2)"
  | .notDirectory => "Not a directory (os error 20)"
  | .isDirectory => "Is a directory (os error 21)"
  | .nameTooLong => "File name too long (os error 36)"
  | .nulInName => "file name contained an unexpected NUL byte"
  | .notText => "stream did not contain valid UTF-8"
  | .other reason => reason

/-- Files by the names that lead to them, each with its text if it is one. -/
structure FileTree where
  files : List (List String × Option String)
  longestPath : Nat := 4095
  longestName : Nat := 255
  deriving Repr, Inhabited

namespace FileTree

/-- A place on the way to a file: inside the tree, or outside. -/
inductive Place where
  | inside (names : List String)
  | above (levels : Nat)
  | root
  deriving DecidableEq, Repr

def ofList (files : List (String × Option String)) : FileTree :=
  ⟨files.map fun (name, text) => ((Path.mk name).parts.filter (· ≠ "."), text), 4095, 255⟩

def file? (t : FileTree) (names : List String) : Option (Option String) := t.files.lookup names

def hasDirectory (t : FileTree) (names : List String) : Bool :=
  names.isEmpty || t.files.any fun file =>
    names.length < file.1.length && names.isPrefixOf file.1

def isDirectory (t : FileTree) : Place → Bool
  | .inside names => t.hasDirectory names
  | .above _ | .root => true

def up : Place → Place
  | .inside [] => .above 1
  | .inside names => .inside names.dropLast
  | .above levels => .above (levels + 1)
  | .root => .root

def enter (t : FileTree) (name : String) : Place → Except ReadFault Place
  | .inside names =>
    let names := names ++ [name]
    if t.hasDirectory names || (t.file? names).isSome then .ok (.inside names)
    else .error .notFound
  | .above _ | .root => .error .notFound

/-- Goes on from a directory by one part of a path. -/
def step (t : FileTree) (place : Place) (part : String) : Except ReadFault Place :=
  if !t.isDirectory place then .error .notDirectory
  else if part = "." then .ok place
  else if part = ".." then .ok (up place)
  else if t.longestName < part.utf8ByteSize then .error .nameTooLong
  else t.enter part place

/-- The text of the file that a path leads to. -/
def read (t : FileTree) (p : Path) : Except ReadFault String := do
  if p.text.toList.contains '\x00' then throw .nulInName
  if p.text.isEmpty then throw .notFound
  if t.longestPath < p.text.utf8ByteSize then throw .nameTooLong
  let place ← p.parts.foldlM t.step (if p.isAbsolute then .root else .inside [])
  if t.isDirectory place then throw .isDirectory
  if p.text.toList.getLast? = some '/' then throw .notDirectory
  match place with
  | .inside names => match t.file? names with
    | some (some text) => return text
    | some none => throw .notText
    | none => throw .notFound
  | _ => throw .notFound

end FileTree

end Autopilot
