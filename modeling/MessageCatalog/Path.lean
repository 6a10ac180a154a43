import MessageCatalog.Text.Basic

/-!
# Paths

A path is read lexically: empty segments and `.` segments vanish, `..` stays, and a path that starts
with exactly two slashes differs from one that starts with one or with more. Nothing here looks at a
file tree.
-/

namespace MessageCatalog

/-- Where a path starts. -/
inductive Path.Start where
  /-- At the working directory. -/
  | here
  /-- At the root directory. -/
  | root
  /-- At the root directory, spelled with two slashes. -/
  | doubleRoot
deriving DecidableEq, Repr

/-- A path: where it starts and the names it goes through. -/
structure Path where
  start : Path.Start
  names : List Text
deriving DecidableEq, Repr

namespace Path

/-- The spelling of a start. -/
def Start.text : Start → Text
  | .here => []
  | .root => ['/']
  | .doubleRoot => ['/', '/']

/-- The start of a spelled path. -/
def Start.ofText : Text → Start
  | '/' :: '/' :: '/' :: _ => .root
  | '/' :: '/' :: _ => .doubleRoot
  | '/' :: _ => .root
  | _ => .here

/-- A segment that is part of a path. -/
def isName (segment : Text) : Bool :=
  segment ≠ [] && segment ≠ ['.']

/-- The path of a spelling. -/
def ofText (t : Text) : Path where
  start := .ofText t
  names := (t.splitOn '/').filter isName

/-- The spelling of a path; the working directory itself is a dot. -/
def text (p : Path) : Text :=
  match p.start, p.names with
  | .here, [] => ['.']
  | start, names => start.text ++ Text.join ['/'] names

/-- The path that `q` denotes when it is read at the directory `p`. -/
def append (p q : Path) : Path :=
  match q.start with
  | .here => { p with names := p.names ++ q.names }
  | _ => q

instance : Div Path := ⟨append⟩

/-- The path in which every `..` takes away the name before it, if there is one. From the root it is a
path without `..`, which need not lead to the same place where links are followed. -/
def collapsed (p : Path) : Path :=
  { p with
    names := p.names.foldl
      (fun names name => if name = ['.', '.'] then names.dropLast else names ++ [name]) [] }

/-- The directory that holds the last name; a path without names is its own parent. -/
def parent (p : Path) : Path :=
  { p with names := p.names.dropLast }

/-- The last name, empty if there is none. -/
def fileName (p : Path) : Text :=
  p.names.getLastD []

/-- The last name without its suffix. A dot at either end of the name starts no suffix. -/
def stem (p : Path) : Text :=
  match p.fileName.cutLast '.' with
  | some (before, after) => if before = [] ∨ after = [] then p.fileName else before
  | none => p.fileName

end Path

end MessageCatalog
