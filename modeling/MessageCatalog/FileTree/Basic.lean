import MessageCatalog.Bytes
import MessageCatalog.Path
import MessageCatalog.Text.Displayed

/-!
# File trees

A file tree holds files, directories and links at places, which are lists of names below the root.
Paths are resolved to places name by name: `..` goes back to the directory that holds the present
one, links are followed, and only directories can be passed through. Writing puts the new contents
at the place and leaves every other file alone.
-/

namespace MessageCatalog

/-- A time in nanoseconds since the epoch. The time of a file is that of its last change as a program
reads it, which may be rounded; only the order of these times is relied upon. -/
abbrev Time : Type := Int

/-- A place in a file tree: the names that lead to it from the root. -/
abbrev Place : Type := List Text

/-- What stands at a place. -/
inductive FileTree.Entry where
  | file (content : Bytes) (time : Time) (writable : Bool)
  | directory (time : Time)
  | link (target : Path)
deriving DecidableEq, Repr

/-- A file tree with a working directory. The root is always a directory. -/
structure FileTree where
  entries : List (Place × FileTree.Entry)
  workingDirectory : Place
deriving DecidableEq, Repr

/-- Why a path cannot be used. -/
inductive FileCause where
  | notFound
  | exists
  | notDirectory
  | isDirectory
  | denied
  | tooManyLinks
  | nameTooLong
  /-- The path contains a null character, so that the system is not even asked. -/
  | nullCharacter
deriving DecidableEq, Repr

namespace FileCause

/-- The number and the wording of a cause that the system reports. -/
def report? : FileCause → Option (Nat × String)
  | .notFound => some (2, "No such file or directory")
  | .exists => some (17, "File exists")
  | .notDirectory => some (20, "Not a directory")
  | .isDirectory => some (21, "Is a directory")
  | .denied => some (13, "Permission denied")
  | .tooManyLinks => some (40, "Too many levels of symbolic links")
  | .nameTooLong => some (36, "File name too long")
  | .nullCharacter => none

/-- Nothing stands at the end of the path, for one of the reasons that a mere test accepts. -/
def isAbsence : FileCause → Bool
  | .notFound => true
  | .notDirectory => true
  | .tooManyLinks => true
  | .nullCharacter => true
  | _ => false

end FileCause

/-- A path that cannot be used, and why. -/
structure FileError where
  cause : FileCause
  path : Path
deriving DecidableEq, Repr

namespace FileError

/-- The wording of an error. -/
def message (e : FileError) : Text :=
  match e.cause.report? with
  | some (number, wording) =>
      "[Errno " ++ Text.ofNat number ++ "] " ++ wording.toList ++ ": " ++ e.path.text.displayed
  | none => "embedded null byte"

/-- The system reported the error. -/
def isSystem (e : FileError) : Bool :=
  e.cause.report?.isSome

end FileError

namespace FileTree

/-- What stands at a place; the root is a directory even if nothing says so. -/
def get? (t : FileTree) (place : Place) : Option Entry :=
  match t.entries.lookup place with
  | some entry => some entry
  | none => if place.isEmpty then some (.directory 0) else none

/-- The list with an entry for a place, in the position of an earlier one for it if there is one. -/
def put (place : Place) (entry : Entry) : List (Place × Entry) → List (Place × Entry)
  | [] => [(place, entry)]
  | (other, old) :: rest =>
      if other = place then (place, entry) :: rest else (other, old) :: put place entry rest

/-- The tree with an entry at a place. -/
def set (t : FileTree) (place : Place) (entry : Entry) : FileTree :=
  { t with entries := put place entry t.entries }

/-- The tree without anything at a place. -/
def erase (t : FileTree) (place : Place) : FileTree :=
  { t with entries := t.entries.filter (·.1 ≠ place) }

theorem lookup_put (place other : Place) (entry : Entry) (entries : List (Place × Entry)) :
    (put place entry entries).lookup other =
      if other = place then some entry else entries.lookup other := by
  induction entries with
  | nil =>
      by_cases h : other = place
      · simp [put, h]
      · simp [put, List.lookup_cons, h, beq_false_of_ne h]
  | cons first rest ih =>
      obtain ⟨key, old⟩ := first
      unfold put
      by_cases hk : key = place
      · subst hk
        by_cases h : other = key
        · simp [h]
        · simp [List.lookup_cons, h, beq_false_of_ne h]
      · rw [if_neg hk, List.lookup_cons, List.lookup_cons]
        by_cases h : other = key
        · subst h
          simp [hk]
        · simp [beq_false_of_ne h, ih]

/-- Setting an entry changes what stands at its place and nowhere else. -/
theorem get?_set (t : FileTree) (place other : Place) (entry : Entry) :
    (t.set place entry).get? other = if other = place then some entry else t.get? other := by
  by_cases h : other = place <;> simp [get?, set, lookup_put, h]

/-- The place at which a path starts when it is read at the place `here`. -/
def startOf (here : Place) (p : Path) : Place :=
  match p.start with
  | .here => here
  | _ => []

/-- The longest name that an entry can have, in bytes. -/
def maxNameLength : Nat := 255

/-- The longest path that can be used, in bytes. -/
def maxPathLength : Nat := 4095

/-- The number of links that a path may go through. -/
def maxLinks : Nat := 40

/-- Resolves names from a place on. A last name that nothing has is resolved to the place where it
would stand; a last name that is a link is followed only if `follow` is set. What is behind a link
that is followed is resolved by `through`. -/
def walkWith (t : FileTree) (follow : Bool) (through : Place → List Text → Except FileCause Place) :
    (here : Place) → (names : List Text) → Except FileCause Place
  | here, [] => .ok here
  | here, name :: rest =>
      match t.get? here with
      | some (.directory _) =>
          if name = ['.', '.'] then walkWith t follow through here.dropLast rest
          else if maxNameLength < name.utf8.length then .error .nameTooLong
          else
            match t.get? (here ++ [name]) with
            | some (.link target) =>
                if rest.isEmpty && !follow then .ok (here ++ [name])
                else through (startOf here target) (target.names ++ rest)
            | _ => walkWith t follow through (here ++ [name]) rest
      | some _ => .error .notDirectory
      | none => .error .notFound

/-- Resolves names from a place on through at most the given number of links. -/
def walk (t : FileTree) (follow : Bool) :
    (links : Nat) → (here : Place) → (names : List Text) → Except FileCause Place
  | 0 => t.walkWith follow fun _ _ => .error .tooManyLinks
  | links + 1 => t.walkWith follow (walk t follow links)

/-- The place that a path denotes. -/
def locate (t : FileTree) (follow : Bool) (p : Path) : Except FileError Place :=
  if p.names.any (·.contains '\x00') then .error ⟨.nullCharacter, p⟩
  else if maxPathLength < p.text.utf8.length then .error ⟨.nameTooLong, p⟩
  else
    match t.walk follow maxLinks (startOf t.workingDirectory p) p.names with
    | .ok place => .ok place
    | .error cause => .error ⟨cause, p⟩

/-- What stands at the end of a path, links followed. -/
def lookup (t : FileTree) (p : Path) : Except FileError Entry := do
  match t.get? (← t.locate true p) with
  | some entry => .ok entry
  | none => .error ⟨.notFound, p⟩

/-- Something stands at the end of a path. -/
def has (t : FileTree) (p : Path) : Except FileError Bool :=
  match t.lookup p with
  | .ok _ => .ok true
  | .error e => if e.cause.isAbsence then .ok false else .error e

/-- A directory stands at the end of a path. -/
def hasDirectory (t : FileTree) (p : Path) : Except FileError Bool :=
  match t.lookup p with
  | .ok (.directory _) => .ok true
  | .ok _ => .ok false
  | .error e => if e.cause.isAbsence then .ok false else .error e

/-- The time of an entry. -/
def Entry.time : Entry → Time
  | .file _ time _ => time
  | .directory time => time
  | .link _ => 0

/-- The time of what stands at the end of a path, as it is read there. -/
def timeOf (t : FileTree) (p : Path) : Except FileError Time :=
  return (← t.lookup p).time

/-- The contents of the file at the end of a path. -/
def read (t : FileTree) (p : Path) : Except FileError Bytes := do
  match ← t.lookup p with
  | .file content _ _ => .ok content
  | .directory _ => .error ⟨.isDirectory, p⟩
  | .link _ => .error ⟨.notFound, p⟩

/-- What stands at the end of a path exists and may not be written. -/
def isReadOnly (t : FileTree) (p : Path) : Except FileError Bool :=
  match t.lookup p with
  | .ok (.file _ _ writable) => .ok !writable
  | .ok _ => .ok false
  | .error e => if e.cause.isAbsence then .ok false else .error e

/-- Two paths lead to the same existing entry. -/
def sameEntry (t : FileTree) (p q : Path) : Except FileError Bool := do
  if (← t.has p) && (← t.has q) then return (← t.locate true p) = (← t.locate true q)
  else return false

/-- The names of a path with all links replaced, as far as entries exist. What is behind a link is
resolved by `through`; without it links are left alone. -/
def realNamesWith (t : FileTree) (through : Option (Place → List Text → Place)) :
    (here : Place) → List Text → Place
  | here, [] => here
  | here, name :: rest =>
      if name = ['.', '.'] then realNamesWith t through here.dropLast rest
      else
        match t.get? (here ++ [name]), through with
        | some (.link target), some through => through (startOf here target) (target.names ++ rest)
        | _, through => realNamesWith t through (here ++ [name]) rest

/-- The names of a path with at most the given number of links replaced. -/
def realNames (t : FileTree) : (links : Nat) → (here : Place) → List Text → Place
  | 0 => t.realNamesWith none
  | links + 1 => t.realNamesWith (some (realNames t links))

/-- The path from the root that a path denotes, as far as entries exist. -/
def realPath (t : FileTree) (p : Path) : Path :=
  ⟨.root, t.realNames maxLinks (startOf t.workingDirectory p) p.names⟩

end FileTree

end MessageCatalog
