import MessageCatalog.FileTree.Basic

/-!
# Changing file trees

Writing files, making directories, and the changes that others make to a tree: new times, new
permissions, links and removals. An action on a tree may fail, and what it did before it failed stays
done.
-/

namespace MessageCatalog

/-- A change of a file tree that may fail. -/
abbrev FileAction (α : Type) : Type :=
  ExceptT FileError (StateM FileTree) α

namespace FileTree

/-- The tree in which the directory that holds a place has the given time. -/
def touchParent (t : FileTree) (place : Place) (now : Time) : FileTree :=
  match t.get? place.dropLast with
  | some (.directory _) => t.set place.dropLast (.directory now)
  | _ => t

/-- The tree with a new entry at a place; the directory that holds it changes with it. -/
def insert (t : FileTree) (place : Place) (entry : Entry) (now : Time) : FileTree :=
  (t.touchParent place now).set place entry

/-- The tree after the file at the end of a path has been given new contents. -/
def write (t : FileTree) (p : Path) (content : Bytes) (now : Time) : Except FileError FileTree := do
  let place ← t.locate true p
  match t.get? place with
  | none => return t.insert place (.file content now true) now
  | some (.file _ _ writable) =>
      if writable then return t.set place (.file content now true) else throw ⟨.denied, p⟩
  | some _ => throw ⟨.isDirectory, p⟩

/-- The tree after contents have been added to the file at the end of a path, which is made if it is
missing. -/
def append (t : FileTree) (p : Path) (content : Bytes) (now : Time) :
    Except FileError FileTree := do
  let place ← t.locate true p
  match t.get? place with
  | none => return t.insert place (.file content now true) now
  | some (.file old _ writable) =>
      if !writable then throw ⟨.denied, p⟩
      if content.isEmpty then return t
      return t.set place (.file (old ++ content) now true)
  | some _ => throw ⟨.isDirectory, p⟩

/-- The tree with a new directory at the end of a path, in a directory that exists. -/
def makeDirectory (t : FileTree) (p : Path) (now : Time) : Except FileError FileTree := do
  let place ← t.locate false p
  match t.get? place with
  | none => return t.insert place (.directory now) now
  | some _ => throw ⟨.exists, p⟩

/-- The tree without the entry at the end of a path. -/
def remove (t : FileTree) (p : Path) : Except FileError FileTree := do
  let place ← t.locate false p
  match t.get? place with
  | some (.directory _) => throw ⟨.isDirectory, p⟩
  | some _ => return t.erase place
  | none => throw ⟨.notFound, p⟩

/-- The tree in which the entry at the end of a path has a new time. -/
def setTime (t : FileTree) (p : Path) (time : Time) : Except FileError FileTree := do
  let place ← t.locate true p
  match t.get? place with
  | some (.file content _ writable) => return t.set place (.file content time writable)
  | some (.directory _) => return t.set place (.directory time)
  | _ => throw ⟨.notFound, p⟩

/-- The tree in which the file at the end of a path may or may not be written. -/
def setWritable (t : FileTree) (p : Path) (writable : Bool) : Except FileError FileTree := do
  let place ← t.locate true p
  match t.get? place with
  | some (.file content time _) => return t.set place (.file content time writable)
  | some _ => return t
  | none => throw ⟨.notFound, p⟩

/-- The tree with a new link at the end of a path. -/
def makeLink (t : FileTree) (p target : Path) (now : Time) : Except FileError FileTree := do
  let place ← t.locate false p
  match t.get? place with
  | none => return t.insert place (.link target) now
  | some _ => throw ⟨.exists, p⟩

/-- The paths, relative to the working directory, of all entries below it that are not directories,
nor links to directories. -/
def files (t : FileTree) : List Path :=
  t.entries.filterMap fun (place, entry) =>
    if t.workingDirectory.isPrefixOf place then
      let p : Path := ⟨.here, place.drop t.workingDirectory.length⟩
      match entry with
      | .file .. => some p
      | .directory _ => none
      | .link _ =>
          match t.lookup p with
          | .ok (.directory _) => none
          | _ => some p
    else none

/-- The tree in which every file with the time `old` has the time `new`. -/
def redate (t : FileTree) (old new : Time) : FileTree :=
  { t with
    entries := t.entries.map fun (place, entry) =>
      match entry with
      | .file content time writable =>
          (place, .file content (if time = old then new else time) writable)
      | entry => (place, entry) }

end FileTree

namespace FileAction

/-- Replaces the tree by the result of a change. -/
def apply (change : FileTree → Except FileError FileTree) : FileAction Unit := do
  match change (← get) with
  | .ok t => set t
  | .error e => throw e

/-- Makes a directory that must not be missing its own parent, unless there is one already. -/
def ensureDirectory (p : Path) (now : Time) : FileAction Unit := do
  let t ← get
  match t.makeDirectory p now with
  | .ok t => set t
  | .error e =>
      if e.cause = .notFound || !e.isSystem then throw e
      else
        match t.hasDirectory p with
        | .ok true => return ()
        | .ok false => throw e
        | .error e => throw e

/-- Makes a directory and those above it that are missing; `depth` is the number of its names. -/
def makeDirectoriesTo (now : Time) : (depth : Nat) → Path → FileAction Unit
  | 0, p => ensureDirectory p now
  | depth + 1, p => do
      match (← get).makeDirectory p now with
      | .error ⟨.notFound, _⟩ => do
          makeDirectoriesTo now depth p.parent
          ensureDirectory p now
      | _ => ensureDirectory p now

/-- Makes a directory and those above it that are missing. -/
def makeDirectories (p : Path) (now : Time) : FileAction Unit :=
  makeDirectoriesTo now p.names.length p

/-- Writes a file in a directory that is made if it is missing. -/
def writeFile (p : Path) (content : Bytes) (now : Time) : FileAction Unit := do
  makeDirectories p.parent now
  apply (·.write p content now)

end FileAction

end MessageCatalog
