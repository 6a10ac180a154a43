import MessageCatalog.CommandLine.Outcome
import Std.Time.DateTime.Timestamp

/-!
# The program

The program reads the part of the disk that a command line concerns into a file tree, carries the
command line out on that tree, and writes what has changed back. Links are read as what they lead to.
-/

namespace MessageCatalog
namespace Program

/-- A text as the system takes it. -/
def systemText (t : Text) : String :=
  String.ofList t

/-- The path from the root that leads to a place. -/
def placeText (place : Place) : String :=
  systemText (Path.text ⟨.root, place⟩)

/-- A time of the system. -/
def timeOf (time : IO.FS.SystemTime) : Time :=
  time.sec * 1000000000 + time.nsec.toNat

/-- The file at a place can be opened for changes. -/
def isWritable (path : String) : IO Bool := do
  try
    let _ ← IO.FS.Handle.mk path .readWrite
    return true
  catch _ => return false

/-- What stands at a place on the disk. -/
def readEntry (place : Place) : IO (Option FileTree.Entry) := do
  let path := placeText place
  try
    let file := (← IO.currentDir) / path
    let metadata ← file.metadata
    match metadata.type with
    | .dir => return some (.directory (timeOf metadata.modified))
    | _ => do
        let content ← IO.FS.readBinFile path
        return some (.file content.toList (timeOf metadata.modified) (← isWritable path))
  catch _ => return none

/-- The tree with what stands at a place and at the places above it. -/
def withEntry (tree : FileTree) (place : Place) : IO FileTree := do
  (List.range (place.length + 1)).foldlM (fun tree depth => do
    let place := place.take depth
    match ← readEntry place with
    | some entry => return tree.set place entry
    | none => return tree) tree

/-- The deepest nesting of directories that is read. -/
def maxDepth : Nat := 100

/-- The tree with everything in the directory at a place. -/
def withDirectory : (depth : Nat) → FileTree → Place → IO FileTree
  | 0, tree, _ => return tree
  | depth + 1, tree, place => do
      let tree ← withEntry tree place
      match tree.get? place with
      | some (.directory _) => do
          let directory := (← IO.currentDir) / placeText place
          (← directory.readDir).foldlM (fun tree entry =>
            withDirectory depth tree (place ++ [entry.fileName.toList])) tree
      | _ => return tree

/-- The place of a path in a tree. -/
def placeOf (tree : FileTree) (p : Path) : Place :=
  (tree.realPath p).names

/-- The tree with the reach of an invocation. -/
def withReach (tree : FileTree) (reach : CommandLine.Invocation.Reach) : IO FileTree := do
  let tree ← reach.entries.foldlM (fun tree p => withEntry tree (placeOf tree p)) tree
  reach.directories.foldlM (fun tree p => withDirectory maxDepth tree (placeOf tree p)) tree

/-- Writes an entry to the disk. -/
def writeEntry (place : Place) (entry : FileTree.Entry) : IO Unit := do
  match entry with
  | .directory _ => IO.FS.createDirAll (placeText place)
  | .file content _ _ => do
      IO.FS.createDirAll (placeText place.dropLast)
      IO.FS.writeBinFile (placeText place) content.toByteArray
  | .link _ => return ()

/-- Writes what is new in a tree to the disk. -/
def writeChanges (old new : FileTree) : IO Unit :=
  new.entries.forM fun (place, entry) => do
    match old.get? place, entry with
    | some (.directory _), .directory _ => return ()
    | before, _ => if before ≠ some entry then writeEntry place entry

/-- A clock that stands at the present time. -/
def presentClock : IO Clock := do
  let now : Time := (← Std.Time.Timestamp.now).toNanosecondsSinceUnixEpoch.val
  return fun _ => ⟨now, now⟩

/-- The home directories of the users of the system. -/
def systemHomes : IO Homes := do
  let own ← IO.getEnv "HOME"
  let table ← try IO.FS.readFile "/etc/passwd" catch _ => pure ""
  return .ofTable (own.map String.toList) table.toList

/-- Prints an outcome and gives its exit code. -/
def printOutcome (outcome : CommandLine.Outcome) : IO UInt32 := do
  IO.print (systemText outcome.output)
  IO.eprint (systemText outcome.reports)
  return outcome.exitCode.toUInt32

/-- Carries out a command line on the disk. -/
def run (words : List Text) : IO UInt32 := do
  let homes ← systemHomes
  let clock ← presentClock
  let directory := (Path.ofText (← IO.currentDir).toString.toList).names
  let start ← withEntry ⟨[], directory⟩ directory
  let tree ←
    match CommandLine.Invocation.ofWords words with
    | .error _ => pure start
    | .ok i => do
        let tree ← withReach start (i.reach homes start)
        withReach tree (i.reach homes tree)
  let (result, changed) := (CommandLine.carryOut words homes clock).run.run tree
  writeChanges tree changed
  match result with
  | .ok outcome => printOutcome outcome
  | .error e => do
      IO.eprintln (systemText e.message)
      return CommandLine.Outcome.failed.toUInt32

end Program
end MessageCatalog

/-- The program: the words of its command line are carried out. -/
def main (words : List String) : IO UInt32 :=
  MessageCatalog.Program.run (words.map String.toList)
