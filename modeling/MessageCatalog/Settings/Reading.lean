import MessageCatalog.FileTree.Basic
import MessageCatalog.Homes
import MessageCatalog.Settings.Basic
import MessageCatalog.Yaml.Value.Construction
import MessageCatalog.Yaml.Value.Displayed

/-!
# Settings files

A settings file holds a mapping. Values of the wrong kind count as absent, with three exceptions that
are refused: a document that is no mapping, an include that is neither a name nor a mapping with one,
and shapes that are no mapping. Paths are relative to the directory of the file, and a settings file
that does not exist leaves all settings as they are.
-/

namespace MessageCatalog

namespace Settings

/-- Why settings cannot be read. -/
inductive ReadingFailure where
  | refused (e : SettingsError)
  | file (e : FileError)
  /-- The file is not in UTF-8. -/
  | notText
  /-- A scalar denotes nothing, or a number cannot be written. -/
  | scalar (e : Yaml.Failure)
  /-- A user has no home directory. -/
  | noHome
  /-- Links lead to each other. -/
  | linkLoop (path : Path)
deriving DecidableEq, Repr

namespace ReadingFailure

/-- The wording of a failure; a file that is not in UTF-8 has none of its own. -/
def message : ReadingFailure → Text
  | .refused e => e.message
  | .file e => e.message
  | .notText => []
  | .scalar e => e.message
  | .noHome => "Could not determine home directory."
  | .linkLoop path => "Symlink loop from " ++ path.text.displayed

end ReadingFailure

/-- A result of reading settings. -/
abbrev Reading (α : Type) : Type :=
  Except ReadingFailure α

namespace Reading

open Yaml (Value Document)

/-- A result that a scalar gives. -/
def ofScalar {α : Type} (e : Except Yaml.Failure α) : Reading α :=
  e.mapError .scalar

/-- The text of a text or a number; other values have none. -/
def text? (d : Document) (v : Value) : Reading (Option Text) :=
  match v with
  | .text t => return some t
  | .integer _ => return some (← ofScalar (d.plainText v))
  | .float _ => return some (← ofScalar (d.plainText v))
  | _ => return none

/-- The path of a path that is written relative to a directory. -/
def path? (homes : Homes) (directory : Path) (d : Document) (v : Value) :
    Reading (Option Path) := do
  match Text.present? (← text? d v) with
  | none => return none
  | some t =>
      let some path := (Path.ofText t).expanded homes | throw .noHome
      return some (directory / path)

/-- The list of locales: the items of a sequence with commas between them, or a text. -/
def locales? (d : Document) (v : Value) : Reading (Option Text) := do
  match d.items? v with
  | some items => return some (Text.join "," (← items.mapM fun i => ofScalar (d.plainText i)))
  | none => text? d v

/-- The names of true. -/
def trueWords : List Text := ["true", "yes", "1"]

/-- A truth value, or a text that is the name of true. -/
def flag (v : Value) : Bool :=
  match v with
  | .boolean b => b
  | .text t => trueWords.contains (word t)
  | _ => false

/-- The items of a sequence, or the value alone. -/
def itemsOf (d : Document) (v : Value) : List Value :=
  if v = .null then [] else (d.items? v).getD [v]

/-- An include: its name, or a mapping with a name. -/
def include? (d : Document) (v : Value) : Reading Include := do
  if let .text name := v then return .ofName name
  let some entries := d.entries? v
    | throw (.refused (.wrongInclude (← ofScalar (d.displayed v))))
  let part (name : Text) : Reading (Option Text) := text? d (Yaml.field entries name)
  let some name := Text.present? (← part "name")
    | throw (.refused (.includeWithoutName (← ofScalar (d.displayed v))))
  let base := Include.ofName name
  return {
    name
    className := ← part "class_name"
    nativeClass := ← part "cpp_class_name"
    baseClass := (Text.present? (← part "base_class_name")).getD base.baseClass
    nativeBaseClass := (Text.present? (← part "cpp_base_class_name")).getD base.nativeBaseClass }

/-- A value that can be a shape has a text. -/
def isToken : Value → Bool
  | .text _ => true
  | .integer _ => true
  | .float _ => true
  | .boolean _ => true
  | _ => false

/-- The shapes of a class: a text, the texts in a sequence, or the numbers of bytes. -/
def tokens (d : Document) (v : Value) : Reading (List Text) :=
  match v with
  | .text t => return [t]
  | .bytes b => return b.map fun x => Text.ofNat x.toNat
  | _ => (((d.items? v).getD []).filter isToken).mapM fun i => ofScalar (d.plainText i)

/-- The entries with a value for a key; a key that is there keeps its place. -/
def put (key : Text) (value : List Text) : List (Text × List Text) → List (Text × List Text)
  | [] => [(key, value)]
  | (other, old) :: rest =>
      if other = key then (key, value) :: rest else (other, old) :: put key value rest

/-- The shapes of classes with those that an entry gives. -/
def addShapes (d : Document) (shapes : List (Text × List Text)) (entry : Value × Value) :
    Reading (List (Text × List Text)) := do
  let name ← ofScalar (d.plainText entry.1)
  return put name (← tokens d entry.2) shapes

/-- The shapes of classes. -/
def shapes (d : Document) (v : Value) : Reading (List (Text × List Text)) := do
  if v = .null then return []
  let some entries := d.entries? v | throw (.refused .wrongShapes)
  entries.foldlM (addShapes d) []

/-- The settings that entries give, for a file in the given directory. -/
def ofEntries (homes : Homes) (directory : Path) (d : Document) (entries : List (Value × Value)) :
    Reading Settings := do
  let field (name : Text) : Value := Yaml.field entries name
  let path (name : Text) : Reading (Option Path) := path? homes directory d (field name)
  let option (name default : Text) : Reading Text :=
    return (Text.present? (← text? d (field name))).getD default
  return {
    source := ← path "srcdir"
    destination := ← path "destdir"
    resources := ← path "resdir"
    locales := ← locales? d (field "locales")
    force := flag (field "force")
    includes := ← (itemsOf d (field "includes")).mapM (include? d)
    shapes := ← shapes d (field "exception_shapes")
    mode := ← option "mode" initial.mode
    style := ← option "style" initial.style
    commentStyle := ← option "comment_style" initial.commentStyle }

/-- The text with a line feed for every end of a line. -/
def withLineFeeds : Text → Text
  | [] => []
  | '\r' :: '\n' :: t => '\n' :: withLineFeeds t
  | '\r' :: t => '\n' :: withLineFeeds t
  | c :: t => c :: withLineFeeds t

/-- The document in a settings file; a blank file has an empty one. -/
def document (fileName : Text) (t : Text) : Reading Document :=
  if t.strip.isEmpty then return ⟨.null, []⟩
  else
    match Document.ofText t with
    | .ok d => return d
    | .error .malformed => throw (.refused (.unparsable fileName))
    | .error e => throw (.scalar e)

/-- The settings that the contents of a file give. -/
def ofContents (homes : Homes) (file : Path) (contents : Bytes) : Reading Settings := do
  let some t := contents.utf8? | throw .notText
  let d ← document file.fileName (withLineFeeds t)
  if d.root = .null then ofEntries homes file.parent d []
  else
    let some entries := d.entries? d.root | throw (.refused .notMapping)
    ofEntries homes file.parent d entries

end Reading

/-- The file that a path to settings denotes; in a directory it has the usual name. -/
def locate (homes : Homes) (tree : FileTree) (p : Path) : Reading Path := do
  let some p := p.expanded homes | throw .noHome
  let isDirectory ← (tree.hasDirectory p).mapError .file
  let file := tree.realPath (if isDirectory then p / Path.ofText fileName else p)
  match tree.lookup file with
  | .error ⟨.tooManyLinks, _⟩ => throw (.linkLoop file)
  | _ => return file

/-- The settings at a path. -/
def load (homes : Homes) (tree : FileTree) (p : Path) : Reading Settings := do
  let file ← locate homes tree p
  if ← (tree.has file).mapError .file then
    Reading.ofContents homes file (← (tree.read file).mapError .file)
  else return initial

end Settings

end MessageCatalog
