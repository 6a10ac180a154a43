import MessageCatalog.Generated.Error
import MessageCatalog.Managed.Class
import MessageCatalog.Native.Class
import MessageCatalog.Shape.Table

/-!
# Settings

The settings of a run as they are written, and the configuration that valid settings stand for.
Validation resolves other names of modes and styles, fills in directories that are left out and
rejects everything a run could not use; a configuration has no invalid values. Writing a
configuration back as settings and validating them gives the same configuration.
-/

namespace MessageCatalog

/-- A source file to process, relative to the source directory. -/
structure Include where
  name : Text
  className : Option Text
  baseClass : Text
  nativeClass : Option Text
  nativeBaseClass : Text
deriving DecidableEq, Repr

/-- An include with nothing but a name. -/
def Include.ofName (name : Text) : Include :=
  ⟨name, none, Managed.defaultBaseClass, none, Native.defaultBaseClass⟩

/-- What is generated. -/
inductive Mode where
  | managed
  | native
  | all
deriving DecidableEq, Repr

namespace Mode

/-- The name of a mode. -/
def name : Mode → Text
  | .managed => "managed"
  | .native => "native"
  | .all => "all"

/-- The names by which modes can be chosen. -/
def names : List (Text × Mode) :=
  [("managed", .managed), ("java", .managed), ("native", .native), ("c++", .native),
    ("cpp", .native), ("all", .all)]

/-- Classes of the managed runtime are generated. -/
def isManaged : Mode → Bool
  | .native => false
  | _ => true

/-- Native classes are generated. -/
def isNative : Mode → Bool
  | .managed => false
  | _ => true

end Mode

/-- The names by which accessor styles can be chosen. -/
def AccessorStyle.names : List (Text × AccessorStyle) :=
  [("direct", .direct), ("functor", .functor), ("dynamic", .direct)]

/-- How comments name source and time. -/
inductive CommentStyle where
  | normal
  | stable
deriving DecidableEq, Repr

namespace CommentStyle

/-- The name of a comment style. -/
def name : CommentStyle → Text
  | .normal => "normal"
  | .stable => "scm-safe"

/-- The names by which comment styles can be chosen. -/
def names : List (Text × CommentStyle) :=
  [("normal", .normal), ("scm-safe", .stable)]

end CommentStyle

/-- The settings of a run, as they are written. -/
structure Settings where
  source : Option Path
  destination : Option Path
  resources : Option Path
  mode : Text
  locales : Option Text
  style : Text
  force : Bool
  commentStyle : Text
  includes : List Include
  shapes : List (Text × List Text)
deriving DecidableEq, Repr

/-- The settings of a run that can be carried out. -/
structure Configuration where
  source : Path
  destination : Path
  resources : Path
  mode : Mode
  locales : Option Text
  style : AccessorStyle
  force : Bool
  commentStyle : CommentStyle
  includes : List Include
  shapes : List (Text × List Text)
  /-- The table that the shapes denote. -/
  table : ShapeTable
deriving DecidableEq, Repr

/-- Why settings are refused. -/
inductive SettingsError where
  | unknownMode (value : Text)
  | unknownStyle (value : Text)
  | unknownCommentStyle (value : Text)
  | noSource
  | noIncludes
  | unnamedInclude
  | unknownShape (className : Text) (e : ShapeError)
  /-- The settings file cannot be parsed. -/
  | unparsable (fileName : Text)
  /-- The settings file holds something other than a mapping. -/
  | notMapping
  /-- An include is neither a name nor a mapping. -/
  | wrongInclude (shown : Text)
  /-- An include is a mapping without a name. -/
  | includeWithoutName (shown : Text)
  /-- The shapes are not a mapping. -/
  | wrongShapes
deriving DecidableEq, Repr

/-- The name of the settings file. -/
def Settings.fileName : Text := ".resgen.yml"

/-- The wording of a refusal. -/
def SettingsError.message : SettingsError → Text
  | .unknownMode value => "Invalid mode '" ++ value ++ "'; expected managed, native or all"
  | .unknownStyle value => "Invalid style '" ++ value ++ "'; expected direct or functor"
  | .unknownCommentStyle value =>
      "Invalid comment style '" ++ value ++ "'; expected normal or scm-safe"
  | .noSource => "Source directory (srcdir) is required"
  | .noIncludes => "At least one include is required"
  | .unnamedInclude => "Include without a name"
  | .unknownShape className e =>
      "Invalid exception shape for '" ++ className ++ "': " ++ e.text
  | .unparsable fileName => "Failed to parse " ++ fileName
  | .notMapping => Settings.fileName ++ " must contain a mapping at the root"
  | .wrongInclude shown => "Invalid include entry: " ++ shown
  | .includeWithoutName shown => "Include without a name: " ++ shown
  | .wrongShapes => "exception_shapes must be a mapping of class name to shapes"

namespace Settings

/-- The keys whose value is a path. -/
inductive PathKey where
  | source
  | destination
  | resources
deriving DecidableEq, Repr

/-- The path that settings have for a key. -/
def pathOf (s : Settings) : PathKey → Option Path
  | .source => s.source
  | .destination => s.destination
  | .resources => s.resources

/-- The settings that nothing changes. -/
def initial : Settings where
  source := none
  destination := none
  resources := none
  mode := Mode.managed.name
  locales := none
  style := AccessorStyle.direct.name
  force := false
  commentStyle := CommentStyle.normal.name
  includes := []
  shapes := []

/-- A written word as it is compared: stripped and in lower case. -/
def word (t : Text) : Text :=
  Text.asciiLowercase t.strip

/-- The written mode is one that generates classes of the managed runtime. -/
def isManaged (s : Settings) : Bool :=
  [Mode.managed, .all].any (·.name == s.mode)

/-- The written mode is one that generates native classes. -/
def isNative (s : Settings) : Bool :=
  [Mode.native, .all].any (·.name == s.mode)

/-- The written comment style is the one that is safe for source control. -/
def isStable (s : Settings) : Bool :=
  s.commentStyle == CommentStyle.stable.name

/-- The table of the written shapes; the first class whose shape is not known is reported. -/
def tableOf (shapes : List (Text × List Text)) : Except SettingsError ShapeTable := do
  let entries ← shapes.mapM fun (className, tokens) =>
    match ConstructorShape.ofTokens tokens with
    | .ok shape => .ok (className, shape)
    | .error e => .error (.unknownShape className e)
  return ⟨entries ++ ShapeTable.known⟩

/-- The configuration that the settings stand for. -/
def validate (s : Settings) : Except SettingsError Configuration := do
  let some mode := Mode.names.lookup (word s.mode) | throw (.unknownMode s.mode)
  let some style := AccessorStyle.names.lookup (word s.style) | throw (.unknownStyle s.style)
  let some commentStyle := CommentStyle.names.lookup (word s.commentStyle)
    | throw (.unknownCommentStyle s.commentStyle)
  let some source := s.source | throw .noSource
  let destination := s.destination.getD source
  if s.includes.isEmpty then throw .noIncludes
  if s.includes.any (·.name = []) then throw .unnamedInclude
  let table ← tableOf s.shapes
  return {
    source, destination, mode, style, commentStyle, table
    resources := s.resources.getD destination
    locales := s.locales
    force := s.force
    includes := s.includes
    shapes := s.shapes }

end Settings

namespace Configuration

/-- The path that a configuration has for a key. -/
def pathOf (c : Configuration) : Settings.PathKey → Path
  | .source => c.source
  | .destination => c.destination
  | .resources => c.resources

/-- The settings that stand for a configuration. -/
def settings (c : Configuration) : Settings where
  source := some c.source
  destination := some c.destination
  resources := some c.resources
  mode := c.mode.name
  locales := c.locales
  style := c.style.name
  force := c.force
  commentStyle := c.commentStyle.name
  includes := c.includes
  shapes := c.shapes

end Configuration

end MessageCatalog
