import MessageCatalog.Native.Class

/-!
# Source files of native classes

The text of the header, which declares the functions of a native class, and of the implementation,
which defines them. Both walk through the members in order; each states on its own which functions a
member has.
-/

namespace MessageCatalog
namespace Native

/-- The type that a function returns. In the implementation the standard namespace is open. -/
def Result.typeName (qualified : Bool) : Result → Text
  | .text => if qualified then "std::string" else "string"
  | .exception className => className ++ "*"

/-- The exception class of a member, if it is not empty. -/
def Member.exceptionClass? (m : Member) : Option Text :=
  Text.present? m.exceptionClass

/-- The lines that open the namespace of a class. -/
def openingLines (space : Option Text) : List Text :=
  match Text.present? space with
  | none => []
  | some space => ["namespace " ++ space ++ " \x7b", []]

/-- The line that closes a namespace. -/
def closingLine (space : Text) : Text :=
  "\x7d // end namespace " ++ space

/-- The name of the class that caches the instances. -/
def Class.cacheName (c : Class) : Text :=
  c.className ++ "BundleCache"

section Header

/-- The functions that the header declares for a member. -/
def Member.declarations (m : Member) : List Function :=
  m.accessor ::
    match m.exceptionClass? with
    | none => []
    | some className =>
        m.factory className :: if m.chained then [m.chainedFactory className] else []

/-- The declaration of a function. -/
def Function.declaration (f : Function) : Text :=
  "    " ++ f.result.typeName true ++ " " ++ f.name ++ "(" ++ Parameter.listText f.parameters
    ++ ") const;"

/-- The name of the data member of a resource. -/
def Member.fieldName (m : Member) : Text :=
  '_' :: m.name

/-- The lines of a member in the header. -/
def Member.headerLines (m : Member) : List Text :=
  m.described.comment :: m.declarations.map Function.declaration ++ [[]]

/-- The line that includes a file. -/
def includeLine (location : Text) : Text :=
  "#include \"" ++ location ++ "\""

/-- The lines that include the headers of the exception classes. -/
def includeLines (header : Header) (includes : List Text) : List Text :=
  let before : List Text := ["// begin includes specified by " ++ header.sourceText]
  let after : List Text := ["// end includes specified by " ++ header.sourceText, []]
  before ++ includes.map includeLine ++ after

/-- The text of the header of a class whose exceptions are declared in the given headers. -/
def Class.headerText (c : Class) (includes : List Text) : Text :=
  let guard := headerGuard (ClassName.headerFile c.className) c.space
  let preamble : List Text :=
    ["#ifndef " ++ guard, "#define " ++ guard, [], "#include <ctime>", "#include <string>", [],
      "#include \"Locale.h\"", "#include \"ResourceDefinition.h\"",
      "#include \"ResourceBundle.h\"", []]
  let class_ : List Text :=
    [[], "class " ++ c.className ++ ";",
      "typedef map<Locale, " ++ c.className ++ "*> " ++ c.cacheName ++ ";", [],
      "class " ++ c.className ++ " : public " ++ c.baseClass, "\x7b", "    protected:",
      "    explicit " ++ c.className ++ "(Locale locale);", [], "    public:",
      "    virtual ~" ++ c.className ++ "() \x7b \x7d", [],
      "    static const " ++ c.className ++ " &instance();",
      "    static const " ++ c.className ++ " &instance(const Locale &locale);", [],
      "    static void setResourceFileLocation(const std::string &location);", []]
  let fields : List Text :=
    "    private:".toList :: c.members.map fun m => "    ResourceDefinition " ++ m.fieldName ++ ";"
  let friends : List Text :=
    [[], "    template<class _GRB, class _BC, class _BC_ITER>",
      "        friend _GRB *makeInstance(_BC &bundleCache, const Locale &locale);", "\x7d;"]
  let closing : List Text :=
    match Text.present? c.space with
    | none => []
    | some space => [[], closingLine space]
  let guardEnd : List Text := [[], "#endif // " ++ guard]
  Text.unlines
    (c.header.bannerLines ++ c.header.introductionLines ++ preamble
      ++ includeLines c.header includes ++ openingLines c.space ++ class_
      ++ c.members.flatMap Member.headerLines ++ fields ++ friends ++ closing ++ guardEnd)

end Header

section Implementation

/-- A function of the implementation: its declaration and the expression that it returns. -/
structure Definition where
  function : Function
  value : Text
deriving DecidableEq, Repr

/-- The arguments that the functions of a member pass on. -/
def Member.argumentText (m : Member) : Text :=
  Text.join ", " m.described.signature.arguments

/-- The call of the accessor function with all arguments. -/
def Member.accessorCall (m : Member) : Text :=
  m.name ++ "(" ++ m.argumentText ++ ")"

/-- The functions that the implementation defines for a member. -/
def Member.definitions (m : Member) : List Definition :=
  let accessor : Definition :=
    ⟨m.accessor, m.fieldName ++ ".format(" ++ m.argumentText ++ ")"⟩
  accessor ::
    match m.exceptionClass? with
    | none => []
    | some className =>
        let factory : Definition :=
          ⟨m.factory className, "new " ++ className ++ "(" ++ m.accessorCall ++ ")"⟩
        let chained : Definition :=
          ⟨m.chainedFactory className, "new " ++ className ++ "(" ++ m.accessorCall ++ ", prev)"⟩
        factory :: if m.chained then [chained] else []

/-- The lines of a function of the class. -/
def Definition.lines (d : Definition) (className : Text) : List Text :=
  [d.function.result.typeName false ++ " " ++ className ++ "::" ++ d.function.name ++ "("
      ++ Parameter.listText d.function.parameters ++ ") const",
    "\x7b", "    return " ++ d.value ++ ";", "\x7d", []]

/-- The initializers of the data members, separated by commas. -/
def initializerLines : List Member → List Text
  | [] => []
  | m :: rest =>
      ("      " ++ m.fieldName ++ "(this, \"" ++ m.name ++ "\")"
        ++ if rest.isEmpty then [] else [',']) :: initializerLines rest

/-- The text of the implementation of a class with a common include of its own, if given. -/
def Class.implementationText (c : Class) (commonInclude : Option Text) : Text :=
  let source := c.header.sourceText
  let common : List Text :=
    match Text.present? commonInclude with
    | none => []
    | some location =>
        ["// begin common include specified by " ++ source, includeLine location,
          "// end common include specified by " ++ source]
  let includes : List Text :=
    [includeLine (ClassName.headerFile c.className),
      "#include \"ResourceBundle.h\"", "#include \"Locale.h\"", [],
      "#include <map>", "#include <string>", []]
  let instances : List Text :=
    ["using namespace std;", [],
      "#define BASENAME (\"" ++ c.className ++ "\")", [],
      "static " ++ c.cacheName ++ " bundleCache;", "static string bundleLocation(\"\");", [],
      "const " ++ c.className ++ " &" ++ c.className ++ "::instance()", "\x7b",
      "    return " ++ c.className ++ "::instance(Locale::getDefault());", "\x7d", [],
      "const " ++ c.className ++ " &" ++ c.className ++ "::instance(const Locale &locale)", "\x7b",
      "    return *makeInstance<" ++ c.className ++ ", " ++ c.cacheName ++ ", " ++ c.cacheName
        ++ "::iterator>(bundleCache, locale);", "\x7d", [],
      "void " ++ c.className ++ "::setResourceFileLocation(const string &location)", "\x7b",
      "    bundleLocation = location;", "\x7d", []]
  let constructor : List Text :=
    [c.className ++ "::" ++ c.className ++ "(Locale locale)",
      "    : " ++ c.baseClass ++ "(BASENAME, locale, bundleLocation)"
        ++ if c.members.isEmpty then [] else [',']]
  let body : List Text := ["\x7b \x7d", []]
  let closing : List Text := (Text.present? c.space).toList.map closingLine
  Text.unlines
    (c.header.bannerLines ++ c.header.introductionLines ++ common ++ includes
      ++ openingLines c.space ++ instances ++ constructor ++ initializerLines c.members ++ body
      ++ (c.members.flatMap Member.definitions).flatMap (·.lines c.className) ++ closing)

/-- The text of the header of a bundle's native class. -/
def renderHeader (b : Bundle) (className : Text) (header : Header) (baseClass : Text) :
    Rendering Text :=
  return (← classOf b className header baseClass).headerText (exceptionIncludes b)

/-- The text of the implementation of a bundle's native class. -/
def renderImplementation (b : Bundle) (className : Text) (header : Header) (baseClass : Text) :
    Rendering Text :=
  return (← classOf b className header baseClass).implementationText b.options.nativeCommonInclude

end Implementation

end Native
end MessageCatalog
