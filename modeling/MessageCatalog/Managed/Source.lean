import MessageCatalog.Managed.Class

/-!
# Source files of the managed runtime

The text of accessor classes and of their subclasses for single locales. Each part of a class is a
list of lines, and the file is the lines of its parts in order.
-/

namespace MessageCatalog
namespace Managed

/-- The indentation of a nesting depth. -/
def indent (depth : Nat) : Text :=
  List.replicate (4 * depth) ' '

/-- The lines at the top of a file: banner, package, imports, introduction. -/
def preambleLines (header : Header) (className : Text) : List Text :=
  let package : List Text :=
    match Text.present? (ClassName.package? className) with
    | none => []
    | some package => ["package " ++ package ++ ";"]
  let imports : List Text :=
    ["import java.io.IOException;", "import java.util.Locale;",
      "import java.util.ResourceBundle;", "import " ++ runtimePackage ++ ".*;", []]
  header.bannerLines ++ package ++ imports ++ header.introductionLines

/-- A constructor that does nothing but pass on the errors of its base class. -/
def constructorLines (simpleName : Text) : List Text :=
  ["    public " ++ simpleName ++ "() throws IOException \x7b", "    \x7d"]

/-- The comment at the end of a file. -/
def closingLine (simpleName : Text) : Text :=
  "// End " ++ simpleName ++ ".java"

/-- The lines of a method. -/
def Method.lines (m : Method) (depth : Nat) : List Text :=
  [indent depth ++ "public " ++ m.result ++ " " ++ m.name ++ "("
      ++ Parameter.listText m.parameters ++ ") \x7b",
    indent (depth + 1) ++ "return " ++ m.value ++ ";",
    indent depth ++ "\x7d"]

/-- The lines that give access to the instances of the class. -/
def instanceLines (className simpleName : Text) : List Text :=
  ["    private static final String baseName = " ++ className.literal ++ ";",
    "    /**",
    "     * Retrieves the singleton instance of \x7b@link " ++ simpleName ++ "\x7d. If",
    "     * the application has called \x7b@link #setThreadLocale\x7d, returns the",
    "     * resource for the thread's locale.",
    "     */",
    "    public static synchronized " ++ simpleName ++ " instance() \x7b",
    "        return (" ++ simpleName
      ++ ") instance(baseName, getThreadOrDefaultLocale(), "
      ++ "ResourceBundle.getBundle(baseName, getThreadOrDefaultLocale()));",
    "    \x7d",
    "    /**",
    "     * Retrieves the instance of \x7b@link " ++ simpleName ++ "\x7d for the given locale.",
    "     */",
    "    public static synchronized " ++ simpleName ++ " instance(Locale locale) \x7b",
    "        return (" ++ simpleName
      ++ ") instance(baseName, locale, ResourceBundle.getBundle(baseName, locale));",
    "    \x7d"]

/-- The included code between two comments, without line feeds at its end. -/
def codeLines (code : Option Text) : List Text :=
  match Text.present? (code.map (Text.dropTrailing (· = '\n'))) with
  | none => []
  | some code => ["    // begin of included code", code, "    // end of included code"]

/-- The lines of a resource in direct style: its definition object, then its methods. -/
def Accessor.lines (a : Accessor) : List Text :=
  let object : List Text :=
    [[], a.described.comment,
      "    public static final " ++ definitionClass ++ " " ++ a.described.stem ++ " = new "
        ++ definitionClass ++ "(" ++ Text.literal a.described.stem ++ ", "
        ++ a.described.text.literal ++ ");"]
  object ++ a.methods.flatMap (·.lines 1)

/-- The lines of a resource in functor style. -/
def FunctorMember.lines (m : FunctorMember) : List Text :=
  [[], m.described.comment,
    "    public final " ++ m.definition ++ " " ++ m.described.stem ++ " = new " ++ m.definition
      ++ "(" ++ Text.literal m.described.stem ++ ", " ++ m.described.text.literal ++ ", "
      ++ propertyArray m.described.resource ++ ");"]

/-- The lines of a definition class inside the class `outer`. -/
def Definition.lines (d : Definition) (outer : Text) : List Text :=
  let link : List Text :=
    match Text.present? d.key.errorClass with
    | none => []
    | some errorClass =>
        ["     * return a \x7b@link " ++ errorClass ++ "\x7d exception and"]
  let head : List Text := [[], "    /**", "     * Definition for resources which"]
  let opening : List Text :=
    ["     * take arguments '" ++ Parameter.listText d.key.parameters ++ "'.",
      "     */",
      "    public final class " ++ d.name ++ " extends " ++ definitionClass ++ " \x7b",
      "        " ++ d.name ++ "(String key, String baseMessage, String[] props) \x7b",
      "            super(key, baseMessage, props);",
      "        \x7d"]
  head ++ link ++ opening ++ (d.methods outer).flatMap (·.lines 2) ++ [indent 1 ++ "\x7d"]

/-- The lines of the members of a class. -/
def Body.lines (outer : Text) : Body → List Text
  | .direct accessors => accessors.flatMap Accessor.lines
  | .functor members definitions =>
      members.flatMap FunctorMember.lines ++ definitions.flatMap (·.lines outer)

/-- The text of the source file of an accessor class. -/
def Class.text (c : Class) : Text :=
  let simpleName := ClassName.simple c.className
  let extension : Text :=
    match Text.present? c.baseClass with
    | none => []
    | some base => " extends " ++ base
  let opening : List Text := ["public class " ++ simpleName ++ extension ++ " \x7b"]
  let closing : List Text := [[], "\x7d", [], closingLine simpleName]
  Text.unlines
    (preambleLines c.header c.className ++ opening ++ constructorLines simpleName
      ++ instanceLines c.className simpleName ++ codeLines c.code ++ c.body.lines simpleName
      ++ closing)

/-- The text of the source file of the subclass that selects the bundle of a locale. -/
def localeClassText (className : Text) (locale : Locale) (header : Header) : Text :=
  let simpleName := ClassName.simpleLocalized className (some locale)
  let opening : List Text :=
    ["public class " ++ simpleName ++ " extends " ++ ClassName.simple className ++ " \x7b"]
  let closing : List Text := ["\x7d", [], closingLine simpleName]
  Text.unlines
    (preambleLines header className ++ opening ++ constructorLines simpleName ++ closing)

/-- The text of the accessor class of a bundle. -/
def render (style : AccessorStyle) (b : Bundle) (className : Text) (header : Header)
    (baseClass : Option Text) : Rendering Text :=
  return (← classOf style b className header baseClass).text

end Managed
end MessageCatalog
